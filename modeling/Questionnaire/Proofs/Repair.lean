import Questionnaire.Proofs.Passes
import Questionnaire.Proofs.Reconcile
import Questionnaire.Session.Script
/-!
# Repair runs

After the primary pass the answers are validated and repaired in passes, at most `m` of them for
a limit `m ≥ 1`. This file proves what a repair run does, for every validator (which may answer
differently at every call), every respondent and every start:

* the run validates `passes + 1` times, with `passes ≤ m`, and ends `done` exactly when the last
  validation found no issue;
* otherwise it ends `exhausted` with the issues of the last validation, and the unreconciled
  issues are exactly those that match no question; a run that stopped before its limit did so
  because no issue matched a question;
* pass `k` asks again, in order, the last question declared with each id that the issues of the
  `k`-th validation reconcile to, skipping those inactive at that moment;
* a run that does not return halted at a question whose condition could not be evaluated or
  whose acquisition halted.

`Passes` describes the passes validation by validation and `Repaired` collects what a run that
returns satisfies; `repair_outcome` is the theorem.
-/

namespace Questionnaire

open Session

variable {σ : Type}

/-- The failing questions of some issues: for each id the issues reconcile to, in the order
reconciled, the last question declared with it. -/
def failingQuestions (qs : List Question) (issues : List Issue) : List Question :=
  (reconcile issues (qs.map (·.id))).filterMap (Step.lastWithId qs)

/-- Repair passes from the validator's call number `n` at answers `g`. `As` lists the questions
answered in each pass and `gs` the answers at each validation, `g` first. Each pass follows a
validation that found issues, some of which reconcile to question ids, and asks the failing
questions in order; the last validation ends the passes. -/
inductive Passes (qs : List Question) (v : Validator) :
    Nat → Value → List (List (Question × Value)) → List Value → Prop
  | last (n : Nat) (g : Value) : Passes qs v n g [] [g]
  | pass {n : Nat} {g g₁ : Value} {A : List (Question × Value)}
      {As : List (List (Question × Value))} {gs : List Value} :
      (v.check g n).1 ≠ [] →
      reconcile (v.check g n).1 (qs.map (·.id)) ≠ [] →
      AskedInOrder (failingQuestions qs (v.check g n).1) g A g₁ →
      Passes qs v (n + 1) g₁ As gs →
      Passes qs v n g (A :: As) (g :: gs)

/-- There is one validation more than there are passes. -/
theorem Passes.length_eq {qs : List Question} {v : Validator} {n : Nat} {g : Value}
    {As : List (List (Question × Value))} {gs : List Value} (h : Passes qs v n g As gs) :
    gs.length = As.length + 1 := by
  induction h with
  | last n g => rfl
  | pass _ _ _ _ ih => simp [ih]

/-- The issues of a session's last validation: the validator's verdict on the answers at the end,
at call number `t.validations.size - 1`. -/
def lastIssues (v : Validator) (t : Session σ) : List Issue :=
  (v.check t.answers (t.validations.size - 1)).1

/-- What a repair run against the limit `m` satisfies when it returns `o` in `t`, having started
from `s` with `p` passes done. -/
structure Repaired (qs : List Question) (v : Validator) (m : Int) (p : Nat) (s : Session σ)
    (o : Outcome) (t : Session σ) : Prop where
  /-- The number of passes stays within the limit. -/
  passes_le : (o.passes : Int) ≤ m
  /-- The passes, validation by validation: the answers validated are appended to the
  validations, and the questions answered in the passes to the answered ones. -/
  rounds : ∃ As gs, Passes qs v s.validations.size s.answers As gs ∧ o.passes = p + As.length ∧
    t.validations.toList = s.validations.toList ++ gs ∧
    t.answered.toList = s.answered.toList ++ As.flatten ∧ gs.getLast? = some t.answers
  /-- One validation more than passes. -/
  validations : t.validations.size = s.validations.size + (o.passes - p) + 1
  answers : o.answers = t.answers
  /-- Done exactly when the last validation found no issue. -/
  done_iff : o.status = .done ↔ lastIssues v t = []
  done : o.status = .done → o.issues = [] ∧ o.unreconciled = []
  /-- Exhausted with the last validation's issues, of which those matching no question are
  reported as unreconciled. -/
  exhausted : o.status = .exhausted → o.issues = lastIssues v t ∧
    o.unreconciled = (lastIssues v t).filter fun i => (i.matchIds (qs.map (·.id))).isEmpty
  /-- Stopping below the limit means that no issue matched a question. -/
  early : o.status = .exhausted → (o.passes : Int) < m →
    reconcile (lastIssues v t) (qs.map (·.id)) = [] ∧ o.unreconciled = lastIssues v t

/-- How a repair run from `s` with `p` passes done can end: returning an outcome as `Repaired`
says, or halting at a question of the questionnaire whose condition could not be evaluated or
whose acquisition halted. -/
def RepairEnd (r : Respondent σ) (qs : List Question) (v : Validator) (m : Int) (p : Nat)
    (s : Session σ) : EStateM.Result Halt (Session σ) Outcome → Prop
  | .ok o t => Repaired qs v m p s o t
  | .error h t => ∃ q ∈ qs, Step.Halts r q h t

/-! ## Ending a run -/

/-- Ending a run notes the unreconciled issues and returns the outcome for the answers as they
are. -/
theorem run_finish (qs : List Question) (status : RunStatus) (passes : Nat) (issues : List Issue)
    (s : Session σ) :
    ∃ t, Kept s t ∧ EStateM.run (Step.finish qs status passes issues : Step σ Outcome) s =
      .ok ⟨status, s.answers, passes, issues,
        if issues.isEmpty then [] else unreconciled issues (qs.map (·.id))⟩ t := by
  obtain ⟨t, hk, ht⟩ := Step.run_forIn_note
    (if issues.isEmpty then [] else unreconciled issues (qs.map (·.id))) .info .reconciliation
    (fun i => "reconcile_unmatched path=" ++ quoteText i.path ++ " message=" ++ i.message) s
  refine ⟨{ t with log := t.log.push ⟨.info, .repair, "repair_finished status=" ++ status.name ++
      " passes=" ++ toString passes ++ " remaining=" ++ toString issues.length⟩ },
    ⟨hk.answers, hk.validations, hk.answered⟩, ?_⟩
  simp only [Step.finish, EStateM.run_bind, ht, Step.run_note, EStateM.run_get, EStateM.run_pure,
    hk.answers]

section Ends

variable {r : Respondent σ} {qs : List Question} {v : Validator} {m : Int} {p : Nat}
  {s s' : Session σ}

/-- A run that ends at the validation it just made, from `s` to `s'`, with the outcome `finish`
builds. -/
theorem repairEnd_finish {status : RunStatus} {issues : List Issue}
    (hp : (p : Int) ≤ m) (hans : s'.answers = s.answers)
    (hval : s'.validations = s.validations.push s.answers) (hansd : s'.answered = s.answered)
    (hstatus : status = .done ↔ (v.check s.answers s.validations.size).1 = [])
    (hissues : issues = if status = .done then [] else (v.check s.answers s.validations.size).1)
    (hearly : status = .exhausted → (p : Int) < m →
      reconcile (v.check s.answers s.validations.size).1 (qs.map (·.id)) = []) :
    RepairEnd r qs v m p s (EStateM.run (Step.finish qs status p issues) s') := by
  obtain ⟨t, hk, ht⟩ := run_finish qs status p issues s'
  rw [ht]
  -- the last validation saw the answers of `s`, which the end keeps
  have hlast : lastIssues v t = (v.check s.answers s.validations.size).1 := by
    rw [lastIssues, hk.answers, hk.validations, hans, hval, Array.size_push, Nat.add_sub_cancel]
  have hrounds : ∃ As gs, Passes qs v s.validations.size s.answers As gs ∧ p = p + As.length ∧
      t.validations.toList = s.validations.toList ++ gs ∧
      t.answered.toList = s.answered.toList ++ As.flatten ∧ gs.getLast? = some t.answers := by
    refine ⟨[], [s.answers], .last _ _, rfl, ?_, ?_, ?_⟩
    · rw [hk.validations, hval, Array.toList_push]
    · rw [hk.answered, hansd, List.flatten_nil, List.append_nil]
    · rw [hk.answers, hans]
      rfl
  have hsize : t.validations.size = s.validations.size + (p - p) + 1 := by
    rw [hk.validations, hval, Array.size_push, Nat.sub_self, Nat.add_zero]
  cases status with
  | done =>
    have hnil : (v.check s.answers s.validations.size).1 = [] := hstatus.1 rfl
    have hiss : issues = [] := by simpa using hissues
    subst hiss
    refine ⟨hp, hrounds, hsize, hk.answers.symm, ?_, fun _ => ⟨rfl, rfl⟩, ?_, ?_⟩
    · rw [hlast, hnil]
      exact ⟨fun _ => rfl, fun _ => rfl⟩
    · intro h
      cases h
    · intro h
      cases h
  | exhausted =>
    have hne : (v.check s.answers s.validations.size).1 ≠ [] := fun h => by
      cases hstatus.2 h
    have hiss : issues = (v.check s.answers s.validations.size).1 := by simpa using hissues
    subst hiss
    have hleft : (if (v.check s.answers s.validations.size).1.isEmpty then []
        else unreconciled (v.check s.answers s.validations.size).1 (qs.map (·.id))) =
        unreconciled (v.check s.answers s.validations.size).1 (qs.map (·.id)) := by
      rw [if_neg (by simpa [List.isEmpty_iff] using hne)]
    refine ⟨hp, hrounds, hsize, hk.answers.symm, ?_, ?_, ?_, ?_⟩
    · rw [hlast]
      exact ⟨(fun h => nomatch h), fun h => absurd h hne⟩
    · intro h
      cases h
    · intro _
      exact ⟨hlast.symm, by rw [hleft, hlast, unreconciled]⟩
    · intro hex hlt
      -- stopping below the limit: no issue matched, so every issue is unreconciled
      have hnil := hearly hex hlt
      have hnone := (reconcile_eq_nil_iff _ _).1 hnil
      refine ⟨by rw [hlast]; exact hnil, ?_⟩
      show (if _ then _ else _) = _
      rw [hleft, hlast, unreconciled]
      exact List.filter_eq_self.2 fun i hi => by simp [hnone i hi]

/-- Steps that keep the answers before a run do not change what it does. -/
theorem RepairEnd.of_kept {s₁ : Session σ} {res : EStateM.Result Halt (Session σ) Outcome}
    (h : RepairEnd r qs v m p s₁ res) (hk : Kept s s₁) : RepairEnd r qs v m p s res := by
  cases res with
  | error e t => exact h
  | ok o t =>
    obtain ⟨hle, ⟨As, gs, hP, hpasses, hvals, hansd, hlast⟩, hsize, hans, h1, h2, h3, h4⟩ := h
    refine ⟨hle, ⟨As, gs, ?_, hpasses, ?_, ?_, hlast⟩, ?_, hans, h1, h2, h3, h4⟩
    · rw [← hk.validations, ← hk.answers]
      exact hP
    · rw [hvals, hk.validations]
    · rw [hansd, hk.answered]
    · rw [hsize, hk.validations]

/-- A pass that asked the failing questions of the validation just made, from `s'` to `s₂`,
followed by the rest of the run. -/
theorem repairEnd_pass {s₂ : Session σ} {A : List (Question × Value)}
    {res : EStateM.Result Halt (Session σ) Outcome}
    (hA : AskedInOrder (failingQuestions qs (v.check s.answers s.validations.size).1) s'.answers A
      s₂.answers)
    (hansd₂ : s₂.answered.toList = s'.answered.toList ++ A) (hval₂ : s₂.validations = s'.validations)
    (hrest : RepairEnd r qs v m (p + 1) s₂ res)
    (hans : s'.answers = s.answers) (hval : s'.validations = s.validations.push s.answers)
    (hansd : s'.answered = s.answered)
    (hne : (v.check s.answers s.validations.size).1 ≠ [])
    (hrec : reconcile (v.check s.answers s.validations.size).1 (qs.map (·.id)) ≠ []) :
    RepairEnd r qs v m p s res := by
  cases res with
  | error e t => exact hrest
  | ok o t =>
    obtain ⟨hle, ⟨As, gs, hP, hpasses, hvals, hansdt, hlast⟩, hsize, hout, h1, h2, h3, h4⟩ := hrest
    have hsize₂ : s₂.validations.size = s.validations.size + 1 := by
      rw [hval₂, hval, Array.size_push]
    have hgs : gs ≠ [] := by
      intro h
      have := hP.length_eq
      rw [h] at this
      simp at this
    refine ⟨hle, ⟨A :: As, s.answers :: gs, ?_, ?_, ?_, ?_, ?_⟩, ?_, hout, h1, h2, h3, h4⟩
    · rw [hsize₂] at hP
      exact .pass hne hrec (hans ▸ hA) hP
    · rw [hpasses, List.length_cons]
      omega
    · rw [hvals, hval₂, hval, Array.toList_push, List.append_assoc, List.singleton_append]
    · rw [hansdt, hansd₂, hansd, List.flatten_cons, List.append_assoc]
    · rw [List.getLast?_cons, hlast]
      cases gs with
      | nil => exact absurd rfl hgs
      | cons g gs' => rfl
    · rw [hsize, hsize₂, hpasses]
      omega

/-- The validation after the last pass ends the run, `done` or `exhausted`. -/
theorem run_closing (hp : (p : Int) ≤ m) (hge : ¬ (p : Int) < m) :
    RepairEnd r qs v m p s (EStateM.run (Step.repairFrom.closing qs v p) s) := by
  rw [Step.repairFrom.closing]
  simp only [EStateM.run_bind, Step.run_validate]
  split
  · rename_i hnil
    exact repairEnd_finish hp rfl rfl rfl ⟨fun _ => List.isEmpty_iff.1 hnil, fun _ => rfl⟩
      (by simp) (fun h => nomatch h)
  · rename_i hnil
    simp only [EStateM.run_bind, Step.run_note]
    exact repairEnd_finish hp rfl rfl rfl
      ⟨(fun h => nomatch h), fun h => absurd (List.isEmpty_iff.2 h) hnil⟩ (by simp)
      (fun _ hlt => absurd hlt hge)

end Ends

/-- A repair pass that halts halts at a question of the questionnaire. -/
theorem repairEnd_halt {r : Respondent σ} {qs : List Question} {ids : List String} {n : Nat}
    {s t : Session σ} {h : Halt} (hres : EStateM.run (Step.reask r qs ids n) s = .error h t) :
    ∃ q ∈ qs, Step.Halts r q h t := by
  have hre := Step.run_reask r qs ids n s
  rw [hres] at hre
  obtain ⟨pre, q, post, A, hsplit, -, -, -, hhalt⟩ := hre
  have hq : q ∈ ids.filterMap (Step.lastWithId qs) := by
    rw [hsplit]
    simp
  obtain ⟨id, -, hid⟩ := List.mem_filterMap.1 hq
  exact ⟨q, (Step.lastWithId_eq_some hid).1, hhalt⟩

/-- Repair passes from `p` done ones, with fuel for every pass the limit still allows. -/
theorem run_repairFrom (r : Respondent σ) (qs : List Question) (v : Validator) (m : Int)
    (fuel p : Nat) (s : Session σ) (hp : (p : Int) ≤ m) (hfuel : m < ((fuel + p : Nat) : Int)) :
    RepairEnd r qs v m p s (EStateM.run (Step.repairFrom r qs v (.int m) fuel p) s) := by
  induction fuel generalizing p s with
  | zero => omega
  | succ fuel ih =>
    rw [Step.repairFrom]
    simp only [PassLimit.allows]
    split
    · rename_i hlt
      have hlt : (p : Int) < m := by simpa using hlt
      simp only [EStateM.run_bind, Step.run_validate]
      split
      · -- the answers validate: done
        rename_i hnil
        exact repairEnd_finish hp rfl rfl rfl ⟨fun _ => List.isEmpty_iff.1 hnil, fun _ => rfl⟩
          (by simp) (fun h => nomatch h)
      · rename_i hnil
        simp only [EStateM.run_bind, Step.run_note, Step.run_passStarted]
        split
        · -- no issue matches a question: exhausted without counting a pass
          rename_i hnone
          simp only [EStateM.run_bind, Step.run_note]
          exact repairEnd_finish hp rfl rfl rfl
            ⟨(fun h => nomatch h), fun h => absurd (List.isEmpty_iff.2 h) hnil⟩ (by simp)
            (fun _ _ => List.isEmpty_iff.1 hnone)
        · -- a pass over the failing questions, then the rest of the run
          rename_i hsome
          simp only [EStateM.run_bind]
          cases hres : EStateM.run (Step.reask r qs
              (reconcile (v.check s.answers s.validations.size).1 (qs.map (·.id))) 0) _ with
          | error e t => exact repairEnd_halt hres
          | ok k s₂ =>
            obtain ⟨A, hA, hansd₂, hval₂, -⟩ := hres ▸ Step.run_reask r qs _ 0 _
            simp only [Step.run_note]
            exact repairEnd_pass hA hansd₂ hval₂
              ((ih (p + 1) _ (by omega) (by omega)).of_kept ⟨rfl, rfl, rfl⟩) rfl rfl rfl
              (by simpa [List.isEmpty_iff] using hnil) (by simpa [List.isEmpty_iff] using hsome)
    · rename_i hge
      exact run_closing hp (by simpa using hge)

/-- **A repair run does what its outcome says.** For every limit `m ≥ 1`, every validator, every
respondent and every session: the run returns an outcome that `Repaired` describes (passes
within the limit, one validation more than passes, `done` exactly when the last validation found
no issue, the unreconciled issues those matching no question, an early stop only when no issue
matched, and each pass asking the failing questions of its validation in order), unless it halts
at a question whose condition could not be evaluated or whose acquisition halted. -/
theorem repair_outcome (r : Respondent σ) (qs : List Question) (v : Validator) (m : Int)
    (hm : 1 ≤ m) (s : Session σ) :
    (∃ o t, EStateM.run (Step.repair r qs v (.int m)) s = .ok o t ∧ Repaired qs v m 0 s o t) ∨
    (∃ h t, EStateM.run (Step.repair r qs v (.int m)) s = .error h t ∧
      ∃ q ∈ qs, Step.Halts r q h t) := by
  have hvalid : PassLimit.validate (.int m) = .ok () := by
    rw [PassLimit.validate, if_neg (by omega)]
  have hrun : EStateM.run (Step.repair r qs v (.int m)) s =
      EStateM.run (Step.repairFrom r qs v (.int m) (m.toNat + 1) 0) s := by
    simp only [Step.repair, hvalid, PassLimit.bound]
  have hend := run_repairFrom r qs v m (m.toNat + 1) 0 s (by omega) (by omega)
  rw [hrun]
  cases hres : EStateM.run (Step.repairFrom r qs v (.int m) (m.toNat + 1) 0) s with
  | ok o t =>
    rw [hres] at hend
    exact .inl ⟨o, t, rfl, hend⟩
  | error h t =>
    rw [hres] at hend
    exact .inr ⟨h, t, rfl, hend⟩

/-- The repair outcome for one question `a`, a validator that finds `a` too short at its first
call only, and a script that answers `a` once. -/
theorem repair_outcome_scripted :
    let qs : List Question := [{ id := "a", label := "A", kind := .text }]
    let v : Validator :=
      ⟨fun _ n => (if n = 0 then [{ path := "/a", message := "is too short" }] else [], [])⟩
    let s : Session Script :=
      { answers := .obj [("a", .str "x")],
        respondent := { queues := [("a", [.str "fixed"])], maxAsks := 10 } }
    (1 : Int) ≤ 1 ∧
      ((∃ o t, EStateM.run (Step.repair Script.respondent qs v (.int 1)) s = .ok o t ∧
          Repaired qs v 1 0 s o t) ∨
        (∃ h t, EStateM.run (Step.repair Script.respondent qs v (.int 1)) s = .error h t ∧
          ∃ q ∈ qs, Step.Halts Script.respondent q h t)) :=
  ⟨by decide, repair_outcome _ _ _ 1 (by decide) _⟩

end Questionnaire
