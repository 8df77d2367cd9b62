import Questionnaire.Proofs.Steps
/-!
# Passes over questions

The primary pass and every repair pass walk a list of questions and, for each one, check its
condition against the answers as they are at that moment: an inactive question is skipped and
leaves the answers alone, an active one is acquired. `AskedInOrder qs g A g'` says this of the
answers alone: starting from `g`, the questions `qs` are taken in order, `A` lists the questions
answered with the answers stored for them, and `g'` is where the answers end.

`Step.Asked` describes every way a pass can end. A pass that returns has taken all its questions
in order. A pass that halts has taken the questions before some question `q` in order and then
halted at `q`: its condition could not be evaluated, or it was active and its acquisition halted.

The primary pass walks the questionnaire; a repair pass walks the failing ids, each replaced by
the last question declared with it, and ids that name no question are passed over
(`run_reask`).
-/

namespace Questionnaire

open Session

/-- Questions taken in order from the answers `g`: a question whose condition does not hold for
the answers so far is skipped, any other is answered with some `x`, written at its id. `A` lists
the questions answered with their answers, `g'` the answers reached. -/
inductive AskedInOrder : List Question → Value → List (Question × Value) → Value → Prop
  | nil (g : Value) : AskedInOrder [] g [] g
  | skip {q : Question} {qs : List Question} {g : Value} {A : List (Question × Value)}
      {g' : Value} :
      isActive q.dependsOn g = .ok false →
      AskedInOrder qs g A g' → AskedInOrder (q :: qs) g A g'
  | answer {q : Question} {qs : List Question} {g x g₁ : Value} {reps : List Value.Replaced}
      {A : List (Question × Value)} {g' : Value} :
      isActive q.dependsOn g = .ok true → g.setAt q.id x = .ok (g₁, reps) →
      AskedInOrder qs g₁ A g' → AskedInOrder (q :: qs) g ((q, x) :: A) g'

/-- The questions answered in a pass are among the questions walked, in the same order. -/
theorem AskedInOrder.sublist {qs : List Question} {g g' : Value} {A : List (Question × Value)}
    (h : AskedInOrder qs g A g') : List.Sublist (A.map Prod.fst) qs := by
  induction h with
  | nil g => exact List.Sublist.slnil
  | skip _ _ ih => exact ih.cons _
  | answer _ _ _ ih => exact ih.cons_cons _

namespace Step

variable {σ : Type}

/-- The last question declared with `id` exists and has that id. -/
theorem lastWithId_eq_some {qs : List Question} {id : String} {q : Question}
    (h : lastWithId qs id = some q) : q ∈ qs ∧ q.id = id := by
  unfold lastWithId at h
  exact ⟨List.mem_reverse.1 (List.mem_of_find?_eq_some h), by simpa using List.find?_some h⟩

/-- The halt `h`, ending in `t`, of a pass at question `q` reached with the answers of `t`: the
condition of `q` cannot be evaluated, or `q` is active and its acquisition halts. -/
def Halts (r : Respondent σ) (q : Question) (h : Halt) (t : Session σ) : Prop :=
  (∃ f, h = .fault f ∧ Questionnaire.isActive q.dependsOn t.answers = .error f) ∨
    (Questionnaire.isActive q.dependsOn t.answers = .ok true ∧
      ∃ u, Kept u t ∧ EStateM.run (acquire r q) u = .error h t)

/-- How a pass over `qs` that started from `s` with `n` questions asked so far can end: returning
the new count after taking every question in order, or halting at some question after taking the
ones before it in order. Either way the validations are kept. -/
def Asked (r : Respondent σ) (qs : List Question) (n : Nat) (s : Session σ) :
    EStateM.Result Halt (Session σ) Nat → Prop
  | .ok k t => ∃ A, AskedInOrder qs s.answers A t.answers ∧
      t.answered.toList = s.answered.toList ++ A ∧ t.validations = s.validations ∧
      k = n + A.length
  | .error h t => ∃ pre q post A, qs = pre ++ q :: post ∧
      AskedInOrder pre s.answers A t.answers ∧ t.answered.toList = s.answered.toList ++ A ∧
      t.validations = s.validations ∧ Halts r q h t

/-! ## One question at a time -/

section Visit

variable {r : Respondent σ} {q : Question} {qs : List Question} {n : Nat} {s s₁ : Session σ}
  {res : EStateM.Result Halt (Session σ) Nat}

/-- Steps that keep the answers before a pass do not change what it does. -/
theorem Asked.of_kept (h : Asked r qs n s₁ res) (hk : Kept s s₁) : Asked r qs n s res := by
  cases res with
  | ok k t =>
    obtain ⟨A, hA, hans, hval, hcount⟩ := h
    exact ⟨A, hk.answers ▸ hA, hk.answered ▸ hans, hval.trans hk.validations, hcount⟩
  | error e t =>
    obtain ⟨pre, q', post, A, rfl, hA, hans, hval, hhalt⟩ := h
    exact ⟨pre, q', post, A, rfl, hk.answers ▸ hA, hk.answered ▸ hans,
      hval.trans hk.validations, hhalt⟩

/-- Skipping an inactive question keeps what the rest of the pass does. -/
theorem Asked.skip (hb : Questionnaire.isActive q.dependsOn s.answers = .ok false) (hk : Kept s s₁)
    (h : Asked r qs n s₁ res) : Asked r (q :: qs) n s res := by
  cases res with
  | ok k t =>
    obtain ⟨A, hA, hans, hval, hcount⟩ := h
    refine ⟨A, .skip hb (hk.answers ▸ hA), ?_, hval.trans hk.validations, hcount⟩
    rw [hans, hk.answered]
  | error e t =>
    obtain ⟨pre, q', post, A, rfl, hA, hans, hval, hhalt⟩ := h
    refine ⟨q :: pre, q', post, A, rfl, .skip hb (hk.answers ▸ hA), ?_,
      hval.trans hk.validations, hhalt⟩
    rw [hans, hk.answered]

/-- Answering an active question prepends it to what the rest of the pass answers. -/
theorem Asked.answer {x : Value} (hb : Questionnaire.isActive q.dependsOn s.answers = .ok true)
    (hst : Stored q x s s₁) (h : Asked r qs (n + 1) s₁ res) : Asked r (q :: qs) n s res := by
  obtain ⟨reps, hset⟩ := hst.answers
  cases res with
  | ok k t =>
    obtain ⟨A, hA, hans, hval, hcount⟩ := h
    refine ⟨(q, x) :: A, .answer hb hset hA, ?_, hval.trans hst.validations, ?_⟩
    · rw [hans, hst.answered]
      simp
    · rw [hcount, List.length_cons]
      omega
  | error e t =>
    obtain ⟨pre, q', post, A, rfl, hA, hans, hval, hhalt⟩ := h
    refine ⟨q :: pre, q', post, (q, x) :: A, rfl, .answer hb hset hA, ?_,
      hval.trans hst.validations, hhalt⟩
    rw [hans, hst.answered]
    simp

/-- A halt at the first question. -/
theorem Asked.halt {h : Halt} {t : Session σ} (hk : Kept s t) (hhalt : Halts r q h t) :
    Asked r (q :: qs) n s (.error h t) :=
  ⟨[], q, qs, [], rfl, hk.answers ▸ .nil _, by rw [hk.answered]; simp, hk.validations, hhalt⟩

/-- Checking a question's condition and acquiring it when active, then going on with `next`:
the whole is described by `Asked` as soon as the rest is. -/
theorem run_visit (next : Nat → Step σ Nat) (skipped : Step σ Nat)
    (hskip : ∀ s₁, Kept s s₁ → Asked r qs n s₁ (EStateM.run skipped s₁))
    (hnext : ∀ s₁ x, Stored q x s s₁ → Asked r qs (n + 1) s₁ (EStateM.run (next (n + 1)) s₁)) :
    Asked r (q :: qs) n s (EStateM.run (do
      if ← isActive q.dependsOn then
        let _ ← acquire r q
        next (n + 1)
      else skipped) s) := by
  obtain ⟨s₁, hk₁, hact⟩ := run_isActive q.dependsOn s
  simp only [EStateM.run_bind, hact, run_ofExcept]
  cases hb : Questionnaire.isActive q.dependsOn s.answers with
  | error f => exact Asked.halt hk₁ (.inl ⟨f, rfl, hk₁.answers ▸ hb⟩)
  | ok b =>
    cases b with
    | false => exact Asked.skip hb hk₁ (hskip s₁ hk₁)
    | true =>
      simp only [if_true, EStateM.run_bind]
      have hacq := run_acquire r q s₁
      cases hres : EStateM.run (acquire r q) s₁ with
      | error e t =>
        rw [hres] at hacq
        exact Asked.halt (hk₁.trans hacq)
          (.inr ⟨(hk₁.trans hacq).answers ▸ hb, s₁, hacq, hres⟩)
      | ok x s₂ =>
        rw [hres] at hacq
        exact Asked.answer hb (hacq.of_kept hk₁) (hnext s₂ x (hacq.of_kept hk₁))

end Visit

/-! ## The primary pass and the repair passes -/

/-- The primary pass takes the questionnaire in order. -/
theorem run_askActive (r : Respondent σ) (qs : List Question) (n : Nat) (s : Session σ) :
    Asked r qs n s (EStateM.run (askActive r qs n) s) := by
  induction qs generalizing n s with
  | nil => exact ⟨[], .nil _, by simp, rfl, by simp⟩
  | cons q rest ih =>
    rw [askActive]
    refine run_visit _ _ (fun s₁ _ => ?_) (fun s₁ _ _ => ih _ _)
    simp only [EStateM.run_bind, run_note]
    exact (ih _ _).of_kept ⟨rfl, rfl, rfl⟩

/-- A repair pass takes, in order, the last question declared with each failing id; an id that
names no question is passed over. -/
theorem run_reask (r : Respondent σ) (qs : List Question) (ids : List String) (n : Nat)
    (s : Session σ) :
    Asked r (ids.filterMap (lastWithId qs)) n s (EStateM.run (reask r qs ids n) s) := by
  induction ids generalizing n s with
  | nil => exact ⟨[], .nil _, by simp, rfl, by simp⟩
  | cons id rest ih =>
    rw [reask]
    cases hq : lastWithId qs id with
    | none =>
      rw [List.filterMap_cons_none hq]
      exact ih n s
    | some q =>
      rw [List.filterMap_cons_some hq]
      refine run_visit _ _ (fun s₁ _ => ?_) (fun s₁ _ _ => ih _ _)
      simp only [EStateM.run_bind, run_note]
      exact (ih _ _).of_kept ⟨rfl, rfl, rfl⟩

end Step

end Questionnaire
