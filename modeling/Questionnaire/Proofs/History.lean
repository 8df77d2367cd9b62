import Questionnaire.Proofs.Repair
/-!
# The answers of a whole run

A run changes its answers in one way only: it stores an answer at its question's id, and it asks
only a question that is active at that moment. `History qs g H g'` says this of the answers
alone: from `g`, the questions of `H`, all of them questions of `qs`, are answered in order with
the answers that `H` gives them, each one active against the answers so far, and the answers end
at `g'`.

`Step.Grows qs x` says that the step `x`, from every session, ends (returning or halting) in a
session that follows it by such a history, the one it records as answered. Sequencing keeps
this, so a run is taken apart into its steps. The main lemma is `Step.grows_run`: a whole run,
whatever the validator, the respondent and the limit, grows its answers by a history of its
questions. What holds at every point of a run is then what holds after every prefix of one
history.
-/

namespace Questionnaire

open Session

/-- Answers stored one after another from `g`: each question, one of `qs` and active against
the answers so far, has its answer written at its id. `H` lists the questions with their answers
in the order stored; `g'` is where the answers end. -/
inductive History (qs : List Question) : Value → List (Question × Value) → Value → Prop
  | nil (g : Value) : History qs g [] g
  | cons {q : Question} {g x g₁ : Value} {reps : List Value.Replaced}
      {H : List (Question × Value)} {g' : Value} :
      q ∈ qs → isActive q.dependsOn g = .ok true → g.setAt q.id x = .ok (g₁, reps) →
      History qs g₁ H g' → History qs g ((q, x) :: H) g'

namespace History

variable {qs : List Question} {g g₁ g' : Value} {H₁ H₂ : List (Question × Value)}

theorem append (h₁ : History qs g H₁ g₁) (h₂ : History qs g₁ H₂ g') :
    History qs g (H₁ ++ H₂) g' := by
  induction h₁ with
  | nil => exact h₂
  | cons hq hact hset _ ih => exact .cons hq hact hset (ih h₂)

/-- A history splits at every point into the history so far and the rest. -/
theorem split (h : History qs g (H₁ ++ H₂) g') :
    ∃ g₁, History qs g H₁ g₁ ∧ History qs g₁ H₂ g' := by
  induction H₁ generalizing g with
  | nil => exact ⟨g, .nil g, h⟩
  | cons e H₁ ih =>
    cases h with
    | cons hq hact hset hrest =>
      obtain ⟨g₁, h₁, h₂⟩ := ih hrest
      exact ⟨g₁, .cons hq hact hset h₁, h₂⟩

end History

/-- A pass in order over questions of `qs` is a history of `qs`. -/
theorem AskedInOrder.history {ps qs : List Question} {g g' : Value} {A : List (Question × Value)}
    (h : AskedInOrder ps g A g') (hps : ∀ q ∈ ps, q ∈ qs) : History qs g A g' := by
  induction h with
  | nil g => exact .nil g
  | skip _ _ ih => exact ih fun q hq => hps q (List.mem_cons_of_mem _ hq)
  | answer hact hset _ ih =>
    exact .cons (hps _ List.mem_cons_self) hact hset
      (ih fun q hq => hps q (List.mem_cons_of_mem _ hq))

namespace Session

variable {σ : Type} {qs : List Question} {s t u : Session σ}

/-- `t` follows `s` by a history of `qs`: the questions recorded as answered since `s`, with their
answers, lead from the answers of `s` to those of `t`. -/
def Grown (qs : List Question) (s t : Session σ) : Prop :=
  ∃ H, t.answered.toList = s.answered.toList ++ H ∧ History qs s.answers H t.answers

theorem Grown.of_eq (ha : t.answers = s.answers) (hd : t.answered = s.answered) :
    Grown qs s t :=
  ⟨[], by rw [hd, List.append_nil], ha ▸ .nil _⟩

theorem Grown.trans (h₁ : Grown qs s t) (h₂ : Grown qs t u) : Grown qs s u := by
  obtain ⟨H₁, hd₁, hH₁⟩ := h₁
  obtain ⟨H₂, hd₂, hH₂⟩ := h₂
  exact ⟨H₁ ++ H₂, by rw [hd₂, hd₁, List.append_assoc], hH₁.append hH₂⟩

end Session

namespace Step

variable {σ : Type}

/-- The session a step ends in, whether it returned or halted. -/
def finalSession {α : Type} : EStateM.Result Halt (Session σ) α → Session σ
  | .ok _ t => t
  | .error _ t => t

/-- From every session, `x` ends in a session that follows it by a history of `qs`. -/
def Grows (qs : List Question) {α : Type} (x : Step σ α) : Prop :=
  ∀ s, Grown qs s (finalSession (EStateM.run x s))

section Grows

variable {qs : List Question} {α β : Type}

theorem Grows.bind {x : Step σ α} {f : α → Step σ β} (hx : Grows qs x)
    (hf : ∀ a, Grows qs (f a)) : Grows qs (x >>= f) := by
  intro s
  have h := hx s
  rw [EStateM.run_bind]
  cases hres : EStateM.run x s with
  | ok a t =>
    rw [hres] at h
    exact h.trans (hf a t)
  | error e t =>
    rw [hres] at h
    exact h

/-- A step that keeps the answers and the answered questions grows them by nothing. -/
theorem Grows.of_keeps {x : Step σ α}
    (h : ∀ s, (finalSession (EStateM.run x s)).answers = s.answers ∧
      (finalSession (EStateM.run x s)).answered = s.answered) : Grows qs x :=
  fun s => Grown.of_eq (h s).1 (h s).2

theorem grows_note (level : Level) (channel : Channel) (text : String) :
    Grows qs (note level channel text : Step σ Unit) :=
  Grows.of_keeps fun _ => ⟨rfl, rfl⟩

theorem grows_validate (v : Validator) : Grows qs (validate v : Step σ (List Issue)) :=
  Grows.of_keeps fun _ => ⟨rfl, rfl⟩

theorem grows_passStarted (r : Respondent σ) (n : Nat) (limit : Value) (issues : List Issue) :
    Grows qs (passStarted r n limit issues) :=
  Grows.of_keeps fun _ => ⟨rfl, rfl⟩

theorem grows_finish (ps : List Question) (status : RunStatus) (passes : Nat)
    (issues : List Issue) : Grows qs (finish ps status passes issues : Step σ Outcome) := by
  refine Grows.of_keeps fun s => ?_
  obtain ⟨t, hk, ht⟩ := run_finish ps status passes issues s
  rw [ht]
  exact ⟨hk.answers, hk.answered⟩

end Grows

/-- A pass over questions of `qs` grows the answers by a history of `qs`, whether it returns or
halts: the questions it took before halting form one. -/
theorem Asked.grown {r : Respondent σ} {ps qs : List Question} {n : Nat} {s : Session σ}
    {res : EStateM.Result Halt (Session σ) Nat} (h : Asked r ps n s res)
    (hps : ∀ q ∈ ps, q ∈ qs) : Grown qs s (finalSession res) := by
  cases res with
  | ok k t =>
    obtain ⟨A, hA, hansd, -, -⟩ := h
    exact ⟨A, hansd, hA.history hps⟩
  | error e t =>
    obtain ⟨pre, q, post, A, rfl, hA, hansd, -, -⟩ := h
    exact ⟨A, hansd, hA.history fun p hp => hps p (List.mem_append_left _ hp)⟩

/-! ## The passes and the run -/

section Run

variable (r : Respondent σ) (qs : List Question) (v : Validator) (limit : Value)

theorem grows_askActive (n : Nat) : Grows qs (askActive r qs n) :=
  fun s => (run_askActive r qs n s).grown fun _ hq => hq

/-- A repair pass asks only questions of the questionnaire: the last one declared with each id. -/
theorem grows_reask (ids : List String) (n : Nat) : Grows qs (reask r qs ids n) := by
  intro s
  refine (run_reask r qs ids n s).grown fun q hq => ?_
  obtain ⟨id, -, hid⟩ := List.mem_filterMap.1 hq
  exact (lastWithId_eq_some hid).1

theorem grows_closing (p : Nat) : Grows qs (repairFrom.closing qs v p : Step σ Outcome) := by
  rw [repairFrom.closing]
  refine (grows_validate v).bind fun issues => ?_
  split
  · exact grows_finish _ _ _ _
  · exact (grows_note _ _ _).bind fun _ => grows_finish _ _ _ _

/-- Every repair pass, against any limit, grows the answers by a history of the questionnaire. -/
theorem grows_repairFrom (fuel p : Nat) : Grows qs (repairFrom r qs v limit fuel p) := by
  induction fuel generalizing p with
  | zero => exact grows_closing qs v p
  | succ fuel ih =>
    rw [repairFrom]
    split
    · refine (grows_validate v).bind fun issues => ?_
      split
      · exact grows_finish _ _ _ _
      · refine (grows_note _ _ _).bind fun _ => (grows_passStarted _ _ _ _).bind fun _ => ?_
        dsimp only
        split
        · exact (grows_note _ _ _).bind fun _ => grows_finish _ _ _ _
        · exact (grows_reask r qs _ 0).bind fun _ => (grows_note _ _ _).bind fun _ => ih _
    · exact grows_closing qs v p

theorem grows_repair : Grows qs (repair r qs v limit) := by
  rw [repair]
  split
  · exact fun s => Grown.of_eq rfl rfl
  · exact grows_repairFrom r qs v limit _ 0

/-- **A run grows its answers by a history of its questions.** For every respondent, validator
and limit, and from every session, a run that returns or halts ends with answers reached from
the answers it started with by storing, in the order recorded, an answer to each question it
records as answered, each one a question of the questionnaire active at that moment. -/
theorem grows_run : Grows qs (run r qs v limit) := by
  rw [run]
  refine (grows_note _ _ _).bind fun _ => ?_
  refine ((grows_askActive r qs 0).bind fun _ => grows_note _ _ _).bind fun _ => ?_
  exact grows_repair r qs v limit

/-- Started from empty answers, a run's record of answered questions splits at every point into
a history from the empty object and a history on to the answers the run ends with. -/
theorem history_split_of_run (ρ : σ) {H₁ H₂ : List (Question × Value)}
    (hsplit : (finalSession (EStateM.run (run r qs v limit)
      ({ answers := .obj [], respondent := ρ } : Session σ))).answered.toList = H₁ ++ H₂) :
    ∃ g, History qs (.obj []) H₁ g ∧ History qs g H₂ (finalSession (EStateM.run
      (run r qs v limit) ({ answers := .obj [], respondent := ρ } : Session σ))).answers := by
  obtain ⟨H, hH, hist⟩ := grows_run r qs v limit
    ({ answers := .obj [], respondent := ρ } : Session σ)
  generalize finalSession (EStateM.run (run r qs v limit)
    ({ answers := .obj [], respondent := ρ } : Session σ)) = t at hsplit hH hist ⊢
  -- the run started with nothing answered, so its whole record is one history from `{}`
  have hfull : History qs (.obj []) (H₁ ++ H₂) t.answers := by
    rw [← hsplit, hH]
    simpa using hist
  exact hfull.split

end Run

end Step

end Questionnaire
