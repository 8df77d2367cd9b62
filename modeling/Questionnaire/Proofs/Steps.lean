import Questionnaire.Session.Repair
/-!
# What each session step does to the answers

A session's answers, its validations and its record of answered questions change in exactly two
ways: a validation appends the answers it saw, and storing an answer writes it at the question's
id and records the question as answered. Every other step (a log record, a prompt, a rejection,
the start of a pass, a condition check) only touches the log and the respondent's own state.

This file says so once per step, as an equation through `EStateM.run` or as one of two relations
between the session before and after:

* `Session.Kept s t`: `t` has the answers, validations and answered questions of `s`;
* `Session.Stored q x s t`: `t` is `s` with the answer `x` to `q` written at `q`'s id.

The main lemma is `Step.run_acquire`: an acquisition that returns `x` has stored `x`, and one
that halts has kept the answers. Later proofs cite these lemmas and never unfold a step.
-/

namespace Questionnaire

namespace Session

variable {σ : Type}

/-- `t` keeps the answers, the validations and the answered questions of `s`: only the log and
the respondent's own state may differ. -/
structure Kept (s t : Session σ) : Prop where
  answers : t.answers = s.answers
  validations : t.validations = s.validations
  answered : t.answered = s.answered

theorem Kept.refl (s : Session σ) : Kept s s := ⟨rfl, rfl, rfl⟩

theorem Kept.trans {s t u : Session σ} (h₁ : Kept s t) (h₂ : Kept t u) : Kept s u :=
  ⟨h₂.answers.trans h₁.answers, h₂.validations.trans h₁.validations,
    h₂.answered.trans h₁.answered⟩

/-- `t` is `s` after storing the answer `x` to `q`: `x` written at `q`'s id, `q` recorded as
answered, the validations kept. -/
structure Stored (q : Question) (x : Value) (s t : Session σ) : Prop where
  answers : ∃ reps, s.answers.setAt q.id x = .ok (t.answers, reps)
  validations : t.validations = s.validations
  answered : t.answered = s.answered.push (q, x)

theorem Stored.of_kept {q : Question} {x : Value} {s t u : Session σ} (h : Stored q x t u)
    (hk : Kept s t) : Stored q x s u := by
  obtain ⟨reps, hset⟩ := h.answers
  exact ⟨⟨reps, hk.answers ▸ hset⟩, h.validations.trans hk.validations,
    hk.answered ▸ h.answered⟩

theorem Stored.kept_right {q : Question} {x : Value} {s t u : Session σ} (h : Stored q x s t)
    (hk : Kept t u) : Stored q x s u := by
  obtain ⟨reps, hset⟩ := h.answers
  exact ⟨⟨reps, hk.answers ▸ hset⟩, hk.validations.trans h.validations,
    hk.answered.trans h.answered⟩

end Session

open Session

namespace Step

variable {σ : Type}

/-! ## Steps that keep the answers -/

theorem run_note (level : Level) (channel : Channel) (text : String) (s : Session σ) :
    EStateM.run (note level channel text : Step σ Unit) s =
      .ok () { s with log := s.log.push ⟨level, channel, text⟩ } := rfl

theorem run_ofExcept {α : Type} (e : Except Fault α) (s : Session σ) :
    EStateM.run (ofExcept e : Step σ α) s = match e with
      | .ok a => .ok a s
      | .error f => .error (.fault f) s := by
  cases e <;> rfl

theorem run_ask (r : Respondent σ) (d : Descriptor) (s : Session σ) :
    EStateM.run (ask r d) s = match r.ask d s.respondent with
      | .ok v t => .ok v { s with respondent := t }
      | .error h t => .error h { s with respondent := t } := rfl

theorem run_reject (r : Respondent σ) (d : Descriptor) (m : String) (s : Session σ) :
    EStateM.run (reject r d m) s = .ok () { s with respondent := r.reject d m s.respondent } :=
  rfl

theorem run_passStarted (r : Respondent σ) (n : Nat) (limit : Value) (issues : List Issue)
    (s : Session σ) :
    EStateM.run (passStarted r n limit issues) s =
      .ok () { s with respondent := r.passStarted n limit issues s.respondent } := rfl

/-- A validation reports the validator's issues for the answers and the number of earlier
validations, and appends the answers to the validations. -/
theorem run_validate (v : Validator) (s : Session σ) :
    EStateM.run (validate v : Step σ (List Issue)) s =
      .ok (v.check s.answers s.validations.size).1
        { s with validations := s.validations.push s.answers,
                 log := s.log ++ (v.check s.answers s.validations.size).2.toArray } := rfl

/-- A condition check answers what `isActive` says of the answers as they are; before that it may
note a condition text that does not parse. -/
theorem run_isActive (d : Option String) (s : Session σ) :
    ∃ t, Kept s t ∧ EStateM.run (isActive d : Step σ Bool) s =
      EStateM.run (ofExcept (Questionnaire.isActive d s.answers) : Step σ Bool) t := by
  cases d with
  | none => exact ⟨s, Kept.refl s, rfl⟩
  | some text =>
    -- one case per shape of the parsed condition; only an unparsed text is noted
    rcases hp : Condition.parse text with (_ | src) | ⟨l, r⟩ | ⟨l, items⟩
    · exact ⟨s, Kept.refl s, by simp only [isActive, Questionnaire.isActive, hp]; rfl⟩
    · refine ⟨{ s with log := s.log.push ⟨.debug, .conditions,
        "condition_unparsed expr=" ++ quoteText text⟩ }, ⟨rfl, rfl, rfl⟩, ?_⟩
      simp only [isActive, Questionnaire.isActive, hp]
      rfl
    · exact ⟨s, Kept.refl s, by simp only [isActive, Questionnaire.isActive, hp]; rfl⟩
    · exact ⟨s, Kept.refl s, by simp only [isActive, Questionnaire.isActive, hp]; rfl⟩

/-- Noting one log record per item keeps the answers. -/
theorem run_forIn_note {β : Type} (xs : List β) (level : Level) (channel : Channel)
    (text : β → String) (s : Session σ) :
    ∃ t, Kept s t ∧ EStateM.run (forIn xs PUnit.unit fun x _ => do
      note level channel (text x)
      pure (ForInStep.yield PUnit.unit) : Step σ PUnit) s = .ok () t := by
  induction xs generalizing s with
  | nil => exact ⟨s, Kept.refl s, rfl⟩
  | cons x rest ih =>
    obtain ⟨t, hkept, ht⟩ := ih { s with log := s.log.push ⟨level, channel, text x⟩ }
    refine ⟨t, ⟨hkept.answers, hkept.validations, hkept.answered⟩, ?_⟩
    simp only [List.forIn_cons, EStateM.run_bind, run_note]
    exact ht

/-! ## Storing and acquiring answers -/

/-- Storing an answer writes it at the question's id and records the question, or halts on the
fault of the write with the session unchanged. -/
theorem run_store (q : Question) (x : Value) (s : Session σ) :
    match s.answers.setAt q.id x with
    | .ok _ => ∃ t, Stored q x s t ∧ EStateM.run (store q x : Step σ Unit) s = .ok () t
    | .error f => EStateM.run (store q x : Step σ Unit) s = .error (.fault f) s := by
  unfold store
  cases h : s.answers.setAt q.id x with
  | error f => simp [h, EStateM.run_bind, run_ofExcept]
  | ok p =>
    obtain ⟨g, reps⟩ := p
    -- the warnings for the replaced intermediates come first and keep the answers
    obtain ⟨t, hkept, ht⟩ := run_forIn_note reps .warning .paths (fun r =>
      "set_path_replaced_value path=" ++ q.id ++ " segment=" ++ r.segment ++ " previous=" ++
        r.previous.literal) s
    refine ⟨{ t with answers := g, answered := t.answered.push (q, x) },
      ⟨⟨reps, ?_⟩, hkept.validations, ?_⟩, ?_⟩
    · simpa using h
    · simp [hkept.answered]
    · simp only [EStateM.run_bind, EStateM.run_get, h, run_ofExcept, ht, EStateM.run_modify]

/-- What an acquisition of `q` from `s` leaves: when it returns `x`, `x` is stored; when it
halts, the answers are kept. -/
def Stores (q : Question) (s : Session σ) : EStateM.Result Halt (Session σ) Value → Prop
  | .ok x t => Stored q x s t
  | .error _ t => Kept s t

theorem Stores.of_kept {q : Question} {s t : Session σ}
    {res : EStateM.Result Halt (Session σ) Value} (h : Stores q t res) (hk : Kept s t) :
    Stores q s res := by
  cases res with
  | ok x u => exact Stored.of_kept h hk
  | error e u => exact hk.trans h

/-- Every attempt of an acquisition keeps the answers until an answer is accepted and stored. -/
theorem run_acquireFrom (r : Respondent σ) (q : Question) (fuel attempt : Nat) (s : Session σ) :
    Stores q s (EStateM.run (acquireFrom r q fuel attempt) s) := by
  induction fuel generalizing attempt s with
  | zero => exact Kept.refl s
  | succ fuel ih =>
    simp only [acquireFrom, EStateM.run_bind, EStateM.run_get, run_ofExcept]
    cases hd : Descriptor.forQuestion q s.answers with
    | error f => exact Kept.refl s
    | ok d =>
      simp only [run_ask]
      cases ha : r.ask d s.respondent with
      | error h u => exact ⟨rfl, rfl, rfl⟩
      | ok raw u =>
        simp only
        cases hacc : Answer.accept q raw with
        | error ref =>
          cases ref with
          | rejected rej =>
            -- a rejected answer is reported and the next attempt starts from the same answers
            simp only [EStateM.run_bind, run_note, run_reject]
            exact (ih _ _).of_kept ⟨rfl, rfl, rfl⟩
          | fault f => exact ⟨rfl, rfl, rfl⟩
        | ok x =>
          have hstore := run_store q x { s with respondent := u }
          simp only [EStateM.run_bind]
          split at hstore
          · obtain ⟨t, hst, ht⟩ := hstore
            simp only [ht, run_note, EStateM.run_pure, Stores]
            exact (hst.of_kept (s := s) ⟨rfl, rfl, rfl⟩).kept_right ⟨rfl, rfl, rfl⟩
          · simp only [hstore]
            exact ⟨rfl, rfl, rfl⟩

/-- **An acquisition stores what it returns.** When `acquire` returns `x`, `x` has been written
at `q`'s id and `q` recorded as answered; when it halts, the answers are as they were. -/
theorem run_acquire (r : Respondent σ) (q : Question) (s : Session σ) :
    Stores q s (EStateM.run (acquire r q) s) :=
  run_acquireFrom r q _ 1 s

end Step

end Questionnaire
