import Questionnaire.Proofs.Steps
import Questionnaire.Session.Script
/-!
# Acquiring one answer

`Step.acquire` asks a question until an answer passes the question's own rules. This file says
what a whole acquisition does, for every respondent whose budget counts the answers it can still
give:

* every attempt shows the same prompt, the one described from the answers as they were when the
  acquisition started, since a refused answer leaves the answers alone;
* an attempt is refused exactly when the raw answer cannot be brought into its stored shape or
  breaks a rule of the question, and the respondent is told the rule's message;
* malformed data, and a respondent that stops, end the acquisition with the answers unchanged;
* the first accepted answer is stored at the question's id and returned;
* every answer returned has the shape its question demands (`Answer.WellFormed`).

`Attempts` describes the attempts from the respondent's side and `Finishes` what the session
reaches at their end; `acquire_until_accepted` is the theorem.
-/

namespace Questionnaire

namespace Text

/-- A text with no blank at either end. -/
def Trimmed (s : String) : Prop :=
  (∀ c ∈ s.toList.head?, isBlank c = false) ∧ ∀ c ∈ s.toList.getLast?, isBlank c = false

/-- The first character left after dropping the leading blanks is no blank. -/
theorem isBlank_head_dropBlanks {cs : List Char} {c : Char} (h : c ∈ (dropBlanks cs).head?) :
    isBlank c = false := by
  have hnot := List.head?_dropWhile_not isBlank cs
  rw [show (cs.dropWhile isBlank).head? = some c from h] at hnot
  exact hnot

/-- A stripped text has no blank at either end. -/
theorem strip_trimmed (s : String) : Trimmed (strip s) := by
  simp only [Trimmed, strip, String.toList_ofList]
  generalize hcs : dropBlanks s.toList = cs
  have hpre : dropTrailingBlanks cs <+: cs := by
    have hsuf := (List.dropWhile_suffix isBlank (l := cs.reverse)).reverse
    rw [List.reverse_reverse] at hsuf
    exact hsuf
  refine ⟨fun c hc => ?_, fun c hc => ?_⟩
  · -- the stripped text starts where the text without its leading blanks starts
    obtain ⟨t, ht⟩ := hpre
    obtain ⟨rest, hrest⟩ := List.head?_eq_some_iff.1 hc
    rw [hrest] at ht
    rw [← hcs] at ht
    exact isBlank_head_dropBlanks (by rw [← ht]; rfl)
  · simp only [dropTrailingBlanks, List.getLast?_reverse] at hc
    exact isBlank_head_dropBlanks hc

end Text

namespace Answer

variable {q : Question} {raw v : Value}

/-! ## The shape of a stored answer -/

/-- The shape of a stored answer for its question, as the question's kind and rules demand. -/
structure WellFormed (q : Question) (v : Value) : Prop where
  /-- A required question has an answer that is given: not null, not the empty text, not the
  empty list. -/
  required : q.required = true → isEmpty v = false
  /-- A boolean question has a boolean. -/
  boolean : q.kind = .boolean → ∃ b, v = .bool b
  /-- Chips are non-empty texts without blanks around them. -/
  chips : q.kind = .chips → ∃ xs, v = Value.ofStrings xs ∧ ∀ x ∈ xs, x ≠ "" ∧ Text.Trimmed x
  /-- Multiselect items are texts, each one of the options when there are options. -/
  multiselect : q.kind = .multiselect → ∃ xs, v = Value.ofStrings xs ∧
    (q.options.getD [] ≠ [] → ∀ x ∈ xs, x ∈ q.options.getD [])
  /-- A table is a list of rows, each an object holding every declared column. -/
  table : q.kind = .table → ∃ rows, v = .arr rows ∧
    (q.columns.getD [] ≠ [] → ∀ row ∈ rows, ∃ fs, row = .obj fs ∧
      ∀ c ∈ q.columns.getD [], Value.fieldHas fs c = true)
  /-- A select answer with options is one of them, or empty. -/
  select : q.kind = .select → q.options.getD [] ≠ [] →
    isEmpty v = true ∨ ∃ o ∈ q.options.getD [], v = .str o

/-- Every chip is a non-empty text without blanks around it. -/
theorem mem_chips {x : String} (h : x ∈ chips raw) : x ≠ "" ∧ Text.Trimmed x := by
  unfold chips at h
  obtain ⟨hx, hne⟩ := List.mem_filter.1 h
  -- every item is a stripped text, whichever way the raw answer was cut
  have hstrip : ∃ y, x = Text.strip y := by
    split at hx
    · obtain ⟨y, -, rfl⟩ := List.mem_map.1 hx
      exact ⟨_, rfl⟩
    · split at hx
      · obtain ⟨y, -, rfl⟩ := List.mem_map.1 hx
        exact ⟨_, rfl⟩
      · cases hx
  obtain ⟨y, rfl⟩ := hstrip
  refine ⟨fun he => ?_, Text.strip_trimmed y⟩
  rw [he] at hne
  cases hne

theorem normalize_boolean (hk : q.kind = .boolean) (h : normalize q raw = .ok v) :
    ∃ b, v = .bool b := by
  simp only [normalize, hk] at h
  split at h
  · cases h
    exact ⟨_, rfl⟩
  · split at h
    · cases h
      exact ⟨_, rfl⟩
    · split at h
      · cases h
        exact ⟨_, rfl⟩
      · cases h

theorem normalize_multiselect (hk : q.kind = .multiselect) (h : normalize q raw = .ok v) :
    ∃ xs, v = Value.ofStrings xs := by
  simp only [normalize, hk] at h
  split at h
  · cases h
    exact ⟨_, rfl⟩
  · cases h
    exact ⟨[], rfl⟩

/-- A check that passes lets through no required answer that is empty. -/
theorem check_required (h : check q v = .ok ()) : (q.required && isEmpty v) = false := by
  cases hr : (q.required && isEmpty v)
  · rfl
  · simp [check, hr, throw, throwThe, MonadExceptOf.throw, bind, Except.bind] at h

/-- A table answer that passes the check is a list whose rows all hold the declared columns,
when there are columns and rows. -/
theorem check_table (h : check q v = .ok ()) (hk : q.kind = .table) :
    ∃ rows, v = .arr rows ∧
      ((q.columns.getD []).isEmpty || rows.isEmpty || rows.all (rowHas (q.columns.getD []))) =
        true := by
  have hr := check_required h
  cases v with
  | arr rows =>
    refine ⟨rows, rfl, ?_⟩
    cases hc : ((q.columns.getD []).isEmpty || rows.isEmpty ||
        rows.all (rowHas (q.columns.getD [])))
    · simp only [Bool.or_eq_false_iff] at hc
      simp [check, hk, hr, hc, throw, throwThe, MonadExceptOf.throw, bind, Except.bind] at h
    · rfl
  | _ => simp [check, hk, hr, throw, throwThe, MonadExceptOf.throw, bind, Except.bind] at h

/-- A select answer that passes the check is empty or one of the options, when there are
options. -/
theorem check_select (h : check q v = .ok ()) (hk : q.kind = .select) :
    ((q.options.getD []).isEmpty || isEmpty v || (q.options.getD []).any v.isText) = true := by
  cases hc : ((q.options.getD []).isEmpty || isEmpty v || (q.options.getD []).any v.isText)
  · simp only [Bool.or_eq_false_iff] at hc
    simp [check, hk, hc, throw, throwThe, MonadExceptOf.throw, bind, Except.bind] at h
  · rfl

/-- Every item of a multiselect answer that passes the check is one of the options, when there
are options. -/
theorem check_multiselect (h : check q v = .ok ()) (hk : q.kind = .multiselect)
    (ho : q.options.getD [] ≠ []) {items : List Value} (hw : walk v = .ok items) :
    ∀ x ∈ items, (q.options.getD []).any x.isText = true := by
  have hr := check_required h
  intro x hx
  cases hc : (q.options.getD []).any x.isText
  · simp [check, hk, hr, ho, hw, throw, throwThe, MonadExceptOf.throw] at h
    -- an item that is no option makes the list of unknown items non-empty
    rw [if_pos ⟨x, hx, by simpa using hc⟩] at h
    split at h <;> cases h
  · rfl

/-- **An answer that passes the rules has its question's shape.** -/
theorem wellFormed_of_check (hn : normalize q raw = .ok v) (hc : check q v = .ok ()) :
    WellFormed q v where
  required hreq := by simpa [hreq] using check_required hc
  boolean hk := normalize_boolean hk hn
  chips hk := by
    simp only [normalize, hk, Except.ok.injEq] at hn
    exact ⟨_, hn.symm, fun x hx => mem_chips hx⟩
  multiselect hk := by
    obtain ⟨xs, rfl⟩ := normalize_multiselect hk hn
    refine ⟨xs, rfl, fun ho x hx => ?_⟩
    have hwalk : walk (Value.ofStrings xs) = .ok (xs.map .str) := rfl
    have hall := check_multiselect hc hk ho hwalk (.str x) (List.mem_map_of_mem hx)
    obtain ⟨o, ho', hxo⟩ := List.any_eq_true.1 hall
    simp only [Value.isText, beq_iff_eq] at hxo
    exact hxo ▸ ho'
  table hk := by
    obtain ⟨rows, rfl, hall⟩ := check_table hc hk
    refine ⟨rows, rfl, fun hcols row hrow => ?_⟩
    have hcols' : (q.columns.getD []).isEmpty = false := by simpa using hcols
    have hrows : rows.isEmpty = false := by
      cases rows with
      | nil => cases hrow
      | cons _ _ => rfl
    simp only [hcols', hrows, Bool.false_or, List.all_eq_true] at hall
    have hhas := hall row hrow
    cases row with
    | obj fs => exact ⟨fs, rfl, by simpa [rowHas] using hhas⟩
    | _ => cases hhas
  select hk ho := by
    have hsel := check_select hc hk
    have ho' : (q.options.getD []).isEmpty = false := by simpa using ho
    simp only [ho', Bool.false_or, Bool.or_eq_true] at hsel
    rcases hsel with he | hany
    · exact .inl he
    · right
      obtain ⟨o, hmem, hvo⟩ := List.any_eq_true.1 hany
      cases v with
      | str s =>
        simp only [Value.isText, beq_iff_eq] at hvo
        exact ⟨o, hmem, hvo ▸ rfl⟩
      | _ => cases hvo

/-! ## One attempt -/

/-- A raw answer accepted as `v`: brought into its stored shape `v`, which breaks no rule. -/
def Accepted (q : Question) (raw v : Value) : Prop :=
  normalize q raw = .ok v ∧ check q v = .ok ()

/-- A raw answer refused by `rej`: it cannot be brought into its stored shape, or that shape
breaks one of the question's rules. -/
def Refused (q : Question) (raw : Value) (rej : Rejection) : Prop :=
  normalize q raw = .error (.rejected rej) ∨
    ∃ v, normalize q raw = .ok v ∧ check q v = .error (.rejected rej)

/-- A raw answer that meets malformed data on the way: in its stored shape or in a rule. -/
def Broken (q : Question) (raw : Value) (f : Fault) : Prop :=
  normalize q raw = .error (.fault f) ∨
    ∃ v, normalize q raw = .ok v ∧ check q v = .error (.fault f)

theorem accepted_of_accept (h : accept q raw = .ok v) : Accepted q raw v := by
  simp only [accept, bind, Except.bind] at h
  split at h
  · cases h
  · rename_i w hn
    split at h
    · cases h
    · rename_i hc
      cases h
      exact ⟨hn, hc⟩

theorem refused_of_accept {rej : Rejection} (h : accept q raw = .error (.rejected rej)) :
    Refused q raw rej := by
  simp only [accept, bind, Except.bind] at h
  split at h
  · cases h
    exact .inl ‹_›
  · rename_i w hn
    split at h
    · cases h
      exact .inr ⟨w, hn, ‹_›⟩
    · cases h

theorem broken_of_accept {f : Fault} (h : accept q raw = .error (.fault f)) : Broken q raw f := by
  simp only [accept, bind, Except.bind] at h
  split at h
  · cases h
    exact .inl ‹_›
  · rename_i w hn
    split at h
    · cases h
      exact .inr ⟨w, hn, ‹_›⟩
    · cases h

theorem Accepted.wellFormed (h : Accepted q raw v) : WellFormed q v :=
  wellFormed_of_check h.1 h.2

end Answer

/-! ## Respondents with a budget -/

variable {σ : Type}

/-- A respondent whose budget counts the answers it can still give: every answer lowers it, and
taking note of a rejection does not raise it. -/
structure Respondent.Bounded (r : Respondent σ) : Prop where
  ask_lt : ∀ d ρ v ρ', r.ask d ρ = .ok v ρ' → r.budget ρ' < r.budget ρ
  reject_le : ∀ d m ρ, r.budget (r.reject d m ρ) ≤ r.budget ρ

/-- A scripted respondent answers at most as many prompts as its script allows. -/
theorem Script.respondent_bounded : Script.respondent.Bounded where
  ask_lt d ρ v ρ' h := by
    simp only [Script.respondent, Script.answer] at h ⊢
    split at h
    · cases h
    · rename_i hlt
      split at h
      · cases h
        simp only
        omega
      · split at h
        · cases h
          simp only
          omega
        · cases h
  reject_le _ _ _ := Nat.le_refl _

/-! ## Attempts until an answer is accepted -/

/-- The end of the attempts at a question: an answer accepted, with the respondent's state after
giving it, or a halt, with the respondent's state then. -/
inductive AttemptEnd (σ : Type) where
  | accepted (v : Value) (ρ : σ)
  | halted (h : Halt) (ρ : σ)

/-- The attempts at the question `q` with the prompt `d`, from the respondent's state `ρ`. Each
attempt shows `d`; an answer refused by a rule is reported to the respondent with the rule's
message and the question is asked again; the attempts end at the first accepted answer, at
malformed data, or when the respondent stops. -/
inductive Attempts (r : Respondent σ) (q : Question) (d : Descriptor) : σ → AttemptEnd σ → Prop
  | accepted {ρ ρ' : σ} {raw v : Value} :
      r.ask d ρ = .ok raw ρ' → Answer.Accepted q raw v → Attempts r q d ρ (.accepted v ρ')
  | refused {ρ ρ' : σ} {raw : Value} {rej : Rejection} {e : AttemptEnd σ} :
      r.ask d ρ = .ok raw ρ' → Answer.Refused q raw rej →
      Attempts r q d (r.reject d rej.message ρ') e → Attempts r q d ρ e
  | broken {ρ ρ' : σ} {raw : Value} {f : Fault} :
      r.ask d ρ = .ok raw ρ' → Answer.Broken q raw f → Attempts r q d ρ (.halted (.fault f) ρ')
  | stopped {ρ ρ' : σ} {h : Halt} :
      r.ask d ρ = .error h ρ' → Attempts r q d ρ (.halted h ρ')

/-- An accepted answer has its question's shape. -/
theorem Attempts.wellFormed {r : Respondent σ} {q : Question} {d : Descriptor} {ρ ρ' : σ}
    {v : Value} (h : Attempts r q d ρ (.accepted v ρ')) : Answer.WellFormed q v := by
  generalize he : AttemptEnd.accepted v ρ' = e at h
  induction h with
  | accepted _ hacc =>
    cases he
    exact hacc.wellFormed
  | refused _ _ _ ih => exact ih he
  | broken => cases he
  | stopped => cases he

open Session

/-- What the session reaches from `s` when the attempts end at `e`: an accepted answer is stored
and returned, unless storing it meets malformed data; a halt keeps the answers. Either way the
respondent's state is the one the attempts ended with. -/
def Finishes (q : Question) (s : Session σ) :
    AttemptEnd σ → EStateM.Result Halt (Session σ) Value → Prop
  | .accepted v ρ, .ok x t => x = v ∧ Stored q v s t ∧ t.respondent = ρ
  | .accepted v ρ, .error h t =>
    ∃ f, h = .fault f ∧ s.answers.setAt q.id v = .error f ∧ Kept s t ∧ t.respondent = ρ
  | .halted _ _, .ok _ _ => False
  | .halted h ρ, .error h' t => h' = h ∧ Kept s t ∧ t.respondent = ρ

theorem Finishes.of_kept {q : Question} {s s₁ : Session σ} {e : AttemptEnd σ}
    {res : EStateM.Result Halt (Session σ) Value} (h : Finishes q s₁ e res) (hk : Kept s s₁) :
    Finishes q s e res := by
  cases e <;> cases res
  · exact ⟨h.1, Stored.of_kept h.2.1 hk, h.2.2⟩
  · obtain ⟨f, rfl, hf, hk₁, hρ⟩ := h
    exact ⟨f, rfl, hk.answers ▸ hf, hk.trans hk₁, hρ⟩
  · exact h.elim
  · exact ⟨h.1, hk.trans h.2.1, h.2.2⟩

namespace Step

/-- Noting one log record per item changes the log alone. -/
theorem run_forIn_note_log {β : Type} (xs : List β) (level : Level) (channel : Channel)
    (text : β → String) (s : Session σ) :
    ∃ log, EStateM.run (forIn xs PUnit.unit fun x _ => do
      note level channel (text x)
      pure (ForInStep.yield PUnit.unit) : Step σ PUnit) s = .ok () { s with log := log } := by
  induction xs generalizing s with
  | nil => exact ⟨s.log, rfl⟩
  | cons x rest ih =>
    obtain ⟨log, hlog⟩ := ih { s with log := s.log.push ⟨level, channel, text x⟩ }
    refine ⟨log, ?_⟩
    simp only [List.forIn_cons, EStateM.run_bind, run_note]
    exact hlog

/-- Storing an answer leaves the respondent's state alone. -/
theorem respondent_store (q : Question) (x : Value) (s t : Session σ)
    (h : EStateM.run (store q x : Step σ Unit) s = .ok () t) : t.respondent = s.respondent := by
  unfold store at h
  cases hset : s.answers.setAt q.id x with
  | error f => simp [hset, EStateM.run_bind, run_ofExcept] at h
  | ok p =>
    obtain ⟨g, reps⟩ := p
    obtain ⟨log, hlog⟩ := run_forIn_note_log reps .warning .paths (fun r =>
      "set_path_replaced_value path=" ++ q.id ++ " segment=" ++ r.segment ++ " previous=" ++
        r.previous.literal) s
    simp only [EStateM.run_bind, EStateM.run_get, hset, run_ofExcept, hlog,
      EStateM.run_modify] at h
    cases h
    rfl

variable {r : Respondent σ}

/-- The attempts from the current one on follow `Attempts`, as long as the step bound is above the
respondent's budget. -/
theorem run_acquireFrom_attempts (hr : r.Bounded) (q : Question) {d : Descriptor} (fuel : Nat) :
    ∀ (attempt : Nat) (s : Session σ), Descriptor.forQuestion q s.answers = .ok d →
      r.budget s.respondent < fuel →
      ∃ e, Attempts r q d s.respondent e ∧
        Finishes q s e (EStateM.run (acquireFrom r q fuel attempt) s) := by
  induction fuel with
  | zero => intro _ _ _ hlt; omega
  | succ fuel ih =>
    intro attempt s hd hlt
    simp only [acquireFrom, EStateM.run_bind, EStateM.run_get, run_ofExcept, hd, run_ask]
    cases ha : r.ask d s.respondent with
    | error h u => exact ⟨.halted h u, .stopped ha, rfl, ⟨rfl, rfl, rfl⟩, rfl⟩
    | ok raw u =>
      have hu := hr.ask_lt d _ raw u ha
      simp only
      cases hacc : Answer.accept q raw with
      | error ref =>
        cases ref with
        | rejected rej =>
          -- the refusal is reported and the next attempt starts from the same answers
          simp only [EStateM.run_bind, run_note, run_reject]
          obtain ⟨e, hatt, hfin⟩ := ih (attempt + 1)
            { s with respondent := r.reject d rej.message u,
                     log := s.log.push ⟨.info, .acquisition, _⟩ } hd
            (Nat.lt_of_le_of_lt (hr.reject_le d rej.message u) (by omega))
          exact ⟨e, .refused ha (Answer.refused_of_accept hacc) hatt,
            hfin.of_kept ⟨rfl, rfl, rfl⟩⟩
        | fault f =>
          exact ⟨.halted (.fault f) u, .broken ha (Answer.broken_of_accept hacc), rfl,
            ⟨rfl, rfl, rfl⟩, rfl⟩
      | ok x =>
        have hstore := run_store q x { s with respondent := u }
        refine ⟨.accepted x u, .accepted ha (Answer.accepted_of_accept hacc), ?_⟩
        simp only [EStateM.run_bind]
        split at hstore
        · obtain ⟨t, hst, ht⟩ := hstore
          simp only [ht, run_note, EStateM.run_pure]
          exact ⟨rfl, (hst.of_kept (s := s) ⟨rfl, rfl, rfl⟩).kept_right ⟨rfl, rfl, rfl⟩,
            respondent_store q x _ t ht⟩
        · rename_i f hf
          simp only [hstore]
          exact ⟨f, rfl, hf, ⟨rfl, rfl, rfl⟩, rfl⟩

end Step

/-- **An acquisition asks until an answer is accepted.** For every respondent whose budget counts
the answers it can still give, every question and every session: when the prompt cannot be
described, the acquisition stops on that fault with the answers unchanged; otherwise every
attempt shows the prompt `d` described from the answers as they are, a refused answer is
reported with its rule's message and asked again, and the attempts end as `Attempts` says, with
the session as `Finishes` says: the first accepted answer stored at the question's id and
returned, or a halt with the answers unchanged. Every answer returned has its question's
shape. -/
theorem acquire_until_accepted (r : Respondent σ) (hr : r.Bounded) (q : Question)
    (s : Session σ) :
    (∀ f, Descriptor.forQuestion q s.answers = .error f →
      ∃ t, EStateM.run (Step.acquire r q) s = .error (.fault f) t ∧ Kept s t) ∧
    (∀ d, Descriptor.forQuestion q s.answers = .ok d →
      ∃ e, Attempts r q d s.respondent e ∧ Finishes q s e (EStateM.run (Step.acquire r q) s)) ∧
    (∀ v t, EStateM.run (Step.acquire r q) s = .ok v t → Answer.WellFormed q v) := by
  have hrun : EStateM.run (Step.acquire r q) s =
      EStateM.run (Step.acquireFrom r q (r.budget s.respondent + 1) 1) s := rfl
  have hattempts : ∀ d, Descriptor.forQuestion q s.answers = .ok d →
      ∃ e, Attempts r q d s.respondent e ∧ Finishes q s e (EStateM.run (Step.acquire r q) s) :=
    fun d hd => hrun ▸ Step.run_acquireFrom_attempts hr q _ 1 s hd (Nat.lt_succ_self _)
  refine ⟨fun f hd => ?_, hattempts, fun v t hv => ?_⟩
  · refine ⟨s, ?_, Kept.refl s⟩
    simp only [hrun, Step.acquireFrom, EStateM.run_bind, EStateM.run_get, Step.run_ofExcept, hd]
  · cases hd : Descriptor.forQuestion q s.answers with
    | error f =>
      simp only [hrun, Step.acquireFrom, EStateM.run_bind, EStateM.run_get, Step.run_ofExcept,
        hd] at hv
      cases hv
    | ok d =>
      -- the answer returned is the one the attempts accepted
      obtain ⟨e, hatt, hfin⟩ := hattempts d hd
      rw [hv] at hfin
      cases e with
      | accepted w ρ =>
        obtain ⟨rfl, -, -⟩ := hfin
        exact hatt.wellFormed
      | halted h ρ => exact hfin.elim

/-- A yes/no question answered `maybe` and then `yes` by a script: the first answer is refused,
the second accepted and stored as `true`. -/
theorem acquire_until_accepted_scripted :
    let q : Question := { id := "agree", label := "Agree?", kind := .boolean }
    let s : Session Script :=
      { answers := .obj [],
        respondent := { queues := [("agree", [.str "maybe", .str "yes"])], maxAsks := 5 } }
    Script.respondent.Bounded ∧
      ((∀ f, Descriptor.forQuestion q s.answers = .error f →
        ∃ t, EStateM.run (Step.acquire Script.respondent q) s = .error (.fault f) t ∧ Kept s t) ∧
      (∀ d, Descriptor.forQuestion q s.answers = .ok d →
        ∃ e, Attempts Script.respondent q d s.respondent e ∧
          Finishes q s e (EStateM.run (Step.acquire Script.respondent q) s)) ∧
      (∀ v t, EStateM.run (Step.acquire Script.respondent q) s = .ok v t →
        Answer.WellFormed q v)) :=
  ⟨Script.respondent_bounded,
    acquire_until_accepted Script.respondent Script.respondent_bounded _ _⟩

end Questionnaire
