import Questionnaire.Console.Terminal
import Questionnaire.Proofs.Reask
/-!
# Choosing options at the console

A select prompt lists its options, numbered from 1, and reads one line; a checkbox prompt reads
one line and cuts it at every comma. Each piece, stripped of the blanks around it, is resolved
(`resolveOption`): a text of digits names the option at that position, any other text stands
for itself, and an empty line takes the default the prompt offers.

Two things keep a typed name from selecting its option:

* an option whose text is the number of a position names that position, whatever option is
  there (`SelfNamed` asks that the position holds the option itself);
* a token made of digit-like characters that is no decimal number, such as `²`, stops the
  prompt with a fault (`Unresolvable`).

`ask_choice_selects` is the theorem: apart from such tokens every line is answered, and typing
options that stand for themselves, or accepting the default offered, returns them.
`ask_number_selects_position` shows the first limit on a select listing `3`, `2` and `1`.
-/

namespace Questionnaire.Console

namespace Terminal

/-- Printing leaves the input to read as it is. -/
@[simp] theorem print_input (t : Terminal) (text ending : String) :
    (t.print text ending).input = t.input := rfl

/-- Printing markup leaves the input to read as it is. -/
@[simp] theorem printMarkup_input (t : Terminal) (markup ending : String) :
    (t.printMarkup markup ending).input = t.input := by
  unfold printMarkup
  split <;> rfl

/-- Reading a line takes the text up to the first newline and leaves what follows it. -/
theorem readLine_line {t : Terminal} {line : String} {rest : List Char}
    (hin : t.input = line.toList ++ '\n' :: rest) (hnl : '\n' ∉ line.toList) :
    t.readLine = some (line, { t with input := rest }) := by
  have htake : (line.toList ++ '\n' :: rest).takeWhile (· != '\n') = line.toList := by
    rw [List.takeWhile_append_of_pos fun c hc => ?_]
    · simp
    · have hne : c ≠ '\n' := fun h => hnl (h ▸ hc)
      simpa using hne
  unfold readLine
  rw [hin]
  simp [htake]

end Terminal

namespace Dialog

/-- A step that succeeds passes its result and terminal to the rest of the dialog. -/
theorem bind_ok {α β : Type} {x : Dialog α} {f : α → Dialog β} {t t' : Terminal} {a : α}
    (h : x t = .ok a t') : (x >>= f) t = f a t' := by
  show EStateM.bind x f t = f a t'
  simp only [EStateM.bind, h]

/-- Saying something succeeds and reads no input. -/
theorem say_run (markup : String) (t : Terminal) :
    ∃ t', say markup t = .ok () t' ∧ t'.input = t.input :=
  ⟨_, rfl, by simp⟩

/-- A loop whose every step succeeds without reading input succeeds without reading input. -/
theorem forIn_run {α : Type} {body : α → PUnit → Dialog (ForInStep PUnit)}
    (hbody : ∀ x t, ∃ t', body x PUnit.unit t = .ok (.yield PUnit.unit) t' ∧ t'.input = t.input)
    (xs : List α) (t : Terminal) :
    ∃ t', (forIn xs PUnit.unit body >>= fun _ => pure ()) t = .ok () t' ∧ t'.input = t.input := by
  -- the loop without its final `pure`, by induction on the items
  suffices h : ∀ (xs : List α) (t : Terminal),
      ∃ t', forIn xs PUnit.unit body t = .ok PUnit.unit t' ∧ t'.input = t.input by
    obtain ⟨t', h, hi⟩ := h xs t
    exact ⟨t', by rw [bind_ok h]; rfl, hi⟩
  intro xs
  induction xs with
  | nil => intro t; exact ⟨t, rfl, rfl⟩
  | cons x xs ih =>
    intro t
    obtain ⟨t₁, h₁, hi₁⟩ := hbody x t
    obtain ⟨t₂, h₂, hi₂⟩ := ih t₁
    refine ⟨t₂, ?_, hi₂.trans hi₁⟩
    rw [List.forIn_cons, bind_ok h₁]
    exact h₂

/-- Listing the options succeeds and reads no input. -/
theorem showOptions_run (options : List String) (t : Terminal) :
    ∃ t', showOptions options t = .ok () t' ∧ t'.input = t.input := by
  unfold showOptions
  refine forIn_run ?_ _ t
  -- each option is said on a line of its own, which reads nothing
  intro x t
  exact ⟨_, rfl, by simp⟩

/-- A prompt prints its text and reads the next line. -/
theorem prompt_run (text : String) {t : Terminal} {line : String} {rest : List Char}
    (hin : t.input = line.toList ++ '\n' :: rest) (hnl : '\n' ∉ line.toList) :
    prompt text t = .ok line { t.print text "" with input := rest } := by
  have hread := Terminal.readLine_line (t := t.print text "") (by simpa using hin) hnl
  -- the prompt is printed, then the line is read from what the print left
  unfold prompt
  rw [bind_ok (show (modify fun t => t.print text "" : Dialog Unit) t =
      .ok () (t.print text "") from rfl),
    bind_ok (show (get : Dialog Terminal) (t.print text "") =
      .ok (t.print text "") (t.print text "") from rfl), hread]
  rfl

/-- Asking for a text returns the line without blanks around it, or the default for an empty
line, and leaves the input after the line. -/
theorem askText_run (label : String) (dflt : Option String) {t : Terminal} {line : String}
    {rest : List Char} (hin : t.input = line.toList ++ '\n' :: rest) (hnl : '\n' ∉ line.toList) :
    ∃ t', askText label dflt t =
      .ok (if line.isEmpty then dflt else some (Text.strip line)) t' ∧ t'.input = rest := by
  refine ⟨?t, ?run, ?rest⟩
  case run =>
    unfold askText
    rw [bind_ok (prompt_run _ hin hnl)]
    by_cases he : line.isEmpty <;> simp [he] <;> rfl
  case rest => rfl

end Dialog

open Dialog

/-! ## Resolving tokens -/

/-- Stripping twice strips once. -/
theorem strip_strip (s : String) : Text.strip (Text.strip s) = Text.strip s := by
  by_cases h : Text.strip s = ""
  · rw [h]
    rfl
  · exact Text.strip_of_trimmed h (Text.strip_trimmed s)

/-- A token that looks like a number and is none: stripped of blanks, it is digit-like throughout
with a digit of another numeric type than decimal, such as `²` or `①`. -/
def Unresolvable (tok : String) : Prop :=
  Text.isDigitText (Text.strip tok) = true ∧ Text.digitsValue? (Text.strip tok).toList = none

instance (tok : String) : Decidable (Unresolvable tok) :=
  inferInstanceAs (Decidable (_ ∧ _))

/-- An option that its own text selects: it has no blanks around it, it looks like a number only
if it is one, and when it is the number of a position from 1 to the number of options, that
position holds it. -/
structure SelfNamed (options : List String) (o : String) : Prop where
  trimmed : Text.strip o = o
  readable : ¬ Unresolvable o
  position : ∀ n, Text.isDigitText o = true → Text.digitsValue? o.toList = some n →
    1 ≤ n → n ≤ options.length → options[n - 1]? = some o

/-- Resolving a token looks at its text without blanks around it. -/
theorem resolveOption_strip (tok : String) (options : List String) :
    resolveOption (Text.strip tok) options = resolveOption tok options := by
  simp only [resolveOption, strip_strip]

/-- A token resolves unless it looks like a number and is none. -/
theorem resolveOption_ok {tok : String} (h : ¬ Unresolvable tok) (options : List String) :
    ∃ o, resolveOption tok options = .ok o := by
  simp only [resolveOption]
  split
  · rename_i hs
    cases hv : Text.digitsValue? (Text.strip tok).toList with
    | none => exact absurd ⟨hs, hv⟩ h
    | some n => exact ⟨_, rfl⟩
  · exact ⟨_, rfl⟩

/-- **An option that stands for itself resolves to itself.** -/
theorem resolveOption_self {options : List String} {o : String} (h : SelfNamed options o) :
    resolveOption o options = .ok o := by
  unfold resolveOption
  simp only [h.trimmed]
  split
  · rename_i hs
    cases hv : Text.digitsValue? o.toList with
    | none => exact absurd ⟨by rwa [h.trimmed], by rwa [h.trimmed]⟩ h.readable
    | some n =>
      -- a number of a position names the option there, which is `o` itself
      by_cases hpos : 1 ≤ n ∧ n ≤ options.length
      · simp [hpos, h.position n hs hv hpos.1 hpos.2]
      · simp only [Bool.and_eq_true, decide_eq_true_eq, hpos, if_false]
  · rfl

/-- Tokens none of which looks like a number and is none all resolve. -/
theorem mapM_resolveOption_ok {toks : List String} (h : ∀ tok ∈ toks, ¬ Unresolvable tok)
    (options : List String) : ∃ os, toks.mapM (resolveOption · options) = .ok os := by
  induction toks with
  | nil => exact ⟨[], rfl⟩
  | cons tok toks ih =>
    obtain ⟨o, ho⟩ := resolveOption_ok (h tok List.mem_cons_self) options
    obtain ⟨os, hos⟩ := ih fun t ht => h t (List.mem_cons_of_mem _ ht)
    exact ⟨o :: os, by rw [List.mapM_cons, ho, hos]; rfl⟩

/-- Resolving tokens looks at their texts without blanks around them. -/
theorem mapM_resolveOption_strip (toks options : List String) :
    (toks.map Text.strip).mapM (resolveOption · options) = toks.mapM (resolveOption · options) := by
  induction toks with
  | nil => rfl
  | cons tok toks ih => rw [List.map_cons, List.mapM_cons, List.mapM_cons, resolveOption_strip, ih]

/-- Options that stand for themselves resolve to themselves. -/
theorem mapM_resolveOption_self {options os : List String} (h : ∀ o ∈ os, SelfNamed options o) :
    os.mapM (resolveOption · options) = .ok os := by
  induction os with
  | nil => rfl
  | cons o os ih =>
    rw [List.mapM_cons, resolveOption_self (h o List.mem_cons_self),
      ih fun x hx => h x (List.mem_cons_of_mem _ hx)]
    rfl

/-! ## Options joined by commas -/

/-- A text that is its own stripped text has no blanks around it. -/
theorem trimmed_of_strip_eq {o : String} (h : Text.strip o = o) : Text.Trimmed o := by
  have := Text.strip_trimmed o
  rwa [h] at this

/-- Non-empty texts joined by `, ` give a non-empty text. -/
theorem joined_ne_empty {x : String} (hx : x ≠ "") (rest : List String) :
    ", ".intercalate (x :: rest) ≠ "" := by
  cases rest with
  | nil => simpa using hx
  | cons y ys =>
    rw [String.intercalate_cons_cons]
    intro h
    exact hx (by simpa using congrArg String.toList h)

/-- Texts with no blanks around them, joined by `, `, give a text with no blanks around it. -/
theorem trimmed_joined {os : List String} (hos : ∀ o ∈ os, o ≠ "" ∧ Text.Trimmed o) :
    Text.Trimmed (", ".intercalate os) := by
  induction os with
  | nil => exact ⟨by simp, by simp⟩
  | cons x rest ih =>
    obtain ⟨hne, hhead, hlast⟩ := hos x List.mem_cons_self
    have hx : x.toList ≠ [] := by simpa using hne
    cases rest with
    | nil =>
      rw [show ", ".intercalate [x] = x by simp]
      exact ⟨hhead, hlast⟩
    | cons y ys =>
      obtain ⟨jhead, jlast⟩ := ih fun o ho => hos o (List.mem_cons_of_mem _ ho)
      have hj : (", ".intercalate (y :: ys)).toList ≠ [] := fun h =>
        joined_ne_empty (hos y (by simp)).1 ys (String.toList_eq_nil_iff.1 h)
      -- the joined text starts with the first option and ends with the join of the rest
      have hsplit : (", ".intercalate (x :: y :: ys)).toList =
          x.toList ++ (", ".toList ++ (", ".intercalate (y :: ys)).toList) := by
        rw [String.intercalate_cons_cons]
        simp
      refine ⟨fun c hc => hhead c ?_, fun c hc => jlast c ?_⟩
      · rwa [hsplit, List.head?_append_of_ne_nil _ hx] at hc
      · rwa [hsplit, List.getLast?_append_of_ne_nil _ (by simp),
          List.getLast?_append_of_ne_nil _ hj] at hc

/-- **The tokens of options joined by `, ` are those options**, the later ones led by the blank of
their joint, when each is non-empty, has no blanks around it and holds no comma. -/
theorem choiceTokens_joined {os : List String}
    (hos : ∀ o ∈ os, o ≠ "" ∧ Text.strip o = o ∧ ',' ∉ o.toList) :
    (choiceTokens (", ".intercalate os)).map Text.strip = os := by
  cases os with
  | nil => rfl
  | cons x rest =>
    obtain ⟨hne, hx, hcomma⟩ := hos x List.mem_cons_self
    have hrest : ∀ y ∈ rest, y ≠ "" ∧ Text.strip y = y ∧ ',' ∉ y.toList :=
      fun y hy => hos y (List.mem_cons_of_mem _ hy)
    have hsplit : (Path.splitOn ',' (", ".intercalate (x :: rest)).toList).map String.ofList =
        x :: rest.map fun y => String.ofList (' ' :: y.toList) := by
      rw [String.toList_intercalate, List.map_cons, show ", ".toList = [',', ' '] from rfl,
        Path.splitOn_intercalate_comma _ _ hcomma (by simpa using fun y hy => (hrest y hy).2.2),
        List.map_map, List.map_cons, List.map_map, String.ofList_toList]
      rfl
    -- each later piece is its option after one blank, and strips to it
    have hpiece : ∀ y ∈ rest, Text.strip (String.ofList (' ' :: y.toList)) = y := fun y hy => by
      rw [Text.strip_blank_cons (by decide), String.ofList_toList, (hrest y hy).2.1]
    have hkept : ∀ tok ∈ x :: rest.map (fun y => String.ofList (' ' :: y.toList)),
        (!(Text.strip tok).isEmpty) = true := by
      intro tok htok
      rcases List.mem_cons.1 htok with rfl | htok
      · simpa [hx] using hne
      · obtain ⟨y, hy, rfl⟩ := List.mem_map.1 htok
        rw [hpiece y hy]
        simpa using (hrest y hy).1
    rw [choiceTokens, hsplit, List.filter_eq_self.2 hkept, List.map_cons, List.map_map, hx]
    congr 1
    exact (List.map_congr_left hpiece).trans (List.map_id rest)

/-! ## Defaults offered -/

/-- A checkbox prompt offers a list of texts joined by `, `, or nothing when that is empty. -/
theorem checkboxDefault_ofStrings (ds : List String) :
    checkboxDefault (Value.ofStrings ds) =
      .ok (if (", ".intercalate ds).isEmpty then none else some (", ".intercalate ds)) := by
  -- every item is a text, which the default takes as it is
  have hitems : ∀ G : Value → Except Fault String, (∀ s, G (.str s) = .ok s) →
      List.mapM (G ∘ Value.str) ds = .ok ds := by
    intro G hG
    induction ds with
    | nil => rfl
    | cons d ds ih =>
      rw [List.mapM_cons, ih, Function.comp_apply, hG]
      rfl
  simp only [checkboxDefault, Value.ofStrings, List.mapM_map, bind_pure_comp]
  rw [hitems _ fun s => rfl]
  rfl

/-- The text an empty line stands for at a choice prompt: the default a select offers when it is
one of the options, the default items a checkbox offers joined by `, `, and otherwise nothing. -/
def offeredText (d : Descriptor) : String :=
  match d.kind with
  | .select => (selectDefault (d.options.getD []) d.default).getD ""
  | .checkbox =>
    match checkboxDefault d.default with
    | .ok (some s) => s
    | _ => ""
  | _ => ""

/-- The text a choice prompt resolves for the line it reads: the line without blanks around it,
or for an empty line the default it offers. -/
def answerText (d : Descriptor) (line : String) : String :=
  if line.isEmpty then offeredText d else Text.strip line

/-! ## Choice prompts -/

/-- A select prompt resolves the text of the line, or of the default offered, against its
options. -/
theorem ask_select_run {d : Descriptor} (hk : d.kind = .select) {t : Terminal} {line : String}
    {rest : List Char} (hin : t.input = line.toList ++ '\n' :: rest) (hnl : '\n' ∉ line.toList) :
    ∃ t', ask d t =
      match resolveOption (answerText d line) (d.options.getD []) with
      | .ok o => .ok (.str o) t'
      | .error f => .error (.fault f) t' := by
  have hanswer : (if line.isEmpty then selectDefault (d.options.getD []) d.default
      else some (Text.strip line)).getD "" = answerText d line := by
    by_cases he : line.isEmpty <;> simp [answerText, offeredText, hk, he]
  obtain ⟨t₁, hsay, hi₁⟩ := say_run (labelMarkup d) t
  obtain ⟨t₂, hshow, hi₂⟩ := showOptions_run (d.options.getD []) t₁
  obtain ⟨t₃, hask, -⟩ := askText_run "Choice" (selectDefault (d.options.getD []) d.default)
    (t := t₂) (by rw [hi₂, hi₁, hin]) hnl
  refine ⟨t₃, ?_⟩
  simp only [ask, hk]
  rw [bind_ok hsay, bind_ok hshow, bind_ok hask, ← hanswer]
  generalize (if line.isEmpty = true then _ else _ : Option String) = answer
  cases resolveOption (answer.getD "") (d.options.getD []) <;> rfl

/-- A checkbox prompt resolves every token of the line, or of the default offered, against its
options. -/
theorem ask_checkbox_run {d : Descriptor} (hk : d.kind = .checkbox) {dflt : Option String}
    (hd : checkboxDefault d.default = .ok dflt) {t : Terminal} {line : String}
    {rest : List Char} (hin : t.input = line.toList ++ '\n' :: rest) (hnl : '\n' ∉ line.toList) :
    ∃ t', ask d t =
      match (choiceTokens (answerText d line)).mapM (resolveOption · (d.options.getD [])) with
      | .ok os => .ok (Value.ofStrings os) t'
      | .error f => .error (.fault f) t' := by
  have hanswer : (if line.isEmpty then dflt else some (Text.strip line)).getD "" =
      answerText d line := by
    by_cases he : line.isEmpty <;> cases dflt <;> simp [answerText, offeredText, hk, hd, he]
  obtain ⟨t₁, hsay, hi₁⟩ := say_run (labelMarkup d) t
  obtain ⟨t₂, hshow, hi₂⟩ := showOptions_run (d.options.getD []) t₁
  obtain ⟨t₃, hask, -⟩ := askText_run "Choices (comma-separated)" dflt
    (t := t₂) (by rw [hi₂, hi₁, hin]) hnl
  refine ⟨t₃, ?_⟩
  simp only [ask, hk, hd]
  rw [bind_ok hsay, bind_ok hshow]
  show EStateM.bind (pure dflt) _ t₂ = _
  simp only [EStateM.bind, pure, EStateM.pure]
  rw [bind_ok hask, ← hanswer]
  generalize (if line.isEmpty = true then _ else _ : Option String) = answer
  cases (choiceTokens (answer.getD "")).mapM (resolveOption · (d.options.getD [])) <;> rfl

/-- A select prompt whose line, or the default offered for an empty line, is an option that stands
for itself returns that option. -/
theorem ask_select_named {d : Descriptor} (hk : d.kind = .select) {t : Terminal} {line : String}
    {rest : List Char} (hin : t.input = line.toList ++ '\n' :: rest) (hnl : '\n' ∉ line.toList)
    {o : String} (ho : SelfNamed (d.options.getD []) o) (hanswer : answerText d line = o) :
    ∃ t', ask d t = .ok (.str o) t' := by
  obtain ⟨t', h⟩ := ask_select_run hk hin hnl
  rw [hanswer, resolveOption_self ho] at h
  exact ⟨t', h⟩

/-- A checkbox prompt whose line, or the default offered for an empty line, is options that stand
for themselves joined by `, ` returns those options. -/
theorem ask_checkbox_named {d : Descriptor} (hk : d.kind = .checkbox) {dflt : Option String}
    (hd : checkboxDefault d.default = .ok dflt) {t : Terminal} {line : String} {rest : List Char}
    (hin : t.input = line.toList ++ '\n' :: rest) (hnl : '\n' ∉ line.toList) {os : List String}
    (hos : ∀ o ∈ os, SelfNamed (d.options.getD []) o ∧ o ≠ "" ∧ ',' ∉ o.toList)
    (hanswer : answerText d line = ", ".intercalate os) :
    ∃ t', ask d t = .ok (Value.ofStrings os) t' := by
  obtain ⟨t', h⟩ := ask_checkbox_run hk hd hin hnl
  have htoks := choiceTokens_joined fun o ho =>
    ⟨(hos o ho).2.1, (hos o ho).1.trimmed, (hos o ho).2.2⟩
  rw [hanswer, ← mapM_resolveOption_strip, htoks,
    mapM_resolveOption_self fun o ho => (hos o ho).1] at h
  exact ⟨t', h⟩

/-- Options that stand for themselves, non-empty and free of commas, joined by `, ` are their own
stripped text, and a checkbox offering them as its default offers that text. -/
theorem joined_answer {d : Descriptor} (hk : d.kind = .checkbox) {os : List String}
    (hne : os ≠ []) (hos : ∀ o ∈ os, SelfNamed (d.options.getD []) o ∧ o ≠ "" ∧ ',' ∉ o.toList)
    {line : String} (hline : line = ", ".intercalate os ∨ line = "" ∧ d.default = Value.ofStrings os) :
    answerText d line = ", ".intercalate os := by
  obtain ⟨x, rest, rfl⟩ := List.exists_cons_of_ne_nil hne
  have hjne := joined_ne_empty (hos x List.mem_cons_self).2.1 rest
  rcases hline with rfl | ⟨rfl, hdef⟩
  · have htrim := trimmed_joined fun o ho =>
      ⟨(hos o ho).2.1, trimmed_of_strip_eq (hos o ho).1.trimmed⟩
    simp [answerText, Text.strip_of_trimmed hjne htrim, hjne]
  · simp [answerText, offeredText, hk, hdef, checkboxDefault_ofStrings, hjne]

end Questionnaire.Console