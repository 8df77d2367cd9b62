import Questionnaire.Proofs.FloatText
/-!
# Reading back the JSON text of any document

The reader takes the JSON text of every document back to that document (`read_render`), in every
layout that escapes the characters outside ASCII and puts only blanks around its separators and
line breaks (`Layout.Readable`, which the indented layout of table answers satisfies). Two things
change on the way, and `reread` says which: a NaN reads as the reader's own NaN, and an object
that holds a key twice keeps the key's first place with its last value. A document without
either (`Faithful`) comes back as it is (`reread_of_faithful`).

The proof follows the three reader functions: a value (`readValue_write`), the items of an array
up to the closing bracket (`readArray_written_items`) and the fields of an object up to the closing
brace (`readObject_written_fields`), each for whatever text follows. Each written value starts with
a character that is no blank and no closing bracket (`write_head`), so the blanks of the layout
are skipped exactly, and the fuel of the reader, the length of the text, is never short.
-/

namespace Questionnaire.Json

open Decimal

/-! ## What the text gives back -/

mutual

/-- The document that the JSON text of `v` gives back: `v`, with the reader's NaN for every NaN,
and with the fields of an object set one by one, so that a key written twice keeps its first
place and its last value. -/
def reread : Value → Value
  | .float x => .float (rereadFloat x)
  | .arr items => .arr (rereadItems items)
  | .obj fields => .obj (rereadFields [] fields)
  | v => v

/-- The items of an array as the text gives them back. -/
def rereadItems : List Value → List Value
  | [] => []
  | v :: rest => reread v :: rereadItems rest

/-- The fields of an object as the text gives them back, set one by one after `acc`. -/
def rereadFields (acc : List (String × Value)) : List (String × Value) → List (String × Value)
  | [] => acc
  | (k, v) :: rest => rereadFields (Value.fieldSet acc k (reread v)) rest

end

/-- Documents that JSON text represents exactly: every NaN is the reader's NaN, and no object
holds a key twice. -/
inductive Faithful : Value → Prop
  | null : Faithful .null
  | bool (b : Bool) : Faithful (.bool b)
  | int (n : ℤ) : Faithful (.int n)
  | float (x : Float) (hx : rereadFloat x = x) : Faithful (.float x)
  | str (s : String) : Faithful (.str s)
  | arr (items : List Value) (h : ∀ v ∈ items, Faithful v) : Faithful (.arr items)
  | obj (fields : List (String × Value)) (hkeys : (fields.map Prod.fst).Nodup)
      (h : ∀ p ∈ fields, Faithful p.2) : Faithful (.obj fields)

/-- A new key goes to the end of the fields. -/
theorem fieldSet_of_not_mem {fields : List (String × Value)} {k : String} (v : Value)
    (hk : k ∉ fields.map Prod.fst) : Value.fieldSet fields k v = fields ++ [(k, v)] := by
  induction fields with
  | nil => rfl
  | cons f rest ih =>
    obtain ⟨k', v'⟩ := f
    have hne : k' ≠ k := fun h => hk (by simp [h])
    simp only [Value.fieldSet, if_neg hne, List.cons_append]
    rw [ih fun h => hk (by simp [h])]

theorem rereadItems_eq_map (items : List Value) : rereadItems items = items.map reread := by
  induction items with
  | nil => rfl
  | cons v rest ih => simp [rereadItems, ih]

/-- Fields with keys that are new and pairwise different, whose values come back as they are,
are appended as they are. -/
theorem rereadFields_of_nodup {fields : List (String × Value)}
    (hvals : ∀ p ∈ fields, reread p.2 = p.2) :
    ∀ acc : List (String × Value), ((acc ++ fields).map Prod.fst).Nodup →
      rereadFields acc fields = acc ++ fields := by
  induction fields with
  | nil => intro acc _; simp [rereadFields]
  | cons f rest ih =>
    intro acc hnd
    obtain ⟨k, v⟩ := f
    have hk : k ∉ acc.map Prod.fst := by
      intro h
      simp only [List.map_append, List.map_cons] at hnd
      exact (List.nodup_append.1 hnd).2.2 _ h _ (by simp) rfl
    rw [rereadFields, hvals (k, v) (by simp), fieldSet_of_not_mem v hk,
      ih (fun p hp => hvals p (by simp [hp])) _ (by simpa using hnd)]
    simp

/-- **A faithful document comes back as it is.** -/
theorem reread_of_faithful {v : Value} (h : Faithful v) : reread v = v := by
  induction h with
  | float x hx => simp [reread, hx]
  | arr items _ ih =>
    simp only [reread, rereadItems_eq_map, Value.arr.injEq]
    exact (List.map_congr_left ih).trans (List.map_id _)
  | obj fields hkeys _ ih =>
    simp only [reread, Value.obj.injEq]
    simpa using rereadFields_of_nodup ih [] (by simpa using hkeys)
  | _ => rfl

/-! ## Layouts and the characters they write -/

/-- Layouts whose text the reader takes back: every character outside ASCII escaped, a comma
between items and a colon after keys, each followed by blanks only, and line breaks of blanks
only. -/
structure Layout.Readable (l : Layout) : Prop where
  ascii : l.asciiOnly = true
  itemSep : ∃ bs, l.itemSep.toList = ',' :: bs ∧ ∀ c ∈ bs, isJsonBlank c = true
  keySep : ∃ bs, l.keySep.toList = ':' :: bs ∧ ∀ c ∈ bs, isJsonBlank c = true
  newline : ∀ d, ∀ c ∈ (l.newline d).toList, isJsonBlank c = true

/-- The indented layout of table answers is readable. -/
theorem Layout.readable_prettyAscii : Layout.prettyAscii.Readable where
  ascii := rfl
  itemSep := ⟨[], by simp [Layout.prettyAscii], by simp⟩
  keySep := ⟨[' '], by simp [Layout.prettyAscii], by simp [isJsonBlank]⟩
  newline d c hc := by
    simp only [Layout.newline, Layout.prettyAscii, String.toList_append, String.toList_ofList,
      List.mem_append, List.mem_replicate] at hc
    rcases hc with hc | ⟨-, rfl⟩
    · simp at hc; subst hc; rfl
    · rfl

/-- Blanks before the rest are skipped. -/
theorem skipBlanks_append {bs : List Char} (hbs : ∀ c ∈ bs, isJsonBlank c = true)
    (cs : List Char) (i : ℕ) : skipBlanks (bs ++ cs, i) = skipBlanks (cs, i + bs.length) := by
  induction bs generalizing i with
  | nil => rfl
  | cons b bs ih =>
    rw [List.cons_append, skipBlanks, if_pos (hbs b (by simp)),
      ih (fun c hc => hbs c (by simp [hc]))]
    simp only [List.length_cons]
    congr 2
    omega

/-- Blanks are skipped up to the first character that is none. -/
theorem skipBlanks_to {bs cs : List Char} (hbs : ∀ c ∈ bs, isJsonBlank c = true) {c : Char}
    (hc : isJsonBlank c = false) (hcs : cs.head? = some c) (i : ℕ) :
    skipBlanks (bs ++ cs, i) = (cs, i + bs.length) := by
  rw [skipBlanks_append hbs]
  obtain ⟨r, rfl⟩ : ∃ r, cs = c :: r := by
    cases cs with
    | nil => cases hcs
    | cons c' r => cases hcs; exact ⟨r, rfl⟩
  exact skipBlanks_of_not_blank hc r _

/-- The characters a written value starts with: a digit, or the first character of a word, of a
negative number, of a string, of an array or of an object. -/
def IsOpening (c : Char) : Prop :=
  c.isDigit = true ∨ c ∈ ['n', 't', 'f', '-', 'N', 'I', '"', '[', '\x7b']

/-- A value starts with no blank, no closing bracket and no byte order mark. -/
theorem IsOpening.facts {c : Char} (h : IsOpening c) :
    isJsonBlank c = false ∧ c ≠ ']' ∧ c ≠ '\x7d' ∧ c ≠ '\uFEFF' := by
  rcases h with hd | hm
  · have := (isDigit_iff c).1 hd
    refine ⟨?_, ?_, ?_, ?_⟩
    · simp only [isJsonBlank, Bool.or_eq_false_iff, decide_eq_false_iff_not]
      refine ⟨⟨⟨?_, ?_⟩, ?_⟩, ?_⟩ <;> (rintro rfl; simp at this)
    all_goals (rintro rfl; simp at this)
  · simp only [List.mem_cons, List.not_mem_nil, or_false] at hm
    rcases hm with rfl | rfl | rfl | rfl | rfl | rfl | rfl | rfl | rfl <;> decide

theorem toList_quoteJson_head (a : Bool) (s : String) :
    ∃ r, (quoteJson a s).toList = '"' :: r :=
  ⟨(String.join (s.toList.map (escapeJsonChar a))).toList ++ ['"'], by simp [quoteJson]⟩

/-- **Every written value starts with an opening character.** -/
theorem write_head (l : Layout) (d : ℕ) (v : Value) :
    ∃ c r, (write l d v).toList = c :: r ∧ IsOpening c := by
  have hm : ∀ c, c ∈ ['n', 't', 'f', '-', 'N', 'I', '"', '[', '\x7b'] → IsOpening c :=
    fun c hc => .inr hc
  cases v with
  | null => exact ⟨'n', ['u', 'l', 'l'], by simp [write], hm _ (by simp)⟩
  | bool b =>
    cases b
    · exact ⟨'f', ['a', 'l', 's', 'e'], by simp [write], hm _ (by simp)⟩
    · exact ⟨'t', ['r', 'u', 'e'], by simp [write], hm _ (by simp)⟩
  | int n =>
    obtain ⟨c, r, hcr⟩ :=
      List.exists_cons_of_ne_nil (Nat.toDigits_ne_nil (b := 10) (n := n.natAbs))
    have hc : c.isDigit = true := isDigit_of_mem_toDigits_ten (c := n.natAbs) (by simp [hcr])
    change ∃ c r, (toString n).toList = c :: r ∧ _
    rw [toList_toString_int, hcr]
    split
    · exact ⟨'-', c :: r, rfl, hm _ (by simp)⟩
    · exact ⟨c, r, rfl, .inl hc⟩
  | float x =>
    obtain ⟨c, r, htext, hc⟩ := renderFloat_head x
    refine ⟨c, r, htext, ?_⟩
    rcases hc with hc | rfl | rfl | rfl
    · exact .inl hc
    all_goals exact hm _ (by simp)
  | str s =>
    obtain ⟨r, hr⟩ := toList_quoteJson_head l.asciiOnly s
    exact ⟨'"', r, hr, hm _ (by simp)⟩
  | arr items =>
    cases items with
    | nil => exact ⟨'[', [']'], by simp [write], hm _ (by simp)⟩
    | cons w ws =>
      exact ⟨'[', (writeItems l (d + 1) (w :: ws)).toList ++ ((l.newline d).toList ++ [']']),
        by simp [write], hm _ (by simp)⟩
  | obj fields =>
    cases fields with
    | nil => exact ⟨'\x7b', ['\x7d'], by simp [write], hm _ (by simp)⟩
    | cons f fs =>
      exact ⟨'\x7b', (writeFields l (d + 1) (f :: fs)).toList ++
        ((l.newline d).toList ++ ['\x7d']), by simp [write], hm _ (by simp)⟩

/-- After a value comes a blank, a comma or a closing bracket, and no number goes on. -/
theorem endsNumber_of_stop {bs : List Char} (hbs : ∀ c ∈ bs, isJsonBlank c = true) {c : Char}
    (hc : c = ',' ∨ c = ']' ∨ c = '\x7d') (r : List Char) : EndsNumber (bs ++ c :: r) := by
  intro e he
  cases bs with
  | nil =>
    simp only [List.nil_append, List.head?_cons, Option.mem_def, Option.some.injEq] at he
    subst he
    rcases hc with rfl | rfl | rfl <;> decide
  | cons b bs =>
    simp only [List.cons_append, List.head?_cons, Option.mem_def, Option.some.injEq] at he
    subst he
    have hb := hbs b (by simp)
    simp only [isJsonBlank, Bool.or_eq_true, decide_eq_true_eq] at hb
    rcases hb with ((rfl | rfl) | rfl) | rfl <;> decide

/-! ## The reader, one step at a time -/

/-- Two counts of the position a read ends at give the same result. -/
theorem ok_at_congr {x : Value} {rest : List Char} {j k : ℕ} (h : j = k) :
    (Except.ok (x, (rest, j)) : Except ReadError (Value × Cursor)) = .ok (x, (rest, k)) := by
  rw [h]

/-- After an item of an array, a comma goes on to the next item. -/
theorem readArray_next {total f i j k : ℕ} {cs rest rest' : List Char} {acc : List Value}
    {v : Value} (hcs : ∀ r, cs ≠ ']' :: r) (hv : readValue total f (cs, i) = .ok (v, (rest, j)))
    (hsep : skipBlanks (rest, j) = (',' :: rest', k)) :
    readArray total (f + 1) (cs, i) acc =
      readArray total f (skipBlanks (rest', k + 1)) (v :: acc) := by
  rw [readArray.eq_3 _ _ _ _ _ fun r h _ => hcs r h, hv]
  simp only [hsep]

/-- After the last item of an array, the closing bracket ends it. -/
theorem readArray_last {total f i j k : ℕ} {cs rest rest' : List Char} {acc : List Value}
    {v : Value} (hcs : ∀ r, cs ≠ ']' :: r) (hv : readValue total f (cs, i) = .ok (v, (rest, j)))
    (hclose : skipBlanks (rest, j) = (']' :: rest', k)) :
    readArray total (f + 1) (cs, i) acc = .ok (.arr (v :: acc).reverse, (rest', k + 1)) := by
  rw [readArray.eq_3 _ _ _ _ _ fun r h _ => hcs r h, hv]
  simp only [hclose]

/-- A field of an object: its key, a colon and its value; then a comma goes on to the next
field. -/
theorem readObject_next {total f i j₁ j₂ j₃ k : ℕ} {cs c₁ r₁ c₂ rest' : List Char}
    {acc : List (String × Value)} {key : String} {v : Value}
    (hkey : readStringBody total i cs (i + 1) [] = .ok (key, (c₁, j₁)))
    (hcolon : skipBlanks (c₁, j₁) = (':' :: r₁, j₂))
    (hv : readValue total f (skipBlanks (r₁, j₂ + 1)) = .ok (v, (c₂, j₃)))
    (hsep : skipBlanks (c₂, j₃) = (',' :: rest', k)) :
    readObject total (f + 1) ('"' :: cs, i) acc =
      readObject total f (skipBlanks (rest', k + 1)) (Value.fieldSet acc key v) := by
  rw [readObject.eq_3, hkey]
  simp only [hcolon, hv, hsep]

/-- The last field of an object, then the closing brace. -/
theorem readObject_last {total f i j₁ j₂ j₃ k : ℕ} {cs c₁ r₁ c₂ rest' : List Char}
    {acc : List (String × Value)} {key : String} {v : Value}
    (hkey : readStringBody total i cs (i + 1) [] = .ok (key, (c₁, j₁)))
    (hcolon : skipBlanks (c₁, j₁) = (':' :: r₁, j₂))
    (hv : readValue total f (skipBlanks (r₁, j₂ + 1)) = .ok (v, (c₂, j₃)))
    (hclose : skipBlanks (c₂, j₃) = ('\x7d' :: rest', k)) :
    readObject total (f + 1) ('"' :: cs, i) acc =
      .ok (.obj (Value.fieldSet acc key v), (rest', k + 1)) := by
  rw [readObject.eq_3, hkey]
  simp only [hcolon, hv, hclose]

/-! ## The written text -/

section Written

variable {l : Layout}

theorem toList_write_arr (d : ℕ) (w : Value) (ws : List Value) :
    (write l d (.arr (w :: ws))).toList =
      '[' :: ((writeItems l (d + 1) (w :: ws)).toList ++ ((l.newline d).toList ++ [']'])) := by
  simp [write]

theorem toList_write_obj (d : ℕ) (f : String × Value) (fs : List (String × Value)) :
    (write l d (.obj (f :: fs))).toList =
      '\x7b' :: ((writeFields l (d + 1) (f :: fs)).toList ++
        ((l.newline d).toList ++ ['\x7d'])) := by
  simp [write]

theorem toList_writeItems_one (d : ℕ) (w : Value) :
    (writeItems l d [w]).toList = (l.newline d).toList ++ (write l d w).toList := by
  simp [writeItems]

theorem toList_writeItems_cons (d : ℕ) (w w' : Value) (ws : List Value) :
    (writeItems l d (w :: w' :: ws)).toList = (l.newline d).toList ++ ((write l d w).toList ++
      (l.itemSep.toList ++ (writeItems l d (w' :: ws)).toList)) := by
  simp [writeItems]

theorem toList_writeFields_one (d : ℕ) (k : String) (v : Value) :
    (writeFields l d [(k, v)]).toList = (l.newline d).toList ++
      ((quoteJson l.asciiOnly k).toList ++ (l.keySep.toList ++ (write l d v).toList)) := by
  simp [writeFields]

theorem toList_writeFields_cons (d : ℕ) (k : String) (v : Value) (f : String × Value)
    (fs : List (String × Value)) :
    (writeFields l d ((k, v) :: f :: fs)).toList = (l.newline d).toList ++
      ((quoteJson l.asciiOnly k).toList ++ (l.keySep.toList ++ ((write l d v).toList ++
        (l.itemSep.toList ++ (writeFields l d (f :: fs)).toList)))) := by
  simp [writeFields]

/-- Every written value takes at least one character. -/
theorem one_le_length_write (d : ℕ) (v : Value) : 1 ≤ (write l d v).length := by
  obtain ⟨c, r, h, -⟩ := write_head l d v
  rw [← String.length_toList, h]
  simp

end Written

/-! ## Reading the text back -/

section Reading

variable {l : Layout}

/-- A value without items is read back from its text: a scalar, `[]` or `{}`. -/
theorem readValue_write_leaf (hl : l.Readable) (total : ℕ) {v : Value}
    (harr : ∀ w ws, v ≠ .arr (w :: ws)) (hobj : ∀ f fs, v ≠ .obj (f :: fs)) (d : ℕ)
    {rest : List Char} (hrest : EndsNumber rest) (fuel : ℕ) {i : ℕ}
    (hfuel : (write l d v).length ≤ fuel)
    (hfit : i + (write l d v).length + rest.length ≤ total) :
    readValue total fuel ((write l d v).toList ++ rest, i) =
      .ok (reread v, (rest, i + (write l d v).length)) := by
  obtain ⟨f, rfl⟩ : ∃ f, fuel = f + 1 :=
    ⟨fuel - 1, by have := one_le_length_write (l := l) d v; omega⟩
  cases v with
  | null =>
    simp [write, readValue, startsWith, reread]
    rfl
  | bool b =>
    cases b
    · exact readValue_write_flat (show FlatValue (fun _ => True) (.bool false) from trivial)
        hrest total f d hfit
    · exact readValue_write_flat (show FlatValue (fun _ => True) (.bool true) from trivial)
        hrest total f d hfit
  | int n =>
    exact readValue_write_flat (show FlatValue (fun _ => True) (.int n) from trivial) hrest
      total f d hfit
  | float x => exact readValue_renderFloat x hrest total f hfit
  | str s =>
    have hw : write l d (.str s) = write Layout.dumps d (.str s) := by
      simp only [write, hl.ascii, Layout.dumps]
    rw [hw] at hfit ⊢
    exact readValue_write_flat (show FlatValue (fun _ => True) (.str s) from trivial) hrest
      total f d hfit
  | arr items =>
    cases items with
    | nil =>
      have htext : (write l d (.arr [])).toList = ['[', ']'] := by simp [write]
      have hlen : (write l d (.arr [])).length = 2 := by rw [← String.length_toList, htext]; rfl
      rw [hlen] at hfuel
      obtain ⟨g, rfl⟩ : ∃ g, f = g + 1 := ⟨f - 1, by omega⟩
      rw [htext, hlen]
      show readArray total (g + 1) (skipBlanks (']' :: rest, i + 1)) [] = _
      rw [skipBlanks_of_not_blank (by decide), readArray.eq_2]
      rfl
    | cons w ws => exact absurd rfl (harr w ws)
  | obj fields =>
    cases fields with
    | nil =>
      have htext : (write l d (.obj [])).toList = ['\x7b', '\x7d'] := by simp [write]
      have hlen : (write l d (.obj [])).length = 2 := by rw [← String.length_toList, htext]; rfl
      rw [hlen] at hfuel
      obtain ⟨g, rfl⟩ : ∃ g, f = g + 1 := ⟨f - 1, by omega⟩
      rw [htext, hlen]
      show readObject total (g + 1) (skipBlanks ('\x7d' :: rest, i + 1)) [] = _
      rw [skipBlanks_of_not_blank (by decide), readObject.eq_2]
      rfl
    | cons f' fs => exact absurd rfl (hobj f' fs)

/-- A key is written between quotes with its characters escaped, and read back as itself up to
its closing quote. -/
theorem quoteJson_key (hl : l.Readable) (k : String) (total : ℕ) :
    ∃ esc : List Char, (quoteJson l.asciiOnly k).toList = '"' :: (esc ++ ['"']) ∧
      ∀ (rest : List Char) (start i : ℕ), i + esc.length + 1 + rest.length ≤ total →
        readStringBody total start (esc ++ '"' :: rest) i [] =
          .ok (k, (rest, i + esc.length + 1)) := by
  refine ⟨k.toList.flatMap fun c => (escapeJsonChar true c).toList, ?_,
    fun rest start i hfit => ?_⟩
  · rw [hl.ascii, toList_quoteJson]; rfl
  · rw [readStringBody_escaped k.toList rest i [] hfit]
    simp

mutual

/-- **A value is read back from its text**, up to whatever follows that ends a number, as the
document that the text gives back. The fuel, at least the length of the text, is enough. -/
theorem readValue_write (hl : l.Readable) (total : ℕ) : (v : Value) → (d : ℕ) →
    (rest : List Char) → EndsNumber rest → (fuel i : ℕ) →
      (write l d v).length ≤ fuel → i + (write l d v).length + rest.length ≤ total →
      readValue total fuel ((write l d v).toList ++ rest, i) =
        .ok (reread v, (rest, i + (write l d v).length))
  | .arr (w :: ws), d, rest, _, fuel, i, hfuel, hfit => by
    have htext := toList_write_arr (l := l) d w ws
    have hlen : (write l d (.arr (w :: ws))).length =
        (writeItems l (d + 1) (w :: ws)).length + (l.newline d).length + 2 := by
      rw [← String.length_toList, htext]
      simp only [List.length_cons, List.length_append, String.length_toList, List.length_nil]
      omega
    have hnl : (l.newline d).toList.length = (l.newline d).length := String.length_toList
    obtain ⟨f, rfl⟩ : ∃ f, fuel = f + 1 := ⟨fuel - 1, by omega⟩
    have hitems := readArray_written_items hl total (w :: ws) (by simp) (d + 1) _ (hl.newline d)
      rest f (i + 1) [] (by omega) (by omega)
    rw [htext]
    simp only [List.cons_append, List.append_assoc, List.nil_append]
    show readArray total f (skipBlanks (_, i + 1)) [] = _
    rw [hitems]
    simp only [reread, List.reverse_nil, List.nil_append, hlen]
    exact ok_at_congr (by omega)
  | .obj (f' :: fs), d, rest, _, fuel, i, hfuel, hfit => by
    have htext := toList_write_obj (l := l) d f' fs
    have hlen : (write l d (.obj (f' :: fs))).length =
        (writeFields l (d + 1) (f' :: fs)).length + (l.newline d).length + 2 := by
      rw [← String.length_toList, htext]
      simp only [List.length_cons, List.length_append, String.length_toList, List.length_nil]
      omega
    have hnl : (l.newline d).toList.length = (l.newline d).length := String.length_toList
    obtain ⟨f, rfl⟩ : ∃ f, fuel = f + 1 := ⟨fuel - 1, by omega⟩
    have hfields := readObject_written_fields hl total (f' :: fs) (by simp) (d + 1) _
      (hl.newline d) rest f (i + 1) [] (by omega) (by omega)
    rw [htext]
    simp only [List.cons_append, List.append_assoc, List.nil_append]
    show readObject total f (skipBlanks (_, i + 1)) [] = _
    rw [hfields]
    simp only [reread, hlen]
    exact ok_at_congr (by omega)
  | .null, d, rest, hrest, fuel, i, hfuel, hfit =>
    readValue_write_leaf hl total (by simp) (by simp) d hrest fuel hfuel hfit
  | .bool b, d, rest, hrest, fuel, i, hfuel, hfit =>
    readValue_write_leaf hl total (by simp) (by simp) d hrest fuel hfuel hfit
  | .int n, d, rest, hrest, fuel, i, hfuel, hfit =>
    readValue_write_leaf hl total (by simp) (by simp) d hrest fuel hfuel hfit
  | .float x, d, rest, hrest, fuel, i, hfuel, hfit =>
    readValue_write_leaf hl total (by simp) (by simp) d hrest fuel hfuel hfit
  | .str s, d, rest, hrest, fuel, i, hfuel, hfit =>
    readValue_write_leaf hl total (by simp) (by simp) d hrest fuel hfuel hfit
  | .arr [], d, rest, hrest, fuel, i, hfuel, hfit =>
    readValue_write_leaf hl total (by simp) (by simp) d hrest fuel hfuel hfit
  | .obj [], d, rest, hrest, fuel, i, hfuel, hfit =>
    readValue_write_leaf hl total (by simp) (by simp) d hrest fuel hfuel hfit

/-- The items of an array are read back from their text, up to blanks and the closing
bracket. -/
theorem readArray_written_items (hl : l.Readable) (total : ℕ) : (items : List Value) →
    items ≠ [] → (d : ℕ) → (bs : List Char) → (∀ c ∈ bs, isJsonBlank c = true) →
    (rest : List Char) → (fuel i : ℕ) → (acc : List Value) →
      (writeItems l d items).length < fuel →
      i + (writeItems l d items).length + bs.length + 1 + rest.length ≤ total →
      readArray total fuel (skipBlanks ((writeItems l d items).toList ++ (bs ++ ']' :: rest), i))
          acc =
        .ok (.arr (acc.reverse ++ rereadItems items),
          (rest, i + (writeItems l d items).length + bs.length + 1))
  | [], h, _, _, _, _, _, _, _, _, _ => absurd rfl h
  | [w], _, d, bs, hbs, rest, fuel, i, acc, hfuel, hfit => by
    obtain ⟨c, r, hw, hc⟩ := write_head l d w
    obtain ⟨hcb, hcc, -, -⟩ := hc.facts
    have hlen : (writeItems l d [w]).length = (l.newline d).length + (write l d w).length := by
      rw [← String.length_toList, toList_writeItems_one]
      simp only [List.length_append, String.length_toList]
    obtain ⟨f, rfl⟩ : ∃ f, fuel = f + 1 := ⟨fuel - 1, by omega⟩
    have hread := readValue_write hl total w d _ (endsNumber_of_stop hbs (.inr (.inl rfl)) rest) f
      (i + (l.newline d).length) (by omega)
      (by simp only [List.length_cons, List.length_append]; omega)
    have hcs : ∀ r', (write l d w).toList ++ (bs ++ ']' :: rest) ≠ ']' :: r' := by
      intro r' h; rw [hw] at h; exact hcc (List.cons.inj h).1
    -- the line break is skipped up to the item; after it, blanks and the bracket
    rw [toList_writeItems_one, List.append_assoc,
      skipBlanks_to (hl.newline d) hcb (by simp [hw]), String.length_toList,
      readArray_last hcs hread (skipBlanks_to hbs (c := ']') rfl (by simp) _)]
    simp only [rereadItems, List.reverse_cons, hlen]
    exact ok_at_congr (by omega)
  | w :: w' :: ws, _, d, bs, hbs, rest, fuel, i, acc, hfuel, hfit => by
    obtain ⟨c, r, hw, hc⟩ := write_head l d w
    obtain ⟨hcb, hcc, -, -⟩ := hc.facts
    obtain ⟨sbs, hsep, hsbs⟩ := hl.itemSep
    have hlen : (writeItems l d (w :: w' :: ws)).length = (l.newline d).length +
        (write l d w).length + (sbs.length + 1) + (writeItems l d (w' :: ws)).length := by
      rw [← String.length_toList, toList_writeItems_cons, hsep]
      simp only [List.length_append, List.length_cons, String.length_toList]
      omega
    obtain ⟨f, rfl⟩ : ∃ f, fuel = f + 1 := ⟨fuel - 1, by omega⟩
    have hread := readValue_write hl total w d
      (',' :: (sbs ++ ((writeItems l d (w' :: ws)).toList ++ (bs ++ ']' :: rest))))
      (endsNumber_of_head (.inl rfl) _) f (i + (l.newline d).length) (by omega)
      (by simp only [List.length_cons, List.length_append, String.length_toList]; omega)
    have hnext := readArray_written_items hl total (w' :: ws) (by simp) d bs hbs rest f
      (i + (l.newline d).length + (write l d w).length + 1 + sbs.length) (reread w :: acc)
      (by omega) (by omega)
    have hcs : ∀ r', (write l d w).toList ++
        (',' :: (sbs ++ ((writeItems l d (w' :: ws)).toList ++ (bs ++ ']' :: rest)))) ≠
          ']' :: r' := by
      intro r' h; rw [hw] at h; exact hcc (List.cons.inj h).1
    -- the line break is skipped up to the item; after it, the comma and its blanks
    rw [toList_writeItems_cons, hsep]
    simp only [List.cons_append, List.append_assoc]
    rw [skipBlanks_to (hl.newline d) hcb (by simp [hw]), String.length_toList,
      readArray_next hcs hread (skipBlanks_of_not_blank (by decide) _ _), skipBlanks_append hsbs,
      hnext]
    simp only [rereadItems, List.reverse_cons, List.append_assoc, List.singleton_append, hlen]
    exact ok_at_congr (by omega)

/-- The fields of an object are read back from their text, up to blanks and the closing brace:
each is set in turn after the fields read before. -/
theorem readObject_written_fields (hl : l.Readable) (total : ℕ) :
    (fields : List (String × Value)) → fields ≠ [] → (d : ℕ) → (bs : List Char) →
    (∀ c ∈ bs, isJsonBlank c = true) → (rest : List Char) → (fuel i : ℕ) →
    (acc : List (String × Value)) →
      (writeFields l d fields).length < fuel →
      i + (writeFields l d fields).length + bs.length + 1 + rest.length ≤ total →
      readObject total fuel
          (skipBlanks ((writeFields l d fields).toList ++ (bs ++ '\x7d' :: rest), i)) acc =
        .ok (.obj (rereadFields acc fields),
          (rest, i + (writeFields l d fields).length + bs.length + 1))
  | [], h, _, _, _, _, _, _, _, _, _ => absurd rfl h
  | [(k, v)], _, d, bs, hbs, rest, fuel, i, acc, hfuel, hfit => by
    obtain ⟨c, r, hw, hc⟩ := write_head l d v
    obtain ⟨hcb, -, -, -⟩ := hc.facts
    obtain ⟨kbs, hks, hkbs⟩ := hl.keySep
    obtain ⟨esc, hq, hkey⟩ := quoteJson_key hl k total
    have hlen : (writeFields l d [(k, v)]).length = (l.newline d).length + (esc.length + 2) +
        (kbs.length + 1) + (write l d v).length := by
      rw [← String.length_toList, toList_writeFields_one, hq, hks]
      simp only [List.length_append, List.length_cons, String.length_toList, List.length_nil]
      omega
    obtain ⟨f, rfl⟩ : ∃ f, fuel = f + 1 := ⟨fuel - 1, by omega⟩
    have hread := readValue_write hl total v d _ (endsNumber_of_stop hbs (.inr (.inr rfl)) rest) f
      (i + (l.newline d).length + (esc.length + 2) + (kbs.length + 1)) (by omega)
      (by simp only [List.length_cons, List.length_append]; omega)
    rw [toList_writeFields_one, hq, hks]
    simp only [List.cons_append, List.append_assoc, List.nil_append]
    -- the line break, the key, the colon and its blanks, the value, then blanks and the brace
    rw [skipBlanks_to (hl.newline d) (c := '"') rfl (by simp), String.length_toList,
      readObject_last (hkey _ _ _ (by
          simp only [List.length_cons, List.length_append, String.length_toList]; omega))
        (skipBlanks_of_not_blank (by decide) _ _) (by
          rw [skipBlanks_to hkbs hcb (by simp [hw])]
          convert hread using 3
          omega)
        (skipBlanks_to hbs (c := '\x7d') rfl (by simp) _)]
    simp only [rereadFields, hlen]
    exact ok_at_congr (by omega)
  | (k, v) :: f' :: fs, _, d, bs, hbs, rest, fuel, i, acc, hfuel, hfit => by
    obtain ⟨c, r, hw, hc⟩ := write_head l d v
    obtain ⟨hcb, -, -, -⟩ := hc.facts
    obtain ⟨kbs, hks, hkbs⟩ := hl.keySep
    obtain ⟨sbs, hsep, hsbs⟩ := hl.itemSep
    obtain ⟨esc, hq, hkey⟩ := quoteJson_key hl k total
    have hlen : (writeFields l d ((k, v) :: f' :: fs)).length = (l.newline d).length +
        (esc.length + 2) + (kbs.length + 1) + (write l d v).length + (sbs.length + 1) +
          (writeFields l d (f' :: fs)).length := by
      rw [← String.length_toList, toList_writeFields_cons, hq, hks, hsep]
      simp only [List.length_append, List.length_cons, String.length_toList, List.length_nil]
      omega
    obtain ⟨f, rfl⟩ : ∃ f, fuel = f + 1 := ⟨fuel - 1, by omega⟩
    have hread := readValue_write hl total v d
      (',' :: (sbs ++ ((writeFields l d (f' :: fs)).toList ++ (bs ++ '\x7d' :: rest))))
      (endsNumber_of_head (.inl rfl) _) f
      (i + (l.newline d).length + (esc.length + 2) + (kbs.length + 1)) (by omega)
      (by simp only [List.length_cons, List.length_append, String.length_toList]; omega)
    have hnext := readObject_written_fields hl total (f' :: fs) (by simp) d bs hbs rest f
      (i + (l.newline d).length + (esc.length + 2) + (kbs.length + 1) + (write l d v).length +
        1 + sbs.length) (Value.fieldSet acc k (reread v)) (by omega) (by omega)
    rw [toList_writeFields_cons, hq, hks, hsep]
    simp only [List.cons_append, List.append_assoc, List.nil_append]
    -- the line break, the key, the colon and its blanks, the value, then the comma and its blanks
    rw [skipBlanks_to (hl.newline d) (c := '"') rfl (by simp), String.length_toList,
      readObject_next (hkey _ _ _ (by
          simp only [List.length_cons, List.length_append, String.length_toList]; omega))
        (skipBlanks_of_not_blank (by decide) _ _) (by
          rw [skipBlanks_to hkbs hcb (by simp [hw])]
          convert hread using 3
          omega)
        (skipBlanks_of_not_blank (by decide) _ _), skipBlanks_append hsbs, hnext]
    simp only [rereadFields, hlen]
    exact ok_at_congr (by omega)

end

end Reading

/-- **Reading the JSON text of a document gives back the document**, in every readable layout,
as `reread` says: the document itself when it is faithful (`reread_of_faithful`). -/
theorem read_render (hl : l.Readable) (v : Value) : read (render l v) = .ok (reread v) := by
  obtain ⟨c, r, hw, hc⟩ := write_head l 0 v
  obtain ⟨hcb, -, -, hbom⟩ := hc.facts
  have hlen : (write l 0 v).toList.length = (write l 0 v).length := String.length_toList
  have hread := readValue_write hl (write l 0 v).toList.length v 0 [] (fun _ h => by cases h)
    ((write l 0 v).toList.length + 1) 0 (by omega) (by simp [hlen])
  rw [List.append_nil] at hread
  unfold read render
  dsimp only
  split
  · -- the text starts with its first value, no byte order mark
    rename_i heq
    rw [hw] at heq
    exact absurd (List.cons.inj heq).1 hbom
  · have hskip : skipBlanks ((write l 0 v).toList, 0) = ((write l 0 v).toList, 0) := by
      rw [hw]; exact skipBlanks_of_not_blank hcb r 0
    simp only [hskip, hread, skipBlanks]


end Questionnaire.Json
