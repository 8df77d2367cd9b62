import Questionnaire.Proofs.DecimalText
import Questionnaire.Json.Reader
/-!
# Reading back the one-line dump of a flat list

A list of booleans, integers, floats whose shortest text is a plain decimal and strings, dumped on
one line with every character outside ASCII escaped (`Layout.dumps`), reads back as the same list
(`read_dumps_flat`). The reader takes each item where the writer put it: a number ends at the
separator or the closing bracket (`Decimal.EndsNumber`), and every escape in a string reads as the
character it came from (`readStringBody_escaped`), surrogate pairs included.

The dump itself never writes an apostrophe or a line feed (`mem_render_flat`): it is one line, and
it holds an apostrophe only where a string item does.
-/

namespace Questionnaire.Json

open Decimal

/-! ## Escapes in strings -/

theorem hexValue?_digitChar {n : ℕ} (h : n < 16) : hexValue? (Nat.digitChar n) = some n := by
  interval_cases n <;> rfl

/-- Four hexadecimal digits of a number below `16^4`, most significant first. -/
theorem hexDigits_four {n : ℕ} (h : n < 0x10000) :
    (hexDigits n 4).toList = [Nat.digitChar (n / 0x1000), Nat.digitChar (n / 0x100 % 16),
      Nat.digitChar (n / 16 % 16), Nat.digitChar (n % 16)] := by
  have hd : ∀ k < 16, Nat.toDigits 16 k = [Nat.digitChar k] :=
    fun k hk => Nat.toDigits_of_lt_base hk
  have hsplit : ∀ k, 16 ≤ k →
      Nat.toDigits 16 k = Nat.toDigits 16 (k / 16) ++ [Nat.digitChar (k % 16)] :=
    fun k hk => Nat.toDigits_of_base_le (by norm_num) hk
  have h0 : Nat.digitChar 0 = '0' := rfl
  simp only [hexDigits, String.toList_ofList]
  rcases Nat.lt_or_ge n 16 with h1 | h1
  · rw [hd n h1]
    simp [h0, show n / 0x1000 = 0 by omega, show n / 0x100 % 16 = 0 by omega,
      show n / 16 % 16 = 0 by omega, Nat.mod_eq_of_lt h1]
  rcases Nat.lt_or_ge n 256 with h2 | h2
  · rw [hsplit n h1, hd (n / 16) (by omega)]
    simp [h0, show n / 0x1000 = 0 by omega, show n / 0x100 % 16 = 0 by omega,
      show n / 16 % 16 = n / 16 by omega]
  rcases Nat.lt_or_ge n 4096 with h3 | h3
  · rw [hsplit n h1, hsplit (n / 16) (by omega), hd (n / 16 / 16) (by omega)]
    simp [h0, show n / 0x1000 = 0 by omega, show n / 0x100 % 16 = n / 16 / 16 by omega]
  · rw [hsplit n h1, hsplit (n / 16) (by omega), hsplit (n / 16 / 16) (by omega),
      hd (n / 16 / 16 / 16) (by omega)]
    simp [show n / 0x1000 = n / 16 / 16 / 16 by omega,
      show n / 0x100 % 16 = n / 16 / 16 % 16 by omega]

theorem hex4?_hexDigits {n : ℕ} (h : n < 0x10000) :
    hex4? [Nat.digitChar (n / 0x1000), Nat.digitChar (n / 0x100 % 16),
      Nat.digitChar (n / 16 % 16), Nat.digitChar (n % 16)] = some n := by
  simp only [hex4?, hexValue?_digitChar (show n / 0x1000 < 16 by omega),
    hexValue?_digitChar (show n / 0x100 % 16 < 16 by omega),
    hexValue?_digitChar (show n / 16 % 16 < 16 by omega),
    hexValue?_digitChar (show n % 16 < 16 by omega)]
  change some _ = some n
  congr 1
  omega

/-- The six characters of a `\u` escape of a unit below `16^4`. -/
theorem toList_unitEscape {u : ℕ} (h : u < 0x10000) :
    (unitEscape u).toList = '\\' :: 'u' :: [Nat.digitChar (u / 0x1000),
      Nat.digitChar (u / 0x100 % 16), Nat.digitChar (u / 16 % 16), Nat.digitChar (u % 16)] := by
  simp only [unitEscape, String.toList_append, hexDigits_four h]
  rfl

theorem readStringBody_simpleEscape {total start i : ℕ} {acc : List Char} {e c : Char}
    (he : e ≠ 'u') (hc : simpleEscape? e = some c) (more : List Char) :
    readStringBody total start ('\\' :: e :: more) i acc =
      readStringBody total start more (i + 2) (c :: acc) := by
  rw [readStringBody.eq_6 _ _ _ _ _ _ (fun _ _ _ _ _ h => absurd h he) he, hc]

/-- A `\u` escape of a unit that is no high surrogate reads as that code point. -/
theorem readStringBody_unitEscape {total start i : ℕ} {acc : List Char} {u : ℕ}
    (hu : u < 0x10000) (hs : ¬ (0xd800 ≤ u ∧ u < 0xdc00)) (hfit : i + 6 < total)
    (more : List Char) :
    readStringBody total start ((unitEscape u).toList ++ more) i acc =
      readStringBody total start more (i + 6) (charOfCode u :: acc) := by
  rw [toList_unitEscape hu]
  simp only [List.cons_append, List.nil_append]
  rw [readStringBody.eq_4, if_neg (by omega), hex4?_hexDigits hu]
  simp only [Bool.and_eq_true, decide_eq_true_eq]
  rw [if_neg (by tauto)]

/-- A surrogate pair reads as the code point above `U+FFFF` that it encodes. -/
theorem readStringBody_surrogates {total start i : ℕ} {acc : List Char} {m : ℕ}
    (hm : m < 0x100000) (hfit : i + 12 < total) (more : List Char) :
    readStringBody total start ((unitEscape (0xd800 + m / 0x400)).toList ++
        (unitEscape (0xdc00 + m % 0x400)).toList ++ more) i acc =
      readStringBody total start more (i + 12) (Char.ofNat (0x10000 + m) :: acc) := by
  have hhi : 0xd800 + m / 0x400 < 0x10000 := by omega
  have hlo : 0xdc00 + m % 0x400 < 0x10000 := by omega
  rw [toList_unitEscape hhi, toList_unitEscape hlo]
  simp only [List.cons_append, List.nil_append]
  rw [readStringBody.eq_4, if_neg (by omega), hex4?_hexDigits hhi]
  simp only [Bool.and_eq_true, decide_eq_true_eq]
  rw [if_pos ⟨⟨by omega, by omega⟩, hfit⟩, hex4?_hexDigits hlo]
  dsimp only
  rw [if_pos ⟨by omega, by omega⟩,
    show 0x10000 + (0xd800 + m / 0x400 - 0xd800) * 0x400 + (0xdc00 + m % 0x400 - 0xdc00) =
      0x10000 + m by omega]

/-- Reading the escape of one character gives the character back. -/
theorem readStringBody_escape {total start i : ℕ} {acc : List Char} (c : Char) {more : List Char}
    (hmore : more ≠ []) (hfit : i + (escapeJsonChar true c).length + more.length ≤ total) :
    readStringBody total start ((escapeJsonChar true c).toList ++ more) i acc =
      readStringBody total start more (i + (escapeJsonChar true c).length) (c :: acc) := by
  have hlen : 0 < more.length := List.length_pos_of_ne_nil hmore
  generalize hE : escapeJsonChar true c = E at hfit ⊢
  unfold escapeJsonChar at hE
  split at hE
  · subst hE; exact readStringBody_simpleEscape (e := '"') (by decide) rfl more
  · subst hE; exact readStringBody_simpleEscape (e := '\\') (by decide) rfl more
  · subst hE; exact readStringBody_simpleEscape (e := 'n') (by decide) rfl more
  · subst hE; exact readStringBody_simpleEscape (e := 'r') (by decide) rfl more
  · subst hE; exact readStringBody_simpleEscape (e := 't') (by decide) rfl more
  · subst hE; exact readStringBody_simpleEscape (e := 'b') (by decide) rfl more
  · subst hE; exact readStringBody_simpleEscape (e := 'f') (by decide) rfl more
  · rename_i hq hb _ _ _ _ _
    have hvalid : c.toNat < 0xd800 ∨ (0xdfff < c.toNat ∧ c.toNat < 0x110000) := c.valid
    have hchar : Char.ofNat c.toNat = c := Char.ofNat_toNat c
    have hsix : ∀ u < 0x10000, (unitEscape u).length = 6 := fun u hu => by
      rw [← String.length_toList, toList_unitEscape hu]; rfl
    dsimp only at hE
    split at hE
    · -- a control character: one `\u` escape
      subst hE
      rw [hsix _ (by omega)] at hfit ⊢
      rw [readStringBody_unitEscape (by omega) (by omega) (by omega), charOfCode,
        if_neg (by simp; omega), hchar]
    · split at hE
      · split at hE
        · -- outside ASCII within the basic plane: one `\u` escape
          subst hE
          rw [hsix _ (by omega)] at hfit ⊢
          rw [readStringBody_unitEscape (by omega) (by omega) (by omega), charOfCode,
            if_neg (by simp; omega), hchar]
        · -- above the basic plane: a surrogate pair
          subst hE
          have hm : c.toNat - 0x10000 < 0x100000 := by omega
          rw [String.length_append, hsix _ (by omega), hsix _ (by omega)] at hfit ⊢
          rw [String.toList_append, readStringBody_surrogates hm (by omega),
            show 0x10000 + (c.toNat - 0x10000) = c.toNat by omega, hchar]
      · -- printable ASCII is written as it is
        rename_i hctl _
        subst hE
        rw [String.toList_singleton, List.singleton_append,
          readStringBody.eq_7 _ _ _ _ _ _ hq (fun h => absurd h hb) (fun _ _ _ _ _ h => absurd h hb)
            (fun _ h => absurd h hb) (fun _ _ h => absurd h hb), if_neg hctl,
          String.length_singleton]

/-- The escaped characters of a text, as a JSON string holds them between its quotes. -/
theorem readStringBody_escaped (s : List Char) {total start : ℕ} (rest : List Char) :
    ∀ (i : ℕ) (acc : List Char),
      i + (s.flatMap fun c => (escapeJsonChar true c).toList).length + 1 + rest.length ≤ total →
      readStringBody total start ((s.flatMap fun c => (escapeJsonChar true c).toList) ++
          '"' :: rest) i acc =
        .ok (String.ofList (acc.reverse ++ s),
          (rest, i + (s.flatMap fun c => (escapeJsonChar true c).toList).length + 1)) := by
  induction s with
  | nil =>
    intro i acc _
    simp only [List.flatMap_nil, List.nil_append, List.append_nil, List.length_nil,
      Nat.add_zero]
    rw [readStringBody.eq_2]
  | cons c s ih =>
    intro i acc hfit
    simp only [List.flatMap_cons, List.length_append, String.length_toList] at hfit ⊢
    rw [List.append_assoc, readStringBody_escape c (by simp)
      (by simp only [List.length_append, List.length_cons]; omega), ih _ _ (by omega)]
    simp only [List.reverse_cons, List.append_assoc, List.singleton_append]
    congr 3
    omega

theorem toList_quoteJson (s : String) :
    (quoteJson true s).toList =
      '"' :: (s.toList.flatMap fun c => (escapeJsonChar true c).toList) ++ ['"'] := by
  simp [quoteJson, String.toList_join, List.flatMap_map]

/-- Where a number starts, no keyword of the reader matches, and the number is read. -/
theorem readValue_of_readNumber {cs : List Char} {d : Char} (hd : d.isDigit = true)
    (hcs : (∃ r, cs = d :: r) ∨ (∃ r, cs = '-' :: d :: r)) {i : ℕ} {res : Value × Cursor}
    (hread : readNumber cs i = some res) (total fuel : ℕ) :
    readValue total (fuel + 1) (cs, i) = .ok res := by
  have hne : d ≠ '"' ∧ d ≠ '{' ∧ d ≠ '[' ∧ d ≠ 'n' ∧ d ≠ 't' ∧ d ≠ 'f' ∧ d ≠ 'N' ∧ d ≠ 'I' ∧
      d ≠ '-' := by
    refine ⟨?_, ?_, ?_, ?_, ?_, ?_, ?_, ?_, ?_⟩ <;> (rintro rfl; exact absurd hd (by decide))
  obtain ⟨h1, h2, h3, h4, h5, h6, h7, h8, h9⟩ := hne
  rcases hcs with ⟨r, rfl⟩ | ⟨r, rfl⟩
  · simp [readValue, startsWith, h1, h2, h3, h4, h5, h6, h7, h8, h9, hread]
  · simp [readValue, startsWith, h8, hread]

/-! ## Flat values and lists -/

/-- The layout of a JSON dump with default options: one line, `, ` between items and `: ` after
keys, and every character outside ASCII escaped. -/
def Layout.dumps : Layout := ⟨none, true, ", ", ": "⟩

/-- Values that read back exactly from their text, with texts restricted by `textOk`: booleans,
integers, floats whose shortest text is a plain decimal, and texts that `textOk` accepts. -/
def FlatValue (textOk : String → Prop) : Value → Prop
  | .bool _ | .int _ => True
  | .float x => Decimal.IsPlainDecimal (renderFloat literalFloatStyle x)
  | .str s => textOk s
  | _ => False

/-- A flat value is read back from its JSON text, up to a character that ends a number. -/
theorem readValue_write_flat {textOk : String → Prop} {v : Value} (hv : FlatValue textOk v)
    {rest : List Char} (hrest : Decimal.EndsNumber rest) (total : ℕ) {i : ℕ} (fuel d : ℕ)
    (hfit : i + (write Layout.dumps d v).length + rest.length ≤ total) :
    readValue total (fuel + 1) ((write Layout.dumps d v).toList ++ rest, i) =
      .ok (v, (rest, i + (write Layout.dumps d v).length)) := by
  cases v with
  | null => exact hv.elim
  | bool b => cases b <;> simp [write, readValue, startsWith] <;> rfl
  | int n =>
    have hw : write Layout.dumps d (.int n) = toString n := rfl
    rw [hw]
    obtain ⟨c, r, hcr⟩ := List.exists_cons_of_ne_nil (Nat.toDigits_ne_nil (b := 10) (n := n.natAbs))
    have hc : c.isDigit = true :=
      Nat.isDigit_of_mem_toDigits (b := 10) (n := n.natAbs) (by norm_num) (by norm_num)
        (by simp [hcr])
    apply readValue_of_readNumber hc _ (readNumber_int n rest hrest i)
    rw [toList_toString_int, hcr]
    split
    · exact .inr ⟨r ++ rest, by simp⟩
    · exact .inl ⟨r ++ rest, by simp⟩
  | float x =>
    obtain ⟨b, hb⟩ := classify_finite_of_plain hv
    have hw : write Layout.dumps d (.float x) = renderFloat literalFloatStyle x :=
      renderFloat_json hb
    obtain ⟨ints, frac, hdig, htext, hval⟩ := render_plain hb hv
    obtain ⟨c, r, rfl⟩ := List.exists_cons_of_ne_nil hdig.ints_ne
    have hc : c.isDigit = true := hdig.digit c (by simp)
    have hlen : (renderFloat literalFloatStyle x).length =
        (plainChars b.neg (c :: r) frac).length := by
      rw [← String.length_toList, htext]
    rw [hw, htext, hlen, readValue_of_readNumber hc ?_ (readNumber_plain hdig b.neg rest hrest i),
      hval]
    cases b.neg
    · exact .inl ⟨r ++ '.' :: (frac ++ rest), by simp [plainChars]⟩
    · exact .inr ⟨r ++ '.' :: (frac ++ rest), by simp [plainChars]⟩
  | str s =>
    have hw : write Layout.dumps d (.str s) = quoteJson true s := rfl
    have hlen : (quoteJson true s).length =
        (s.toList.flatMap fun c => (escapeJsonChar true c).toList).length + 2 := by
      rw [← String.length_toList, toList_quoteJson]; simp
    rw [hw, hlen] at hfit
    rw [hw, toList_quoteJson, hlen]
    simp only [List.cons_append, List.append_assoc, List.nil_append]
    rw [readValue, readStringBody_escaped _ _ _ _ (by omega)]
    simp only [List.reverse_nil, List.nil_append, String.ofList_toList, Except.map]
    congr 3
    omega
  | arr items => exact hv.elim
  | obj fields => exact hv.elim

/-- The text of a flat value starts with a character that is neither a blank nor a closing
bracket. -/
theorem write_flat_head {textOk : String → Prop} {v : Value} (hv : FlatValue textOk v) (d : ℕ) :
    ∃ c r, (write Layout.dumps d v).toList = c :: r ∧ c ≠ ']' ∧ isJsonBlank c = false := by
  cases v with
  | null => exact hv.elim
  | bool b =>
    cases b
    · exact ⟨'f', ['a', 'l', 's', 'e'], by simp [write], by decide, rfl⟩
    · exact ⟨'t', ['r', 'u', 'e'], by simp [write], by decide, rfl⟩
  | int n =>
    obtain ⟨c, r, hcr⟩ := List.exists_cons_of_ne_nil (Nat.toDigits_ne_nil (b := 10) (n := n.natAbs))
    have hc := (isDigit_iff c).1 (Nat.isDigit_of_mem_toDigits (b := 10) (n := n.natAbs)
      (by norm_num) (by norm_num) (by simp [hcr]))
    change ∃ c r, (toString n).toList = c :: r ∧ _
    rw [toList_toString_int, hcr]
    split
    · exact ⟨'-', c :: r, rfl, by decide, rfl⟩
    · refine ⟨c, r, rfl, ?_, ?_⟩
      · rintro rfl; simp at hc
      · simp only [isJsonBlank, Bool.or_eq_false_iff, decide_eq_false_iff_not]
        refine ⟨⟨⟨?_, ?_⟩, ?_⟩, ?_⟩ <;> (rintro rfl; simp at hc)
  | float x =>
    obtain ⟨b, hb⟩ := classify_finite_of_plain hv
    obtain ⟨ints, frac, hdig, htext, -⟩ := render_plain hb hv
    obtain ⟨c, r, rfl⟩ := List.exists_cons_of_ne_nil hdig.ints_ne
    have hc := (isDigit_iff c).1 (hdig.digit c (by simp))
    change ∃ c r, (renderFloat jsonFloatStyle x).toList = c :: r ∧ _
    rw [renderFloat_json hb, htext]
    cases b.neg
    · refine ⟨c, r ++ '.' :: frac, by simp [plainChars], ?_, ?_⟩
      · rintro rfl; simp at hc
      · simp only [isJsonBlank, Bool.or_eq_false_iff, decide_eq_false_iff_not]
        refine ⟨⟨⟨?_, ?_⟩, ?_⟩, ?_⟩ <;> (rintro rfl; simp at hc)
    · exact ⟨'-', c :: r ++ '.' :: frac, by simp [plainChars], by decide, rfl⟩
  | str s =>
    refine ⟨'"', (s.toList.flatMap fun c => (escapeJsonChar true c).toList) ++ ['"'], ?_,
      by decide, rfl⟩
    change (quoteJson true s).toList = _
    rw [toList_quoteJson, List.cons_append]
  | arr items => exact hv.elim
  | obj fields => exact hv.elim

theorem skipBlanks_of_not_blank {c : Char} (hc : isJsonBlank c = false) (r : List Char) (i : ℕ) :
    skipBlanks (c :: r, i) = (c :: r, i) := by
  simp [skipBlanks, hc]

theorem writeItems_singleton (v : Value) (d : ℕ) :
    writeItems Layout.dumps d [v] = write Layout.dumps d v := by
  simp [writeItems, Layout.newline, Layout.dumps]

theorem toList_writeItems_cons_cons (v w : Value) (L : List Value) (d : ℕ) :
    (writeItems Layout.dumps d (v :: w :: L)).toList =
      (write Layout.dumps d v).toList ++
        ',' :: ' ' :: (writeItems Layout.dumps d (w :: L)).toList := by
  simp [writeItems, Layout.newline, Layout.dumps]

theorem endsNumber_of_head {c : Char} (hc : c = ',' ∨ c = ']') (r : List Char) :
    EndsNumber (c :: r) := by
  intro d hd
  simp only [List.head?_cons, Option.mem_def, Option.some.injEq] at hd
  subst hd
  rcases hc with rfl | rfl <;> decide

/-- The items of a flat list start where their first item does. -/
theorem writeItems_head {textOk : String → Prop} {w : Value} (hw : FlatValue textOk w)
    (L : List Value) (d : ℕ) :
    ∃ c r, (writeItems Layout.dumps d (w :: L)).toList = c :: r ∧ c ≠ ']' ∧
      isJsonBlank c = false := by
  obtain ⟨c, r, htext, hc, hb⟩ := write_flat_head hw d
  cases L with
  | nil => exact ⟨c, r, by rw [writeItems_singleton, htext], hc, hb⟩
  | cons x L => exact ⟨c, r ++ _, by rw [toList_writeItems_cons_cons, htext]; rfl, hc, hb⟩

/-- Every item takes at least one character. -/
theorem length_le_writeItems {textOk : String → Prop} (d : ℕ) :
    ∀ L : List Value, (∀ v ∈ L, FlatValue textOk v) →
      L.length ≤ (writeItems Layout.dumps d L).length := by
  intro L
  induction L with
  | nil => intro _; simp
  | cons v L ih =>
    intro hflat
    obtain ⟨c, r, htext, -⟩ := write_flat_head (hflat v (by simp)) d
    have hv : 1 ≤ (write Layout.dumps d v).length := by
      rw [← String.length_toList, htext]; simp
    have ih' := ih fun u hu => hflat u (by simp [hu])
    cases L with
    | nil => rw [writeItems_singleton]; simpa using hv
    | cons w L =>
      rw [← String.length_toList, toList_writeItems_cons_cons]
      simp only [List.length_append, List.length_cons, String.length_toList] at ih' ⊢
      omega

/-- Reading the items of a flat list up to its closing bracket gives the list. -/
theorem readArray_writeItems {textOk : String → Prop} (total d : ℕ) (rest : List Char) :
    ∀ (L : List Value), L ≠ [] → (∀ v ∈ L, FlatValue textOk v) →
    ∀ (fuel i : ℕ) (acc : List Value), L.length < fuel →
      i + (writeItems Layout.dumps d L).length + 1 + rest.length ≤ total →
      readArray total fuel ((writeItems Layout.dumps d L).toList ++ ']' :: rest, i) acc =
        .ok (.arr (acc.reverse ++ L), (rest, i + (writeItems Layout.dumps d L).length + 1)) := by
  intro L
  induction L with
  | nil => intro h; exact absurd rfl h
  | cons v L ih =>
    intro _ hflat fuel i acc hfuel hfit
    obtain ⟨f, rfl⟩ : ∃ f, fuel = f + 1 + 1 := ⟨fuel - 2, by simp at hfuel; omega⟩
    obtain ⟨c, r, htext, hc, -⟩ := write_flat_head (hflat v (by simp)) d
    cases L with
    | nil =>
      rw [writeItems_singleton] at hfit ⊢
      have hread := readValue_write_flat (i := i) (hflat v (by simp))
        (endsNumber_of_head (.inr rfl) rest) total f d (by simp only [List.length_cons]; omega)
      rw [htext, List.cons_append] at hread ⊢
      simp [readArray, hc, hread, skipBlanks, isJsonBlank]
    | cons w L =>
      have hlen : (writeItems Layout.dumps d (v :: w :: L)).length =
          (write Layout.dumps d v).length + 2 + (writeItems Layout.dumps d (w :: L)).length := by
        rw [← String.length_toList, toList_writeItems_cons_cons]
        simp only [List.length_append, List.length_cons, String.length_toList]
        omega
      have hread := readValue_write_flat (i := i) (hflat v (by simp))
        (endsNumber_of_head (.inl rfl) (' ' :: ((writeItems Layout.dumps d (w :: L)).toList ++
          ']' :: rest))) total f d (by simp only [List.length_cons, List.length_append,
            String.length_toList] at hfit ⊢; omega)
      obtain ⟨c', r', htext', -, hblank'⟩ := writeItems_head (hflat w (by simp)) L d
      have hnext := ih (by simp) (fun u hu => hflat u (by simp [hu])) (f + 1)
        (i + (write Layout.dumps d v).length + 2) (v :: acc) (by simp at hfuel ⊢; omega)
        (by rw [hlen] at hfit; omega)
      rw [htext, List.cons_append] at hread
      rw [toList_writeItems_cons_cons, List.append_assoc, htext, List.cons_append, readArray.eq_def]
      simp only [List.cons_append]
      split
      · rename_i heq
        exact absurd (List.cons.inj heq).1 hc
      · have hspace : ∀ t j, skipBlanks (' ' :: t, j) = skipBlanks (t, j + 1) := fun t j => by
          simp [skipBlanks, isJsonBlank]
        have hitems : skipBlanks ((writeItems Layout.dumps d (w :: L)).toList ++ ']' :: rest,
            i + (write Layout.dumps d v).length + 1 + 1) =
            ((writeItems Layout.dumps d (w :: L)).toList ++ ']' :: rest,
              i + (write Layout.dumps d v).length + 2) := by
          rw [htext', List.cons_append, skipBlanks_of_not_blank hblank']
        rw [hread]
        simp only [skipBlanks_of_not_blank (show isJsonBlank ',' = false from rfl), hspace, hitems,
          hnext, hlen]
        simp
        omega

/-- A non-empty list in one line: its items between brackets. -/
theorem toList_render_cons (w : Value) (L : List Value) :
    (render Layout.dumps (.arr (w :: L))).toList =
      '[' :: ((writeItems Layout.dumps 1 (w :: L)).toList ++ [']']) := by
  simp [render, write, Layout.newline, Layout.dumps]

/-- **A non-empty flat list reads back from its JSON dump.** -/
theorem read_dumps_flat {textOk : String → Prop} {L : List Value} (hL : L ≠ [])
    (hflat : ∀ v ∈ L, FlatValue textOk v) :
    read (render Layout.dumps (.arr L)) = .ok (.arr L) := by
  obtain ⟨w, L', rfl⟩ := List.exists_cons_of_ne_nil hL
  have htext := toList_render_cons w L'
  obtain ⟨c, r, hitems, -, hblank⟩ := writeItems_head (hflat w (by simp)) L' 1
  have hlen := length_le_writeItems 1 (w :: L') hflat
  have hread := readArray_writeItems ((writeItems Layout.dumps 1 (w :: L')).length + 2) 1 []
    (w :: L') hL hflat ((writeItems Layout.dumps 1 (w :: L')).length + 2) 1 [] (by omega)
    (by simp only [List.length_nil]; omega)
  have htotal : ('[' :: ((writeItems Layout.dumps 1 (w :: L')).toList ++ [']'])).length =
      (writeItems Layout.dumps 1 (w :: L')).length + 2 := by
    simp only [List.length_cons, List.length_append, List.length_nil, String.length_toList]
  have hfirst : skipBlanks ((writeItems Layout.dumps 1 (w :: L')).toList ++ [']'], 0 + 1) =
      ((writeItems Layout.dumps 1 (w :: L')).toList ++ [']'], 1) := by
    rw [hitems, List.cons_append, skipBlanks_of_not_blank hblank]
  simp only [read, htext, htotal, skipBlanks_of_not_blank (show isJsonBlank '[' = false from rfl),
    readValue, hfirst, hread]
  split
  · rename_i heq
    exact absurd (List.cons.inj heq).1 (by decide)
  · simp [skipBlanks]

section Stray

/-! The apostrophe and the line feed never come from the writer itself: under `Layout.dumps` one
of them stands in the text of a flat list only where a string item holds it. -/

variable {q : Char} (hq : q = '\'' ∨ q = '\n')
include hq

theorem digitChar_ne_stray {k : ℕ} (hk : k < 16) : Nat.digitChar k ≠ q := by
  intro heq
  have hv := hexValue?_digitChar hk
  have hnone : hexValue? q = none := by rcases hq with rfl | rfl <;> decide
  rw [heq, hnone] at hv
  cases hv

theorem not_mem_unitEscape {u : ℕ} (hu : u < 0x10000) : q ∉ (unitEscape u).toList := by
  rw [toList_unitEscape hu]
  have hslash : q ≠ '\\' := by rcases hq with rfl | rfl <;> decide
  have hu' : q ≠ 'u' := by rcases hq with rfl | rfl <;> decide
  simp only [List.mem_cons, List.not_mem_nil, or_false, not_or]
  exact ⟨hslash, hu', (digitChar_ne_stray hq (by omega)).symm,
    (digitChar_ne_stray hq (by omega)).symm, (digitChar_ne_stray hq (by omega)).symm,
    (digitChar_ne_stray hq (by omega)).symm⟩

/-- Only the apostrophe writes as a text holding an apostrophe or a line feed: itself. -/
theorem mem_escapeJsonChar {c : Char} (h : q ∈ (escapeJsonChar true c).toList) :
    c = '\'' ∧ q = '\'' := by
  generalize hE : escapeJsonChar true c = E at h
  unfold escapeJsonChar at hE
  split at hE
  case h_8 =>
    -- escapes of control characters and of characters beyond ASCII: backslash, `u`, hex digits
    have hc : c.toNat < 0xd800 ∨ (0xdfff < c.toNat ∧ c.toNat < 0x110000) := c.valid
    dsimp only at hE
    split_ifs at hE with h1 h2 h3 <;> subst hE
    · exact absurd h (not_mem_unitEscape hq (by omega))
    · exact absurd h (not_mem_unitEscape hq h3)
    · rw [String.toList_append, List.mem_append] at h
      exact h.elim (absurd · (not_mem_unitEscape hq (by omega)))
        (absurd · (not_mem_unitEscape hq (by omega)))
    · simp only [String.toList_singleton, List.mem_singleton] at h
      subst h
      rcases hq with h | h
      · exact ⟨h, h⟩
      · exact absurd h ‹q = '\n' → False›
  all_goals
    subst hE
    rcases hq with rfl | rfl <;> simp at h

/-- A stray character in the text of a flat value is an apostrophe of a string item. -/
theorem mem_write_flat {textOk : String → Prop} {v : Value} (hv : FlatValue textOk v) (d : ℕ)
    (h : q ∈ (write Layout.dumps d v).toList) :
    q = '\'' ∧ ∃ s, v = .str s ∧ '\'' ∈ s.toList := by
  have hdigit : q.isDigit = false := by rcases hq with rfl | rfl <;> decide
  have hminus : q ≠ '-' := by rcases hq with rfl | rfl <;> decide
  have hdot : q ≠ '.' := by rcases hq with rfl | rfl <;> decide
  cases v with
  | null => exact hv.elim
  | bool b => cases b <;> (rcases hq with rfl | rfl <;> simp [write] at h)
  | int n =>
    change q ∈ (toString n).toList at h
    rcases mem_toString_int h with h | h
    · exact absurd h hminus
    · rw [h] at hdigit; cases hdigit
  | float x =>
    obtain ⟨b, hb⟩ := classify_finite_of_plain hv
    obtain ⟨ints, frac, hdig, htext, -⟩ := render_plain hb hv
    change q ∈ (renderFloat jsonFloatStyle x).toList at h
    rw [renderFloat_json hb, htext] at h
    rcases mem_plainChars h with h | h | h
    · exact absurd h hminus
    · exact absurd h hdot
    · rw [hdig.digit q h] at hdigit; cases hdigit
  | str s =>
    change q ∈ (quoteJson true s).toList at h
    rw [toList_quoteJson] at h
    have hquote : q ≠ '"' := by rcases hq with rfl | rfl <;> decide
    simp only [List.cons_append, List.mem_cons, List.mem_append, List.mem_flatMap,
      List.not_mem_nil, hquote, false_or, or_false] at h
    obtain ⟨c, hc, hmem⟩ := h
    obtain ⟨rfl, rfl⟩ := mem_escapeJsonChar hq hmem
    exact ⟨rfl, s, rfl, hc⟩
  | arr items => exact hv.elim
  | obj fields => exact hv.elim

/-- A stray character in the items of a flat list is an apostrophe of a string item. -/
theorem mem_writeItems_flat {textOk : String → Prop} (d : ℕ) :
    ∀ L : List Value, (∀ v ∈ L, FlatValue textOk v) →
      q ∈ (writeItems Layout.dumps d L).toList → q = '\'' ∧ ∃ s, .str s ∈ L ∧ '\'' ∈ s.toList
  | [], _, h => by simp [writeItems] at h
  | [v], hflat, h => by
    rw [writeItems_singleton] at h
    obtain ⟨hq', s, rfl, hs⟩ := mem_write_flat hq (hflat v (by simp)) d h
    exact ⟨hq', s, by simp, hs⟩
  | v :: w :: L, hflat, h => by
    have hcomma : q ≠ ',' := by rcases hq with rfl | rfl <;> decide
    have hspace : q ≠ ' ' := by rcases hq with rfl | rfl <;> decide
    rw [toList_writeItems_cons_cons] at h
    simp only [List.mem_append, List.mem_cons, hcomma, hspace, false_or] at h
    rcases h with h | h
    · obtain ⟨hq', s, rfl, hs⟩ := mem_write_flat hq (hflat v (by simp)) d h
      exact ⟨hq', s, by simp, hs⟩
    · obtain ⟨hq', s, hsL, hs⟩ :=
        mem_writeItems_flat d (w :: L) (fun u hu => hflat u (List.mem_cons_of_mem v hu)) h
      exact ⟨hq', s, List.mem_cons_of_mem v hsL, hs⟩

/-- A stray character in the dump of a flat list is an apostrophe of a string item. -/
theorem mem_render_flat {textOk : String → Prop} {L : List Value}
    (hflat : ∀ v ∈ L, FlatValue textOk v) (h : q ∈ (render Layout.dumps (.arr L)).toList) :
    q = '\'' ∧ ∃ s, .str s ∈ L ∧ '\'' ∈ s.toList := by
  have hopen : q ≠ '[' := by rcases hq with rfl | rfl <;> decide
  have hclose : q ≠ ']' := by rcases hq with rfl | rfl <;> decide
  cases L with
  | nil => rcases hq with rfl | rfl <;> simp [render, write] at h
  | cons w L =>
    rw [toList_render_cons] at h
    simp only [List.mem_cons, List.mem_append, List.not_mem_nil, hopen, hclose, false_or,
      or_false] at h
    exact mem_writeItems_flat hq 1 (w :: L) hflat h

end Stray

/-- The dump of a flat list is on one line. -/
theorem newline_not_mem_render {textOk : String → Prop} {L : List Value}
    (hflat : ∀ v ∈ L, FlatValue textOk v) : '\n' ∉ (render Layout.dumps (.arr L)).toList :=
  fun h => absurd (mem_render_flat (.inr rfl) hflat h).1 (by decide)

/-- The dump of a flat list whose texts hold no apostrophe holds none. -/
theorem apostrophe_not_mem_render {L : List Value}
    (hflat : ∀ v ∈ L, FlatValue (fun s => '\'' ∉ s.toList) v) :
    '\'' ∉ (render Layout.dumps (.arr L)).toList := by
  intro h
  obtain ⟨-, s, hs, hq⟩ := mem_render_flat (.inl rfl) hflat h
  exact hflat _ hs hq

end Questionnaire.Json