import Questionnaire.Value.Literal
import Questionnaire.Pattern.Syntax
import Mathlib.Data.Nat.Digits.Defs
import Mathlib.Tactic.IntervalCases
/-!
# Quoted texts are a prefix code

A text is written in literal notation between quotes, `'` unless the text holds `'` and no `"`,
with every character escaped (`escapeChar`): the quote and the backslash after a backslash,
tabs and line ends as `\t`, `\n`, `\r`, other control characters and characters that do not
print as `\x`, `\u` or `\U` and two, four or eight hexadecimal digits.

`readQuoted` reads such a body back up to its closing quote. No escape starts with the quote, and
each announces its own length, so the body reads back as the text whatever follows the quote
(`readQuoted_escaped`). Hence a quoted text determines the text, even as the start of a longer
message: `eq_of_startsWith_quoteText`.
-/

namespace Questionnaire

/-! ## Hexadecimal digits read back -/

/-- Leading zeros add nothing to the value of hexadecimal digits. -/
theorem hexValue_zeros (k : Nat) (ds : List Char) :
    Pattern.hexValue (List.replicate k '0' ++ ds) = Pattern.hexValue ds := by
  have hzeros : ∀ k, (List.replicate k '0').foldl (fun acc c =>
      acc * 16 + (if c.isDigit then c.toNat - '0'.toNat
        else if 'a' ≤ c && c ≤ 'f' then c.toNat - 'a'.toNat + 10
        else c.toNat - 'A'.toNat + 10)) 0 = 0 := by
    intro k
    induction k with
    | zero => rfl
    | succ k ih => rw [List.replicate_succ, List.foldl_cons]; simpa using ih
  simp only [Pattern.hexValue, List.foldl_append, hzeros]

/-- The value of one hexadecimal digit. -/
theorem hexValue_digitChar {n : Nat} (h : n < 16) : Pattern.hexValue [Nat.digitChar n] = n := by
  interval_cases n <;> rfl

/-- A last digit multiplies the value of the digits before it by 16. -/
theorem hexValue_append_singleton (ds : List Char) (c : Char) :
    Pattern.hexValue (ds ++ [c]) = Pattern.hexValue ds * 16 + Pattern.hexValue [c] := by
  simp [Pattern.hexValue, List.foldl_append]

/-- The digits of a number in base 16 read back as the number. -/
theorem hexValue_toDigits (n : Nat) : Pattern.hexValue (Nat.toDigits 16 n) = n := by
  induction n using Nat.strong_induction_on with
  | _ n ih =>
    rcases Nat.lt_or_ge n 16 with hn | hn
    · rw [Nat.toDigits_of_lt_base hn, hexValue_digitChar hn]
    · -- the last digit is the remainder, the others the digits of the quotient
      rw [Nat.toDigits_of_base_le (by norm_num) hn, hexValue_append_singleton,
        ih (n / 16) (by omega), hexValue_digitChar (by omega)]
      omega

/-- Padded hexadecimal digits read back as the number. -/
theorem hexValue_hexDigits (n w : Nat) : Pattern.hexValue (hexDigits n w).toList = n := by
  simp only [hexDigits, String.toList_ofList, hexValue_zeros, hexValue_toDigits]

/-- A number below `16 ^ w` takes exactly `w` padded hexadecimal digits. -/
theorem length_hexDigits {n w : Nat} (hw : 0 < w) (h : n < 16 ^ w) :
    (hexDigits n w).toList.length = w := by
  have hlen := Nat.toDigits_length 16 n w hw h
  simp only [hexDigits, String.toList_ofList, List.length_append, List.length_replicate]
  omega

/-! ## Quoted texts read back -/

/-- Every character lies below the first code point past Unicode. -/
theorem Char.toNat_lt_max (c : Char) : c.toNat < 0x110000 := by
  have hv := c.valid
  simp only [UInt32.isValidChar, Nat.isValidChar] at hv
  simp only [Char.toNat]
  omega

/-- The number of hexadecimal digits that a letter after a backslash announces: two after `x`,
four after `u`, eight after `U`. -/
def hexWidth : Char → Option Nat
  | 'x' => some 2
  | 'u' => some 4
  | 'U' => some 8
  | _ => none

/-- The character that a letter after a backslash stands for when no digits follow it. -/
def unescapeLetter : Char → Char
  | 't' => '\t'
  | 'n' => '\n'
  | 'r' => '\r'
  | e => e

/-- Reads the body of a literal quoted by `q` up to its closing quote, each backslash escape
standing for the character it was made from: the body and what follows the quote. -/
def readQuoted (q : Char) : List Char → Option (List Char × List Char)
  | [] => none
  | c :: rest =>
    if c = '\\' then
      match rest with
      | e :: more =>
        match hexWidth e with
        | some w =>
          (readQuoted q (more.drop w)).map fun r =>
            (Char.ofNat (Pattern.hexValue (more.take w)) :: r.1, r.2)
        | none => (readQuoted q more).map fun r => (unescapeLetter e :: r.1, r.2)
      | [] => none
    else if c = q then some ([], rest)
    else (readQuoted q rest).map fun r => (c :: r.1, r.2)
termination_by cs => cs.length
decreasing_by
  all_goals simp only [List.length_cons, List.length_drop]
  all_goals omega

/-- The quote of a literal is an apostrophe or a double quote. -/
theorem quoteFor_cases (s : String) : quoteFor s = '\'' ∨ quoteFor s = '"' := by
  unfold quoteFor
  split
  · exact Or.inr rfl
  · exact Or.inl rfl

/-- A character stands for itself when it is neither a backslash nor the quote. -/
theorem readQuoted_plain {q c : Char} (hb : c ≠ '\\') (hq : c ≠ q) (xs : List Char) :
    readQuoted q (c :: xs) = (readQuoted q xs).map fun r => (c :: r.1, r.2) := by
  rw [readQuoted.eq_def]
  dsimp only
  rw [if_neg hb, if_neg hq]

/-- A letter after a backslash that announces no digits stands for the character it names. -/
theorem readQuoted_letter (q : Char) {e : Char} (he : hexWidth e = none) (xs : List Char) :
    readQuoted q ('\\' :: e :: xs) =
      (readQuoted q xs).map fun r => (unescapeLetter e :: r.1, r.2) := by
  rw [readQuoted.eq_def]
  simp [he]

/-- **Hexadecimal digits after a backslash and a letter read back as the character they give**,
when there are as many as the letter announces. -/
theorem readQuoted_hex (q : Char) {e c : Char} {w : Nat} (he : hexWidth e = some w)
    (hc : c.toNat < 16 ^ w) (xs : List Char) :
    readQuoted q ('\\' :: e :: ((hexDigits c.toNat w).toList ++ xs)) =
      (readQuoted q xs).map fun r => (c :: r.1, r.2) := by
  have hw : 0 < w := by
    revert he
    unfold hexWidth
    split <;> intro he <;> cases he <;> decide
  have hlen := length_hexDigits hw hc
  rw [readQuoted.eq_def]
  simp [he, List.take_left' hlen, List.drop_left' hlen, hexValue_hexDigits]

/-- The characters of an escape with digits: the backslash, its letter, the digits. -/
theorem toList_hexEscape {tag : String} {e : Char} (htag : tag.toList = ['\\', e]) (ds : String)
    (xs : List Char) : (tag ++ ds).toList ++ xs = '\\' :: e :: (ds.toList ++ xs) := by
  rw [String.toList_append, htag]
  rfl

/-- **Every escape reads back as the character it was made from.** -/
theorem readQuoted_escapeChar {q : Char} (hq : q = '\'' ∨ q = '"') (c : Char) (xs : List Char) :
    readQuoted q ((escapeChar q c).toList ++ xs) =
      (readQuoted q xs).map fun r => (c :: r.1, r.2) := by
  unfold escapeChar
  split_ifs with h1 h2 h3 h4 h5 h6 h7 h8
  · -- the quote and the backslash stand for themselves after a backslash
    simp only [Bool.or_eq_true, decide_eq_true_eq] at h1
    rcases hq with rfl | rfl <;> rcases h1 with rfl | rfl <;> exact readQuoted_letter _ rfl xs
  · subst h2; exact readQuoted_letter q rfl xs
  · subst h3; exact readQuoted_letter q rfl xs
  · subst h4; exact readQuoted_letter q rfl xs
  · -- a control character: two hexadecimal digits
    rw [toList_hexEscape (e := 'x') rfl]
    exact readQuoted_hex q rfl (by simp at h5; omega) xs
  · -- a printable character stands for itself
    simp only [Bool.or_eq_true, decide_eq_true_eq, not_or] at h1
    rw [String.toList_singleton, List.singleton_append, readQuoted_plain h1.2 h1.1]
  · rw [toList_hexEscape (e := 'x') rfl]
    exact readQuoted_hex q rfl (lt_of_lt_of_le h7 (by norm_num)) xs
  · rw [toList_hexEscape (e := 'u') rfl]
    exact readQuoted_hex q rfl (lt_of_lt_of_le h8 (by norm_num)) xs
  · rw [toList_hexEscape (e := 'U') rfl]
    exact readQuoted_hex q rfl (lt_trans (Char.toNat_lt_max c) (by norm_num)) xs

/-- The escapes of a text, followed by the closing quote, read back as the text. -/
theorem readQuoted_escaped {q : Char} (hq : q = '\'' ∨ q = '"') (cs rest : List Char) :
    readQuoted q (cs.flatMap (fun c => (escapeChar q c).toList) ++ q :: rest) =
      some (cs, rest) := by
  induction cs with
  | nil =>
    rw [List.flatMap_nil, List.nil_append, readQuoted.eq_def]
    rcases hq with rfl | rfl <;> simp
  | cons c cs ih =>
    rw [List.flatMap_cons, List.append_assoc, readQuoted_escapeChar hq, ih]
    rfl

/-- The characters of a quoted text: its quote, the escapes of its characters, its quote. -/
theorem toList_quoteText (s : String) :
    (quoteText s).toList = quoteFor s ::
      (s.toList.flatMap fun c => (escapeChar (quoteFor s) c).toList) ++ [quoteFor s] := by
  simp [quoteText, String.toList_join, List.flatMap_map]

/-- **A quoted text starts no other quoted text**: quoted texts are a prefix code, so a text
that starts with a quoted text determines it. -/
theorem eq_of_startsWith_quoteText {p s rest : String}
    (h : (quoteText s ++ rest).startsWith (quoteText p) = true) : p = s := by
  obtain ⟨t, ht⟩ := String.startsWith_string_iff.1 h
  rw [String.toList_append, toList_quoteText, toList_quoteText] at ht
  simp only [List.cons_append, List.cons.injEq, List.append_assoc, List.nil_append] at ht
  -- both start with their quote, which is then the same, and read back as their texts
  obtain ⟨hquote, hbody⟩ := ht
  have hp := readQuoted_escaped (quoteFor_cases p) p.toList t
  have hs := readQuoted_escaped (quoteFor_cases s) s.toList rest.toList
  rw [hbody, hquote, hs] at hp
  exact String.toList_inj.1 (Prod.mk.inj (Option.some.inj hp)).1.symm

/-- The first of some texts whose quoted text starts a message led by the quoted `s` is `s`,
when `s` is among them. -/
theorem find?_quoteText {names : List String} {s rest : String} (hs : s ∈ names) :
    ((names.find? fun p => (quoteText s ++ rest).startsWith (quoteText p)).orElse
      fun _ => names.head?) = some s := by
  have hself : (quoteText s ++ rest).startsWith (quoteText s) = true :=
    String.startsWith_string_iff.2 ⟨rest.toList, (String.toList_append ..).symm⟩
  have hfound : (names.find? fun p => (quoteText s ++ rest).startsWith (quoteText p)).isSome :=
    List.find?_isSome.2 ⟨s, hs, hself⟩
  obtain ⟨p, hp⟩ := Option.isSome_iff_exists.1 hfound
  have hpfx := List.find?_some hp
  beta_reduce at hpfx
  rw [hp, eq_of_startsWith_quoteText hpfx]
  rfl

end Questionnaire
