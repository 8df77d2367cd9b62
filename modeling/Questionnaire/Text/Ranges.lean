/-!
# Sorted tables of code point ranges

Character properties are kept as arrays of disjoint inclusive ranges in increasing order. A lookup
halves the part of the table still in question at every step, so a table of fewer than `2^16`
entries is searched in at most 16 steps; the step count is an explicit bound.
-/

namespace Questionnaire.Text

/-- Searches the entries `[lo, hi)` of a table whose entries cover disjoint increasing ranges
(`key` gives an entry's inclusive range) for the entry whose range holds `n`. -/
def findRange {β : Type} (key : β → Nat × Nat) (t : Array β) (n : Nat) :
    Nat → Nat → Nat → Option β
  | 0, _, _ => none
  | fuel + 1, lo, hi =>
    if lo < hi then
      let mid := (lo + hi) / 2
      match t[mid]? with
      | none => none
      | some e =>
        if n < (key e).1 then findRange key t n fuel lo mid
        else if (key e).2 < n then findRange key t n fuel (mid + 1) hi
        else some e
    else none

/-- Whether a code point lies in one of the ranges of a sorted table of fewer than `2^16`
entries. -/
def inRanges (t : Array (Nat × Nat)) (n : Nat) : Bool :=
  (findRange id t n 16 0 t.size).isSome

example : inRanges #[(1, 3), (7, 9)] 8 ∧ !inRanges #[(1, 3), (7, 9)] 5 := by decide

end Questionnaire.Text
