/-!
# Faults

A fault is malformed data that stops an operation: a digit-like text that is no integer, an index
past the end of an array, a scalar where a container is needed, and so on. Each constructor names
the cause; faults carry no message of their own.
-/

namespace Questionnaire

/-- A cause that stops an operation on malformed data. -/
inductive Fault where
  /-- A text that had to be read as an integer is none. -/
  | notAnInteger (text : String)
  /-- An index outside an array. -/
  | indexOutOfRange (index : Int) (size : Nat)
  /-- A member was written into a value that is no array or object. -/
  | notAssignable
  /-- A member was read from a value that has no members. -/
  | noMembers
  /-- A value that had to be walked item by item has no items. -/
  | notIterable
  /-- An item that had to be text is not. -/
  | notText
  /-- A text operation was applied to a value that is no text. -/
  | notTextValue
  /-- A number was compared with a value that is no number. -/
  | notComparable
  /-- A logging level name that no level has. -/
  | unknownLevel (name : String)
deriving Repr, Inhabited

end Questionnaire
