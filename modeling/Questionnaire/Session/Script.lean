import Questionnaire.Session.Basic
/-!
# Scripted respondents

A scripted respondent answers from a queue of raw answers per question id. Each prompt takes the
next answer in the question's queue; once the queue is empty the last answer given for that id is
given again. A question for which no answer was ever scripted stops the session, and so does a
prompt beyond the total number of answers allowed.

The respondent keeps a trace: the ids asked and the default offered at each prompt, every
rejection with its message, and for every repair pass its number, the limit and the number of
issues.
-/

namespace Questionnaire

/-- The state of a scripted respondent. -/
structure Script where
  queues : List (String × List Value)
  last : List (String × Value) := []
  asks : Nat := 0
  maxAsks : Nat
  asked : Array String := #[]
  defaults : Array Value := #[]
  rejections : Array (String × String) := #[]
  passes : Array (Nat × Value × Nat) := #[]

namespace Script

/-- The queue of an id. -/
def queueOf (s : Script) (id : String) : List Value :=
  (s.queues.find? (·.1 == id)).map (·.2) |>.getD []

/-- Replaces the queue of an id. -/
def setQueue (queues : List (String × List Value)) (id : String) (q : List Value) :
    List (String × List Value) :=
  queues.map fun p => if p.1 == id then (id, q) else p

/-- The next answer for a prompt. -/
def answer (d : Descriptor) (s : Script) : EStateM.Result Halt Script Value :=
  if s.asks ≥ s.maxAsks then .error (.scriptExhausted s.maxAsks) s
  else
    let s := { s with asks := s.asks + 1, asked := s.asked.push d.name,
                      defaults := s.defaults.push d.default }
    match s.queueOf d.name with
    | v :: rest =>
      .ok v { s with queues := setQueue s.queues d.name rest,
                     last := (d.name, v) :: s.last.filter (·.1 != d.name) }
    | [] =>
      match s.last.find? (·.1 == d.name) with
      | some (_, v) => .ok v s
      | none => .error (.noScriptedAnswer d.name) s

/-- The scripted respondent. -/
def respondent : Respondent Script where
  ask := answer
  reject d message s := { s with rejections := s.rejections.push (d.name, message) }
  passStarted n limit issues s := { s with passes := s.passes.push (n, limit, issues.length) }
  budget s := s.maxAsks - s.asks

end Script

end Questionnaire
