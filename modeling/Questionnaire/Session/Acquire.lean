import Questionnaire.Session.Basic
/-!
# Acquiring answers

`acquire` asks one question until an answer passes the question's own rules: at every attempt
it describes the prompt from the answers as they are, takes the respondent's raw answer, and
either stores the normalised answer at the question's id or reports the rejection to the
respondent and asks again. Malformed data stops the session.

`primaryPass` acquires every question that is active against the answers so far, in
questionnaire order.
-/

namespace Questionnaire

namespace Step

variable {σ : Type}

/-- Attempts a question from attempt number `attempt` on, for at most `fuel` more attempts. -/
def acquireFrom (r : Respondent σ) (q : Question) : Nat → Nat → Step σ Value
  | 0, _ => throw .outOfSteps
  | fuel + 1, attempt => do
    let s ← get
    let d ← ofExcept (Descriptor.forQuestion q s.answers)
    let raw ← ask r d
    match Answer.accept q raw with
    | .error (.rejected rej) =>
      note .info .acquisition ("acquire_rejected id=" ++ q.id ++ " attempt=" ++ toString attempt ++
        " reason=" ++ rej.message)
      reject r d rej.message
      acquireFrom r q fuel (attempt + 1)
    | .error (.fault f) => throw (.fault f)
    | .ok v =>
      store q v
      note .debug .acquisition ("acquire_ok id=" ++ q.id ++ " attempt=" ++ toString attempt)
      pure v

/-- Asks a question until an answer is accepted, stores it and returns it. Every attempt uses up
one of the respondent's answers, so its budget bounds the attempts. -/
def acquire (r : Respondent σ) (q : Question) : Step σ Value := do
  let s ← get
  acquireFrom r q (r.budget s.respondent + 1) 1

/-- Acquires the active questions in order; returns how many were asked. -/
def askActive (r : Respondent σ) : List Question → Nat → Step σ Nat
  | [], asked => pure asked
  | q :: rest, asked => do
    if ← isActive q.dependsOn then
      let _ ← acquire r q
      askActive r rest (asked + 1)
    else
      note .debug .primaryPass ("primary_skip id=" ++ q.id ++ " depends_on=" ++
        optLiteral q.dependsOn)
      askActive r rest asked

/-- Acquires every question that is active against the answers so far, in order. -/
def primaryPass (r : Respondent σ) (qs : List Question) : Step σ Unit := do
  let asked ← askActive r qs 0
  note .info .primaryPass ("primary_pass_done total=" ++ toString qs.length ++ " asked=" ++
    toString asked)

end Step

end Questionnaire
