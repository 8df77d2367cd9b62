import Questionnaire.Descriptor
import Questionnaire.Answer
import Questionnaire.Issue
import Questionnaire.Condition
import Questionnaire.Log
/-!
# Sessions

A session runs a questionnaire against a respondent, who answers each prompt, and a validator,
who checks the whole answers document. Its state is the answers document, the respondent's own
state, the log records so far, a copy of the answers at every validation, and the questions
answered so far with the answers stored for them.

The respondent is a record of three actions on a state of its own: answer a prompt (or stop the
session, when it has nothing left to say), take note of a rejected answer, and take note of the
start of a repair pass. A scripted respondent and the console are two such records.

A session step either goes on with a value or stops with a `Halt`; either way the state reached is
kept, so that what was shown before the stop is not lost.
-/

namespace Questionnaire

/-- Why a session stopped. -/
inductive Halt where
  /-- Malformed data. -/
  | fault (f : Fault)
  /-- The script holds no answer at all for a question. -/
  | noScriptedAnswer (id : String)
  /-- The script's number of answers is used up. -/
  | scriptExhausted (limit : Nat)
  /-- The input ended. -/
  | endOfInput
  /-- The editor failed. -/
  | editorFailed
  /-- The repair limit is not above zero. -/
  | limitNotPositive
  /-- A step bound that the respondent's own limits make unreachable. -/
  | outOfSteps

/-- Answers prompts, on a state of type `σ`. `budget` bounds the number of answers the
respondent can still give. -/
structure Respondent (σ : Type) where
  ask : Descriptor → σ → EStateM.Result Halt σ Value
  reject : Descriptor → String → σ → σ
  passStarted : Nat → Value → List Issue → σ → σ
  budget : σ → Nat

/-- Checks the whole answers document: given the answers and the number of earlier checks, the
issues found and the log records of the check. -/
structure Validator where
  check : Value → Nat → List Issue × List LogRecord

/-- The state of a session. `answered` lists every answer stored, with its question, in the
order stored; no step reads it. -/
structure Session (σ : Type) where
  answers : Value
  respondent : σ
  log : Array LogRecord := #[]
  validations : Array Value := #[]
  answered : Array (Question × Value) := #[]

/-- A step of a session. -/
abbrev Step (σ α : Type) := EStateM Halt (Session σ) α

namespace Step

variable {σ : Type}

/-- Adds a log record. -/
def note (level : Level) (channel : Channel) (text : String) : Step σ Unit :=
  modify fun s => { s with log := s.log.push ⟨level, channel, text⟩ }

/-- Adds log records. -/
def noteAll (records : List LogRecord) : Step σ Unit :=
  modify fun s => { s with log := s.log ++ records.toArray }

/-- Stops on a fault. -/
def ofExcept (e : Except Fault α) : Step σ α :=
  match e with
  | .ok a => pure a
  | .error f => throw (.fault f)

/-- The respondent answers a prompt. -/
def ask (r : Respondent σ) (d : Descriptor) : Step σ Value := fun s =>
  match r.ask d s.respondent with
  | .ok v t => .ok v { s with respondent := t }
  | .error h t => .error h { s with respondent := t }

/-- The respondent takes note of a rejected answer. -/
def reject (r : Respondent σ) (d : Descriptor) (message : String) : Step σ Unit :=
  modify fun s => { s with respondent := r.reject d message s.respondent }

/-- The respondent takes note of the start of a repair pass. -/
def passStarted (r : Respondent σ) (n : Nat) (limit : Value) (issues : List Issue) :
    Step σ Unit :=
  modify fun s => { s with respondent := r.passStarted n limit issues s.respondent }

/-- Validates the answers, keeping a copy of what was validated. -/
def validate (v : Validator) : Step σ (List Issue) := do
  let s ← get
  let (issues, records) := v.check s.answers s.validations.size
  set { s with validations := s.validations.push s.answers, log := s.log ++ records.toArray }
  pure issues

/-- Whether a question with the optional condition is active for the answers so far; a condition
text that does not parse is noted. -/
def isActive (dependsOn : Option String) : Step σ Bool := do
  match dependsOn with
  | none => pure true
  | some text =>
    let c := Condition.parse text
    match c with
    | .always (some _) => note .debug .conditions ("condition_unparsed expr=" ++ quoteText text)
    | _ => pure ()
    let s ← get
    ofExcept (c.holds s.answers)

/-- Stores the answer to a question at the question's id, noting every intermediate value that
had to be replaced. -/
def store (q : Question) (v : Value) : Step σ Unit := do
  let s ← get
  let (answers, replaced) ← ofExcept (s.answers.setAt q.id v)
  for r in replaced do
    note .warning .paths ("set_path_replaced_value path=" ++ q.id ++ " segment=" ++ r.segment ++
      " previous=" ++ r.previous.literal)
  modify fun s => { s with answers := answers, answered := s.answered.push (q, v) }

end Step

end Questionnaire
