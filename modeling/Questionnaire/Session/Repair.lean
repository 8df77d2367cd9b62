import Questionnaire.Session.Acquire
/-!
# Repair passes

After the primary pass the answers are validated as a whole. While fewer passes than the limit
have run: validate; with no issue the run is done; otherwise the respondent hears of the pass,
the issues are reconciled to question ids, and each failing question that exists (the last one
declared with its id) and is active is asked again. A pass whose issues match no question ends
the run as exhausted without counting. When the limit is reached the answers are validated once
more: done without issues, exhausted with them.

The limit is a number, whole or fractional: a pass starts while the count of finished passes is
below it. A limit that is not above zero is refused.
-/

namespace Questionnaire

/-- How a run ended. -/
inductive RunStatus where
  | done
  | exhausted
deriving DecidableEq, Repr

/-- The name of a run status. -/
def RunStatus.name : RunStatus → String
  | .done => "done"
  | .exhausted => "exhausted"

/-- The outcome of a run. -/
structure Outcome where
  status : RunStatus
  answers : Value
  passes : Nat
  issues : List Issue
  unreconciled : List Issue

namespace PassLimit

/-- Whether a pass may start after `passes` finished ones. -/
def allows (limit : Value) (passes : Nat) : Bool :=
  match limit with
  | .int n => (passes : Int) < n
  | .bool b => passes < (if b then 1 else 0)
  | .float x => Float.ofNat passes < x
  | _ => false

/-- An upper bound on the number of passes a limit allows. -/
def bound (limit : Value) : Nat :=
  match limit with
  | .int n => n.toNat
  | .bool b => if b then 1 else 0
  | .float x => if x.isNaN || x ≤ 0 then 0 else (x.ceil.toUInt64.toNat)
  | _ => 0

/-- Checks that a limit is a number above zero. -/
def validate (limit : Value) : Except Halt Unit :=
  match limit with
  | .int n => if n ≤ 0 then .error .limitNotPositive else .ok ()
  | .bool b => if b then .ok () else .error .limitNotPositive
  | .float x => if x ≤ 0 then .error .limitNotPositive else .ok ()
  | _ => .error (.fault .notComparable)

end PassLimit

namespace Step

variable {σ : Type}

/-- The last question declared with an id. -/
def lastWithId (qs : List Question) (id : String) : Option Question :=
  qs.reverse.find? (·.id == id)

/-- Asks again each failing question that exists and is active; returns how many were asked. -/
def reask (r : Respondent σ) (qs : List Question) : List String → Nat → Step σ Nat
  | [], asked => pure asked
  | id :: rest, asked => do
    match lastWithId qs id with
    | none => reask r qs rest asked
    | some q =>
      if ← isActive q.dependsOn then
        let _ ← acquire r q
        reask r qs rest (asked + 1)
      else
        note .info .repair ("repair_skip_inactive id=" ++ id ++ " depends_on=" ++
          optLiteral q.dependsOn)
        reask r qs rest asked

/-- Ends a run: the issues that match no question are noted and reported. -/
def finish (qs : List Question) (status : RunStatus) (passes : Nat) (issues : List Issue) :
    Step σ Outcome := do
  let left := if issues.isEmpty then [] else unreconciled issues (qs.map (·.id))
  for i in left do
    note .info .reconciliation ("reconcile_unmatched path=" ++ quoteText i.path ++ " message=" ++
      i.message)
  note .info .repair ("repair_finished status=" ++ status.name ++ " passes=" ++ toString passes ++
    " remaining=" ++ toString issues.length)
  let s ← get
  pure ⟨status, s.answers, passes, issues, left⟩

/-- Repair passes from `passes` finished ones on, for at most `fuel` more. -/
def repairFrom (r : Respondent σ) (qs : List Question) (v : Validator) (limit : Value) :
    Nat → Nat → Step σ Outcome
  | fuel, passes =>
    match fuel with
    | fuel' + 1 =>
      if PassLimit.allows limit passes then do
        let issues ← validate v
        if issues.isEmpty then finish qs .done passes []
        else
          note .info .repair ("repair_pass_start pass=" ++ toString (passes + 1) ++ " max=" ++
            limit.text ++ " issues=" ++ toString issues.length)
          passStarted r (passes + 1) limit issues
          let failing := reconcile issues (qs.map (·.id))
          if failing.isEmpty then
            note .warning .repair ("repair_nothing_actionable pass=" ++ toString (passes + 1) ++
              " issues=" ++ toString issues.length)
            finish qs .exhausted passes issues
          else
            let asked ← reask r qs failing 0
            note .info .repair ("repair_pass_done pass=" ++ toString (passes + 1) ++ " failing=" ++
              listLiteral failing ++ " asked=" ++ toString asked)
            repairFrom r qs v limit fuel' (passes + 1)
      else closing passes
    | 0 => closing passes
where
  /-- The validation after the last pass. -/
  closing (passes : Nat) : Step σ Outcome := do
    let issues ← validate v
    if issues.isEmpty then finish qs .done passes []
    else
      note .warning .repair ("repair_budget_exhausted passes=" ++ toString passes ++
        " remaining=" ++ toString issues.length)
      finish qs .exhausted passes issues

/-- Repair passes on the current answers, after checking the limit. -/
def repair (r : Respondent σ) (qs : List Question) (v : Validator) (limit : Value) :
    Step σ Outcome := do
  match PassLimit.validate limit with
  | .error h => throw h
  | .ok () => repairFrom r qs v limit (PassLimit.bound limit + 1) 0

/-- A whole run: the primary pass over the questions, then repair passes. -/
def run (r : Respondent σ) (qs : List Question) (v : Validator) (limit : Value) :
    Step σ Outcome := do
  note .info .engine ("questionnaire_start questions=" ++ toString qs.length ++
    " max_fix_passes=" ++ limit.text)
  primaryPass r qs
  repair r qs v limit

end Step

end Questionnaire
