import Rulebook.EvalError
import Rulebook.Expr

/-
  What a run reports about itself while it goes on.

  Key definitions include:
    * `Event`
    * `Event.level`
    * `Event.message`
    * `Event.fields`
-/

namespace Rulebook

inductive Event where
  | tokenized (count : Nat)
  | compiled (text : String) (e : Expr)
  | skipped (fragment : List Token)
  | testStarted (name : String)
  | fired (rule : String) (target : FieldPath) (value : Value)
  | aborted (e : EvalError)
  | finished (passed failed : Nat)

namespace Event

/- The weight of an event; a test is a span of events. -/
def level : Event → String
  | .tokenized _ => "TRACE"
  | .compiled _ _ => "DEBUG"
  | .skipped _ => "WARN"
  | .testStarted _ => "SPAN"
  | .fired _ _ _ => "DEBUG"
  | .aborted _ => "DEBUG"
  | .finished _ _ => "INFO"

/- The wording of an event, or the name of a span. -/
def message : Event → String
  | .tokenized _ => "tokenized source"
  | .compiled _ _ => "compiled expression"
  | .skipped _ => "skipping given fragment without '='"
  | .testStarted _ => "test"
  | .fired _ _ _ => "rule fired"
  | .aborted _ => "test aborted"
  | .finished _ _ => "run finished"

/- The details of an event, by name. -/
def fields : Event → List (String × String)
  | .tokenized count => [("count", count.repr)]
  | .compiled text e =>
      [("expression", text), ("compiled", e.text)]
  | .skipped fragment =>
      [("fragment", spellingOfTokens fragment)]
  | .testStarted name => [("name", name)]
  | .fired rule target value =>
      [("rule", rule), ("target", target.text),
       ("value", value.text)]
  | .aborted e => [("error", e.message)]
  | .finished passed failed =>
      [("passed", passed.repr), ("failed", failed.repr)]

end Event

end Rulebook
