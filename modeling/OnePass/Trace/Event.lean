import OnePass.Scope.Variable
import OnePass.Token.Basic
/-!
# Events of a trace

An analysis leaves a trace of the rules that it enters and leaves, the terminals it accepts, the
variables it declares and drops, and the complaints it makes. Each event is shown on a line that is
indented by the number of rules that were open.
-/
namespace OnePass

inductive Occurrence where
  | commence (rule : String)
  | finish (rule : String)
  | terminal (token : Token)
  | declare (v : Variable)
  | remove (v : Variable)
  | complaint (message : String) (line : Int)
  deriving DecidableEq, Repr

def Occurrence.describe : Occurrence → String
  | .commence rule => s!"begin {rule}"
  | .finish rule => s!"end {rule}"
  | .terminal token => s!"terminal '{token.text}' ({token.kind.display})"
  | .declare v => s!"DECL {v.label}"
  | .remove v => s!"DROP {v.identifier}"
  | .complaint message line => s!"ERROR line {line}: {message}"

structure Event where
  depth : Nat
  occurrence : Occurrence
  deriving DecidableEq, Repr

/-- Two spaces for each open rule. -/
def indent (depth : Nat) : String :=
  String.ofList (List.replicate (2 * depth) ' ')

def Event.render (event : Event) : String :=
  indent event.depth ++ event.occurrence.describe

end OnePass
