import OnePass.Scope.Basic
import OnePass.Trace.Event
/-!
# The journal of an analysis

A journal records events in order, each at the depth of the rules open at that moment, and holds the
scope in which variables are declared. A journal that echoes prints each event as it is recorded.
-/
namespace OnePass

structure Journal where
  events : Array Event
  depth : Nat
  scope : Scope
  echo : Bool
  printed : Array String

/-- Whether a rule is entered or left. -/
inductive Passage where
  | commence | finish
  deriving DecidableEq, Repr

namespace Journal

/-- A journal without events, over the given scope. -/
def start (scope : Scope) (echo : Bool) : Journal :=
  ⟨#[], 0, scope, echo, #[]⟩

def record (journal : Journal) (occurrence : Occurrence) : Journal :=
  let event : Event := ⟨journal.depth, occurrence⟩
  { journal with
    events := journal.events.push event
    printed := if journal.echo then journal.printed.push event.render else journal.printed }

/-- Records that a rule is entered; later events stand one level deeper. -/
def commence (journal : Journal) (rule : String) : Journal :=
  let entered := journal.record (.commence rule)
  { entered with depth := entered.depth + 1 }

/-- Records that a rule is left, at the depth it was entered at, which never falls below zero. -/
def finish (journal : Journal) (rule : String) : Journal :=
  { journal with depth := journal.depth - 1 }.record (.finish rule)

def terminal (journal : Journal) (token : Token) : Journal :=
  journal.record (.terminal token)

def complain (journal : Journal) (message : String) (line : Int) : Journal :=
  journal.record (.complaint message line)

/-- Adds a variable to the scope and records it if it is then the live one of its name. -/
def declare (journal : Journal) (v : Variable) : Variable × Journal :=
  let (stored, scope) := journal.scope.add v
  let added := { journal with scope }
  (stored, if stored = v then added.record (.declare v) else added)

/-- Removes a variable from the scope and records it if it was the live one of its name. -/
def drop (journal : Journal) (v : Variable) : Journal :=
  let (removed, scope) := journal.scope.remove v
  let dropped := { journal with scope }
  if removed then dropped.record (.remove v) else dropped

def complaint? (event : Event) : Option String :=
  match event.occurrence with
  | .complaint message _ => some message
  | _ => none

def passage? (event : Event) : Option (Passage × String) :=
  match event.occurrence with
  | .commence rule => some (.commence, rule)
  | .finish rule => some (.finish, rule)
  | _ => none

def terminal? (event : Event) : Option Token :=
  match event.occurrence with
  | .terminal token => some token
  | _ => none

def complaints (journal : Journal) : List String :=
  journal.events.toList.filterMap complaint?

/-- The rules entered and left. -/
def passages (journal : Journal) : List (Passage × String) :=
  journal.events.toList.filterMap passage?

/-- The tokens accepted. -/
def terminals (journal : Journal) : List Token :=
  journal.events.toList.filterMap terminal?

/-- Whether the passages leave the rules in `unfinished`, and those they enter, innermost first. -/
def closes : (unfinished : List String) → List (Passage × String) → Bool
  | unfinished, [] => unfinished.isEmpty
  | unfinished, (.commence, rule) :: rest => closes (rule :: unfinished) rest
  | innermost :: unfinished, (.finish, rule) :: rest => innermost = rule && closes unfinished rest
  | [], (.finish, _) :: _ => false

def isBalanced (journal : Journal) : Bool :=
  closes [] journal.passages

def render (journal : Journal) : String :=
  "\n".intercalate (journal.events.toList.map Event.render)

/-- What an echoing journal has printed, each event on a line of its own. -/
def output (journal : Journal) : String :=
  String.join (journal.printed.toList.map (· ++ "\n"))

@[simp] theorem events_record (journal : Journal) (occurrence : Occurrence) :
    (journal.record occurrence).events.toList =
      journal.events.toList ++ [⟨journal.depth, occurrence⟩] := by
  simp [record]

end Journal

end OnePass
