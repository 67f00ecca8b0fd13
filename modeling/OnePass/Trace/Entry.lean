import OnePass.Trace.Event
/-!
# Entries of a trace as they are written down

An entry says what happened by a word and may have any subject and any depth, so that not every
entry can be shown. A word that is not known is taken for a complaint. Main statement: the entry of
an event is shown as the event is.
-/
namespace OnePass

inductive Subject where
  | text (text : String)
  | token (token : Token)
  | var (v : Variable)
  deriving DecidableEq, Repr

def Subject.shown : Subject → String
  | .text s => s
  | .token t => t.summary
  | .var v => v.label

structure Entry where
  word : String
  subject : Subject
  depth : Int
  line : Int
  deriving DecidableEq, Repr

namespace Entry

def terminal? : Subject → Option Occurrence
  | .token token => some (.terminal token)
  | _ => none

def remove? : Subject → Option Occurrence
  | .var v => some (.remove v)
  | _ => none

/-- The line of an entry without its indentation. Only a token can be accepted and only a variable
can be dropped. -/
def describe? (entry : Entry) : Option String :=
  match entry.word with
  | "commence" => some (Occurrence.commence entry.subject.shown).describe
  | "finish" => some (Occurrence.finish entry.subject.shown).describe
  | "terminal" => (terminal? entry.subject).map Occurrence.describe
  | "declare" => some s!"DECL {entry.subject.shown}"
  | "remove" => (remove? entry.subject).map Occurrence.describe
  | _ => some (Occurrence.complaint entry.subject.shown entry.line).describe

/-- The line of an entry. A negative depth does not indent. -/
def render? (entry : Entry) : Option String :=
  entry.describe?.map (indent entry.depth.toNat ++ ·)

end Entry

/-- Complaints and terminals are written down with their line, all else with line 0. -/
def Event.entry (event : Event) : Entry :=
  match event.occurrence with
  | .commence rule => ⟨"commence", .text rule, event.depth, 0⟩
  | .finish rule => ⟨"finish", .text rule, event.depth, 0⟩
  | .terminal token => ⟨"terminal", .token token, event.depth, token.line⟩
  | .declare v => ⟨"declare", .var v, event.depth, 0⟩
  | .remove v => ⟨"remove", .var v, event.depth, 0⟩
  | .complaint message line => ⟨"error", .text message, event.depth, line⟩

theorem Event.render?_entry (event : Event) : event.entry.render? = some event.render := by
  obtain ⟨depth, occurrence⟩ := event
  cases occurrence <;> rfl

end OnePass
