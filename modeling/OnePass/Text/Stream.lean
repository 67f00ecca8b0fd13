import OnePass.Text.Index
/-!
# A reading head on a text

The head stands at a position, which may be placed anywhere, and knows the number of the line it is
on. A negative position counts from the end of the text when a character is read there, as far as it
is an index.
-/
namespace OnePass.Text

structure Stream where
  source : List Char
  position : Int
  line : Int

namespace Stream

/-- Why no character can be read. -/
inductive Refusal where
  | pastEnd (position line : Int)
  | noIndex
  | outOfRange
  deriving DecidableEq, Repr

def Refusal.message : Refusal → String
  | .pastEnd position line =>
    s!"Attempted to read past end of source at position=<{position}>, line=<{line}>"
  | .noIndex => notAnIndex
  | .outOfRange => "string index out of range"

def atEnd (stream : Stream) : Bool :=
  stream.source.length ≤ stream.position

/-- The character at an index, where a negative index counts from the end. -/
def charAt? (stream : Stream) (index : Int) : Option Char :=
  let counted := if index < 0 then index + stream.source.length else index
  if counted < 0 then none else stream.source[counted.toNat]?

/-- Reads the character at the head and moves on; a refusal leaves the head where it is. -/
def next (stream : Stream) : Except Refusal Char × Stream :=
  if stream.atEnd then (.error (.pastEnd stream.position stream.line), stream)
  else if ¬ IsIndex stream.position then (.error .noIndex, stream)
  else match stream.charAt? stream.position with
    | none => (.error .outOfRange, stream)
    | some c =>
      (.ok c,
        { stream with
          position := stream.position + 1
          line := if c = '\n' then stream.line + 1 else stream.line })

/-- The character `offset` places from the head, which no index outside the text has. -/
def peek (stream : Stream) (offset : Int) : Option Char :=
  let index := stream.position + offset
  if index < 0 then none else stream.source[index.toNat]?

theorem next_of_atEnd {stream : Stream} (h : stream.atEnd = true) :
    stream.next = (.error (.pastEnd stream.position stream.line), stream) := by
  simp [next, h]

end Stream

end OnePass.Text
