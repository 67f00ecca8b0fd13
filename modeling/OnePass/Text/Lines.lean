/-!
# Line ends

A line of a file ends with a line feed, a carriage return, or a carriage return and a line feed.
Program texts know the line feed alone.
-/
namespace OnePass.Text

/-- Writes every line end as one line feed. -/
def unifyLineEnds : List Char → List Char
  | [] => []
  | '\r' :: '\n' :: rest => '\n' :: unifyLineEnds rest
  | c :: rest => (if c = '\r' then '\n' else c) :: unifyLineEnds rest

end OnePass.Text
