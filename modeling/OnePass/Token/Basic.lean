import OnePass.Token.Kind
import OnePass.Text.Quoted
/-!
# Tokens

A token has a kind, the text it was written as and the line it starts on. The text of a string
constant leaves out the quotes.
-/
namespace OnePass

structure Token where
  kind : Kind
  text : String
  line : Int
  deriving DecidableEq, Repr

def Token.summary (token : Token) : String :=
  s!"Token({token.kind.tag}, {Text.quoted token.text}, {token.line})"

/-- The token that stands for the end of a text. -/
def Token.endOfFile (line : Int) : Token :=
  ⟨.endOfFile, "", line⟩

end OnePass
