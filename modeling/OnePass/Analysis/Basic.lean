import OnePass.Analysis.Complaint
import OnePass.Analysis.Rule
import OnePass.Token.Source
import OnePass.Trace.Journal
/-!
# Steps of an analysis

An analyser looks at one token, the lookahead, and moves on only by accepting it. A step either
gives a result or stops; what the journal has recorded and the source has handed out stays as it is.
-/
namespace OnePass

/-- There is no lookahead until the first token has been read. -/
structure Analyser where
  source : Source
  lookahead : Option Token
  journal : Journal

/-- Why a step stops. Only a rejection is about the program that is analysed. The nesting allowance
is there to make the analysis terminate and is never used up. -/
inductive Stop where
  | notStarted
  | alreadyStarted
  | allowanceUsedUp
  | rejected (failure : Failure)
  deriving DecidableEq, Repr

namespace Stop

/-- The text of a stop. A rejection gives the diagnostic at its root. -/
def message : Stop → String
  | .notStarted => "parse() has not been started"
  | .alreadyStarted => "a SyntaxAnalyser can only parse once"
  | .allowanceUsedUp => "the nesting allowance is used up"
  | .rejected failure => failure.root.message

/-- The rules that a rejection passed through, outermost first. -/
def ruleTrace : Stop → List String
  | .rejected failure => failure.ruleTrace
  | _ => []

/-- A rejection passes out of a rule with a layer of that rule around it. -/
def through (rule : Rule) : Stop → Stop
  | .rejected failure => .rejected (failure.wrap rule.name)
  | stop => stop

end Stop

def Analyser.ofSource (source : Source) (journal : Journal) : Analyser :=
  ⟨source, none, journal⟩

abbrev Analysis : Type → Type :=
  EStateM Stop Analyser

namespace Analysis

/-- Reads the next token and makes it the lookahead. A lexical failure leaves the old one. -/
def pull : Analysis Token := fun analyser =>
  match analyser.source.next with
  | (.ok token, source) => .ok token { analyser with source, lookahead := some token }
  | (.error failure, source) => .error (.rejected failure) { analyser with source }

def lookahead : Analysis Token := fun analyser =>
  match analyser.lookahead with
  | some token => .ok token analyser
  | none => .error .notStarted analyser

def advance : Analysis Token := do
  let _ ← lookahead
  pull

def note (change : Journal → Journal) : Analysis Unit :=
  modify fun analyser => { analyser with journal := change analyser.journal }

/-- Records a complaint about the lookahead and rejects the program. -/
def report {α : Type} (complaint : Complaint) : Analysis α := do
  let token ← lookahead
  let message := complaint.message (← get).source.filename token
  note (·.complain message token.line)
  throw (.rejected (.diagnostic complaint.category message token.line))

/-- Accepts the lookahead if it is of the given kind, and records it before the next token is
read. -/
def accept (kind : Kind) : Analysis Token := do
  let token ← lookahead
  if token.kind = kind then
    note (·.terminal token)
    let _ ← pull
    return token
  else report (.expected kind)

/-- Accepts the name of a live variable. -/
def acceptVariable : Analysis Variable := do
  let token ← lookahead
  if token.kind = .identifier then
    match (← get).journal.scope.find? token.text with
    | some v =>
      let _ ← accept .identifier
      return v
    | none => report (.undeclared token.text)
  else report (.expected .identifier)

/-- Issues a variable and declares it if its name is new. The variable issued is the result in
either case, so that it is known later whether it is the live one. -/
def declare (identifier : String) (type : VarType) : Analysis Variable := fun analyser =>
  let (v, scope) := analyser.journal.scope.issue identifier type
  let (_, journal) := { analyser.journal with scope }.declare v
  .ok v { analyser with journal }

/-- A difference takes no String, and a sum takes Strings only on both sides. -/
def compatible (operator : Kind) (left right : VarType) : Bool :=
  if operator = .minus then left ≠ .string && right ≠ .string
  else (left = .string) == (right = .string)

def checkAdding (operator : Kind) (left right : VarType) : Analysis Unit :=
  if compatible operator left right then pure ()
  else report (.incompatible left right operator)

/-- No operand of a product is a String. -/
def checkMultiplying (operator : Kind) (side : Side) (type : VarType) : Analysis Unit :=
  if type = .string then report (.stringOperand operator side)
  else pure ()

end Analysis

end OnePass
