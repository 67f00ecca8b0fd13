import OnePass.Analysis.Procedures
/-!
# Running rules and whole programs

A rule that runs is recorded when it is entered and when it is left, and adds a layer to a rejection
that passes through it. Between two accepted tokens at most three rules are entered one inside the
other, so the tokens still to come bound the nesting.
-/
namespace OnePass

/-- Enters a rule, runs its procedure, and leaves the rule if the procedure gives a result. -/
def Analysis.enclose {α : Type} (rule : Rule) (inner : Analysis α) : Analysis α := fun analyser =>
  match inner { analyser with journal := analyser.journal.commence rule.name } with
  | .ok a after => .ok a { after with journal := after.journal.finish rule.name }
  | .error stop after => .error (stop.through rule) after

/-- Runs rules nested up to the given depth. -/
def runWithin : (allowance : Nat) → Run
  | 0, _ => throw .allowanceUsedUp
  | allowance + 1, rule => Analysis.enclose rule (procedure (runWithin allowance) rule)

namespace Analyser

/-- A depth of nesting that no rule exceeds from here: three rules for each token that may still be
accepted, and three more. -/
def allowance (analyser : Analyser) : Nat :=
  3 * (analyser.source.remaining + 1) + 3

end Analyser

namespace Analysis

def runRule (rule : Rule) : Analysis rule.Result := fun analyser =>
  runWithin analyser.allowance rule analyser

/-- Analyses a whole program, which an analyser does once. The end of the text is looked at and not
accepted. -/
def parse : Analysis Unit := do
  if (← get).lookahead.isSome then
    throw .alreadyStarted
  let _ ← pull
  runRule .statementPart
  if (← lookahead).kind ≠ .endOfFile then
    report (.expected .endOfFile)

end Analysis

/-- Analyses a program text from an empty scope. -/
def analyseText (filename text : String) (echo : Bool) : EStateM.Result Stop Analyser Unit :=
  Analysis.parse (.ofSource (.text (.ofString filename text)) (.start .empty echo))

end OnePass
