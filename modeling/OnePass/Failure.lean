import OnePass.Text.Quoted
/-!
# Failures of an analysis

A failure is a chain of layers. The root is the diagnostic that stopped the analysis, and each rule
that was under way adds a layer of its own around it.
-/
namespace OnePass

inductive Category where
  | general | syntactic | semantic | lexical
  deriving DecidableEq, Repr

namespace Category

def name : Category → String
  | .general => "CompilationError"
  | .syntactic => "SyntaxAnalysisError"
  | .semantic => "SemanticAnalysisError"
  | .lexical => "LexicalError"

end Category

/-- One layer of a failure, with the rule that added it if a rule did. -/
structure Layer where
  category : Category
  message : String
  line : Int
  rule : Option String
  deriving DecidableEq, Repr

def Layer.summary (layer : Layer) : String :=
  s!"{layer.category.name}({Text.quoted layer.message}, line={layer.line})"

/-- A chain of layers around a root, the outermost layer first. -/
structure Failure where
  outer : List Layer
  root : Layer
  deriving DecidableEq, Repr

namespace Failure

def ofLayer (layer : Layer) : Failure :=
  ⟨[], layer⟩

/-- A diagnostic that no rule has passed on yet. -/
def diagnostic (category : Category) (message : String) (line : Int) : Failure :=
  ofLayer ⟨category, message, line, none⟩

def chain (failure : Failure) : List Layer :=
  failure.outer ++ [failure.root]

/-- The outermost layer. -/
def head (failure : Failure) : Layer :=
  failure.outer.head?.getD failure.root

def category (failure : Failure) : Category :=
  failure.head.category

def message (failure : Failure) : String :=
  failure.head.message

def line (failure : Failure) : Int :=
  failure.head.line

/-- The rules that the failure passed through, outermost first. -/
def ruleTrace (failure : Failure) : List String :=
  failure.chain.filterMap Layer.rule

/-- Puts a layer around the whole failure. -/
def under (layer : Layer) (failure : Failure) : Failure :=
  ⟨layer :: failure.outer, failure.root⟩

/-- Puts a rule's layer around the failure: its category and text are the root's, its line is that
of the layer it surrounds. -/
def wrap (rule : String) (failure : Failure) : Failure :=
  let message := s!"in {rule}: {failure.root.message}"
  failure.under ⟨failure.root.category, message, failure.line, some rule⟩

@[simp] theorem chain_under (layer : Layer) (failure : Failure) :
    (failure.under layer).chain = layer :: failure.chain := rfl

theorem ruleTrace_wrap (rule : String) (failure : Failure) :
    (failure.wrap rule).ruleTrace = rule :: failure.ruleTrace := by
  simp [ruleTrace, wrap]

end Failure

end OnePass
