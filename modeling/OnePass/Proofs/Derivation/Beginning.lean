import OnePass.Grammar.Tree
/-!
# The tokens of a tree

The first token of a tree tells the rules apart between which an analysis has to choose. Neither the
end of the text nor a symbol that belongs to no token is among the tokens of a tree.
-/
namespace OnePass

theorem Leaf.kind_eq {kind : Kind} (leaf : Leaf [kind]) : leaf.val.kind = kind :=
  List.mem_singleton.mp leaf.property

theorem Leaf.kind_ne {kinds : List Kind} (leaf : Leaf kinds) {kind : Kind}
    (habsent : kind ∉ kinds) :
    leaf.val.kind ≠ kind := by
  intro hkind
  exact habsent (hkind ▸ leaf.property)

private theorem Leaf.kind_notMem {kinds others : List Kind} (leaf : Leaf kinds)
    (hdisjoint : ∀ kind ∈ kinds, kind ∉ others) : leaf.val.kind ∉ others :=
  hdisjoint _ leaf.property

theorem Leaf.kind_mem {kinds kinds' : List Kind} (leaf : Leaf kinds) (hsubset : kinds ⊆ kinds') :
    leaf.val.kind ∈ kinds' :=
  hsubset leaf.property

/-- The kinds of token that a tree of the rule may begin with. -/
def Rule.firsts : Rule → List Kind
  | .statementPart => [.beginWord]
  | .statementList | .statement => Kind.starters
  | .ifStatement => [.ifWord]
  | .whileStatement => [.whileWord]
  | .procedureStatement => [.callWord]
  | .untilStatement => [.doWord]
  | .forStatement => [.forWord]
  | .assignmentStatement | .argumentList | .condition => [.identifier]
  | .conditionalOperator => Kind.relational
  | .expression | .term | .factor => [.identifier, .numberConstant, .leftParenthesis]

namespace Grammar

@[simp] theorem Mark.token?_ofLeaf {kinds : List Kind} (leaf : Leaf kinds) :
    Mark.token? (Mark.ofLeaf leaf) = some leaf.val := rfl

@[simp] theorem Mark.filterMap_token?_around (rule : Rule) (parts : List Mark) :
    (Mark.around rule parts).filterMap Mark.token? = parts.filterMap Mark.token? := by
  simp [Mark.around, Mark.token?, List.filterMap_cons]

namespace Tree

private theorem begins_of_part {kinds : List Kind} {part : List Token} (back : List Token)
    (hpart : ∃ token tokens, part = token :: tokens ∧ token.kind ∈ kinds) {kinds' : List Kind}
    (hsubset : kinds ⊆ kinds') :
    ∃ token tokens, part ++ back = token :: tokens ∧ token.kind ∈ kinds' := by
  obtain ⟨token, tokens, rfl, hkind⟩ := hpart
  exact ⟨token, tokens ++ back, rfl, hsubset hkind⟩

theorem exists_yield_eq_cons {rule : Rule} (t : Tree rule) :
    ∃ token tokens, t.yield = token :: tokens ∧ token.kind ∈ rule.firsts := by
  induction t with
  | program opening => exact ⟨_, _, rfl, opening.property⟩
  | last statement ih => simpa [yield, trace] using begins_of_part [] ih (by decide)
  | closed statement semicolon ih => simpa [yield, trace] using begins_of_part _ ih (by decide)
  | more statement semicolon rest ih => simpa [yield, trace] using begins_of_part _ ih (by decide)
  | assignment statement ih | choice statement ih | loop statement ih | call statement ih
  | repetition statement ih | iteration statement ih =>
      simpa [yield, trace] using begins_of_part [] ih (by decide)
  | assignValue target | assignString target => exact ⟨_, _, rfl, target.property⟩
  | ifThen opening | ifThenElse opening | whileLoop opening | callProcedure opening
  | doUntil opening | forLoop opening => exact ⟨_, _, rfl, opening.property⟩
  | lastArgument token | moreArguments token => exact ⟨_, _, rfl, token.property⟩
  | comparison left => exact ⟨_, _, rfl, left.property⟩
  | relation operator => exact ⟨_, _, rfl, operator.property⟩
  | lone term ih => simpa [yield, trace] using begins_of_part [] ih (by decide)
  | sum term operator rest ih => simpa [yield, trace] using begins_of_part _ ih (by decide)
  | single factor ih => simpa [yield, trace] using begins_of_part [] ih (by decide)
  | product factor operator rest ih => simpa [yield, trace] using begins_of_part _ ih (by decide)
  | name token => exact ⟨_, _, rfl, token.kind_mem (by decide)⟩
  | number token => exact ⟨_, _, rfl, token.kind_mem (by decide)⟩
  | parenthesised leftParenthesis =>
      exact ⟨_, _, rfl, leftParenthesis.kind_mem (by decide)⟩

theorem kind_notMem {rule : Rule} (t : Tree rule) :
    ∀ token ∈ t.yield, token.kind ∉ [Kind.endOfFile, .illegalSymbol] := by
  unfold yield
  -- Each token of a tree is one of its leaves or stands in one of its parts.
  induction t <;>
    simp only [trace, Mark.filterMap_token?_around, List.filterMap_append, List.filterMap_cons,
      List.filterMap_nil, Mark.token?_ofLeaf, List.forall_mem_append, List.forall_mem_cons,
      List.cons_append, List.append_assoc] <;>
    and_intros <;>
    first
    | assumption
    | exact Leaf.kind_notMem _ (by decide)
    | exact List.forall_mem_nil _

theorem kind_ne_endOfFile {rule : Rule} (t : Tree rule) :
    ∀ token ∈ t.yield, token.kind ≠ .endOfFile := by
  intro token htoken hend
  exact t.kind_notMem token htoken (by simp [hend])

end Tree

end Grammar

end OnePass
