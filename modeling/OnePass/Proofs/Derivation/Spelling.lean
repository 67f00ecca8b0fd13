import OnePass.Proofs.Derivation.Script
/-!
# The kinds decide what is grammatical

Tokens are the yield of a tree if their kinds are those of the yield of some tree: the tree takes
the tokens over, one for each of its leaves.
-/
namespace OnePass.Grammar.Tree

/-- Something can be made of all tokens that are of the same kinds as those given. -/
private def Recast (tokens : List Token) (goal : List Token → Prop) : Prop :=
  ∀ tokens', tokens'.map Token.kind = tokens.map Token.kind → goal tokens'

namespace Recast

variable {goal : List Token → Prop} {back : List Token}

private theorem nil (h : goal []) : Recast [] goal := by
  intro tokens htokens
  rw [List.map_nil, List.map_eq_nil_iff] at htokens
  exact htokens ▸ h

private theorem leaf {kinds : List Kind} (leaf : Leaf kinds)
    (h : ∀ leaf' : Leaf kinds, Recast back fun rest => goal (leaf'.val :: rest)) :
    Recast (leaf.val :: back) goal := by
  intro tokens htokens
  rw [List.map_cons, List.map_eq_cons_iff] at htokens
  obtain ⟨token, rest, rfl, hkind, hrest⟩ := htokens
  exact h ⟨token, hkind ▸ leaf.property⟩ rest hrest

private theorem tree {rule : Rule} {t : Tree rule}
    (ht : Recast t.yield fun front => ∃ t' : Tree rule, t'.yield = front)
    (h : ∀ t' : Tree rule, Recast back fun rest => goal (t'.yield ++ rest)) :
    Recast (t.yield ++ back) goal := by
  intro tokens htokens
  rw [List.map_append, List.map_eq_append_iff] at htokens
  obtain ⟨front, rest, rfl, hfront, hrest⟩ := htokens
  obtain ⟨t', rfl⟩ := ht front hfront
  exact h t' rest hrest

private theorem last {rule : Rule} {t : Tree rule}
    (ht : Recast t.yield fun front => ∃ t' : Tree rule, t'.yield = front)
    (h : ∀ t' : Tree rule, goal t'.yield) : Recast t.yield goal := by
  intro tokens htokens
  obtain ⟨t', rfl⟩ := ht tokens htokens
  exact h t'

end Recast

private theorem recast {rule : Rule} (t : Tree rule) :
    Recast t.yield fun tokens => ∃ t' : Tree rule, t'.yield = tokens := by
  induction t with
    simp only [yield, trace, Mark.filterMap_token?_around, List.filterMap_append,
      List.filterMap_cons, List.filterMap_nil, Mark.token?_ofLeaf, List.append_assoc,
      List.cons_append]
  | program opening body closing ih =>
      refine .leaf opening fun opening' => ?_
      refine .tree ih fun body' => ?_
      refine .leaf closing fun closing' => ?_
      exact .nil ⟨.program opening' body' closing', by simp [yield, trace]⟩
  | last statement ih =>
      exact .last ih fun statement' => ⟨.last statement', by simp [yield, trace]⟩
  | closed statement semicolon ih =>
      refine .tree ih fun statement' => ?_
      refine .leaf semicolon fun semicolon' => ?_
      exact .nil ⟨.closed statement' semicolon', by simp [yield, trace]⟩
  | more statement semicolon rest ih ihrest =>
      refine .tree ih fun statement' => ?_
      refine .leaf semicolon fun semicolon' => ?_
      exact .last ihrest fun rest' => ⟨.more statement' semicolon' rest', by simp [yield, trace]⟩
  | assignment statement ih =>
      exact .last ih fun statement' => ⟨.assignment statement', by simp [yield, trace]⟩
  | choice statement ih =>
      exact .last ih fun statement' => ⟨.choice statement', by simp [yield, trace]⟩
  | loop statement ih =>
      exact .last ih fun statement' => ⟨.loop statement', by simp [yield, trace]⟩
  | call statement ih =>
      exact .last ih fun statement' => ⟨.call statement', by simp [yield, trace]⟩
  | repetition statement ih =>
      exact .last ih fun statement' => ⟨.repetition statement', by simp [yield, trace]⟩
  | iteration statement ih =>
      exact .last ih fun statement' => ⟨.iteration statement', by simp [yield, trace]⟩
  | assignValue target becomes value ih =>
      refine .leaf target fun target' => ?_
      refine .leaf becomes fun becomes' => ?_
      exact .last ih fun value' => ⟨.assignValue target' becomes' value', by simp [yield, trace]⟩
  | assignString target becomes value =>
      refine .leaf target fun target' => ?_
      refine .leaf becomes fun becomes' => ?_
      refine .leaf value fun value' => ?_
      exact .nil ⟨.assignString target' becomes' value', by simp [trace]⟩
  | ifThen opening condition thenWord body endWord closing ihcondition ihbody =>
      refine .leaf opening fun opening' => ?_
      refine .tree ihcondition fun condition' => ?_
      refine .leaf thenWord fun thenWord' => ?_
      refine .tree ihbody fun body' => ?_
      refine .leaf endWord fun endWord' => ?_
      refine .leaf closing fun closing' => ?_
      exact .nil ⟨.ifThen opening' condition' thenWord' body' endWord' closing',
        by simp [yield, trace]⟩
  | ifThenElse opening condition thenWord body elseWord alternative endWord closing ihcondition
      ihbody ihalternative =>
      refine .leaf opening fun opening' => ?_
      refine .tree ihcondition fun condition' => ?_
      refine .leaf thenWord fun thenWord' => ?_
      refine .tree ihbody fun body' => ?_
      refine .leaf elseWord fun elseWord' => ?_
      refine .tree ihalternative fun alternative' => ?_
      refine .leaf endWord fun endWord' => ?_
      refine .leaf closing fun closing' => ?_
      exact .nil ⟨.ifThenElse opening' condition' thenWord' body' elseWord' alternative' endWord'
        closing', by simp [yield, trace]⟩
  | whileLoop opening condition loopWord body endWord closing ihcondition ihbody =>
      refine .leaf opening fun opening' => ?_
      refine .tree ihcondition fun condition' => ?_
      refine .leaf loopWord fun loopWord' => ?_
      refine .tree ihbody fun body' => ?_
      refine .leaf endWord fun endWord' => ?_
      refine .leaf closing fun closing' => ?_
      exact .nil ⟨.whileLoop opening' condition' loopWord' body' endWord' closing',
        by simp [yield, trace]⟩
  | callProcedure opening callee leftParenthesis arguments rightParenthesis ih =>
      refine .leaf opening fun opening' => ?_
      refine .leaf callee fun callee' => ?_
      refine .leaf leftParenthesis fun leftParenthesis' => ?_
      refine .tree ih fun arguments' => ?_
      refine .leaf rightParenthesis fun rightParenthesis' => ?_
      exact .nil ⟨.callProcedure opening' callee' leftParenthesis' arguments' rightParenthesis',
        by simp [yield, trace]⟩
  | doUntil opening body untilWord condition ihbody ihcondition =>
      refine .leaf opening fun opening' => ?_
      refine .tree ihbody fun body' => ?_
      refine .leaf untilWord fun untilWord' => ?_
      exact .last ihcondition fun condition' =>
        ⟨.doUntil opening' body' untilWord' condition', by simp [yield, trace]⟩
  | forLoop opening leftParenthesis initial first condition second step rightParenthesis doWord
      body endWord closing ihinitial ihcondition ihstep ihbody =>
      refine .leaf opening fun opening' => ?_
      refine .leaf leftParenthesis fun leftParenthesis' => ?_
      refine .tree ihinitial fun initial' => ?_
      refine .leaf first fun first' => ?_
      refine .tree ihcondition fun condition' => ?_
      refine .leaf second fun second' => ?_
      refine .tree ihstep fun step' => ?_
      refine .leaf rightParenthesis fun rightParenthesis' => ?_
      refine .leaf doWord fun doWord' => ?_
      refine .tree ihbody fun body' => ?_
      refine .leaf endWord fun endWord' => ?_
      refine .leaf closing fun closing' => ?_
      exact .nil ⟨.forLoop opening' leftParenthesis' initial' first' condition' second' step'
        rightParenthesis' doWord' body' endWord' closing', by simp [yield, trace]⟩
  | lastArgument token =>
      refine .leaf token fun token' => ?_
      exact .nil ⟨.lastArgument token', by simp [trace]⟩
  | moreArguments token comma rest ih =>
      refine .leaf token fun token' => ?_
      refine .leaf comma fun comma' => ?_
      exact .last ih fun rest' => ⟨.moreArguments token' comma' rest', by simp [yield, trace]⟩
  | comparison left operator right ih =>
      refine .leaf left fun left' => ?_
      refine .tree ih fun operator' => ?_
      refine .leaf right fun right' => ?_
      exact .nil ⟨.comparison left' operator' right', by simp [yield, trace]⟩
  | relation operator =>
      refine .leaf operator fun operator' => ?_
      exact .nil ⟨.relation operator', by simp [trace]⟩
  | lone term ih =>
      exact .last ih fun term' => ⟨.lone term', by simp [yield, trace]⟩
  | sum term operator rest ih ihrest =>
      refine .tree ih fun term' => ?_
      refine .leaf operator fun operator' => ?_
      exact .last ihrest fun rest' => ⟨.sum term' operator' rest', by simp [yield, trace]⟩
  | single factor ih =>
      exact .last ih fun factor' => ⟨.single factor', by simp [yield, trace]⟩
  | product factor operator rest ih ihrest =>
      refine .tree ih fun factor' => ?_
      refine .leaf operator fun operator' => ?_
      exact .last ihrest fun rest' => ⟨.product factor' operator' rest', by simp [yield, trace]⟩
  | name token =>
      refine .leaf token fun token' => ?_
      exact .nil ⟨.name token', by simp [trace]⟩
  | number token =>
      refine .leaf token fun token' => ?_
      exact .nil ⟨.number token', by simp [trace]⟩
  | parenthesised leftParenthesis value rightParenthesis ih =>
      refine .leaf leftParenthesis fun leftParenthesis' => ?_
      refine .tree ih fun value' => ?_
      refine .leaf rightParenthesis fun rightParenthesis' => ?_
      exact .nil ⟨.parenthesised leftParenthesis' value' rightParenthesis', by simp [yield, trace]⟩

/-- Tokens whose kinds are a word of a rule are the yield of a tree. -/
theorem exists_yield_eq {rule : Rule} {tokens : List Token}
    (h : tokens.map Token.kind ∈ rule.language) : ∃ t : Tree rule, t.yield = tokens := by
  obtain ⟨t, hkinds⟩ := h
  exact t.recast tokens hkinds.symm

end OnePass.Grammar.Tree
