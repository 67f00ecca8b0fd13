import OnePass.Proofs.Derivation.Following
/-!
# The analysis of a rule follows every tree of the rule

Each production has its own way through the procedure of its rule, and its subtrees are followed by
the rules that the procedure runs.
-/
namespace OnePass.Grammar.Tree

open Analysis Follows

private theorem of_procedure {rule : Rule} {tokens : List Token} {y : Account rule.Result}
    (tokens' : List Token) (htokens : tokens = tokens')
    (h : Follows rule.further (procedure runRule rule) tokens' y) :
    Follows rule.further (runRule rule) tokens (.within rule y) := by
  rw [runRule_eq, htokens]
  exact h.enclose rule

private theorem lookahead_yield {rule : Rule} {further : List Kind} {α : Type} (t : Tree rule)
    {f : Token → Analysis α} {back : List Token} {y : Account α}
    (hf : ∀ token : Token, token.kind ∈ rule.firsts →
      Follows further (f token) (t.yield ++ back) y) :
    Follows further (lookahead >>= f) (t.yield ++ back) y := by
  obtain ⟨token, tokens, hyield, hkind⟩ := t.exists_yield_eq_cons
  have hrest := hf token hkind
  rw [hyield] at hrest ⊢
  exact hrest.lookahead_bind

private theorem alternative_skip {further : List Kind} {endWord : Leaf [.endWord]}
    {k : Unit → Analysis Unit} {back : List Token} {y : Account Unit}
    (hk : Follows further (k ()) (endWord.val :: back) y) :
    Follows further (Procedure.alternative runRule >>= k) (endWord.val :: back) y := by
  simp only [Procedure.alternative, bind_assoc]
  refine lookahead_bind ?_
  rw [if_neg (by rw [endWord.kind_eq]; decide), pure_bind]
  exact hk

private theorem alternative_take {further : List Kind} {elseWord : Leaf [.elseWord]}
    {alternative : Tree .statementList} {endWord : Leaf [.endWord]} {k : Unit → Analysis Unit}
    {back : List Token} {g : Unit → Account Unit}
    (halternative : Follows Rule.statementList.further (runRule .statementList)
      alternative.yield alternative.account)
    (hk : Follows further (k ()) (endWord.val :: back) (g ())) :
    Follows further (Procedure.alternative runRule >>= k)
      (elseWord.val :: (alternative.yield ++ endWord.val :: back))
      (.accept elseWord >>= fun _ => alternative.account >>= g) := by
  simp only [Procedure.alternative, bind_assoc]
  refine lookahead_bind ?_
  rw [if_pos elseWord.kind_eq, bind_assoc]
  exact accept_bind elseWord elseWord.kind_eq
    (halternative.bind (fun _ => hk) (.leaf endWord (by decide)))

theorem follows_account {rule : Rule} (t : Tree rule) :
    Follows rule.further (runRule rule) t.yield t.account := by
  induction t with
  | program opening body closing ih =>
      refine of_procedure (opening.val :: (body.yield ++ [closing.val])) (by simp [yield, trace])
        (accept_bind opening opening.kind_eq ?_)
      exact ih.bind (fun _ => accept closing closing.kind_eq) (.leaf closing (by decide))
  | last statement ih =>
      refine of_procedure _ (by simp [yield, trace]) (ih.bind_pure (fun _ =>
        lookahead_bind_nil fun token hfurther => ?_) (by decide))
      have hkind : token.kind ≠ .semicolon := fun hkind => hfurther (by rw [hkind]; decide)
      rw [if_neg hkind]
      exact .pure ()
  | closed statement semicolon ih =>
      refine of_procedure (statement.yield ++ [semicolon.val]) (by simp [yield, trace])
        (ih.bind (fun _ => lookahead_bind ?_) (.leaf semicolon (by decide)))
      rw [if_pos semicolon.kind_eq]
      refine accept_last semicolon semicolon.kind_eq
        (lookahead_bind_nil fun token hfurther => ?_)
      have hkind : token.kind ∉ Kind.starters := fun hkind => hfurther (by
        simp only [Rule.further, List.mem_append, List.mem_cons]
        exact .inl (.inl (.inr hkind)))
      rw [if_neg hkind]
      exact .pure ()
  | more statement semicolon rest ih ihrest =>
      refine of_procedure (statement.yield ++ semicolon.val :: (rest.yield ++ []))
        (by simp [yield, trace])
        (ih.bind (fun _ => lookahead_bind ?_) (.leaf semicolon (by decide)))
      rw [if_pos semicolon.kind_eq]
      refine accept_bind semicolon semicolon.kind_eq (lookahead_yield rest fun token hkind => ?_)
      rw [if_pos (show token.kind ∈ Kind.starters from hkind), List.append_nil]
      exact ihrest
  | assignment statement ih =>
      refine of_procedure (statement.yield ++ []) (by simp [yield, trace])
        (lookahead_yield statement fun token hkind => ?_)
      rw [List.mem_singleton.mp hkind]
      exact ih.bind (fun _ => .pure ()) (.nil (by decide))
  | choice statement ih | loop statement ih | call statement ih | repetition statement ih
  | iteration statement ih =>
      refine of_procedure (statement.yield ++ []) (by simp [yield, trace])
        (lookahead_yield statement fun token hkind => ?_)
      rw [List.mem_singleton.mp hkind, List.append_nil]
      exact ih.weaken (by decide)
  | assignValue target becomes value ih =>
      refine of_procedure (target.val :: becomes.val :: (value.yield ++ []))
        (by simp [yield, trace])
        (accept_bind target target.kind_eq (accept_bind becomes becomes.kind_eq
          (lookahead_yield value fun token hkind => ?_)))
      have hother : token.kind ≠ .stringConstant := fun hother => by
        rw [hother] at hkind
        exact absurd hkind (by decide)
      rw [if_neg hother]
      exact ih.bind (fun type => declare _ type) (.nil (by decide))
  | assignString target becomes value =>
      refine of_procedure [target.val, becomes.val, value.val] (by simp [yield, trace])
        (accept_bind target target.kind_eq (accept_bind becomes becomes.kind_eq
          (lookahead_bind ?_)))
      rw [if_pos value.kind_eq]
      exact accept_bind value value.kind_eq (declare _ _)
  | ifThen opening condition thenWord body endWord closing ihcondition ihbody =>
      refine of_procedure (opening.val :: (condition.yield ++ thenWord.val :: (body.yield ++
        [endWord.val, closing.val]))) (by simp [yield, trace])
        (accept_bind opening opening.kind_eq ?_)
      refine ihcondition.bind (fun _ => ?_) (.leaf thenWord (by decide))
      refine accept_bind thenWord thenWord.kind_eq ?_
      refine ihbody.bind (fun _ => alternative_skip ?_) (.leaf endWord (by decide))
      exact accept_bind endWord endWord.kind_eq (accept closing closing.kind_eq)
  | ifThenElse opening condition thenWord body elseWord alternative endWord closing ihcondition
      ihbody ihalternative =>
      refine of_procedure (opening.val :: (condition.yield ++ thenWord.val :: (body.yield ++
        elseWord.val :: (alternative.yield ++ [endWord.val, closing.val]))))
        (by simp [yield, trace]) (accept_bind opening opening.kind_eq ?_)
      refine ihcondition.bind (fun _ => ?_) (.leaf thenWord (by decide))
      refine accept_bind thenWord thenWord.kind_eq ?_
      refine ihbody.bind (fun _ => alternative_take ihalternative ?_) (.leaf elseWord (by decide))
      exact accept_bind endWord endWord.kind_eq (accept closing closing.kind_eq)
  | whileLoop opening condition loopWord body endWord closing ihcondition ihbody =>
      refine of_procedure (opening.val :: (condition.yield ++ loopWord.val :: (body.yield ++
        [endWord.val, closing.val]))) (by simp [yield, trace])
        (accept_bind opening opening.kind_eq ?_)
      refine ihcondition.bind (fun _ => ?_) (.leaf loopWord (by decide))
      refine accept_bind loopWord loopWord.kind_eq ?_
      refine ihbody.bind (fun _ => ?_) (.leaf endWord (by decide))
      exact accept_bind endWord endWord.kind_eq (accept closing closing.kind_eq)
  | callProcedure opening callee leftParenthesis arguments rightParenthesis ih =>
      refine of_procedure (opening.val :: callee.val :: leftParenthesis.val :: (arguments.yield ++
        [rightParenthesis.val])) (by simp [yield, trace]) (accept_bind opening opening.kind_eq ?_)
      refine accept_bind callee callee.kind_eq ?_
      refine accept_bind leftParenthesis leftParenthesis.kind_eq ?_
      exact ih.bind (fun _ => accept rightParenthesis rightParenthesis.kind_eq)
        (.leaf rightParenthesis (by decide))
  | doUntil opening body untilWord condition ihbody ihcondition =>
      refine of_procedure (opening.val :: (body.yield ++ untilWord.val :: condition.yield))
        (by simp [yield, trace]) (accept_bind opening opening.kind_eq ?_)
      refine ihbody.bind (fun _ => ?_) (.leaf untilWord (by decide))
      exact accept_bind untilWord untilWord.kind_eq (ihcondition.weaken (by decide))
  | forLoop opening leftParenthesis initial first condition second step rightParenthesis doWord
      body endWord closing ihinitial ihcondition ihstep ihbody =>
      refine of_procedure (opening.val :: leftParenthesis.val :: (initial.yield ++ first.val ::
        (condition.yield ++ second.val :: (step.yield ++ rightParenthesis.val :: doWord.val ::
          (body.yield ++ [endWord.val, closing.val])))))
        (by simp [yield, trace]) (accept_bind opening opening.kind_eq ?_)
      refine accept_bind leftParenthesis leftParenthesis.kind_eq ?_
      refine ihinitial.bind (fun v => ?_) (.leaf first (by decide))
      refine accept_bind first first.kind_eq ?_
      refine ihcondition.bind (fun _ => ?_) (.leaf second (by decide))
      refine accept_bind second second.kind_eq ?_
      refine ihstep.bind (fun w => ?_) (.leaf rightParenthesis (by decide))
      refine accept_bind rightParenthesis rightParenthesis.kind_eq ?_
      refine accept_bind doWord doWord.kind_eq ?_
      refine ihbody.bind (fun _ => ?_) (.leaf endWord (by decide))
      refine accept_bind endWord endWord.kind_eq (accept_bind closing closing.kind_eq ?_)
      exact (drop v).bind (fun _ => drop w) .empty
  | lastArgument token =>
      refine of_procedure _ (by simp [yield, trace])
        ((acceptVariable token token.kind_eq).bind
          (fun _ => lookahead_bind_nil fun next hfurther => ?_) .empty)
      have hkind : next.kind ≠ .comma := fun hkind => hfurther (by rw [hkind]; decide)
      rw [if_neg hkind]
      exact .pure ()
  | moreArguments token comma rest ih =>
      refine of_procedure ([token.val] ++ comma.val :: rest.yield) (by simp [yield, trace])
        ((acceptVariable token token.kind_eq).bind (fun _ => lookahead_bind ?_) .empty)
      rw [if_pos comma.kind_eq]
      exact accept_bind comma comma.kind_eq ih
  | comparison left operator right ih =>
      refine of_procedure ([left.val] ++ (operator.yield ++ [right.val])) (by simp [yield, trace])
        ((acceptVariable left left.kind_eq).bind
          (fun _ => ih.bind (fun _ => lookahead_bind ?_) .empty) .empty)
      obtain ⟨token, hkind⟩ := right
      simp only [List.mem_cons, List.not_mem_nil, or_false] at hkind
      rcases hkind with hkind | hkind | hkind
      · rw [hkind, if_pos rfl]
        exact (acceptVariable ⟨token, _⟩ hkind).bind (fun _ => .pure ()) .empty
      · rw [hkind, if_neg (by decide)]
        exact accept ⟨token, _⟩ hkind
      · rw [hkind, if_neg (by decide)]
        exact accept ⟨token, _⟩ hkind
  | relation operator =>
      refine of_procedure [operator.val] (by simp [yield, trace]) (lookahead_bind ?_)
      rw [if_pos operator.property]
      exact accept operator rfl
  | lone term ih =>
      refine of_procedure _ (by simp [yield, trace]) (ih.bind_pure (fun _ =>
        lookahead_bind_nil fun token hfurther => ?_) (by decide))
      have hkind : token.kind ∉ Kind.adding :=
        fun hkind => hfurther (List.mem_append_left _ hkind)
      rw [if_neg hkind]
      exact .pure _
  | sum term operator rest ih ihrest =>
      refine of_procedure (term.yield ++ operator.val :: (rest.yield ++ ([] ++ [])))
        (by simp [yield, trace])
        (ih.bind (fun left => lookahead_bind ?_) (.leaf operator (by decide)))
      rw [if_pos operator.property]
      exact accept_bind operator rfl (ihrest.bind (fun right =>
        (Follows.checkAdding _ left right).bind (fun _ => .pure left) .empty) (.nil (by decide)))
  | single factor ih =>
      refine of_procedure _ (by simp [yield, trace]) (ih.bind_pure (fun _ =>
        lookahead_bind_nil fun token hfurther => ?_) (by decide))
      rw [if_neg (show token.kind ∉ Kind.multiplying from hfurther)]
      exact .pure _
  | product factor operator rest ih ihrest =>
      refine of_procedure (factor.yield ++ ([] ++ operator.val :: (rest.yield ++ ([] ++ []))))
        (by simp [yield, trace])
        (ih.bind (fun left => lookahead_bind ?_) (.leaf operator (by decide)))
      rw [if_pos operator.property]
      exact (Follows.checkMultiplying _ .left left).bind (fun _ => accept_bind operator rfl
        (ihrest.bind (fun right => (Follows.checkMultiplying _ .right right).bind
          (fun _ => .pure left) .empty) (.nil (by decide)))) .empty
  | name token =>
      refine of_procedure [token.val] (by simp [yield, trace]) (lookahead_bind ?_)
      rw [token.kind_eq]
      exact (acceptVariable token token.kind_eq).bind (fun v => .pure v.type) .empty
  | number token =>
      refine of_procedure [token.val] (by simp [yield, trace]) (lookahead_bind ?_)
      rw [token.kind_eq]
      exact accept_bind token token.kind_eq (.pure _)
  | parenthesised leftParenthesis value rightParenthesis ih =>
      refine of_procedure (leftParenthesis.val :: (value.yield ++ [rightParenthesis.val]))
        (by simp [yield, trace]) (lookahead_bind ?_)
      rw [leftParenthesis.kind_eq]
      exact accept_bind leftParenthesis leftParenthesis.kind_eq (ih.bind (fun type =>
        accept_bind rightParenthesis rightParenthesis.kind_eq (.pure _))
        (.leaf rightParenthesis (by decide)))

end OnePass.Grammar.Tree
