import OnePass.Proofs.Derivation.Account
import OnePass.Proofs.Derivation.Beginning
import OnePass.Proofs.Derivation.Cursor
/-!
# Every analysis that gives a result has followed a tree

From a run that gives a result a tree of its rule can be read off: the tokens that the run has
accepted are the yield of the tree, and its result and records are those of the tree's account.
-/
namespace OnePass

open Grammar Analysis

/-- The tokens lead to where the analyser stands, and it has the result and the journal that the
account tells of. -/
def Tells {α : Type} (c : Cursor) (j : Journal) (tokens : List Token) (y : Account α) (a : α)
    (s : Analyser) : Prop :=
  ∃ c' scope story, c.Passes tokens c' ∧ y j.scope = some (a, scope, story) ∧
    story.filterMap Occurrence.terminal? = tokens ∧ s = c'.analyser (j.follow scope story)

namespace Tells

variable {α β : Type} {c c' : Cursor} {j j' : Journal} {front back tokens : List Token}
  {y : Account α} {g : α → Account β} {a : α} {b : β} {s : Analyser}

private theorem bind (hfirst : Tells c j front y a (c'.analyser j'))
    (hrest : Tells c' j' back (g a) b s) : Tells c j (front ++ back) (y >>= g) b s := by
  obtain ⟨middle, scope, story, hfront, hy, hread, hsame⟩ := hfirst
  obtain ⟨rfl, rfl⟩ := Cursor.analyser_inj hsame
  obtain ⟨last, scope', story', hback, hg, hread', rfl⟩ := hrest
  refine ⟨last, scope', story ++ story', hfront.append hback, ?_, ?_, ?_⟩
  · exact Account.bind_eq_some.mpr ⟨a, scope, story, story', hy, hg, rfl⟩
  · rw [List.filterMap_append, hread, hread']
  · rw [Journal.follow_follow]

private theorem pure (a : α) : Tells c j [] (pure a) a (c.analyser j) :=
  ⟨c, j.scope, [], .here c, rfl, rfl, rfl⟩

private theorem of_eq (h : Tells c j tokens y a s) {tokens' : List Token}
    (htokens : tokens' = tokens) :
    Tells c j tokens' y a s :=
  htokens ▸ h

private theorem within (rule : Rule) (h : Tells c (j.commence rule.name) tokens y a s) :
    Tells c j tokens (.within rule y) a { s with journal := s.journal.finish rule.name } := by
  obtain ⟨c', scope, story, hpasses, hy, hread, rfl⟩ := h
  refine ⟨c', scope, .commence rule.name :: story ++ [.finish rule.name], hpasses, ?_, ?_, ?_⟩
  · exact Account.within_eq_some.mpr ⟨story, hy, rfl⟩
  · rw [← hread]
    simp [Occurrence.terminal?, List.filterMap_cons]
  · rw [← Journal.finish_follow_commence]
    rfl

end Tells

/-- A tree of the rule explains each result of the analysis. -/
def ExplainedAs (rule : Rule) (x : Analysis rule.Result) : Prop :=
  ∀ c j a s, x (c.analyser j) = .ok a s →
    ∃ (t : Tree rule) (y : Account rule.Result), t.account = .within rule y ∧
      Tells c j t.yield y a s

def Run.Explained (run : Run) : Prop :=
  ∀ rule c j a s, run rule (c.analyser j) = .ok a s →
    ∃ t : Tree rule, Tells c j t.yield t.account a s

namespace Procedure

variable {α β : Type} {c : Cursor} {j : Journal} {b : β} {s : Analyser} {run : Run}

private theorem of_accept_bind {kind : Kind} {f : Token → Analysis β}
    (hrun : (accept kind >>= f) (c.analyser j) = .ok b s) :
    ∃ (leaf : Leaf [kind]) (c' : Cursor) (j' : Journal),
      Tells c j [leaf.val] (.accept leaf) () (c'.analyser j') ∧
        f leaf.val (c'.analyser j') = .ok b s := by
  obtain ⟨token, s', haccept, hrest⟩ := of_bind_eq_ok hrun
  obtain ⟨hkind, rfl, c', hnext, rfl⟩ := accept_eq_ok haccept
  refine ⟨⟨c.token, List.mem_singleton.mpr hkind⟩, c', _, ?_, hrest⟩
  exact ⟨c', j.scope, [.terminal c.token], .single hnext, rfl, rfl, rfl⟩

private theorem of_acceptVariable_bind {f : Variable → Analysis β}
    (hrun : (acceptVariable >>= f) (c.analyser j) = .ok b s) :
    ∃ (leaf : Leaf [.identifier]) (v : Variable) (c' : Cursor) (j' : Journal),
      Tells c j [leaf.val] (.acceptVariable leaf) v (c'.analyser j') ∧
        f v (c'.analyser j') = .ok b s := by
  obtain ⟨v, s', haccept, hrest⟩ := of_bind_eq_ok hrun
  obtain ⟨hkind, hfind, c', hnext, rfl⟩ := acceptVariable_eq_ok haccept
  refine ⟨⟨c.token, List.mem_singleton.mpr hkind⟩, v, c', _, ?_, hrest⟩
  refine ⟨c', j.scope, [.terminal c.token], .single hnext, ?_, rfl, rfl⟩
  simp only [Account.acceptVariable, hfind, Option.bind_eq_bind, Option.bind_some, Option.pure_def]

private theorem of_run_bind (h : run.Explained) {rule : Rule} {f : rule.Result → Analysis β}
    (hrun : (run rule >>= f) (c.analyser j) = .ok b s) :
    ∃ (t : Tree rule) (a : rule.Result) (c' : Cursor) (j' : Journal),
      Tells c j t.yield t.account a (c'.analyser j') ∧ f a (c'.analyser j') = .ok b s := by
  obtain ⟨a, s', hrule, hrest⟩ := of_bind_eq_ok hrun
  obtain ⟨t, c', scope, story, hpasses, haccount, hread, rfl⟩ := h rule c j a s' hrule
  exact ⟨t, a, c', _, ⟨c', scope, story, hpasses, haccount, hread, rfl⟩, hrest⟩

private theorem statement_eq :
    statement run (c.analyser j) = match c.token.kind with
      | .identifier => (run .assignmentStatement >>= fun _ => pure ()) (c.analyser j)
      | .ifWord => run .ifStatement (c.analyser j)
      | .whileWord => run .whileStatement (c.analyser j)
      | .callWord => run .procedureStatement (c.analyser j)
      | .doWord => run .untilStatement (c.analyser j)
      | .forWord => run .forStatement (c.analyser j)
      | _ => report .expectedStatement (c.analyser j) := by
  unfold statement
  rw [lookahead_bind_eq]
  cases c.token.kind <;> rfl

private theorem factor_eq :
    factor run (c.analyser j) = match c.token.kind with
      | .identifier => (acceptVariable >>= fun v => pure v.type) (c.analyser j)
      | .numberConstant =>
        (accept .numberConstant >>= fun _ => pure VarType.number) (c.analyser j)
      | .leftParenthesis =>
        (accept .leftParenthesis >>= fun _ => run .expression >>= fun type =>
          accept .rightParenthesis >>= fun _ => pure type) (c.analyser j)
      | _ => report .expectedFactor (c.analyser j) := by
  unfold factor
  rw [lookahead_bind_eq]
  cases c.token.kind <;> rfl

private theorem comparand_eq :
    (lookahead >>= fun token => match token.kind with
      | .identifier => acceptVariable >>= fun _ => pure ()
      | .numberConstant => accept .numberConstant >>= fun _ => pure ()
      | .stringConstant => accept .stringConstant >>= fun _ => pure ()
      | _ => report .expectedComparand : Analysis Unit) (c.analyser j) =
    match c.token.kind with
      | .identifier => (acceptVariable >>= fun _ => pure ()) (c.analyser j)
      | .numberConstant => (accept .numberConstant >>= fun _ => pure ()) (c.analyser j)
      | .stringConstant => (accept .stringConstant >>= fun _ => pure ()) (c.analyser j)
      | _ => report .expectedComparand (c.analyser j) := by
  rw [lookahead_bind_eq]
  cases c.token.kind <;> rfl

private theorem of_require_bind {p : Prop} [Decidable p] {complaint : Complaint}
    {f : Unit → Analysis β}
    (hrun : ((if p then pure () else report complaint) >>= f) (c.analyser j) = .ok b s) :
    Tells c j [] (.require p) () (c.analyser j) ∧ f () (c.analyser j) = .ok b s := by
  obtain ⟨u, s', hcheck, hrest⟩ := of_bind_eq_ok hrun
  by_cases hp : p
  · rw [if_pos hp] at hcheck
    cases hcheck
    exact ⟨⟨c, j.scope, [], .here c, if_pos hp, rfl, rfl⟩, hrest⟩
  · rw [if_neg hp] at hcheck
    cases hcheck

variable (h : run.Explained)
include h

private theorem explained_statementPart : ExplainedAs .statementPart (statementPart run) := by
  intro c j a s hrun
  obtain ⟨opening, c₁, j₁, hopening, hrun⟩ := of_accept_bind hrun
  obtain ⟨body, u, c₂, j₂, hbody, hrun⟩ := of_run_bind h hrun
  obtain ⟨closing, c₃, j₃, hclosing, hrun⟩ := of_accept_bind hrun
  cases hrun
  refine ⟨.program opening body closing, _, rfl, ?_⟩
  exact (hopening.bind (hbody.bind hclosing)).of_eq (by simp [Tree.yield, Tree.trace])

private theorem explained_statementList : ExplainedAs .statementList (statementList run) := by
  intro c j a s hrun
  obtain ⟨statement, u, c₁, j₁, hstatement, hrun⟩ := of_run_bind h hrun
  rw [lookahead_bind_eq] at hrun
  split at hrun
  · obtain ⟨semicolon, c₂, j₂, hsemicolon, hrun⟩ := of_accept_bind hrun
    rw [lookahead_bind_eq] at hrun
    split at hrun
    · obtain ⟨rest, hrest⟩ := h _ _ _ _ _ hrun
      refine ⟨.more statement semicolon rest, _, rfl, ?_⟩
      exact (hstatement.bind (hsemicolon.bind hrest)).of_eq (by simp [Tree.yield, Tree.trace])
    · cases hrun
      refine ⟨.closed statement semicolon, _, rfl, ?_⟩
      exact (hstatement.bind hsemicolon).of_eq (by simp [Tree.yield, Tree.trace])
  · cases hrun
    refine ⟨.last statement, _, rfl, ?_⟩
    exact hstatement.of_eq (by simp [Tree.yield, Tree.trace])

private theorem explained_statement : ExplainedAs .statement (statement run) := by
  intro c j a s hrun
  rw [statement_eq] at hrun
  split at hrun
  · obtain ⟨statement, v, c₁, j₁, hstatement, hrun⟩ := of_run_bind h hrun
    cases hrun
    refine ⟨.assignment statement, _, rfl, ?_⟩
    exact (hstatement.bind (.pure ())).of_eq (by simp [Tree.yield, Tree.trace])
  · obtain ⟨statement, hstatement⟩ := h _ _ _ _ _ hrun
    exact ⟨.choice statement, _, rfl, hstatement.of_eq (by simp [Tree.yield, Tree.trace])⟩
  · obtain ⟨statement, hstatement⟩ := h _ _ _ _ _ hrun
    exact ⟨.loop statement, _, rfl, hstatement.of_eq (by simp [Tree.yield, Tree.trace])⟩
  · obtain ⟨statement, hstatement⟩ := h _ _ _ _ _ hrun
    exact ⟨.call statement, _, rfl, hstatement.of_eq (by simp [Tree.yield, Tree.trace])⟩
  · obtain ⟨statement, hstatement⟩ := h _ _ _ _ _ hrun
    exact ⟨.repetition statement, _, rfl, hstatement.of_eq (by simp [Tree.yield, Tree.trace])⟩
  · obtain ⟨statement, hstatement⟩ := h _ _ _ _ _ hrun
    exact ⟨.iteration statement, _, rfl, hstatement.of_eq (by simp [Tree.yield, Tree.trace])⟩
  · cases hrun

omit h in
private theorem terminals_ite {p : Prop} [Decidable p] {occurrence : Occurrence}
    (h : occurrence.terminal? = none) :
    (if p then [occurrence] else []).filterMap Occurrence.terminal? = [] := by
  by_cases hp : p
  · rw [if_pos hp, List.filterMap_cons_none h, List.filterMap_nil]
  · rw [if_neg hp, List.filterMap_nil]

omit h in
private theorem tells_declare {identifier : String} {type : VarType} {v : Variable}
    (hrun : declare identifier type (c.analyser j) = .ok v s) :
    Tells c j [] (.declare identifier type) v s := by
  change (.ok _ (c.analyser ({ j with scope := _ }.declare _).2) : EStateM.Result _ _ _) = _ at hrun
  rw [Journal.declare_eq_follow, Journal.follow_with_scope] at hrun
  cases hrun
  exact ⟨c, _, _, .here c, rfl, terminals_ite rfl, rfl⟩

private theorem explained_assignmentStatement :
    ExplainedAs .assignmentStatement (assignmentStatement run) := by
  intro c j a s hrun
  obtain ⟨target, c₁, j₁, htarget, hrun⟩ := of_accept_bind hrun
  obtain ⟨becomes, c₂, j₂, hbecomes, hrun⟩ := of_accept_bind hrun
  rw [lookahead_bind_eq] at hrun
  split at hrun
  · obtain ⟨value, c₃, j₃, hvalue, hrun⟩ := of_accept_bind hrun
    refine ⟨.assignString target becomes value, _, rfl, ?_⟩
    exact (htarget.bind (hbecomes.bind (hvalue.bind (tells_declare hrun)))).of_eq
      (by simp [Tree.yield, Tree.trace])
  · obtain ⟨value, type, c₃, j₃, hvalue, hrun⟩ := of_run_bind h hrun
    refine ⟨.assignValue target becomes value, _, rfl, ?_⟩
    exact (htarget.bind (hbecomes.bind (hvalue.bind (tells_declare hrun)))).of_eq
      (by simp [Tree.yield, Tree.trace])

private theorem explained_ifStatement : ExplainedAs .ifStatement (ifStatement run) := by
  intro c j a s hrun
  obtain ⟨opening, c₁, j₁, hopening, hrun⟩ := of_accept_bind hrun
  obtain ⟨condition, u, c₂, j₂, hcondition, hrun⟩ := of_run_bind h hrun
  obtain ⟨thenWord, c₃, j₃, hthen, hrun⟩ := of_accept_bind hrun
  obtain ⟨body, u, c₄, j₄, hbody, hrun⟩ := of_run_bind h hrun
  simp only [alternative, bind_assoc] at hrun
  rw [lookahead_bind_eq] at hrun
  split at hrun
  · rw [bind_assoc] at hrun
    obtain ⟨elseWord, c₅, j₅, helse, hrun⟩ := of_accept_bind hrun
    obtain ⟨alternative, u, c₆, j₆, halternative, hrun⟩ := of_run_bind h hrun
    obtain ⟨endWord, c₇, j₇, hend, hrun⟩ := of_accept_bind hrun
    obtain ⟨closing, c₈, j₈, hclosing, hrun⟩ := of_accept_bind hrun
    cases hrun
    refine ⟨.ifThenElse opening condition thenWord body elseWord alternative endWord closing, _,
      rfl, ?_⟩
    exact (hopening.bind (hcondition.bind (hthen.bind (hbody.bind (helse.bind
      (halternative.bind (hend.bind hclosing))))))).of_eq (by simp [Tree.yield, Tree.trace])
  · rw [pure_bind] at hrun
    obtain ⟨endWord, c₅, j₅, hend, hrun⟩ := of_accept_bind hrun
    obtain ⟨closing, c₆, j₆, hclosing, hrun⟩ := of_accept_bind hrun
    cases hrun
    refine ⟨.ifThen opening condition thenWord body endWord closing, _, rfl, ?_⟩
    exact (hopening.bind (hcondition.bind (hthen.bind (hbody.bind
      (hend.bind hclosing))))).of_eq (by simp [Tree.yield, Tree.trace])

private theorem explained_whileStatement : ExplainedAs .whileStatement (whileStatement run) := by
  intro c j a s hrun
  obtain ⟨opening, c₁, j₁, hopening, hrun⟩ := of_accept_bind hrun
  obtain ⟨condition, u, c₂, j₂, hcondition, hrun⟩ := of_run_bind h hrun
  obtain ⟨loopWord, c₃, j₃, hloop, hrun⟩ := of_accept_bind hrun
  obtain ⟨body, u, c₄, j₄, hbody, hrun⟩ := of_run_bind h hrun
  obtain ⟨endWord, c₅, j₅, hend, hrun⟩ := of_accept_bind hrun
  obtain ⟨closing, c₆, j₆, hclosing, hrun⟩ := of_accept_bind hrun
  cases hrun
  refine ⟨.whileLoop opening condition loopWord body endWord closing, _, rfl, ?_⟩
  exact (hopening.bind (hcondition.bind (hloop.bind (hbody.bind
    (hend.bind hclosing))))).of_eq (by simp [Tree.yield, Tree.trace])

private theorem explained_procedureStatement :
    ExplainedAs .procedureStatement (procedureStatement run) := by
  intro c j a s hrun
  obtain ⟨opening, c₁, j₁, hopening, hrun⟩ := of_accept_bind hrun
  obtain ⟨callee, c₂, j₂, hcallee, hrun⟩ := of_accept_bind hrun
  obtain ⟨leftParenthesis, c₃, j₃, hleft, hrun⟩ := of_accept_bind hrun
  obtain ⟨arguments, u, c₄, j₄, harguments, hrun⟩ := of_run_bind h hrun
  obtain ⟨rightParenthesis, c₅, j₅, hright, hrun⟩ := of_accept_bind hrun
  cases hrun
  refine ⟨.callProcedure opening callee leftParenthesis arguments rightParenthesis, _, rfl, ?_⟩
  exact (hopening.bind (hcallee.bind (hleft.bind (harguments.bind hright)))).of_eq
    (by simp [Tree.yield, Tree.trace])

private theorem explained_untilStatement : ExplainedAs .untilStatement (untilStatement run) := by
  intro c j a s hrun
  obtain ⟨opening, c₁, j₁, hopening, hrun⟩ := of_accept_bind hrun
  obtain ⟨body, u, c₂, j₂, hbody, hrun⟩ := of_run_bind h hrun
  obtain ⟨untilWord, c₃, j₃, huntil, hrun⟩ := of_accept_bind hrun
  obtain ⟨condition, hcondition⟩ := h _ _ _ _ _ hrun
  refine ⟨.doUntil opening body untilWord condition, _, rfl, ?_⟩
  exact (hopening.bind (hbody.bind (huntil.bind hcondition))).of_eq
    (by simp [Tree.yield, Tree.trace])

omit h in
private theorem tells_drop (v : Variable) :
    Tells c j [] (.drop v) () (c.analyser (j.drop v)) := by
  rw [Journal.drop_eq_follow]
  exact ⟨c, _, _, .here c, rfl, terminals_ite rfl, rfl⟩

private theorem explained_forStatement : ExplainedAs .forStatement (forStatement run) := by
  intro c j a s hrun
  obtain ⟨opening, c₁, j₁, hopening, hrun⟩ := of_accept_bind hrun
  obtain ⟨leftParenthesis, c₂, j₂, hleft, hrun⟩ := of_accept_bind hrun
  obtain ⟨initial, v, c₃, j₃, hinitial, hrun⟩ := of_run_bind h hrun
  obtain ⟨first, c₄, j₄, hfirst, hrun⟩ := of_accept_bind hrun
  obtain ⟨condition, u, c₅, j₅, hcondition, hrun⟩ := of_run_bind h hrun
  obtain ⟨second, c₆, j₆, hsecond, hrun⟩ := of_accept_bind hrun
  obtain ⟨step, w, c₇, j₇, hstep, hrun⟩ := of_run_bind h hrun
  obtain ⟨rightParenthesis, c₈, j₈, hright, hrun⟩ := of_accept_bind hrun
  obtain ⟨doWord, c₉, j₉, hdo, hrun⟩ := of_accept_bind hrun
  obtain ⟨body, u, c₁₀, j₁₀, hbody, hrun⟩ := of_run_bind h hrun
  obtain ⟨endWord, c₁₁, j₁₁, hend, hrun⟩ := of_accept_bind hrun
  obtain ⟨closing, c₁₂, j₁₂, hclosing, hrun⟩ := of_accept_bind hrun
  cases hrun
  refine ⟨.forLoop opening leftParenthesis initial first condition second step rightParenthesis
    doWord body endWord closing, _, rfl, ?_⟩
  exact (hopening.bind (hleft.bind (hinitial.bind (hfirst.bind (hcondition.bind (hsecond.bind
    (hstep.bind (hright.bind (hdo.bind (hbody.bind (hend.bind (hclosing.bind
      ((tells_drop v).bind (tells_drop w)))))))))))))).of_eq (by simp [Tree.yield, Tree.trace])

private theorem explained_argumentList : ExplainedAs .argumentList (argumentList run) := by
  intro c j a s hrun
  obtain ⟨token, v, c₁, j₁, htoken, hrun⟩ := of_acceptVariable_bind hrun
  rw [lookahead_bind_eq] at hrun
  split at hrun
  · obtain ⟨comma, c₂, j₂, hcomma, hrun⟩ := of_accept_bind hrun
    obtain ⟨rest, hrest⟩ := h _ _ _ _ _ hrun
    refine ⟨.moreArguments token comma rest, _, rfl, ?_⟩
    exact (htoken.bind (hcomma.bind hrest)).of_eq (by simp [Tree.yield, Tree.trace])
  · cases hrun
    refine ⟨.lastArgument token, _, rfl, ?_⟩
    exact (htoken.bind (.pure ())).of_eq (by simp [Tree.yield, Tree.trace])

private theorem explained_condition : ExplainedAs .condition (condition run) := by
  intro c j a s hrun
  obtain ⟨left, v, c₁, j₁, hleft, hrun⟩ := of_acceptVariable_bind hrun
  obtain ⟨operator, u, c₂, j₂, hoperator, hrun⟩ := of_run_bind h hrun
  replace hrun := comparand_eq.symm.trans hrun
  split at hrun
  · obtain ⟨right, w, c₃, j₃, hright, hrun⟩ := of_acceptVariable_bind hrun
    cases hrun
    refine ⟨.comparison left operator ⟨right.val, right.kind_mem (by decide)⟩, _, rfl, ?_⟩
    refine (hleft.bind (hoperator.bind (?_ : Tells c₂ j₂ [right.val] _ _ _))).of_eq
      (by simp [Tree.yield, Tree.trace])
    rw [if_pos right.kind_eq]
    exact (hright.bind (.pure ())).of_eq rfl
  · obtain ⟨right, c₃, j₃, hright, hrun⟩ := of_accept_bind hrun
    cases hrun
    refine ⟨.comparison left operator ⟨right.val, right.kind_mem (by decide)⟩, _, rfl, ?_⟩
    refine (hleft.bind (hoperator.bind (?_ : Tells c₂ j₂ [right.val] _ _ _))).of_eq
      (by simp [Tree.yield, Tree.trace])
    rw [if_neg (by rw [right.kind_eq]; decide)]
    exact hright
  · obtain ⟨right, c₃, j₃, hright, hrun⟩ := of_accept_bind hrun
    cases hrun
    refine ⟨.comparison left operator ⟨right.val, right.kind_mem (by decide)⟩, _, rfl, ?_⟩
    refine (hleft.bind (hoperator.bind (?_ : Tells c₂ j₂ [right.val] _ _ _))).of_eq
      (by simp [Tree.yield, Tree.trace])
    rw [if_neg (by rw [right.kind_eq]; decide)]
    exact hright
  · cases hrun

omit h in
private theorem explained_conditionalOperator :
    ExplainedAs .conditionalOperator conditionalOperator := by
  intro c j a s hrun
  simp only [conditionalOperator, lookahead_bind_eq] at hrun
  split at hrun
  next hkind =>
    obtain ⟨operator, c₁, j₁, hoperator, hrun⟩ := of_accept_bind hrun
    cases hrun
    have hrelational : operator.val.kind ∈ Kind.relational :=
      operator.kind_mem (by simpa using hkind)
    refine ⟨.relation ⟨operator.val, hrelational⟩, _, rfl, ?_⟩
    exact hoperator.of_eq (by simp [Tree.yield, Tree.trace])
  next => cases hrun

private theorem explained_expression : ExplainedAs .expression (expression run) := by
  intro c j a s hrun
  obtain ⟨term, left, c₁, j₁, hterm, hrun⟩ := of_run_bind h hrun
  rw [lookahead_bind_eq] at hrun
  split at hrun
  next hkind =>
    obtain ⟨operator, c₂, j₂, hoperator, hrun⟩ := of_accept_bind hrun
    obtain ⟨rest, right, c₃, j₃, hrest, hrun⟩ := of_run_bind h hrun
    have hadding : operator.val.kind ∈ Kind.adding := operator.kind_mem (by simpa using hkind)
    rw [checkAdding_eq, ← operator.kind_eq] at hrun
    obtain ⟨hfits, hrun⟩ := of_require_bind hrun
    cases hrun
    refine ⟨.sum term ⟨operator.val, hadding⟩ rest, _, rfl, ?_⟩
    exact (hterm.bind (hoperator.bind (hrest.bind (hfits.bind (.pure a))))).of_eq
      (by simp [Tree.yield, Tree.trace])
  next =>
    cases hrun
    refine ⟨.lone term, _, rfl, ?_⟩
    exact hterm.of_eq (by simp [Tree.yield, Tree.trace])

private theorem explained_term : ExplainedAs .term (term run) := by
  intro c j a s hrun
  obtain ⟨factor, left, c₁, j₁, hfactor, hrun⟩ := of_run_bind h hrun
  rw [lookahead_bind_eq] at hrun
  split at hrun
  next hkind =>
    rw [checkMultiplying_eq] at hrun
    obtain ⟨hleft, hrun⟩ := of_require_bind hrun
    obtain ⟨operator, c₂, j₂, hoperator, hrun⟩ := of_accept_bind hrun
    obtain ⟨rest, right, c₃, j₃, hrest, hrun⟩ := of_run_bind h hrun
    have hmultiplying : operator.val.kind ∈ Kind.multiplying :=
      operator.kind_mem (by simpa using hkind)
    rw [checkMultiplying_eq] at hrun
    obtain ⟨hright, hrun⟩ := of_require_bind hrun
    cases hrun
    refine ⟨.product factor ⟨operator.val, hmultiplying⟩ rest, _, rfl, ?_⟩
    exact (hfactor.bind (hleft.bind (hoperator.bind (hrest.bind
      (hright.bind (.pure a)))))).of_eq (by simp [Tree.yield, Tree.trace])
  next =>
    cases hrun
    refine ⟨.single factor, _, rfl, ?_⟩
    exact hfactor.of_eq (by simp [Tree.yield, Tree.trace])

private theorem explained_factor : ExplainedAs .factor (factor run) := by
  intro c j a s hrun
  rw [factor_eq] at hrun
  split at hrun
  · obtain ⟨token, v, c₁, j₁, htoken, hrun⟩ := of_acceptVariable_bind hrun
    cases hrun
    refine ⟨.name token, _, rfl, ?_⟩
    exact (htoken.bind (.pure v.type)).of_eq (by simp [Tree.yield, Tree.trace])
  · obtain ⟨token, c₁, j₁, htoken, hrun⟩ := of_accept_bind hrun
    cases hrun
    refine ⟨.number token, _, rfl, ?_⟩
    exact (htoken.bind (.pure VarType.number)).of_eq (by simp [Tree.yield, Tree.trace])
  · obtain ⟨leftParenthesis, c₁, j₁, hleft, hrun⟩ := of_accept_bind hrun
    obtain ⟨value, type, c₂, j₂, hvalue, hrun⟩ := of_run_bind h hrun
    obtain ⟨rightParenthesis, c₃, j₃, hright, hrun⟩ := of_accept_bind hrun
    cases hrun
    refine ⟨.parenthesised leftParenthesis value rightParenthesis, _, rfl, ?_⟩
    exact (hleft.bind (hvalue.bind (hright.bind (.pure a)))).of_eq
      (by simp [Tree.yield, Tree.trace])
  · cases hrun

end Procedure

private theorem Run.Explained.procedure {run : Run} (h : run.Explained) (rule : Rule) :
    ExplainedAs rule (procedure run rule) := by
  cases rule with
  | statementPart => exact Procedure.explained_statementPart h
  | statementList => exact Procedure.explained_statementList h
  | statement => exact Procedure.explained_statement h
  | assignmentStatement => exact Procedure.explained_assignmentStatement h
  | ifStatement => exact Procedure.explained_ifStatement h
  | whileStatement => exact Procedure.explained_whileStatement h
  | procedureStatement => exact Procedure.explained_procedureStatement h
  | untilStatement => exact Procedure.explained_untilStatement h
  | forStatement => exact Procedure.explained_forStatement h
  | argumentList => exact Procedure.explained_argumentList h
  | condition => exact Procedure.explained_condition h
  | conditionalOperator => exact Procedure.explained_conditionalOperator
  | expression => exact Procedure.explained_expression h
  | term => exact Procedure.explained_term h
  | factor => exact Procedure.explained_factor h

private theorem runWithin_explained (allowance : Nat) : (runWithin allowance).Explained := by
  induction allowance with
  | zero =>
      intro rule c j a s hrun
      cases hrun
  | succ allowance ih =>
      intro rule c j a s hrun
      change enclose rule (procedure (runWithin allowance) rule) (c.analyser j) = _ at hrun
      obtain ⟨s', hinner, rfl⟩ := of_enclose_eq_ok hrun
      obtain ⟨t, y, haccount, htells⟩ := ih.procedure rule c (j.commence rule.name) a s' hinner
      exact ⟨t, haccount ▸ htells.within rule⟩

/-- A rule that gives a result has followed a tree. -/
theorem exists_tree_of_runRule {rule : Rule} {c : Cursor} {j : Journal} {a : rule.Result}
    {s : Analyser} (hrun : runRule rule (c.analyser j) = .ok a s) :
    ∃ t : Tree rule, Tells c j t.yield t.account a s :=
  runWithin_explained _ rule c j a s hrun

end OnePass
