import Mathlib.Computability.Language
import OnePass.Proofs.Derivation.Beginning
import OnePass.Analysis.Parse
/-!
# Procedures as scripts

The procedures are put together from a few steps. A step, and one step after another, is given the
language of the kinds that it accepts, and so the procedure of a rule has the language of the rule.
What holds of each step, and of one step after another, then holds of every procedure.
-/
namespace OnePass

open Grammar Analysis

/-- The kinds of the tokens that the trees of a rule derive. -/
def Rule.language (rule : Rule) : Language Kind :=
  {word | ∃ t : Tree rule, t.yield.map Token.kind = word}

namespace Complaint

/-- The complaints of a procedure about a token that none of its alternatives begins with. -/
def choices : List Complaint :=
  [.expectedStatement, .expectedConditionalOperator, .expectedComparand, .expectedFactor]

/-- The complaint is about the grammar and its text asks for the kind. -/
def Names (complaint : Complaint) (kind : Kind) : Prop :=
  complaint.category = .syntactic ∧ complaint.text = (expected kind).text

private theorem nodup_text_expected : (Kind.all.map fun kind => (expected kind).text).Nodup := by
  decide +kernel

theorem eq_of_names_expected {kind kind' : Kind} (h : (expected kind).Names kind') :
    kind' = kind :=
  (List.inj_on_of_nodup_map nodup_text_expected kind.mem_all kind'.mem_all h.2).symm

private theorem text_choices :
    ∀ complaint ∈ choices, ∀ kind ∈ Kind.all, complaint.text ≠ (expected kind).text := by
  decide +kernel

theorem not_names_of_mem_choices {complaint : Complaint} (h : complaint ∈ choices) (kind : Kind) :
    ¬ complaint.Names kind :=
  fun hnames => text_choices complaint h kind kind.mem_all hnames.2

end Complaint

/-- The ways to put an analysis together, each with the language of what is accepted on the way to a
result. -/
inductive Script (run : Run) : {α : Type} → Language Kind → Analysis α → Prop where
  | pure {α : Type} (a : α) : Script run 1 (pure a)
  | lookahead : Script run 1 lookahead
  | accept (kind : Kind) : Script run {[kind]} (accept kind)
  | acceptVariable : Script run {[.identifier]} acceptVariable
  | declare (identifier : String) (type : VarType) : Script run 1 (declare identifier type)
  | drop (v : Variable) : Script run 1 (note (·.drop v))
  | checkAdding (operator : Kind) (left right : VarType) :
    Script run 1 (checkAdding operator left right)
  | checkMultiplying (operator : Kind) (side : Side) (type : VarType) :
    Script run 1 (checkMultiplying operator side type)
  | refuse {α : Type} {L : Language Kind} {complaint : Complaint}
    (hcomplaint : complaint ∈ Complaint.choices) (hword : ∃ word, word ∈ L) :
    Script run L (report complaint : Analysis α)
  | rule (rule : Rule) : Script run rule.language (run rule)
  | bind {α β : Type} [Nonempty α] {L M : Language Kind} {x : Analysis α} {f : α → Analysis β}
    (hx : Script run L x) (hf : ∀ a, Script run M (f a)) : Script run (L * M) (x >>= f)
  | weaken {α : Type} {L M : Language Kind} {x : Analysis α} (hx : Script run L x)
    (hsubset : ∀ word ∈ L, word ∈ M) : Script run M x

/-- A token of the kind, with no text. -/
def Leaf.ofKind (kind : Kind) : Leaf [kind] :=
  ⟨⟨kind, "", 1⟩, List.mem_singleton.mpr rfl⟩

instance : Nonempty Token :=
  ⟨.endOfFile 1⟩

instance : Nonempty VarType :=
  ⟨.unknown⟩

instance : Nonempty Variable :=
  ⟨⟨"", .unknown, 0⟩⟩

/-- Every rule has a tree. -/
instance (rule : Rule) : Nonempty (Tree rule) := by
  have factor : Tree .factor := .name (.ofKind .identifier)
  have expression : Tree .expression := .lone (.single factor)
  have operator : Tree .conditionalOperator :=
    .relation ⟨⟨.equal, "", 1⟩, by decide⟩
  have condition : Tree .condition :=
    .comparison (.ofKind .identifier) operator ⟨⟨.identifier, "", 1⟩, by decide⟩
  have assignment : Tree .assignmentStatement :=
    .assignValue (.ofKind .identifier) (.ofKind .becomes) expression
  have body : Tree .statementList := .last (.assignment assignment)
  cases rule with
  | statementPart => exact ⟨.program (.ofKind _) body (.ofKind _)⟩
  | statementList => exact ⟨body⟩
  | statement => exact ⟨.assignment assignment⟩
  | assignmentStatement => exact ⟨assignment⟩
  | ifStatement =>
      exact ⟨.ifThen (.ofKind _) condition (.ofKind _) body (.ofKind _) (.ofKind _)⟩
  | whileStatement =>
      exact ⟨.whileLoop (.ofKind _) condition (.ofKind _) body (.ofKind _) (.ofKind _)⟩
  | procedureStatement =>
      exact ⟨.callProcedure (.ofKind _) (.ofKind _) (.ofKind _) (.lastArgument (.ofKind _))
        (.ofKind _)⟩
  | untilStatement => exact ⟨.doUntil (.ofKind _) body (.ofKind _) condition⟩
  | forStatement =>
      exact ⟨.forLoop (.ofKind _) (.ofKind _) assignment (.ofKind _) condition (.ofKind _)
        assignment (.ofKind _) (.ofKind _) body (.ofKind _) (.ofKind _)⟩
  | argumentList => exact ⟨.lastArgument (.ofKind _)⟩
  | condition => exact ⟨condition⟩
  | conditionalOperator => exact ⟨operator⟩
  | expression => exact ⟨expression⟩
  | term => exact ⟨.single factor⟩
  | factor => exact ⟨factor⟩

theorem Rule.exists_mem_language (rule : Rule) : ∃ word, word ∈ rule.language := by
  obtain ⟨t⟩ : Nonempty (Tree rule) := inferInstance
  exact ⟨_, t, rfl⟩

namespace Script

variable {run : Run} {α β : Type} {L M : Language Kind}

private theorem lookahead_bind {f : Token → Analysis β} (hf : ∀ token, Script run L (f token)) :
    Script run L (Analysis.lookahead >>= f) :=
  (one_mul L) ▸ lookahead.bind hf

private theorem andThen [Nonempty α] {x : Analysis α} {f : α → Analysis β} (hx : Script run L x)
    (hf : ∀ a, Script run {back | ∀ front ∈ L, front ++ back ∈ M} (f a)) :
    Script run M (x >>= f) := by
  refine (hx.bind hf).weaken ?_
  rintro _ ⟨front, hfront, back, hback, rfl⟩
  exact hback front hfront

end Script

/-- The words of one of the kinds. -/
def Kind.oneOf (kinds : List Kind) : Language Kind :=
  {word | ∃ kind ∈ kinds, [kind] = word}

namespace Procedure

open Tree

variable {run : Run}

private theorem script_statementPart :
    Script run Rule.statementPart.language (statementPart run) := by
  refine (Script.accept .beginWord).andThen fun opening => ?_
  refine (Script.rule .statementList).andThen fun body => ?_
  refine (Script.accept .endWord).andThen fun closing => ?_
  refine (Script.pure ()).weaken ?_
  rintro _ rfl _ rfl _ ⟨body, rfl⟩ _ rfl
  exact ⟨.program (.ofKind _) body (.ofKind _), by simp [yield, trace, Leaf.ofKind]⟩

private theorem script_statementList :
    Script run Rule.statementList.language (statementList run) := by
  refine (Script.rule .statement).andThen fun statement => ?_
  refine .lookahead_bind fun token => ?_
  split
  · refine (Script.accept .semicolon).andThen fun semicolon => ?_
    refine .lookahead_bind fun token => ?_
    split
    · refine (Script.rule .statementList).weaken ?_
      rintro _ ⟨rest, rfl⟩ _ rfl _ ⟨statement, rfl⟩
      exact ⟨.more statement (.ofKind _) rest, by simp [yield, trace, Leaf.ofKind]⟩
    · refine (Script.pure ()).weaken ?_
      rintro _ rfl _ rfl _ ⟨statement, rfl⟩
      exact ⟨.closed statement (.ofKind _), by simp [yield, trace, Leaf.ofKind]⟩
  · refine (Script.pure ()).weaken ?_
    rintro _ rfl _ ⟨statement, rfl⟩
    exact ⟨.last statement, by simp [yield, trace]⟩

private theorem script_part {rule rule' : Rule}
    (h : ∀ t : Tree rule, ∃ t' : Tree rule', t'.yield = t.yield) :
    Script run rule'.language (run rule) := by
  refine (Script.rule rule).weaken ?_
  rintro _ ⟨t, rfl⟩
  obtain ⟨t', hyield⟩ := h t
  exact ⟨t', by rw [hyield]⟩

private theorem script_statement : Script run Rule.statement.language (statement run) := by
  refine .lookahead_bind fun token => ?_
  split
  · refine (Script.rule .assignmentStatement).andThen fun target => ?_
    refine (Script.pure ()).weaken ?_
    rintro _ rfl _ ⟨statement, rfl⟩
    exact ⟨.assignment statement, by simp [yield, trace]⟩
  · exact script_part fun statement => ⟨.choice statement, by simp [yield, trace]⟩
  · exact script_part fun statement => ⟨.loop statement, by simp [yield, trace]⟩
  · exact script_part fun statement => ⟨.call statement, by simp [yield, trace]⟩
  · exact script_part fun statement => ⟨.repetition statement, by simp [yield, trace]⟩
  · exact script_part fun statement => ⟨.iteration statement, by simp [yield, trace]⟩
  · exact .refuse (by decide) Rule.statement.exists_mem_language

private theorem script_assignmentStatement :
    Script run Rule.assignmentStatement.language (assignmentStatement run) := by
  refine (Script.accept .identifier).andThen fun target => ?_
  refine (Script.accept .becomes).andThen fun becomes => ?_
  refine .lookahead_bind fun token => ?_
  split
  · refine (Script.accept .stringConstant).andThen fun value => ?_
    refine (Script.declare target.text .string).weaken ?_
    rintro _ rfl _ rfl _ rfl _ rfl
    exact ⟨.assignString (.ofKind _) (.ofKind _) (.ofKind _), by simp [yield, trace, Leaf.ofKind]⟩
  · refine (Script.rule .expression).andThen fun type => ?_
    refine (Script.declare target.text type).weaken ?_
    rintro _ rfl _ ⟨value, rfl⟩ _ rfl _ rfl
    exact ⟨.assignValue (.ofKind _) (.ofKind _) value, by simp [yield, trace, Leaf.ofKind]⟩

private theorem script_alternative :
    Script run ({[.elseWord]} * Rule.statementList.language + 1) (alternative run) := by
  refine .lookahead_bind fun token => ?_
  split
  · refine ((Script.accept .elseWord).bind fun elseWord => .rule .statementList).weaken ?_
    exact fun _ hword => .inl hword
  · exact (Script.pure ()).weaken fun _ hword => .inr hword

private theorem script_ifStatement : Script run Rule.ifStatement.language (ifStatement run) := by
  refine (Script.accept .ifWord).andThen fun opening => ?_
  refine (Script.rule .condition).andThen fun condition => ?_
  refine (Script.accept .thenWord).andThen fun thenWord => ?_
  refine (Script.rule .statementList).andThen fun body => ?_
  refine script_alternative.andThen fun alternative => ?_
  refine (Script.accept .endWord).andThen fun endWord => ?_
  refine (Script.accept .ifWord).andThen fun closing => ?_
  refine (Script.pure ()).weaken ?_
  rintro _ rfl _ rfl _ rfl _ (⟨_, rfl, _, ⟨alternative, rfl⟩, rfl⟩ | rfl) _ ⟨body, rfl⟩ _ rfl _
    ⟨condition, rfl⟩ _ rfl
  · exact ⟨.ifThenElse (.ofKind _) condition (.ofKind _) body (.ofKind _) alternative (.ofKind _)
      (.ofKind _), by simp [yield, trace, Leaf.ofKind]⟩
  · exact ⟨.ifThen (.ofKind _) condition (.ofKind _) body (.ofKind _) (.ofKind _),
      by simp [yield, trace, Leaf.ofKind]⟩

private theorem script_whileStatement :
    Script run Rule.whileStatement.language (whileStatement run) := by
  refine (Script.accept .whileWord).andThen fun opening => ?_
  refine (Script.rule .condition).andThen fun condition => ?_
  refine (Script.accept .loopWord).andThen fun loopWord => ?_
  refine (Script.rule .statementList).andThen fun body => ?_
  refine (Script.accept .endWord).andThen fun endWord => ?_
  refine (Script.accept .loopWord).andThen fun closing => ?_
  refine (Script.pure ()).weaken ?_
  rintro _ rfl _ rfl _ rfl _ ⟨body, rfl⟩ _ rfl _ ⟨condition, rfl⟩ _ rfl
  exact ⟨.whileLoop (.ofKind _) condition (.ofKind _) body (.ofKind _) (.ofKind _),
    by simp [yield, trace, Leaf.ofKind]⟩

private theorem script_procedureStatement :
    Script run Rule.procedureStatement.language (procedureStatement run) := by
  refine (Script.accept .callWord).andThen fun opening => ?_
  refine (Script.accept .identifier).andThen fun callee => ?_
  refine (Script.accept .leftParenthesis).andThen fun leftParenthesis => ?_
  refine (Script.rule .argumentList).andThen fun arguments => ?_
  refine (Script.accept .rightParenthesis).andThen fun rightParenthesis => ?_
  refine (Script.pure ()).weaken ?_
  rintro _ rfl _ rfl _ ⟨arguments, rfl⟩ _ rfl _ rfl _ rfl
  exact ⟨.callProcedure (.ofKind _) (.ofKind _) (.ofKind _) arguments (.ofKind _),
    by simp [yield, trace, Leaf.ofKind]⟩

private theorem script_untilStatement :
    Script run Rule.untilStatement.language (untilStatement run) := by
  refine (Script.accept .doWord).andThen fun opening => ?_
  refine (Script.rule .statementList).andThen fun body => ?_
  refine (Script.accept .untilWord).andThen fun untilWord => ?_
  refine (Script.rule .condition).weaken ?_
  rintro _ ⟨condition, rfl⟩ _ rfl _ ⟨body, rfl⟩ _ rfl
  exact ⟨.doUntil (.ofKind _) body (.ofKind _) condition, by simp [yield, trace, Leaf.ofKind]⟩

private theorem script_forStatement : Script run Rule.forStatement.language (forStatement run) := by
  refine (Script.accept .forWord).andThen fun opening => ?_
  refine (Script.accept .leftParenthesis).andThen fun leftParenthesis => ?_
  refine (Script.rule .assignmentStatement).andThen fun initial => ?_
  refine (Script.accept .semicolon).andThen fun first => ?_
  refine (Script.rule .condition).andThen fun condition => ?_
  refine (Script.accept .semicolon).andThen fun second => ?_
  refine (Script.rule .assignmentStatement).andThen fun step => ?_
  refine (Script.accept .rightParenthesis).andThen fun rightParenthesis => ?_
  refine (Script.accept .doWord).andThen fun doWord => ?_
  refine (Script.rule .statementList).andThen fun body => ?_
  refine (Script.accept .endWord).andThen fun endWord => ?_
  refine (Script.accept .loopWord).andThen fun closing => ?_
  refine (Script.drop initial).andThen fun dropped => ?_
  refine (Script.drop step).weaken ?_
  rintro _ rfl _ rfl _ rfl _ rfl _ ⟨body, rfl⟩ _ rfl _ rfl _ ⟨step, rfl⟩ _ rfl _
    ⟨condition, rfl⟩ _ rfl _ ⟨initial, rfl⟩ _ rfl _ rfl
  exact ⟨.forLoop (.ofKind _) (.ofKind _) initial (.ofKind _) condition (.ofKind _) step
    (.ofKind _) (.ofKind _) body (.ofKind _) (.ofKind _), by simp [yield, trace, Leaf.ofKind]⟩

private theorem script_argumentList : Script run Rule.argumentList.language (argumentList run) := by
  refine Script.acceptVariable.andThen fun argument => ?_
  refine .lookahead_bind fun token => ?_
  split
  · refine (Script.accept .comma).andThen fun comma => ?_
    refine (Script.rule .argumentList).weaken ?_
    rintro _ ⟨rest, rfl⟩ _ rfl _ rfl
    exact ⟨.moreArguments (.ofKind _) (.ofKind _) rest, by simp [yield, trace, Leaf.ofKind]⟩
  · refine (Script.pure ()).weaken ?_
    rintro _ rfl _ rfl
    exact ⟨.lastArgument (.ofKind _), by simp [yield, trace, Leaf.ofKind]⟩

private theorem script_comparand (token : Token) :
    Script run (Kind.oneOf [.identifier, .numberConstant, .stringConstant])
      (match token.kind with
        | .identifier => Analysis.acceptVariable >>= fun _ => pure ()
        | .numberConstant => Analysis.accept .numberConstant >>= fun _ => pure ()
        | .stringConstant => Analysis.accept .stringConstant >>= fun _ => pure ()
        | _ => report .expectedComparand) := by
  split
  · refine (Script.acceptVariable.bind fun right => .pure ()).weaken ?_
    rintro _ ⟨_, rfl, _, rfl, rfl⟩
    exact ⟨.identifier, by decide, rfl⟩
  · refine ((Script.accept .numberConstant).bind fun right => .pure ()).weaken ?_
    rintro _ ⟨_, rfl, _, rfl, rfl⟩
    exact ⟨.numberConstant, by decide, rfl⟩
  · refine ((Script.accept .stringConstant).bind fun right => .pure ()).weaken ?_
    rintro _ ⟨_, rfl, _, rfl, rfl⟩
    exact ⟨.stringConstant, by decide, rfl⟩
  · exact .refuse (by decide) ⟨_, .identifier, by decide, rfl⟩

private theorem script_condition : Script run Rule.condition.language (condition run) := by
  refine Script.acceptVariable.andThen fun left => ?_
  refine (Script.rule .conditionalOperator).andThen fun operator => ?_
  refine (Script.lookahead_bind script_comparand).weaken ?_
  rintro _ ⟨kind, hkind, rfl⟩ _ ⟨operator, rfl⟩ _ rfl
  exact ⟨.comparison (.ofKind _) operator ⟨⟨kind, "", 1⟩, hkind⟩,
    by simp [yield, trace, Leaf.ofKind]⟩

private theorem script_operator {operator : Kind} {operators : List Kind}
    (h : operator ∈ operators) : Script run (Kind.oneOf operators) (Analysis.accept operator) := by
  refine (Script.accept operator).weaken ?_
  rintro _ rfl
  exact ⟨operator, h, rfl⟩

private theorem script_conditionalOperator :
    Script run Rule.conditionalOperator.language conditionalOperator := by
  refine .lookahead_bind fun operator => ?_
  split
  next hoperator =>
    refine (script_operator hoperator).andThen fun operator => ?_
    refine (Script.pure ()).weaken ?_
    rintro _ rfl _ ⟨kind, hkind, rfl⟩
    exact ⟨.relation ⟨⟨kind, "", 1⟩, hkind⟩, by simp [yield, trace]⟩
  next => exact .refuse (by decide) Rule.conditionalOperator.exists_mem_language

private theorem script_expression : Script run Rule.expression.language (expression run) := by
  refine (Script.rule .term).andThen fun left => ?_
  refine .lookahead_bind fun token => ?_
  split
  next hadding =>
    refine (script_operator hadding).andThen fun operator => ?_
    refine (Script.rule .expression).andThen fun right => ?_
    refine (Script.checkAdding token.kind left right).andThen fun checked => ?_
    refine (Script.pure left).weaken ?_
    rintro _ rfl _ rfl _ ⟨rest, rfl⟩ _ ⟨kind, hkind, rfl⟩ _ ⟨term, rfl⟩
    exact ⟨.sum term ⟨⟨kind, "", 1⟩, hkind⟩ rest, by simp [yield, trace]⟩
  next =>
    refine (Script.pure left).weaken ?_
    rintro _ rfl _ ⟨term, rfl⟩
    exact ⟨.lone term, by simp [yield, trace]⟩

private theorem script_term : Script run Rule.term.language (term run) := by
  refine (Script.rule .factor).andThen fun left => ?_
  refine .lookahead_bind fun token => ?_
  split
  next hmultiplying =>
    refine (Script.checkMultiplying token.kind .left left).andThen fun leftChecked => ?_
    refine (script_operator hmultiplying).andThen fun operator => ?_
    refine (Script.rule .term).andThen fun right => ?_
    refine (Script.checkMultiplying token.kind .right right).andThen fun rightChecked => ?_
    refine (Script.pure left).weaken ?_
    rintro _ rfl _ rfl _ ⟨rest, rfl⟩ _ ⟨kind, hkind, rfl⟩ _ rfl _ ⟨factor, rfl⟩
    exact ⟨.product factor ⟨⟨kind, "", 1⟩, hkind⟩ rest, by simp [yield, trace]⟩
  next =>
    refine (Script.pure left).weaken ?_
    rintro _ rfl _ ⟨factor, rfl⟩
    exact ⟨.single factor, by simp [yield, trace]⟩

private theorem script_factor : Script run Rule.factor.language (factor run) := by
  refine .lookahead_bind fun token => ?_
  split
  · refine Script.acceptVariable.andThen fun v => ?_
    refine (Script.pure v.type).weaken ?_
    rintro _ rfl _ rfl
    exact ⟨.name (.ofKind _), by simp [yield, trace, Leaf.ofKind]⟩
  · refine (Script.accept .numberConstant).andThen fun number => ?_
    refine (Script.pure VarType.number).weaken ?_
    rintro _ rfl _ rfl
    exact ⟨.number (.ofKind _), by simp [yield, trace, Leaf.ofKind]⟩
  · refine (Script.accept .leftParenthesis).andThen fun leftParenthesis => ?_
    refine (Script.rule .expression).andThen fun type => ?_
    refine (Script.accept .rightParenthesis).andThen fun rightParenthesis => ?_
    refine (Script.pure type).weaken ?_
    rintro _ rfl _ rfl _ ⟨value, rfl⟩ _ rfl
    exact ⟨.parenthesised (.ofKind _) value (.ofKind _), by simp [yield, trace, Leaf.ofKind]⟩
  · exact .refuse (by decide) Rule.factor.exists_mem_language

end Procedure

/-- The kinds that the procedure of a rule accepts spell a word of the rule. -/
theorem procedure_script (run : Run) (rule : Rule) :
    Script run rule.language (procedure run rule) := by
  cases rule with
  | statementPart => exact Procedure.script_statementPart
  | statementList => exact Procedure.script_statementList
  | statement => exact Procedure.script_statement
  | assignmentStatement => exact Procedure.script_assignmentStatement
  | ifStatement => exact Procedure.script_ifStatement
  | whileStatement => exact Procedure.script_whileStatement
  | procedureStatement => exact Procedure.script_procedureStatement
  | untilStatement => exact Procedure.script_untilStatement
  | forStatement => exact Procedure.script_forStatement
  | argumentList => exact Procedure.script_argumentList
  | condition => exact Procedure.script_condition
  | conditionalOperator => exact Procedure.script_conditionalOperator
  | expression => exact Procedure.script_expression
  | term => exact Procedure.script_term
  | factor => exact Procedure.script_factor

end OnePass
