import OnePass.Proofs.Derivation.Completeness
import OnePass.Proofs.Derivation.Replay
import OnePass.Proofs.Derivation.Start
import OnePass.Proofs.Derivation.Verdict
/-!
# Types of expressions

The rules for expressions compare two types at a time, those of the leftmost operands on both sides
of an operator. All the same an expression has a type just if its operands are Strings that are only
added, or if none of them is a String, however they are grouped.
-/
namespace OnePass

open Grammar

/-- No operand is a String, or all of them are and are only added. -/
def Homogeneous (types : List VarType) (operators : List Kind) : Prop :=
  (∀ type ∈ types, type ≠ .string) ∨
    (∀ type ∈ types, type = .string) ∧ ∀ operator ∈ operators, operator = .plus

instance (types : List VarType) (operators : List Kind) : Decidable (Homogeneous types operators) :=
  inferInstanceAs (Decidable (_ ∨ _))

private theorem homogeneous_of_string {types : List VarType} {operators : List Kind} :
    Homogeneous (.string :: types) operators ↔
      (∀ type ∈ types, type = .string) ∧ ∀ operator ∈ operators, operator = .plus := by
  simp [Homogeneous]

private theorem homogeneous_of_ne {first : VarType} (hfirst : first ≠ .string)
    {types : List VarType} {operators : List Kind} :
    Homogeneous (first :: types) operators ↔ ∀ type ∈ types, type ≠ .string := by
  simp [Homogeneous, hfirst]

private theorem homogeneous_append {left right : VarType} {types types' : List VarType}
    {operator : Kind} {operators operators' : List Kind} :
    Homogeneous (left :: (types ++ right :: types')) (operators ++ operator :: operators') ↔
      Homogeneous (left :: types) operators ∧ Homogeneous (right :: types') operators' ∧
        (left = .string ↔ right = .string) ∧ (left = .string → operator = .plus) := by
  by_cases hleft : left = .string
  · subst hleft
    rw [homogeneous_of_string, homogeneous_of_string]
    simp only [List.forall_mem_append, List.forall_mem_cons, true_iff, true_imp_iff]
    constructor
    · rintro ⟨⟨htypes, rfl, htypes'⟩, hoperators, hoperator, hoperators'⟩
      exact ⟨⟨htypes, hoperators⟩, homogeneous_of_string.mpr ⟨htypes', hoperators'⟩, rfl, hoperator⟩
    · rintro ⟨⟨htypes, hoperators⟩, hright, rfl, hoperator⟩
      obtain ⟨htypes', hoperators'⟩ := homogeneous_of_string.mp hright
      exact ⟨⟨htypes, rfl, htypes'⟩, hoperators, hoperator, hoperators'⟩
  · rw [homogeneous_of_ne hleft, homogeneous_of_ne hleft]
    simp only [List.forall_mem_append, List.forall_mem_cons, hleft, false_iff, false_imp_iff,
      and_true]
    constructor
    · rintro ⟨htypes, hright, htypes'⟩
      exact ⟨htypes, (homogeneous_of_ne hright).mpr htypes', hright⟩
    · rintro ⟨htypes, htypes', hright⟩
      exact ⟨htypes, hright, (homogeneous_of_ne hright).mp htypes'⟩

/-- The type of a number or of the variable that a token names. -/
def Scope.operandType (scope : Scope) (token : Token) : VarType :=
  if token.kind = .numberConstant then .number
  else ((scope.find? token.text).map Variable.type).getD .unknown

namespace Token

def IsOperand (token : Token) : Prop :=
  token.kind = .identifier ∨ token.kind = .numberConstant

instance (token : Token) : Decidable token.IsOperand :=
  inferInstanceAs (Decidable (_ ∨ _))

/-- The names and numbers among the tokens. -/
def operands (tokens : List Token) : List Token :=
  tokens.filter IsOperand

/-- What a token is, wherever it stands. -/
def spelling (token : Token) : Kind × String :=
  (token.kind, token.text)

/-- The arithmetic operators among the tokens. -/
def operators (tokens : List Token) : List Kind :=
  (tokens.map Token.kind).filter (· ∈ Kind.adding ++ Kind.multiplying)

private theorem operands_append (front back : List Token) :
    operands (front ++ back) = operands front ++ operands back :=
  List.filter_append ..

private theorem operators_append (front back : List Token) :
    operators (front ++ back) = operators front ++ operators back := by
  unfold operators
  rw [List.map_append, List.filter_append]

private theorem operands_cons {token : Token} (tokens : List Token) (h : token.IsOperand) :
    operands (token :: tokens) = token :: operands tokens :=
  List.filter_cons_of_pos (decide_eq_true h)

private theorem operands_cons_of_not {token : Token} (tokens : List Token) (h : ¬ token.IsOperand) :
    operands (token :: tokens) = operands tokens :=
  List.filter_cons_of_neg (by simpa using h)

private theorem operators_cons {token : Token} (tokens : List Token)
    (h : token.kind ∈ Kind.adding ++ Kind.multiplying) :
    operators (token :: tokens) = token.kind :: operators tokens :=
  List.filter_cons_of_pos (decide_eq_true h)

private theorem operators_cons_of_not {token : Token} (tokens : List Token)
    (h : token.kind ∉ Kind.adding ++ Kind.multiplying) :
    operators (token :: tokens) = operators tokens :=
  List.filter_cons_of_neg (by simpa using h)

end Token

private theorem Scope.operandType_eq (scope : Scope) :
    scope.operandType = (fun spelling : Kind × String =>
      scope.operandType ⟨spelling.1, spelling.2, 0⟩) ∘ Token.spelling :=
  rfl

open Token (operands operators)

/-- The types of the operands are alike, and the leftmost is the type of the whole. -/
private def TypedAs (type? : Option VarType) (tokens : List Token) (scope : Scope) : Prop :=
  ∃ left types, (operands tokens).map scope.operandType = left :: types ∧
    type? = if Homogeneous (left :: types) (operators tokens) then some left else none

private theorem typedAs_of_parts {front back : List Token} {type? type?' : Option VarType}
    {operator : Token} {fits : VarType → VarType → Prop} [∀ left right, Decidable (fits left right)]
    {scope : Scope} (hfront : TypedAs type? front scope) (hback : TypedAs type?' back scope)
    (hoperator : operator.kind ∈ Kind.adding ++ Kind.multiplying)
    (hfits : ∀ left right, fits left right ↔
      (left = .string ↔ right = .string) ∧ (left = .string → operator.kind = .plus)) :
    TypedAs (type?.bind fun left => type?'.bind fun right =>
      if fits left right then some left else none) (front ++ operator :: back) scope := by
  obtain ⟨left, types, hleft, rfl⟩ := hfront
  obtain ⟨right, types', hright, rfl⟩ := hback
  have hnot : ¬ operator.IsOperand := by
    rintro (hkind | hkind) <;> rw [hkind] at hoperator <;> exact absurd hoperator (by decide)
  refine ⟨left, types ++ right :: types', ?_, ?_⟩
  · rw [Token.operands_append, Token.operands_cons_of_not back hnot, List.map_append, hleft, hright,
      List.cons_append]
  · rw [Token.operators_append, Token.operators_cons back hoperator]
    by_cases hhere : Homogeneous (left :: types) (operators front)
    · by_cases hthere : Homogeneous (right :: types') (operators back)
      · simp [homogeneous_append, hhere, hthere, hfits]
      · simp [homogeneous_append, hhere, hthere]
    · simp [homogeneous_append, hhere]

private theorem typedAs_of_operand {token : Token} {scope : Scope} (h : token.IsOperand) :
    TypedAs (some (scope.operandType token)) [token] scope := by
  have hnot : token.kind ∉ Kind.adding ++ Kind.multiplying := by
    rcases h with hkind | hkind <;> rw [hkind] <;> decide
  refine ⟨scope.operandType token, [], ?_, ?_⟩
  · rw [Token.operands_cons [] h]
    rfl
  · rw [Token.operators_cons_of_not [] hnot, if_pos]
    by_cases hstring : scope.operandType token = .string
    · exact .inr (by simp [hstring, operators])
    · exact .inl (by simp [hstring])

private theorem typedAs_of_parenthesised {leftParenthesis : Leaf [.leftParenthesis]}
    {rightParenthesis : Leaf [.rightParenthesis]} {type? : Option VarType} {tokens : List Token}
    {scope : Scope} (h : TypedAs type? tokens scope) :
    TypedAs type? (leftParenthesis.val :: tokens ++ [rightParenthesis.val]) scope := by
  obtain ⟨left, types, htypes, rfl⟩ := h
  have hleft : ¬ leftParenthesis.val.IsOperand := by
    simp [Token.IsOperand, leftParenthesis.kind_eq]
  have hright : ¬ rightParenthesis.val.IsOperand := by
    simp [Token.IsOperand, rightParenthesis.kind_eq]
  refine ⟨left, types, ?_, ?_⟩
  · rw [Token.operands_append, Token.operands_cons_of_not _ hleft,
      Token.operands_cons_of_not _ hright, ← htypes]
    exact congrArg _ (List.append_nil _)
  · rw [Token.operators_append,
      Token.operators_cons_of_not _ (by rw [leftParenthesis.kind_eq]; decide),
      Token.operators_cons_of_not _ (by rw [rightParenthesis.kind_eq]; decide)]
    rw [show operators [] = [] from rfl, List.append_nil]

private theorem typedAs {rule : Rule} (t : Tree rule) {scope : Scope}
    (hrule : rule ∈ [Rule.expression, .term, .factor])
    (hdeclared : ∀ token ∈ t.yield, token.kind = .identifier → scope.contains token.text) :
    TypedAs (t.type? scope.context) t.yield scope := by
  induction t with
  | lone term ih =>
      have hyield : (Tree.lone term).yield = term.yield := by simp [Tree.yield, Tree.trace]
      rw [hyield] at hdeclared ⊢
      exact ih (by decide) hdeclared
  | sum term operator rest ihterm ihrest =>
      have hyield : (Tree.sum term operator rest).yield =
          term.yield ++ operator.val :: rest.yield := by simp [Tree.yield, Tree.trace]
      rw [hyield] at hdeclared ⊢
      rw [List.forall_mem_append, List.forall_mem_cons] at hdeclared
      have hterm := ihterm (by decide) hdeclared.1
      have hrest := ihrest (by decide) hdeclared.2.2
      apply typedAs_of_parts hterm hrest (List.mem_append_left _ operator.property)
      intro left right
      have hminus : operator.val.kind = .plus ↔ operator.val.kind ≠ .minus := by
        have hoperator := operator.property
        rcases List.mem_pair.mp hoperator with hkind | hkind <;> simp [hkind]
      unfold AddingFits
      rw [hminus]
      exact and_congr_right fun _ => imp_not_comm
  | single factor ih =>
      have hyield : (Tree.single factor).yield = factor.yield := by simp [Tree.yield, Tree.trace]
      rw [hyield] at hdeclared ⊢
      exact ih (by decide) hdeclared
  | product factor operator rest ihfactor ihrest =>
      have hyield : (Tree.product factor operator rest).yield =
          factor.yield ++ operator.val :: rest.yield := by simp [Tree.yield, Tree.trace]
      rw [hyield] at hdeclared ⊢
      rw [List.forall_mem_append, List.forall_mem_cons] at hdeclared
      have hfactor := ihfactor (by decide) hdeclared.1
      have hrest := ihrest (by decide) hdeclared.2.2
      apply typedAs_of_parts hfactor hrest (List.mem_append_right _ operator.property)
      intro left right
      have hplus : operator.val.kind ≠ .plus := operator.kind_ne (by decide)
      by_cases hleft : left = .string
      · simp [hleft, hplus]
      · simp [hleft]
  | name token =>
      have hcontains := hdeclared token.val (by simp [Tree.yield, Tree.trace]) token.kind_eq
      obtain ⟨v, hfind⟩ := Option.isSome_iff_exists.mp hcontains
      have hkind : token.val.kind ≠ .numberConstant := token.kind_ne (by decide)
      have htype : (Tree.name token).type? scope.context = some (scope.operandType token.val) := by
        change scope.context.type? token.val.text = _
        rw [Scope.context_type?, hfind, Scope.operandType, if_neg hkind, hfind]
        rfl
      rw [htype]
      exact typedAs_of_operand (.inl token.kind_eq)
  | number token =>
      have htype :
          (Tree.number token).type? scope.context = some (scope.operandType token.val) := by
        rw [Scope.operandType, if_pos token.kind_eq]
        rfl
      rw [htype]
      exact typedAs_of_operand (.inr token.kind_eq)
  | parenthesised leftParenthesis value rightParenthesis ih =>
      have hyield : (Tree.parenthesised leftParenthesis value rightParenthesis).yield =
          leftParenthesis.val :: value.yield ++ [rightParenthesis.val] := by
        simp [Tree.yield, Tree.trace]
      rw [hyield] at hdeclared ⊢
      rw [List.forall_mem_append, List.forall_mem_cons] at hdeclared
      exact typedAs_of_parenthesised (ih (by decide) hdeclared.1.2)
  | _ => exact absurd hrule (by decide)

namespace Analysis

private theorem runRule_expression {E : Tree .expression} {c c' : Cursor} {j : Journal}
    (hpasses : c.Passes E.yield c') (hnext : c'.token.kind ∉ Kind.adding ++ Kind.multiplying)
    (hdeclared : ∀ token ∈ E.yield, token.kind = .identifier → j.scope.contains token.text) :
    ∃ left types, (operands E.yield).map j.scope.operandType = left :: types ∧
      if Homogeneous (left :: types) (operators E.yield) then
        ∃ j', runRule .expression (c.analyser j) = .ok left (c'.analyser j') ∧ j'.scope = j.scope
      else
        ∃ failure s, runRule .expression (c.analyser j) = .error (.rejected failure) s ∧
          failure.category = .semantic := by
  obtain ⟨left, types, htypes, htype⟩ := typedAs E (by decide) hdeclared
  have hfollows := E.follows_account c c' j hpasses hnext
  have houtcome := E.account_types j.scope
  rw [htype] at houtcome
  refine ⟨left, types, htypes, ?_⟩
  by_cases hhomogeneous : Homogeneous (left :: types) (operators E.yield)
  · rw [if_pos hhomogeneous] at houtcome ⊢
    obtain ⟨⟨type, scope, story⟩, haccount, hsame⟩ := Option.map_eq_some_iff.mp houtcome
    obtain ⟨rfl, rfl⟩ := Prod.mk.inj hsame
    rw [haccount] at hfollows
    exact ⟨j.follow j.scope story, hfollows, rfl⟩
  · rw [if_neg hhomogeneous] at houtcome ⊢
    rw [Option.map_eq_none_iff.mp houtcome] at hfollows
    cases hrun : runRule .expression (c.analyser j) with
    | ok type s =>
        rw [hrun] at hfollows
        exact hfollows.elim
    | error stop s =>
        rw [hrun] at hfollows
        cases stop with
        | rejected failure =>
            exact ⟨failure, s, rfl, (category_of_runRule hrun).trans hfollows⟩
        | notStarted | alreadyStarted | allowanceUsedUp => exact hfollows.elim

/-- An expression whose names are live and behind which no operator stands succeeds just if its
operands are homogeneous. It is then read to its end, changes no variable and has the type of its
leftmost operand; otherwise it is rejected for its meaning. So only the operands and the operators
matter, and not how they are grouped. -/
theorem expression_homogeneity {E : Tree .expression} {c c' : Cursor} {j : Journal}
    (hpasses : c.Passes E.yield c') (hnext : c'.token.kind ∉ Kind.adding ++ Kind.multiplying)
    (hdeclared : ∀ token ∈ E.yield, token.kind = .identifier → j.scope.contains token.text) :
    (Homogeneous ((operands E.yield).map j.scope.operandType) (operators E.yield) →
      ∃ type j', runRule .expression (c.analyser j) = .ok type (c'.analyser j') ∧
        j'.scope = j.scope ∧ ((operands E.yield).map j.scope.operandType).head? = some type) ∧
    (¬ Homogeneous ((operands E.yield).map j.scope.operandType) (operators E.yield) →
      ∃ failure s, runRule .expression (c.analyser j) = .error (.rejected failure) s ∧
        failure.category = .semantic) ∧
    ∀ (E' : Tree .expression) (d d' : Cursor), d.Passes E'.yield d' →
      d'.token.kind ∉ Kind.adding ++ Kind.multiplying →
      (operands E'.yield).map Token.spelling = (operands E.yield).map Token.spelling →
      operators E'.yield = operators E.yield → ∀ type,
        (∃ s, runRule .expression (d.analyser j) = .ok type s) ↔
          ∃ s, runRule .expression (c.analyser j) = .ok type s := by
  obtain ⟨left, types, htypes, hrun⟩ := runRule_expression hpasses hnext hdeclared
  rw [htypes]
  refine ⟨?_, ?_, ?_⟩
  · intro hhomogeneous
    rw [if_pos hhomogeneous] at hrun
    obtain ⟨j', hrun, hscope⟩ := hrun
    exact ⟨left, j', hrun, hscope, rfl⟩
  · intro hmixed
    rwa [if_neg hmixed] at hrun
  · intro E' d d' hpasses' hnext' hoperands hoperators type
    have hdeclared' : ∀ token ∈ E'.yield, token.kind = .identifier →
        j.scope.contains token.text := by
      intro token hmem hkind
      have hoperand : token ∈ operands E'.yield :=
        List.mem_filter.mpr ⟨hmem, decide_eq_true (.inl hkind)⟩
      have hspelling : token.spelling ∈ (operands E.yield).map Token.spelling :=
        hoperands ▸ List.mem_map_of_mem hoperand
      obtain ⟨token', hmem', hsame⟩ := List.mem_map.mp hspelling
      obtain ⟨hkind', htext⟩ := Prod.mk.inj hsame
      rw [← htext]
      exact hdeclared token' (List.mem_filter.mp hmem').1 (hkind'.trans hkind)
    have hsame : (operands E'.yield).map j.scope.operandType =
        (operands E.yield).map j.scope.operandType := by
      rw [j.scope.operandType_eq, ← List.map_map, hoperands, List.map_map]
    obtain ⟨left', types', htypes', hrun'⟩ := runRule_expression hpasses' hnext' hdeclared'
    rw [hsame, htypes] at htypes'
    cases htypes'
    rw [hoperators] at hrun'
    by_cases hhomogeneous : Homogeneous (left :: types) (operators E.yield)
    · rw [if_pos hhomogeneous] at hrun hrun'
      obtain ⟨j₁, hrun, -⟩ := hrun
      obtain ⟨j₂, hrun', -⟩ := hrun'
      simp [hrun, hrun']
    · rw [if_neg hhomogeneous] at hrun hrun'
      obtain ⟨failure, s, hrun, -⟩ := hrun
      obtain ⟨failure', s', hrun', -⟩ := hrun'
      simp [hrun, hrun']

/-- A sum of two Strings. -/
theorem homogeneity_of_string_sum :
    ∃ j' : Journal,
      let E : Tree .expression := .sum (.single (.name ⟨⟨.identifier, "a", 1⟩, by decide⟩))
        ⟨⟨.plus, "+", 1⟩, by decide⟩ (.lone (.single (.name ⟨⟨.identifier, "b", 1⟩, by decide⟩)))
      let c := Cursor.ofTokens "sum"
        [⟨.identifier, "a", 1⟩, ⟨.plus, "+", 1⟩, ⟨.identifier, "b", 1⟩] 1
      let c' := Cursor.ofTokens "sum" [] 1
      let j : Journal := .start (.ofDeclarations [("a", .string), ("b", .string)]) false
      c.Passes E.yield c' ∧
        runRule .expression (c.analyser j) = .ok .string (c'.analyser j') ∧ j'.scope = j.scope := by
  let E : Tree .expression := .sum (.single (.name ⟨⟨.identifier, "a", 1⟩, by decide⟩))
    ⟨⟨.plus, "+", 1⟩, by decide⟩ (.lone (.single (.name ⟨⟨.identifier, "b", 1⟩, by decide⟩)))
  let c := Cursor.ofTokens "sum"
    [⟨.identifier, "a", 1⟩, ⟨.plus, "+", 1⟩, ⟨.identifier, "b", 1⟩] 1
  let c' := Cursor.ofTokens "sum" [] 1
  let j : Journal := .start (.ofDeclarations [("a", .string), ("b", .string)]) false
  have hpasses : c.Passes E.yield c' := .step rfl (.step rfl (.step rfl (.here c')))
  have hdeclared : ∀ token ∈ E.yield, token.kind = .identifier → j.scope.contains token.text := by
    decide +kernel
  obtain ⟨type, j', hrun, hscope, htype⟩ :=
    (expression_homogeneity hpasses (by decide) hdeclared).1 (by decide +kernel)
  have hstring : type = .string := by
    have hhead : ((operands E.yield).map j.scope.operandType).head? = some .string := by
      decide +kernel
    exact Option.some.inj (htype.symm.trans hhead)
  rw [hstring] at hrun
  exact ⟨j', hpasses, hrun, hscope⟩

end Analysis

end OnePass
