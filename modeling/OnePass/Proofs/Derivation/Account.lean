import OnePass.Analysis.Basic
import OnePass.Grammar.Typing
/-!
# Accounts of derivation trees

The account of a tree goes through it from left to right as the static rules do, and also tells what
an analysis of its tokens records: the rules, the terminals, and the variables that are declared and
dropped. There is no account where a static rule is broken.
-/
namespace OnePass

def Occurrence.terminal? : Occurrence → Option Token
  | .terminal token => some token
  | _ => none

namespace Journal

/-- Records one thing that happened. -/
def tell (journal : Journal) : Occurrence → Journal
  | .commence rule => journal.commence rule
  | .finish rule => journal.finish rule
  | occurrence => journal.record occurrence

/-- Records what happened in order, and takes over the scope that it left. -/
def follow (journal : Journal) (scope : Scope) (story : List Occurrence) : Journal :=
  { story.foldl tell journal with scope }

@[simp] theorem scope_follow (journal : Journal) (scope : Scope) (story : List Occurrence) :
    (journal.follow scope story).scope = scope := rfl

private theorem tell_with_scope (journal : Journal) (scope : Scope) (occurrence : Occurrence) :
    { journal with scope }.tell occurrence = { journal.tell occurrence with scope } := by
  cases occurrence <;> rfl

private theorem foldl_tell_with_scope (journal : Journal) (scope : Scope)
    (story : List Occurrence) :
    story.foldl tell { journal with scope } = { story.foldl tell journal with scope } := by
  induction story generalizing journal with
  | nil => rfl
  | cons occurrence story ih =>
      rw [List.foldl_cons, tell_with_scope, ih]
      rfl

theorem follow_follow (journal : Journal) (scope scope' : Scope) (front back : List Occurrence) :
    (journal.follow scope front).follow scope' back = journal.follow scope' (front ++ back) := by
  simp only [follow, foldl_tell_with_scope, List.foldl_append]

theorem follow_with_scope (journal : Journal) (scope scope' : Scope) (story : List Occurrence) :
    { journal with scope }.follow scope' story = journal.follow scope' story := by
  simp only [follow, foldl_tell_with_scope]

theorem finish_follow_commence (journal : Journal) (scope : Scope) (story : List Occurrence)
    (rule : String) :
    ((journal.commence rule).follow scope story).finish rule =
      journal.follow scope (.commence rule :: story ++ [.finish rule]) := by
  simp only [follow, List.cons_append, List.foldl_cons, List.foldl_append, List.foldl_nil]
  rfl

theorem declare_eq_follow (journal : Journal) (v : Variable) :
    (journal.declare v).2 = journal.follow (journal.scope.add v).2
      (if (journal.scope.add v).1 = v then [.declare v] else []) := by
  unfold declare
  by_cases hnew : (journal.scope.add v).1 = v
  · simp only [hnew, if_true]
    rfl
  · simp only [hnew, if_false]
    rfl

theorem drop_eq_follow (journal : Journal) (v : Variable) :
    journal.drop v = journal.follow (journal.scope.remove v).2
      (if (journal.scope.remove v).1 then [.remove v] else []) := by
  unfold drop
  by_cases hremoved : (journal.scope.remove v).1 = true
  · simp only [hremoved, if_true]
    rfl
  · simp only [hremoved]
    rfl

/-- What happened, in order and without the depths. -/
def occurrences (journal : Journal) : List Occurrence :=
  journal.events.toList.map Event.occurrence

theorem occurrences_tell (journal : Journal) (occurrence : Occurrence) :
    (journal.tell occurrence).occurrences = journal.occurrences ++ [occurrence] := by
  cases occurrence <;> simp [tell, occurrences, commence, finish]

theorem occurrences_follow (journal : Journal) (scope : Scope) (story : List Occurrence) :
    (journal.follow scope story).occurrences = journal.occurrences ++ story := by
  change (story.foldl tell journal).occurrences = _
  induction story generalizing journal with
  | nil => simp
  | cons occurrence story ih =>
      rw [List.foldl_cons, ih, occurrences_tell, List.append_assoc, List.singleton_append]

private theorem terminals_eq (journal : Journal) :
    journal.terminals = journal.occurrences.filterMap Occurrence.terminal? := by
  unfold terminals occurrences
  rw [List.filterMap_map]
  rfl

theorem terminals_tell (journal : Journal) (occurrence : Occurrence) :
    (journal.tell occurrence).terminals =
      journal.terminals ++ occurrence.terminal?.toList := by
  rw [terminals_eq, terminals_eq, occurrences_tell, List.filterMap_append]
  cases occurrence <;> rfl

theorem terminals_follow (journal : Journal) (scope : Scope) (story : List Occurrence) :
    (journal.follow scope story).terminals =
      journal.terminals ++ story.filterMap Occurrence.terminal? := by
  rw [terminals_eq, terminals_eq, occurrences_follow, List.filterMap_append]

end Journal

/-- What comes of a scope: a result, the scope afterwards and what happened; or nothing, where a
static rule is broken. -/
def Account (α : Type) : Type :=
  Scope → Option (α × Scope × List Occurrence)

namespace Account

instance : Monad Account where
  pure a scope := some (a, scope, [])
  bind x f scope := do
    let (a, scope, front) ← x scope
    let (b, scope, back) ← f a scope
    return (b, scope, front ++ back)

variable {α β : Type}

def tell (occurrence : Occurrence) : Account Unit := fun scope =>
  some ((), scope, [occurrence])

def accept {kinds : List Kind} (leaf : Leaf kinds) : Account Unit :=
  tell (.terminal leaf.val)

/-- Accepts the name of a live variable. -/
def acceptVariable {kinds : List Kind} (leaf : Leaf kinds) : Account Variable := fun scope => do
  let v ← scope.find? leaf.val.text
  return (v, scope, [.terminal leaf.val])

/-- Goes on only if a static rule is kept. -/
def require (p : Prop) [Decidable p] : Account Unit := fun scope =>
  if p then some ((), scope, []) else none

def declare (identifier : String) (type : VarType) : Account Variable := fun scope =>
  let (v, issued) := scope.issue identifier type
  let (stored, scope) := issued.add v
  some (v, scope, if stored = v then [.declare v] else [])

def drop (v : Variable) : Account Unit := fun scope =>
  let (removed, scope) := scope.remove v
  some ((), scope, if removed then [.remove v] else [])

def within (rule : Rule) (x : Account α) : Account α := fun scope => do
  let (a, scope, story) ← x scope
  return (a, scope, .commence rule.name :: story ++ [.finish rule.name])

@[simp] theorem pure_eq (a : α) (scope : Scope) :
    (pure a : Account α) scope = some (a, scope, []) :=
  rfl

theorem bind_eq (x : Account α) (f : α → Account β) (scope : Scope) :
    (x >>= f) scope = (x scope).bind fun (a, scope, front) =>
      (f a scope).map fun (b, scope, back) => (b, scope, front ++ back) := by
  change Option.bind _ _ = _
  congr 1
  funext ⟨a, scope, front⟩
  dsimp only
  cases f a scope <;> rfl

theorem bind_eq_some {x : Account α} {f : α → Account β} {scope scope' : Scope} {b : β}
    {story : List Occurrence} :
    (x >>= f) scope = some (b, scope', story) ↔ ∃ a middle front back,
      x scope = some (a, middle, front) ∧ f a middle = some (b, scope', back) ∧
        story = front ++ back := by
  rw [bind_eq]
  constructor
  · intro h
    obtain ⟨⟨a, middle, front⟩, hx, h⟩ := Option.bind_eq_some_iff.mp h
    obtain ⟨⟨b, scope', back⟩, hf, h⟩ := Option.map_eq_some_iff.mp h
    cases h
    exact ⟨a, middle, front, back, hx, hf, rfl⟩
  · rintro ⟨a, middle, front, back, hx, hf, rfl⟩
    simp only [hx, Option.bind_some, hf, Option.map_some]

theorem accept_bind_eq_some {kinds : List Kind} {leaf : Leaf kinds} {f : Unit → Account β}
    {scope scope' : Scope} {b : β} {story : List Occurrence} :
    (accept leaf >>= f) scope = some (b, scope', story) ↔
      ∃ back, f () scope = some (b, scope', back) ∧ story = .terminal leaf.val :: back := by
  rw [bind_eq_some]
  constructor
  · rintro ⟨_, _, _, back, haccept, hf, rfl⟩
    cases haccept
    exact ⟨back, hf, rfl⟩
  · rintro ⟨back, hf, rfl⟩
    exact ⟨(), scope, _, back, rfl, hf, rfl⟩

theorem within_eq_some {rule : Rule} {x : Account α} {scope scope' : Scope} {a : α}
    {story : List Occurrence} :
    within rule x scope = some (a, scope', story) ↔ ∃ inner, x scope = some (a, scope', inner) ∧
      story = .commence rule.name :: inner ++ [.finish rule.name] := by
  unfold within
  constructor
  · intro h
    obtain ⟨⟨b, middle, inner⟩, hx, h⟩ := Option.bind_eq_some_iff.mp h
    cases h
    exact ⟨inner, hx, rfl⟩
  · rintro ⟨inner, hx, rfl⟩
    rw [hx]
    rfl

theorem bind_pure (x : Account α) : (x >>= fun a => pure a) = x := by
  funext scope
  rw [bind_eq]
  cases x scope with
  | none => rfl
  | some result =>
      obtain ⟨a, scope, story⟩ := result
      simp

protected theorem pure_bind (a : α) (f : α → Account β) : pure a >>= f = f a := by
  funext scope
  rw [bind_eq, pure_eq]
  simp

protected theorem bind_assoc {γ : Type} (x : Account α) (f : α → Account β) (g : β → Account γ) :
    x >>= f >>= g = x >>= fun a => f a >>= g := by
  funext scope
  simp only [bind_eq]
  cases x scope with
  | none => rfl
  | some told =>
      obtain ⟨a, middle, front⟩ := told
      simp only [Option.bind_some]
      cases f a middle with
      | none => rfl
      | some told =>
          obtain ⟨b, after, back⟩ := told
          simp [Function.comp_def]

end Account

namespace Grammar.Tree

/-- The account of a tree. -/
def account : {rule : Rule} → Tree rule → Account rule.Result
  | _, .program opening body closing => .within .statementPart do
    .accept opening
    body.account
    .accept closing
  | _, .last statement => .within .statementList statement.account
  | _, .closed statement semicolon => .within .statementList do
    statement.account
    .accept semicolon
  | _, .more statement semicolon rest => .within .statementList do
    statement.account
    .accept semicolon
    rest.account
  | _, .assignment statement => .within .statement do
    let _ ← statement.account
  | _, .choice statement => .within .statement statement.account
  | _, .loop statement => .within .statement statement.account
  | _, .call statement => .within .statement statement.account
  | _, .repetition statement => .within .statement statement.account
  | _, .iteration statement => .within .statement statement.account
  | _, .assignValue target becomes value => .within .assignmentStatement do
    .accept target
    .accept becomes
    let type ← value.account
    .declare target.val.text type
  | _, .assignString target becomes value => .within .assignmentStatement do
    .accept target
    .accept becomes
    .accept value
    .declare target.val.text .string
  | _, .ifThen opening condition thenWord body endWord closing => .within .ifStatement do
    .accept opening
    condition.account
    .accept thenWord
    body.account
    .accept endWord
    .accept closing
  | _, .ifThenElse opening condition thenWord body elseWord alternative endWord closing =>
    .within .ifStatement do
      .accept opening
      condition.account
      .accept thenWord
      body.account
      .accept elseWord
      alternative.account
      .accept endWord
      .accept closing
  | _, .whileLoop opening condition loopWord body endWord closing => .within .whileStatement do
    .accept opening
    condition.account
    .accept loopWord
    body.account
    .accept endWord
    .accept closing
  | _, .callProcedure opening callee leftParenthesis arguments rightParenthesis =>
    .within .procedureStatement do
      .accept opening
      .accept callee
      .accept leftParenthesis
      arguments.account
      .accept rightParenthesis
  | _, .doUntil opening body untilWord condition => .within .untilStatement do
    .accept opening
    body.account
    .accept untilWord
    condition.account
  | _, .forLoop opening leftParenthesis initial first condition second step rightParenthesis
      doWord body endWord closing => .within .forStatement do
    .accept opening
    .accept leftParenthesis
    let v ← initial.account
    .accept first
    condition.account
    .accept second
    let w ← step.account
    .accept rightParenthesis
    .accept doWord
    body.account
    .accept endWord
    .accept closing
    .drop v
    .drop w
  | _, .lastArgument token => .within .argumentList do
    let _ ← .acceptVariable token
  | _, .moreArguments token comma rest => .within .argumentList do
    let _ ← .acceptVariable token
    .accept comma
    rest.account
  | _, .comparison left operator right => .within .condition do
    let _ ← .acceptVariable left
    operator.account
    if right.val.kind = .identifier then
      let _ ← .acceptVariable right
    else .accept right
  | _, .relation operator => .within .conditionalOperator (.accept operator)
  | _, .lone term => .within .expression term.account
  | _, .sum term operator rest => .within .expression do
    let left ← term.account
    .accept operator
    let right ← rest.account
    .require (AddingFits operator.val.kind left right)
    return left
  | _, .single factor => .within .term factor.account
  | _, .product factor operator rest => .within .term do
    let left ← factor.account
    .require (left ≠ .string)
    .accept operator
    let right ← rest.account
    .require (right ≠ .string)
    return left
  | _, .name token => .within .factor do
    let v ← .acceptVariable token
    return v.type
  | _, .number token => .within .factor do
    .accept token
    return .number
  | _, .parenthesised leftParenthesis value rightParenthesis => .within .factor do
    .accept leftParenthesis
    let type ← value.account
    .accept rightParenthesis
    return type

end Grammar.Tree

namespace Analysis

private theorem compatible_iff_addingFits (operator : Kind) (left right : VarType) :
    compatible operator left right = true ↔ Grammar.AddingFits operator left right := by
  by_cases hminus : operator = .minus <;> cases left <;> cases right <;>
    simp [Grammar.AddingFits, compatible, hminus]

theorem checkAdding_eq (operator : Kind) (left right : VarType) :
    checkAdding operator left right = if Grammar.AddingFits operator left right then pure ()
      else report (.incompatible left right operator) := by
  unfold checkAdding
  simp only [compatible_iff_addingFits]

theorem checkMultiplying_eq (operator : Kind) (side : Side) (type : VarType) :
    checkMultiplying operator side type = if type ≠ .string then pure ()
      else report (.stringOperand operator side) := by
  unfold checkMultiplying
  by_cases hstring : type = .string <;> simp [hstring]

end Analysis

end OnePass
