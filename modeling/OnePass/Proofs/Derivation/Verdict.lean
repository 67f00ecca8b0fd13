import OnePass.Proofs.Scoping.Loops
/-!
# Accounts keep the static rules

A tree has an account exactly where it keeps the static rules. The account then has the type that
the rules give, and leaves live the variables of the names that the rules declare.
-/
namespace OnePass

open Grammar

namespace Scope

theorem context_type? (scope : Scope) (identifier : String) :
    scope.context.type? identifier = (scope.find? identifier).map Variable.type := by
  unfold Context.type? context find?
  rw [List.find?_map, Option.map_map]
  rfl

private theorem context_declares {scope : Scope} {identifier : String} :
    scope.context.Declares identifier ↔ scope.contains identifier := by
  rw [contains_iff_mem]
  unfold Context.Declares context
  rw [List.map_map]
  rfl

private theorem context_of_declare {scope after : Scope} {identifier : String} {type : VarType}
    (h : after.entries = scope.entries ++ scope.additions identifier type) :
    after.context = scope.context.declare identifier type := by
  unfold additions at h
  unfold Context.declare
  by_cases hcontains : scope.contains identifier = true
  · rw [if_pos hcontains, List.append_nil] at h
    rw [if_pos (context_declares.mpr hcontains)]
    unfold context
    rw [h]
  · rw [if_neg hcontains] at h
    rw [if_neg (fun hdeclares => hcontains (context_declares.mp hdeclares))]
    unfold context
    rw [h, List.map_append]
    rfl

private theorem dropSince_context {before inner last : Scope} {fresh kept : List Variable}
    (hinner : inner.entries = before.entries ++ fresh)
    (hlast : last.entries = inner.entries ++ kept) :
    last.context.dropSince before.context inner.context =
      (before.entries ++ kept).map fun v => (v.identifier, v.type) := by
  have hnodup := inner.identifiers_nodup
  have hnodup' := last.identifiers_nodup
  rw [hlast, List.map_append, List.nodup_append] at hnodup'
  rw [hinner, List.map_append, List.nodup_append] at hnodup
  have hbefore : ∀ v ∈ before.entries,
      before.context.Declares v.identifier ∨ ¬ inner.context.Declares v.identifier := by
    intro v hv
    exact .inl (context_declares.mpr (contains_iff_mem.mpr (List.mem_map_of_mem hv)))
  have hfresh : ∀ v ∈ fresh,
      ¬ (before.context.Declares v.identifier ∨ ¬ inner.context.Declares v.identifier) := by
    intro v hv
    have hmem : v.identifier ∈ fresh.map Variable.identifier := List.mem_map_of_mem hv
    rintro (hdeclares | habsent)
    · have hmem' := contains_iff_mem.mp (context_declares.mp hdeclares)
      exact hnodup.2.2 v.identifier hmem' v.identifier hmem rfl
    · apply habsent
      rw [context_declares, contains_iff_mem, hinner, List.map_append]
      exact List.mem_append_right _ hmem
  have hkept : ∀ v ∈ kept,
      before.context.Declares v.identifier ∨ ¬ inner.context.Declares v.identifier := by
    intro v hv
    right
    intro hdeclares
    have hmem := contains_iff_mem.mp (context_declares.mp hdeclares)
    exact hnodup'.2.2 v.identifier hmem v.identifier (List.mem_map_of_mem hv) rfl
  have hfilter : last.context.dropSince before.context inner.context =
      (last.entries.filter fun v => before.context.Declares v.identifier ∨
        ¬ inner.context.Declares v.identifier).map fun v => (v.identifier, v.type) :=
    List.filter_map
  rw [hfilter, hlast]
  nth_rewrite 1 [hinner]
  rw [List.filter_append, List.filter_append,
    List.filter_eq_self.mpr fun v hv => decide_eq_true (hbefore v hv),
    List.filter_eq_nil_iff.mpr fun v hv => by simpa using hfresh v hv,
    List.filter_eq_self.mpr fun v hv => decide_eq_true (hkept v hv), List.append_nil]

end Scope

namespace Account

variable {α β : Type} {y : Account α} {g : α → Account β}

/-- What comes of a scope, without the story. -/
def outcome (y : Account α) (scope : Scope) : Option (α × Scope) :=
  (y scope).map fun told => (told.1, told.2.1)

theorem outcome_eq_none {scope : Scope} (h : y scope = none) : y.outcome scope = none := by
  unfold outcome
  rw [h]
  rfl

theorem outcome_eq_some {scope after : Scope} {a : α} {story : List Occurrence}
    (h : y scope = some (a, after, story)) : y.outcome scope = some (a, after) := by
  unfold outcome
  rw [h]
  rfl

private theorem outcome_pure (a : α) (scope : Scope) :
    (pure a : Account α).outcome scope = some (a, scope) := rfl

private theorem outcome_bind (y : Account α) (g : α → Account β) (scope : Scope) :
    (y >>= g).outcome scope = (y.outcome scope).bind fun told => (g told.1).outcome told.2 := by
  unfold outcome
  rw [bind_eq]
  cases y scope with
  | none => rfl
  | some told =>
      obtain ⟨a, middle, front⟩ := told
      simp only [Option.bind_some, Option.map_some, Option.map_map]
      rfl

private theorem outcome_within (rule : Rule) (y : Account α) (scope : Scope) :
    (within rule y).outcome scope = y.outcome scope := by
  unfold outcome within
  cases y scope <;> rfl

private theorem outcome_accept {kinds : List Kind} (leaf : Leaf kinds) (scope : Scope) :
    (accept leaf).outcome scope = some ((), scope) := rfl

private theorem outcome_acceptVariable {kinds : List Kind} (leaf : Leaf kinds) (scope : Scope) :
    (acceptVariable leaf).outcome scope =
      (scope.find? leaf.val.text).map fun v => (v, scope) := by
  unfold outcome acceptVariable
  cases scope.find? leaf.val.text <;> rfl

private theorem outcome_require (p : Prop) [Decidable p] (scope : Scope) :
    (require p).outcome scope = if p then some ((), scope) else none := by
  unfold outcome require
  by_cases hp : p
  · rw [if_pos hp, if_pos hp]
    rfl
  · rw [if_neg hp, if_neg hp]
    rfl

/-- The account gives the type and leaves the scope as it is. -/
def Types (y : Account VarType) (f : Context → Option VarType) : Prop :=
  ∀ scope, y.outcome scope = (f scope.context).map fun type => (type, scope)

/-- The account leaves live the variables of the names that are declared. -/
def Checks (y : Account α) (f : Context → Option Context) : Prop :=
  ∀ scope, (y.outcome scope).map (fun told => told.2.context) = f scope.context

namespace Types

variable {y : Account VarType} {f : Context → Option VarType}

private theorem within (rule : Rule) (h : y.Types f) : (Account.within rule y).Types f := by
  intro scope
  rw [outcome_within]
  exact h scope

private theorem checks (h : y.Types f) :
    y.Checks fun context => (f context).map fun _ => context := by
  intro scope
  rw [h scope, Option.map_map]
  rfl

private theorem bind_declare (h : y.Types f) (identifier : String) :
    (y >>= fun type => Account.declare identifier type).Checks fun context =>
      (f context).bind fun type => some (context.declare identifier type) := by
  intro scope
  dsimp only
  rw [outcome_bind, h scope]
  cases f scope.context with
  | none => rfl
  | some type =>
      have hdeclare : Account.declare identifier type scope = some (_, _, _) := rfl
      exact congrArg some (Scope.context_of_declare (declare_eq_some hdeclare).2.1)

end Types

namespace Checks

variable {f h : Context → Option Context}

private theorem within (rule : Rule) (hy : y.Checks f) : (Account.within rule y).Checks f := by
  intro scope
  rw [outcome_within]
  exact hy scope

private theorem congr (hy : y.Checks f) (hsame : ∀ context, f context = h context) :
    y.Checks h := by
  intro scope
  rw [← hsame]
  exact hy scope

private theorem accept {kinds : List Kind} (leaf : Leaf kinds) :
    (Account.accept leaf).Checks some :=
  fun _ => rfl

private theorem accept_bind {kinds : List Kind} {leaf : Leaf kinds} {g : Unit → Account β}
    (hg : (g ()).Checks f) : (Account.accept leaf >>= g).Checks f := by
  intro scope
  rw [outcome_bind]
  exact hg scope

private theorem bind (hy : y.Checks f) (hg : ∀ a, (g a).Checks h) :
    (y >>= g).Checks fun context => (f context).bind h := by
  intro scope
  dsimp only
  rw [outcome_bind, ← hy scope]
  cases y.outcome scope with
  | none => rfl
  | some told => exact hg told.1 told.2

private theorem andThen (hy : y.Checks f) (hg : ∀ a, (g a).Checks some) : (y >>= g).Checks f := by
  have hbind := hy.bind hg
  simpa only [Option.bind_fun_some] using hbind

private theorem declare (identifier : String) (type : VarType) :
    (Account.declare identifier type).Checks fun context =>
      some (context.declare identifier type) := by
  intro scope
  have hdeclare : Account.declare identifier type scope = some (_, _, _) := rfl
  exact congrArg some (Scope.context_of_declare (declare_eq_some hdeclare).2.1)

private theorem acceptVariable {kinds : List Kind} (leaf : Leaf kinds) :
    (Account.acceptVariable leaf).Checks fun context =>
      if context.Declares leaf.val.text then some context else none := by
  intro scope
  dsimp only
  rw [outcome_acceptVariable, Option.map_map]
  by_cases hdeclares : scope.context.Declares leaf.val.text
  · obtain ⟨v, hfind⟩ := Option.isSome_iff_exists.mp (Scope.context_declares.mp hdeclares)
    rw [if_pos hdeclares, hfind]
    rfl
  · have hfind := Option.not_isSome_iff_eq_none.mp (mt Scope.context_declares.mpr hdeclares)
    rw [if_neg hdeclares, hfind]
    rfl

end Checks

end Account

namespace Grammar.Tree

/-- An expression, a term or a factor has the type that the static rules give. -/
private def Typed : {rule : Rule} → Tree rule → Prop
  | .expression, t => t.account.Types t.type?
  | .term, t => t.account.Types t.type?
  | .factor, t => t.account.Types t.type?
  | _, _ => True

private theorem typed {rule : Rule} (t : Tree rule) : t.Typed := by
  induction t with
  | lone term ih => exact Account.Types.within .expression ih
  | sum term operator rest ihterm ihrest =>
      intro scope
      have hterm : term.account.outcome scope = _ := ihterm scope
      have hrest : rest.account.outcome scope = _ := ihrest scope
      simp only [account, type?, Account.outcome_within, Account.outcome_bind, hterm]
      cases term.type? scope.context with
      | none => rfl
      | some left =>
          simp only [Option.map_some, Option.bind_some, Account.outcome_accept, hrest]
          cases rest.type? scope.context with
          | none => rfl
          | some right =>
              by_cases hfits : AddingFits operator.val.kind left right
              · simp [Account.outcome_require, Account.outcome_pure, hfits]
              · simp [Account.outcome_require, hfits]
  | single factor ih => exact Account.Types.within .term ih
  | product factor operator rest ihfactor ihrest =>
      intro scope
      have hfactor : factor.account.outcome scope = _ := ihfactor scope
      have hrest : rest.account.outcome scope = _ := ihrest scope
      simp only [account, type?, Account.outcome_within, Account.outcome_bind, hfactor]
      cases factor.type? scope.context with
      | none => rfl
      | some left =>
          simp only [Option.map_some, Option.bind_some, Account.outcome_require]
          by_cases hleft : left = .string
          · cases rest.type? scope.context <;> simp [hleft]
          · rw [if_pos hleft]
            simp only [Option.bind_some, Account.outcome_accept, hrest]
            cases rest.type? scope.context with
            | none => rfl
            | some right =>
                by_cases hright : right = .string
                · simp [hright]
                · simp [Account.outcome_pure, hleft, hright]
  | name token =>
      intro scope
      simp only [account, type?, Account.outcome_within, Account.outcome_bind,
        Account.outcome_acceptVariable, Scope.context_type?]
      cases scope.find? token.val.text <;> rfl
  | number token => exact fun _ => rfl
  | parenthesised leftParenthesis value rightParenthesis ih =>
      intro scope
      have hvalue : value.account.outcome scope = _ := ih scope
      simp only [account, type?, Account.outcome_within, Account.outcome_bind,
        Account.outcome_accept, Option.bind_some, hvalue]
      cases value.type? scope.context <;> rfl
  | _ => trivial

private theorem context_of_drops {initial step : Tree .assignmentStatement}
    {body : Tree .statementList} {scope s₁ s₂ s₃ : Scope} {v w : Variable} {u : Unit}
    {a₁ a₂ b : List Occurrence} (hinitial : initial.account scope = some (v, s₁, a₁))
    (hstep : step.account s₁ = some (w, s₂, a₂)) (hbody : body.account s₂ = some (u, s₃, b)) :
    ((s₃.remove v).2.remove w).2.context = s₃.context.dropSince scope.context s₂.context := by
  obtain ⟨-, fresh, hassigns⟩ := Assigns.of_account hinitial
  obtain ⟨-, fresh', hassigns'⟩ := Assigns.of_account hstep
  have hkeeps : body.account.Keeps [] := body.account_keeps (by simp [Story.InHeader])
  have hscoped := hkeeps s₂ u s₃ b hbody
  have hinner : s₂.entries = scope.entries ++ (fresh ++ fresh') := by
    rw [hassigns'.entries, hassigns.entries, List.append_assoc]
  rw [Scope.dropSince_context hinner hscoped.entries, ← (hassigns.erase_both hassigns' hscoped).1]
  unfold Scope.context
  rw [Scope.entries_remove, Scope.entries_remove]

private theorem forLoop_checks {opening : Leaf [.forWord]}
    {leftParenthesis : Leaf [.leftParenthesis]} {initial step : Tree .assignmentStatement}
    {first second : Leaf [.semicolon]} {condition : Tree .condition}
    {rightParenthesis : Leaf [.rightParenthesis]} {doWord : Leaf [.doWord]}
    {body : Tree .statementList} {endWord : Leaf [.endWord]} {closing : Leaf [.loopWord]}
    (hinitial : initial.account.Checks initial.check)
    (hcondition : condition.account.Checks condition.check)
    (hstep : step.account.Checks step.check) (hbody : body.account.Checks body.check) :
    (Tree.forLoop opening leftParenthesis initial first condition second step rightParenthesis
      doWord body endWord closing).account.Checks
        (Tree.forLoop opening leftParenthesis initial first condition second step rightParenthesis
          doWord body endWord closing).check := by
  intro scope
  simp only [account, check, Account.outcome_within, Account.outcome_bind, Account.outcome_accept,
    Option.bind_some, ← hinitial scope]
  cases hi : initial.account scope with
  | none => rw [Account.outcome_eq_none hi]; rfl
  | some told =>
      obtain ⟨v, s₁, a₁⟩ := told
      rw [Account.outcome_eq_some hi]
      simp only [Option.bind_some, Option.map_some, Option.bind_eq_bind, ← hcondition s₁]
      cases hc : condition.account s₁ with
      | none => rw [Account.outcome_eq_none hc]; rfl
      | some told =>
          obtain ⟨u, s₁', c⟩ := told
          obtain ⟨rfl, -⟩ := condition.account_quiet (by decide) _ _ _ _ hc
          rw [Account.outcome_eq_some hc]
          simp only [Option.bind_some, Option.map_some, ← hstep s₁']
          cases hs : step.account s₁' with
          | none => rw [Account.outcome_eq_none hs]; rfl
          | some told =>
              obtain ⟨w, s₂, a₂⟩ := told
              rw [Account.outcome_eq_some hs]
              simp only [Option.bind_some, Option.map_some, ← hbody s₂]
              cases hb : body.account s₂ with
              | none => rw [Account.outcome_eq_none hb]; rfl
              | some told =>
                  obtain ⟨u', s₃, b⟩ := told
                  rw [Account.outcome_eq_some hb]
                  exact congrArg some (context_of_drops hi hs hb)

/-- The account of an expression has the type that the static rules give. -/
theorem account_types (t : Tree .expression) : t.account.Types t.type? :=
  t.typed

/-- The account of a tree declares what the static rules declare. -/
theorem account_checks {rule : Rule} (t : Tree rule) : t.account.Checks t.check := by
  induction t with
  | program opening body closing ih =>
      exact .within _ (.accept_bind (ih.andThen fun _ => .accept closing))
  | last statement ih => exact .within _ ih
  | closed statement semicolon ih => exact .within _ (ih.andThen fun _ => .accept semicolon)
  | more statement semicolon rest ih ihrest =>
      exact .within _ (ih.bind fun _ => .accept_bind ihrest)
  | assignment statement ih => exact .within _ (ih.andThen fun _ _ => rfl)
  | choice statement ih | loop statement ih | call statement ih | repetition statement ih
  | iteration statement ih => exact .within _ ih
  | assignValue target becomes value =>
      have hvalue : value.account.Types value.type? := value.typed
      exact .within _ (.accept_bind (.accept_bind (hvalue.bind_declare target.val.text)))
  | assignString target becomes value =>
      exact .within _ (.accept_bind (.accept_bind (.accept_bind (.declare _ _))))
  | ifThen opening condition thenWord body endWord closing ihcondition ih =>
      refine .within _ (.accept_bind (ihcondition.bind fun _ => ?_))
      refine .accept_bind (ih.andThen fun _ => ?_)
      exact .accept_bind (.accept closing)
  | ifThenElse opening condition thenWord body elseWord alternative endWord closing ihcondition ih
      ihelse =>
      refine .within _ (.accept_bind (ihcondition.bind fun _ => ?_))
      refine .accept_bind (ih.bind fun _ => ?_)
      refine .accept_bind (ihelse.andThen fun _ => ?_)
      exact .accept_bind (.accept closing)
  | whileLoop opening condition loopWord body endWord closing ihcondition ih =>
      refine .within _ (.accept_bind (ihcondition.bind fun _ => ?_))
      refine .accept_bind (ih.andThen fun _ => ?_)
      exact .accept_bind (.accept closing)
  | callProcedure opening callee leftParenthesis arguments rightParenthesis ih =>
      refine .within _ (.accept_bind (.accept_bind (.accept_bind ?_)))
      exact ih.andThen fun _ => .accept rightParenthesis
  | doUntil opening body untilWord condition ih ihcondition =>
      refine .within _ (.accept_bind (ih.bind fun _ => ?_))
      exact .accept_bind ihcondition
  | forLoop opening leftParenthesis initial first condition second step rightParenthesis doWord body
      endWord closing ihinitial ihcondition ihstep ih =>
      exact forLoop_checks ihinitial ihcondition ihstep ih
  | lastArgument token =>
      exact .within _ ((Account.Checks.acceptVariable token).andThen fun _ _ => rfl)
  | moreArguments token comma rest ih =>
      apply Account.Checks.within
      apply ((Account.Checks.acceptVariable token).bind fun _ => .accept_bind ih).congr
      intro context
      by_cases hdeclares : context.Declares token.val.text
      · simp [check, hdeclares]
      · simp [check, hdeclares]
  | comparison left operator right ih =>
      have hoperator : operator.account.Checks some := by
        cases operator
        exact ih
      have hright : Account.Checks (if right.val.kind = .identifier then
          (Account.acceptVariable right >>= fun _ => pure ()) else Account.accept right)
          fun context => if right.val.kind = .identifier → context.Declares right.val.text then
            some context else none := by
        by_cases hkind : right.val.kind = .identifier
        · rw [if_pos hkind]
          apply ((Account.Checks.acceptVariable right).andThen fun _ _ => rfl).congr
          simp [hkind]
        · rw [if_neg hkind]
          apply (Account.Checks.accept right).congr
          simp [hkind]
      apply Account.Checks.within
      apply ((Account.Checks.acceptVariable left).bind
        fun _ => hoperator.bind fun _ => hright).congr
      intro context
      by_cases hdeclares : context.Declares left.val.text
      · simp [check, hdeclares]
      · simp [check, hdeclares]
  | relation operator => exact .within _ (.accept operator)
  | lone term =>
      exact (Account.Types.checks (typed (.lone term))).congr fun _ => rfl
  | sum term operator rest =>
      exact (Account.Types.checks (typed (.sum term operator rest))).congr fun _ => rfl
  | single factor => exact (Account.Types.checks (typed (.single factor))).congr fun _ => rfl
  | product factor operator rest =>
      exact (Account.Types.checks (typed (.product factor operator rest))).congr fun _ => rfl
  | name token => exact (Account.Types.checks (typed (.name token))).congr fun _ => rfl
  | number token => exact (Account.Types.checks (typed (.number token))).congr fun _ => rfl
  | parenthesised leftParenthesis value rightParenthesis =>
      exact (Account.Types.checks
        (typed (.parenthesised leftParenthesis value rightParenthesis))).congr fun _ => rfl

end Grammar.Tree

end OnePass
