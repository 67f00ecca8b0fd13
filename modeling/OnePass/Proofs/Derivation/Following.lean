import OnePass.Proofs.Derivation.Account
import OnePass.Proofs.Derivation.Beginning
import OnePass.Proofs.Derivation.Cursor
/-!
# Analyses that follow a tree

Where the tokens of a tree come next, the analysis of its rule does what the account of the tree
says: it gives the same result and records the same, or it rejects the program for a semantic reason
where the tree has no account. One kind of token has to be excluded behind the tree, those by which
the rule would go on.
-/
namespace OnePass

/-- The kinds of token by which an analysis of the rule may go on behind a tree. -/
def Rule.further : Rule → List Kind
  | .statementList => .semicolon :: Kind.starters ++ Kind.adding ++ Kind.multiplying
  | .statement | .assignmentStatement | .expression => Kind.adding ++ Kind.multiplying
  | .term => Kind.multiplying
  | .argumentList => [.comma]
  | _ => []

/-- An analysis comes to a semantic rejection. -/
def RejectsMeaning {α : Type} : EStateM.Result Stop Analyser α → Prop
  | .error (.rejected failure) _ => failure.root.category = .semantic
  | _ => False

/-- A run ends at a place with the journal that an account tells of, or in a semantic rejection if
there is no account. -/
def EndsAs {α : Type} (c : Cursor) (j : Journal) :
    Option (α × Scope × List Occurrence) → EStateM.Result Stop Analyser α → Prop
  | some (a, scope, story), result => result = .ok a (c.analyser (j.follow scope story))
  | none, result => RejectsMeaning result

/-- Where the tokens come next and no token of the kinds `further` stands behind them, the analysis
does what the account says. -/
def Follows {α : Type} (further : List Kind) (x : Analysis α) (tokens : List Token)
    (y : Account α) : Prop :=
  ∀ (c c' : Cursor) (j : Journal), c.Passes tokens c' → c'.token.kind ∉ further →
    EndsAs c' j (y j.scope) (x (c.analyser j))

/-- The kinds `inner` do not lead on into the tokens, or behind them. -/
def Apart (inner further : List Kind) : List Token → Prop
  | [] => inner ⊆ further
  | token :: _ => token.kind ∉ inner

theorem Apart.nil {inner further : List Kind} (hsubset : inner ⊆ further) :
    Apart inner further [] :=
  hsubset

theorem Apart.empty {further : List Kind} {tokens : List Token} : Apart [] further tokens := by
  cases tokens with
  | nil => exact List.nil_subset further
  | cons token tokens => exact List.not_mem_nil

theorem Apart.leaf {inner further kinds : List Kind} (leaf : Leaf kinds) {back : List Token}
    (hinner : ∀ kind ∈ kinds, kind ∉ inner) : Apart inner further (leaf.val :: back) :=
  hinner leaf.val.kind leaf.property

private theorem EndsAs.prepend {α : Type} {c : Cursor} {j : Journal} {scope : Scope}
    {front : List Occurrence} {outcome : Option (α × Scope × List Occurrence)}
    {result : EStateM.Result Stop Analyser α}
    (h : EndsAs c (j.follow scope front) outcome result) :
    EndsAs c j (outcome.map fun (b, scope, back) => (b, scope, front ++ back)) result := by
  cases outcome with
  | none => exact h
  | some told => simpa only [EndsAs, Option.map_some, Journal.follow_follow] using h

theorem EndsAs.bind {α β : Type} {x : Analysis α} {f : α → Analysis β} {y : Account α}
    {g : α → Account β} {s : Analyser} {c c' : Cursor} {j : Journal}
    (hx : EndsAs c j (y j.scope) (x s))
    (hf : ∀ a scope story, EndsAs c' (j.follow scope story) (g a scope)
      (f a (c.analyser (j.follow scope story)))) :
    EndsAs c' j ((y >>= g) j.scope) ((x >>= f) s) := by
  rw [Account.bind_eq]
  cases hy : y j.scope with
  | none =>
      rw [hy] at hx
      cases hrun : x s with
      | ok a s' =>
          rw [hrun] at hx
          exact hx.elim
      | error stop s' =>
          rw [hrun] at hx
          rw [Analysis.bind_eq_of_error hrun]
          cases stop <;> exact hx
  | some told =>
      obtain ⟨a, scope, story⟩ := told
      rw [hy] at hx
      rw [Option.bind_some, Analysis.bind_eq_of_ok hx]
      exact (hf a scope story).prepend

namespace Follows

open Analysis

variable {α β : Type} {further inner : List Kind} {x : Analysis α} {f : α → Analysis β}
  {y : Account α} {g : α → Account β} {tokens front back : List Token}

theorem weaken (h : Follows inner x tokens y) (hsubset : inner ⊆ further) :
    Follows further x tokens y :=
  fun c c' j hpasses hfurther => h c c' j hpasses fun hmem => hfurther (hsubset hmem)

protected theorem pure (a : α) : Follows further (pure a) [] (pure a) := by
  intro c c' j hpasses _
  cases hpasses.eq_of_nil
  rfl

theorem bind (hx : Follows inner x front y) (hf : ∀ a, Follows further (f a) back (g a))
    (hapart : Apart inner further back) : Follows further (x >>= f) (front ++ back) (y >>= g) := by
  intro c c'' j hpasses hfurther
  obtain ⟨c', hfront, hback⟩ := hpasses.split
  have hinner : c'.token.kind ∉ inner := by
    cases back with
    | nil => exact fun hmem => hfurther (hback.eq_of_nil ▸ hapart hmem)
    | cons token back => exact hback.of_cons.1 ▸ hapart
  exact (hx c c' j hfront hinner).bind fun a scope story =>
    hf a c' c'' (j.follow scope story) hback hfurther

theorem bind_pure {f : α → Analysis α} (hx : Follows inner x front y)
    (hf : ∀ a, Follows further (f a) [] (pure a)) (hinner : inner ⊆ further) :
    Follows further (x >>= f) front y := by
  have h := hx.bind hf hinner
  rwa [Account.bind_pure, List.append_nil] at h

theorem accept_bind {kinds : List Kind} (leaf : Leaf kinds) {kind : Kind}
    (hkind : leaf.val.kind = kind) {f : Token → Analysis β} {g : Unit → Account β}
    (hf : Follows further (f leaf.val) back (g ())) :
    Follows further (Analysis.accept kind >>= f) (leaf.val :: back)
      (Account.accept leaf >>= g) := by
  intro c c'' j hpasses hfurther
  obtain ⟨htoken, c', hnext, hback⟩ := hpasses.of_cons
  rw [← htoken] at hkind
  rw [bind_eq_of_ok (accept_of_next? hkind hnext), htoken]
  rw [Account.bind_eq]
  exact (hf c' c'' (j.follow j.scope [.terminal leaf.val]) hback hfurther).prepend

theorem accept_last {kinds : List Kind} (leaf : Leaf kinds) {kind : Kind}
    (hkind : leaf.val.kind = kind) {f : Token → Analysis Unit}
    (hf : Follows further (f leaf.val) [] (pure ())) :
    Follows further (Analysis.accept kind >>= f) [leaf.val] (Account.accept leaf) := by
  have h := accept_bind leaf hkind (g := fun _ => pure ()) hf
  rwa [Account.bind_pure] at h

theorem accept {kinds : List Kind} (leaf : Leaf kinds) {kind : Kind}
    (hkind : leaf.val.kind = kind) :
    Follows further (Analysis.accept kind >>= fun _ => pure ()) [leaf.val]
      (Account.accept leaf) :=
  accept_last leaf hkind (.pure ())

theorem lookahead_bind {f : Token → Analysis β} {y : Account β} {token : Token}
    (hf : Follows further (f token) (token :: back) y) :
    Follows further (lookahead >>= f) (token :: back) y := by
  intro c c' j hpasses hfurther
  have hrest := hf c c' j hpasses hfurther
  rw [← hpasses.of_cons.1] at hrest
  exact hrest

theorem lookahead_bind_nil {f : Token → Analysis β} {y : Account β}
    (hf : ∀ token : Token, token.kind ∉ further → Follows further (f token) [] y) :
    Follows further (lookahead >>= f) [] y := by
  intro c c' j hpasses hfurther
  cases hpasses.eq_of_nil
  exact hf c.token hfurther c c j hpasses hfurther

theorem acceptVariable {kinds : List Kind} (leaf : Leaf kinds)
    (hkind : leaf.val.kind = .identifier) :
    Follows further Analysis.acceptVariable [leaf.val] (Account.acceptVariable leaf) := by
  intro c c' j hpasses _
  obtain ⟨htoken, middle, hnext, hrest⟩ := hpasses.of_cons
  cases hrest.eq_of_nil
  rw [← htoken] at hkind
  rw [acceptVariable_eq, if_pos hkind, htoken]
  unfold Account.acceptVariable
  cases hfind : j.scope.find? leaf.val.text with
  | none => exact rfl
  | some v =>
      simp only [bind_eq_of_ok (accept_of_next? hkind hnext), htoken]
      rfl

theorem declare (identifier : String) (type : VarType) :
    Follows further (Analysis.declare identifier type) [] (Account.declare identifier type) := by
  intro c c' j hpasses _
  cases hpasses.eq_of_nil
  change EndsAs c j _ (.ok _ (c.analyser ({ j with scope := _ }.declare _).2))
  rw [Journal.declare_eq_follow, Journal.follow_with_scope]
  rfl

theorem drop (v : Variable) :
    Follows further (note (·.drop v)) [] (Account.drop v) := by
  intro c c' j hpasses _
  cases hpasses.eq_of_nil
  change EndsAs c j _ (.ok () (c.analyser (j.drop v)))
  rw [Journal.drop_eq_follow]
  rfl

private theorem require {p : Prop} [Decidable p] {complaint : Complaint}
    (hcategory : complaint.category = .semantic) :
    Follows further (if p then pure () else report complaint) [] (Account.require p) := by
  intro c c' j hpasses _
  cases hpasses.eq_of_nil
  unfold Account.require
  by_cases hp : p
  · simp only [if_pos hp]
    rfl
  · simp only [if_neg hp]
    exact hcategory

theorem checkAdding (operator : Kind) (left right : VarType) :
    Follows further (Analysis.checkAdding operator left right) []
      (Account.require (Grammar.AddingFits operator left right)) := by
  rw [checkAdding_eq]
  exact require rfl

theorem checkMultiplying (operator : Kind) (side : Side) (type : VarType) :
    Follows further (Analysis.checkMultiplying operator side type) []
      (Account.require (type ≠ .string)) := by
  rw [checkMultiplying_eq]
  exact require rfl

theorem enclose (rule : Rule) (h : Follows further x tokens y) :
    Follows further (Analysis.enclose rule x) tokens (Account.within rule y) := by
  intro c c' j hpasses hfurther
  have hinner := h c c' (j.commence rule.name) hpasses hfurther
  change EndsAs _ _ (y j.scope) _ at hinner
  unfold Account.within
  cases hy : y j.scope with
  | none =>
      rw [hy] at hinner
      cases hrun : x (c.analyser (j.commence rule.name)) with
      | ok a s =>
          rw [hrun] at hinner
          exact hinner.elim
      | error stop s =>
          rw [hrun] at hinner
          rw [enclose_of_error hrun]
          cases stop <;> exact hinner
  | some told =>
      obtain ⟨a, scope, story⟩ := told
      rw [hy] at hinner
      rw [enclose_of_ok hinner]
      simp only [EndsAs, Option.pure_def, Option.bind_eq_bind, Option.bind_some,
        ← Journal.finish_follow_commence]
      rfl

end Follows

end OnePass
