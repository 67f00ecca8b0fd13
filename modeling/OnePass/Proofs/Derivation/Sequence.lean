import OnePass.Proofs.Derivation.Preorder
/-!
# Statement lists one behind the other

What a tree does to the variables is what its account tells of them, the rules and the terminals
left aside. A statement list that goes on with a second list does to the variables what the two do
one after the other.
-/
namespace OnePass

open Grammar

namespace Account

variable {α β : Type} {y : Account α} {g : α → Account β} {z : Account Unit}

/-- What is done to the variables. -/
def changes (y : Account α) : Account Unit := fun scope =>
  (y scope).map fun (_, after, story) => ((), after, story.filter Occurrence.ofVariable)

private theorem changes_accept {kinds : List Kind} (leaf : Leaf kinds) :
    (accept leaf).changes = pure () :=
  rfl

private theorem changes_bind (hg : ∀ a, (g a).changes = z) :
    (y >>= g).changes = y.changes >>= fun _ => z := by
  funext scope
  rw [bind_eq, changes, changes, bind_eq]
  cases y scope with
  | none => rfl
  | some told =>
      obtain ⟨a, middle, front⟩ := told
      simp only [Option.bind_some, Option.map_some, ← hg a, changes, Option.map_map]
      congr 1
      funext ⟨b, after, back⟩
      simp

private theorem changes_within (rule : Rule) (y : Account α) :
    (within rule y).changes = y.changes := by
  funext scope
  unfold changes within
  cases y scope with
  | none => rfl
  | some told => simp [Occurrence.ofVariable]

end Account

namespace Grammar.Tree

@[elab_as_elim]
private theorem statementList_induction {motive : Tree .statementList → Prop}
    (list : Tree .statementList) (last : ∀ statement, motive (.last statement))
    (closed : ∀ statement semicolon, motive (.closed statement semicolon))
    (more : ∀ statement semicolon rest, motive rest → motive (.more statement semicolon rest)) :
    motive list := by
  have hlists : ∀ {rule : Rule} (t : Tree rule) (hrule : rule = .statementList),
      motive (hrule ▸ t) := by
    intro rule t
    induction t with
    | last statement => exact fun _ => last statement
    | closed statement semicolon => exact fun _ => closed statement semicolon
    | more statement semicolon rest _ ih => exact fun _ => more statement semicolon rest (ih rfl)
    | _ => exact nofun
  exact hlists list rfl

/-- A statement list with a second list behind it. A semicolon stands between them, unless the
first list ends in one of its own. -/
def append : {rule : Rule} → Tree rule → Leaf [.semicolon] → Tree .statementList → Tree rule
  | _, .last statement, semicolon, second => .more statement semicolon second
  | _, .closed statement own, _, second => .more statement own second
  | _, .more statement own rest, semicolon, second =>
    .more statement own (rest.append semicolon second)
  | _, other, _, _ => other

variable (first second : Tree .statementList) (semicolon : Leaf [.semicolon])

private theorem yield_last (statement : Tree .statement) :
    (Tree.last statement).yield = statement.yield := by
  simp [yield, trace]

private theorem yield_closed (statement : Tree .statement) :
    (Tree.closed statement semicolon).yield = statement.yield ++ [semicolon.val] := by
  simp [yield, trace]

private theorem yield_more (statement : Tree .statement) (rest : Tree .statementList) :
    (Tree.more statement semicolon rest).yield =
      statement.yield ++ semicolon.val :: rest.yield := by
  simp [yield, trace]

theorem yield_append (hopen : ∀ token ∈ first.yield.getLast?, token.kind ≠ .semicolon) :
    (first.append semicolon second).yield = first.yield ++ semicolon.val :: second.yield := by
  induction first using statementList_induction with
  | last statement => rw [append, yield_more, yield_last]
  | closed statement own =>
      have hlast : (Tree.closed statement own).yield.getLast? = some own.val := by
        rw [yield_closed, List.getLast?_concat]
      exact absurd own.kind_eq (hopen own.val hlast)
  | more statement own rest ih =>
      rw [append, yield_more, yield_more, List.append_assoc, List.cons_append, ih]
      -- The list ends as its rest does, which is not empty.
      obtain ⟨token, tokens, hrest, -⟩ := rest.exists_yield_eq_cons
      rw [yield_more, hrest] at hopen
      rw [hrest]
      simpa using hopen

private theorem changes_last (statement : Tree .statement) :
    (Tree.last statement).account.changes = statement.account.changes :=
  Account.changes_within _ _

private theorem changes_closed (statement : Tree .statement) :
    (Tree.closed statement semicolon).account.changes = statement.account.changes := by
  rw [account, Account.changes_within, Account.changes_bind fun _ => Account.changes_accept _]
  exact Account.bind_pure _

private theorem changes_more (statement : Tree .statement) (rest : Tree .statementList) :
    (Tree.more statement semicolon rest).account.changes =
      statement.account.changes >>= fun _ => rest.account.changes := by
  rw [account, Account.changes_within]
  apply Account.changes_bind
  intro _
  rw [Account.changes_bind fun _ => rfl, Account.changes_accept, Account.pure_bind]

theorem changes_append : (first.append semicolon second).account.changes =
    first.account.changes >>= fun _ => second.account.changes := by
  induction first using statementList_induction with
  | last statement => rw [append, changes_more, changes_last]
  | closed statement own => rw [append, changes_more, changes_closed]
  | more statement own rest ih => rw [append, changes_more, changes_more, ih, Account.bind_assoc]

theorem changes_program (opening : Leaf [.beginWord]) (body : Tree .statementList)
    (closing : Leaf [.endWord]) :
    (Tree.program opening body closing).account.changes = body.account.changes := by
  rw [account, Account.changes_within, Account.changes_bind fun _ =>
    Account.changes_bind fun _ => Account.changes_accept _, Account.changes_accept,
    Account.pure_bind]
  exact Account.bind_pure _

end Grammar.Tree

end OnePass
