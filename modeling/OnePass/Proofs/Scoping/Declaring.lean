import OnePass.Proofs.Scoping.Live
import OnePass.Proofs.Scoping.Story
/-!
# What a tree declares

The account of a tree declares variables, and only a loop removes some: those that the assignments
in its header have declared. So a tree leaves the live variables before it as they are and puts the
others behind them.
-/
namespace OnePass

open Grammar Story
open Occurrence (passage? declared? removed?)

namespace Story

theorem liveAfter_of_silent (live : List Variable) {story : Story}
    (hdeclared : story.filterMap declared? = []) (hremoved : story.filterMap removed? = []) :
    liveAfter live story = live := by
  induction story generalizing live with
  | nil => rfl
  | cons occurrence story ih =>
      cases occurrence with
      | declare v => cases hdeclared
      | remove v => cases hremoved
      | commence | finish | terminal | complaint => exact ih live hdeclared hremoved

namespace Silent

theorem nil : Silent [] :=
  ⟨.nil, rfl, rfl⟩

theorem terminal (token : Token) : Silent [.terminal token] :=
  ⟨.plain rfl, rfl, rfl⟩

theorem append {front back : Story} (hfront : Silent front) (hback : Silent back) :
    Silent (front ++ back) where
  balanced := hfront.balanced.append hback.balanced
  undeclared := by rw [List.filterMap_append, hfront.undeclared, hback.undeclared]; rfl
  unremoved := by rw [List.filterMap_append, hfront.unremoved, hback.unremoved]; rfl

private theorem within (rule : String) {story : Story} (h : Silent story) :
    Silent (.commence rule :: story ++ [.finish rule]) where
  balanced := h.balanced.within rule
  undeclared := (filterMap_declared?_within rule story).trans h.undeclared
  unremoved := (filterMap_removed?_within rule story).trans h.unremoved

end Silent

/-- The old variables are live, in order and before all others, at every moment of a story. -/
def Steady (old live : List Variable) (story : Story) : Prop :=
  ∀ front, front <+: story → old <+: liveAfter live front

namespace Steady

variable {old live : List Variable}

theorem nil (h : old <+: live) : Steady old live [] := by
  intro front hfront
  rw [List.prefix_nil.mp hfront]
  exact h

theorem append {front back : Story} (hfront : Steady old live front)
    (hback : Steady old (liveAfter live front) back) : Steady old live (front ++ back) := by
  intro moment hmoment
  rcases List.prefix_or_prefix_of_prefix hmoment (List.prefix_append front back) with h | h
  · exact hfront moment h
  · obtain ⟨later, rfl⟩ := h
    rw [liveAfter_append]
    exact hback later ((List.prefix_append_right_inj front).mp hmoment)

theorem single {occurrence : Occurrence} (hbefore : old <+: live)
    (hafter : old <+: occurrence.revise live) : Steady old live [occurrence] := by
  intro front hfront
  rcases List.prefix_cons_iff.mp hfront with rfl | ⟨rest, rfl, hrest⟩
  · exact hbefore
  · rw [List.prefix_nil.mp hrest]
    exact hafter

theorem within {story : Story} (h : Steady old live story) (hbefore : old <+: live)
    (hafter : old <+: liveAfter live story) (rule : String) :
    Steady old live (.commence rule :: story ++ [.finish rule]) := by
  have hcommence : Steady old live [.commence rule] := .single hbefore hbefore
  have hfinish : Steady old (liveAfter live story) [.finish rule] := .single hafter hafter
  exact (hcommence.append h).append hfinish

theorem of_silent {story : Story} (h : old <+: live) (hsilent : Silent story) :
    Steady old live story := by
  intro front hfront
  have hundeclared : front.filterMap declared? = [] :=
    List.sublist_nil.mp (hsilent.undeclared ▸ hfront.sublist.filterMap declared?)
  have hunremoved : front.filterMap removed? = [] :=
    List.sublist_nil.mp (hsilent.unremoved ▸ hfront.sublist.filterMap removed?)
  rw [liveAfter_of_silent live hundeclared hunremoved]
  exact h

end Steady

end Story

/-- What lies between two scopes where a loop removes all that its header has declared. -/
structure Scoped (rules : List String) (before : Scope) (story : Story) (after : Scope) : Prop where
  balanced : Balanced story
  entries : after.entries = before.entries ++ declarations false rules story
  issued : Issued before (story.filterMap declared?) after
  removals : (story.filterMap removed?).Perm (declarations true rules story)
  released : Released rules story
  live : liveAfter before.entries story = after.entries
  steady : Steady before.entries before.entries story

namespace Scoped

variable {rules : List String} {before middle after : Scope} {story front back : Story}

private theorem of_silent (h : Silent story) : Scoped rules before story before where
  balanced := h.balanced
  entries := by rw [declarations_eq_nil false rules h.undeclared, List.append_nil]
  issued := by
    rw [h.undeclared]
    exact .nil (Nat.le_refl _)
  removals := by rw [h.unremoved, declarations_eq_nil true rules h.undeclared]
  released := .of_undeclared rules h.undeclared
  live := liveAfter_of_silent _ h.undeclared h.unremoved
  steady := .of_silent (List.prefix_refl _) h

private theorem append (hfront : Scoped rules before front middle)
    (hback : Scoped rules middle back after) : Scoped rules before (front ++ back) after where
  balanced := hfront.balanced.append hback.balanced
  entries := by
    rw [declarations_append, hfront.balanced.openAfter, hback.entries, hfront.entries,
      List.append_assoc]
  issued := by
    rw [List.filterMap_append]
    exact hfront.issued.append hback.issued
  removals := by
    rw [List.filterMap_append, declarations_append, hfront.balanced.openAfter]
    exact hfront.removals.append hback.removals
  released := by
    apply hfront.released.append
    rw [hfront.balanced.openAfter]
    exact hback.released
  live := by rw [liveAfter_append, hfront.live, hback.live]
  steady := by
    apply hfront.steady.append
    rw [hfront.live]
    intro moment hmoment
    have hprefix : before.entries <+: middle.entries := ⟨_, hfront.entries.symm⟩
    exact hprefix.trans (hback.steady moment hmoment)

private theorem within {rule : String} (h : Scoped (rule :: rules) before story after) :
    Scoped rules before (.commence rule :: story ++ [.finish rule]) after where
  balanced := h.balanced.within rule
  entries := by
    rw [declarations_within]
    exact h.entries
  issued := by
    rw [filterMap_declared?_within]
    exact h.issued
  removals := by
    rw [filterMap_removed?_within, declarations_within]
    exact h.removals
  released := by
    rw [List.cons_append, released_cons]
    refine ⟨by simp, ?_⟩
    exact h.released.append (.of_undeclared _ rfl)
  live := (liveAfter_within _ rule story).trans h.live
  steady := by
    apply h.steady.within (List.prefix_refl _)
    rw [h.live, h.entries]
    exact List.prefix_append _ _

private theorem of_declare (hheader : ¬ InHeader rules) {identifier : String} {type : VarType}
    (hentries : after.entries = before.entries ++ before.additions identifier type)
    (hissued : after.issued = before.issued + 1) :
    Scoped rules before ((before.additions identifier type).map .declare) after := by
  unfold Scope.additions at hentries ⊢
  by_cases hcontains : before.contains identifier = true
  · rw [if_pos hcontains, List.append_nil] at hentries
    rw [if_pos hcontains]
    have hsilent : Scoped rules before [] before := .of_silent .nil
    exact { hsilent with
      entries := hentries.trans hsilent.entries
      issued := .nil (by omega)
      live := hentries.symm }
  · rw [if_neg hcontains] at hentries
    rw [if_neg hcontains]
    have hkept : ¬ (InHeader rules ↔ true) := by simpa using hheader
    exact {
      balanced := .plain rfl
      entries := by simpa [declarations, hheader] using hentries
      issued := .single rfl hissued
      removals := by simp [declarations, hheader, removed?]
      released := by
        rw [List.map_singleton, released_cons]
        exact ⟨fun v _ h => absurd h hheader, .nil _⟩
      live := hentries.symm
      steady := .single (List.prefix_refl _) (List.prefix_append _ _) }

end Scoped

/-- The account leaves the scope as it is and tells of no variables. -/
def Account.Quiet {α : Type} (y : Account α) : Prop :=
  ∀ scope a after story, y scope = some (a, after, story) → after = scope ∧ Silent story

namespace Account.Quiet

variable {α β : Type} {y : Account α} {g : α → Account β}

protected theorem pure (a : α) : (pure a : Account α).Quiet := by
  intro scope a after story h
  cases h
  exact ⟨rfl, .nil⟩

private theorem bind (hy : y.Quiet) (hg : ∀ a, (g a).Quiet) : (y >>= g).Quiet := by
  intro scope b after story h
  obtain ⟨a, middle, front, back, hfirst, hrest, rfl⟩ := bind_eq_some.mp h
  obtain ⟨rfl, hfront⟩ := hy scope a middle front hfirst
  obtain ⟨rfl, hback⟩ := hg a middle b after back hrest
  exact ⟨rfl, hfront.append hback⟩

theorem accept {kinds : List Kind} (leaf : Leaf kinds) : (Account.accept leaf).Quiet := by
  intro scope a after story h
  cases h
  exact ⟨rfl, .terminal leaf.val⟩

private theorem acceptVariable {kinds : List Kind} (leaf : Leaf kinds) :
    (Account.acceptVariable leaf).Quiet := by
  intro scope a after story h
  unfold Account.acceptVariable at h
  cases hfind : scope.find? leaf.val.text with
  | none =>
      rw [hfind] at h
      cases h
  | some v =>
      rw [hfind] at h
      cases h
      exact ⟨rfl, .terminal leaf.val⟩

private theorem require (p : Prop) [Decidable p] : (Account.require p).Quiet := by
  intro scope a after story h
  unfold Account.require at h
  by_cases hp : p
  · rw [if_pos hp] at h
    cases h
    exact ⟨rfl, .nil⟩
  · rw [if_neg hp] at h
    cases h

private theorem within (rule : Rule) (hy : y.Quiet) : (Account.within rule y).Quiet := by
  intro scope a after story h
  obtain ⟨inner, hinner, rfl⟩ := within_eq_some.mp h
  obtain ⟨rfl, hsilent⟩ := hy scope a after inner hinner
  exact ⟨rfl, hsilent.within rule.name⟩

end Account.Quiet

/-- The account removes exactly what it declares in the headers of its loops. -/
def Account.Keeps {α : Type} (rules : List String) (y : Account α) : Prop :=
  ∀ scope a after story, y scope = some (a, after, story) → Scoped rules scope story after

namespace Account.Keeps

variable {α β : Type} {rules : List String} {y : Account α} {g : α → Account β}

theorem of_quiet (h : y.Quiet) : y.Keeps rules := by
  intro scope a after story hy
  obtain ⟨rfl, hsilent⟩ := h scope a after story hy
  exact .of_silent hsilent

theorem bind (hy : y.Keeps rules) (hg : ∀ a, (g a).Keeps rules) : (y >>= g).Keeps rules := by
  intro scope b after story h
  obtain ⟨a, middle, front, back, hfirst, hrest, rfl⟩ := bind_eq_some.mp h
  exact (hy scope a middle front hfirst).append (hg a middle b after back hrest)

theorem accept {kinds : List Kind} (leaf : Leaf kinds) : (Account.accept leaf).Keeps rules :=
  of_quiet (.accept leaf)

theorem within {rule : Rule} (hy : y.Keeps (rule.name :: rules)) :
    (Account.within rule y).Keeps rules := by
  intro scope a after story h
  obtain ⟨inner, hinner, rfl⟩ := within_eq_some.mp h
  exact (hy scope a after inner hinner).within

theorem declare (hheader : ¬ InHeader rules) (identifier : String) (type : VarType) :
    (Account.declare identifier type).Keeps rules := by
  intro scope v after story h
  obtain ⟨-, hentries, hissued, rfl⟩ := declare_eq_some h
  exact .of_declare hheader hentries hissued

end Account.Keeps

/-- The rules whose trees declare nothing. -/
def Rule.quiet : List Rule :=
  [.argumentList, .condition, .conditionalOperator, .expression, .term, .factor]

namespace Grammar.Tree

theorem account_quiet {rule : Rule} (t : Tree rule) (hrule : rule ∈ Rule.quiet) :
    t.account.Quiet := by
  induction t with
  | program | last | closed | more | assignment | choice | loop | call | repetition | iteration
  | assignValue | assignString | ifThen | ifThenElse | whileLoop | callProcedure | doUntil
  | forLoop => exact absurd hrule (by decide)
  | lastArgument token =>
      exact .within _ ((Account.Quiet.acceptVariable token).bind fun _ => .pure ())
  | moreArguments token comma rest ih =>
      refine .within _ ((Account.Quiet.acceptVariable token).bind fun _ => ?_)
      exact (Account.Quiet.accept comma).bind fun _ => ih (by decide)
  | comparison left operator right ih =>
      refine .within _ ((Account.Quiet.acceptVariable left).bind fun _ => ?_)
      refine (ih (by decide)).bind fun _ => ?_
      by_cases hkind : right.val.kind = .identifier
      · rw [if_pos hkind]
        exact (Account.Quiet.acceptVariable right).bind fun _ => .pure ()
      · rw [if_neg hkind]
        exact .accept right
  | relation operator => exact .within _ (.accept operator)
  | lone term ih => exact .within _ (ih (by decide))
  | sum term operator rest ihterm ihrest =>
      refine .within _ ((ihterm (by decide)).bind fun _ => ?_)
      refine (Account.Quiet.accept operator).bind fun _ => ?_
      refine (ihrest (by decide)).bind fun _ => ?_
      exact (Account.Quiet.require _).bind fun _ => .pure _
  | single factor ih => exact .within _ (ih (by decide))
  | product factor operator rest ihfactor ihrest =>
      refine .within _ ((ihfactor (by decide)).bind fun _ => ?_)
      refine (Account.Quiet.require _).bind fun _ => ?_
      refine (Account.Quiet.accept operator).bind fun _ => ?_
      refine (ihrest (by decide)).bind fun _ => ?_
      exact (Account.Quiet.require _).bind fun _ => .pure _
  | name token => exact .within _ ((Account.Quiet.acceptVariable token).bind fun _ => .pure _)
  | number token => exact .within _ ((Account.Quiet.accept token).bind fun _ => .pure _)
  | parenthesised leftParenthesis value rightParenthesis ih =>
      refine .within _ ((Account.Quiet.accept leftParenthesis).bind fun _ => ?_)
      refine (ih (by decide)).bind fun _ => ?_
      exact (Account.Quiet.accept rightParenthesis).bind fun _ => .pure _

end Grammar.Tree

end OnePass
