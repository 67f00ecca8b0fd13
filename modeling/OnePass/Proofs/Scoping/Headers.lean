import OnePass.Proofs.Scoping.Declaring
/-!
# Headers of loops

The two assignments in the header of a loop each issue a variable of their own, and declare it if
its name is new. What they declare is gone once the loop has ended.
-/
namespace OnePass

open Grammar Story
open Occurrence (passage? declared? removed?)

/-- The names that an assignment, or the header of a loop, assigns to. -/
def Grammar.Tree.targets : {rule : Rule} → Tree rule → List String
  | _, .assignValue target _ _ => [target.val.text]
  | _, .assignString target _ _ => [target.val.text]
  | _, .forLoop _ _ initial _ _ _ step _ _ _ _ _ => initial.targets ++ step.targets
  | _, _ => []

/-- The account ends by declaring a variable of the given name, and changes nothing before that. -/
private def Account.Issues (identifier : String) (y : Account Variable) : Prop :=
  ∀ scope v after story, y scope = some (v, after, story) → ∃ front type, Silent front ∧
    v = (scope.issue identifier type).1 ∧
    after.entries = scope.entries ++ scope.additions identifier type ∧
    after.issued = scope.issued + 1 ∧
    story = front ++ (scope.additions identifier type).map .declare

namespace Account.Issues

private theorem declare (identifier : String) (type : VarType) :
    (Account.declare identifier type).Issues identifier := by
  intro scope v after story h
  obtain ⟨hv, hentries, hissued, hstory⟩ := declare_eq_some h
  exact ⟨[], type, .nil, hv, hentries, hissued, hstory⟩

private theorem bind {α : Type} {identifier : String} {x : Account α} {g : α → Account Variable}
    (hx : x.Quiet) (hg : ∀ a, (g a).Issues identifier) : (x >>= g).Issues identifier := by
  intro scope v after story h
  obtain ⟨a, middle, quiet, rest, hfirst, hrest, rfl⟩ := bind_eq_some.mp h
  obtain ⟨rfl, hquiet⟩ := hx scope a middle quiet hfirst
  obtain ⟨front, type, hfront, hv, hentries, hissued, rfl⟩ := hg a middle v after rest hrest
  refine ⟨quiet ++ front, type, hquiet.append hfront, hv, hentries, hissued, ?_⟩
  rw [List.append_assoc]

end Account.Issues

/-- An assignment issues a variable and, if its name is new, declares it last of all. -/
structure Assigns (before : Scope) (story : Story) (after : Scope) (v : Variable)
    (fresh : List Variable) : Prop where
  stamp : v.stamp = before.issued
  issued : after.issued = before.issued + 1
  fresh_eq : fresh = [] ∨ fresh = [v]
  entries : after.entries = before.entries ++ fresh
  live : v.identifier ∈ after.entries.map Variable.identifier
  story_eq : ∃ front, Silent front ∧ story = .commence Rule.assignmentStatement.name ::
    (front ++ fresh.map .declare) ++ [.finish Rule.assignmentStatement.name]

namespace Assigns

private theorem of_issues {identifier : String} {y : Account Variable}
    (hy : y.Issues identifier) {scope after : Scope} {v : Variable} {story : Story}
    (h : Account.within .assignmentStatement y scope = some (v, after, story)) :
    v.identifier = identifier ∧ ∃ fresh, Assigns scope story after v fresh := by
  obtain ⟨inner, hinner, rfl⟩ := Account.within_eq_some.mp h
  obtain ⟨front, type, hsilent, rfl, hentries, hissued, rfl⟩ := hy scope v after inner hinner
  refine ⟨rfl, scope.additions identifier type, rfl, hissued, ?_, hentries, ?_, front, hsilent, rfl⟩
  · unfold Scope.additions
    by_cases hcontains : scope.contains identifier = true
    · exact .inl (if_pos hcontains)
    · exact .inr (if_neg hcontains)
  · unfold Scope.additions at hentries
    rw [hentries, List.map_append, List.mem_append]
    by_cases hcontains : scope.contains identifier = true
    · exact .inl (Scope.contains_iff_mem.mp hcontains)
    · right
      rw [if_neg hcontains]
      exact List.mem_singleton.mpr rfl

theorem of_account {t : Tree .assignmentStatement} {scope after : Scope} {v : Variable}
    {story : Story} (h : t.account scope = some (v, after, story)) :
    t.targets = [v.identifier] ∧ ∃ fresh, Assigns scope story after v fresh := by
  cases t with
  | assignValue target becomes value =>
      have hquiet := value.account_quiet (by decide)
      obtain ⟨hidentifier, hassigns⟩ := of_issues (.bind (.accept target) fun _ =>
        .bind (.accept becomes) fun _ => .bind hquiet fun type => .declare target.val.text type) h
      exact ⟨congrArg (fun name => [name]) hidentifier.symm, hassigns⟩
  | assignString target becomes value =>
      obtain ⟨hidentifier, hassigns⟩ := of_issues (.bind (.accept target) fun _ =>
        .bind (.accept becomes) fun _ => .bind (.accept value) fun _ =>
          .declare target.val.text .string) h
      exact ⟨congrArg (fun name => [name]) hidentifier.symm, hassigns⟩

variable {before after : Scope} {story rest : Story} {v : Variable} {fresh : List Variable}
  {rules : List String}

theorem mem_fresh (h : Assigns before story after v fresh) {u : Variable} (hu : u ∈ fresh) :
    u = v := by
  rcases h.fresh_eq with hfresh | hfresh
  · rw [hfresh] at hu
    cases hu
  · rw [hfresh] at hu
    exact List.mem_singleton.mp hu

private theorem filterMap_declared? (h : Assigns before story after v fresh) :
    story.filterMap declared? = fresh := by
  obtain ⟨front, hsilent, rfl⟩ := h.story_eq
  have hfresh : (fresh.map Occurrence.declare).filterMap declared? = fresh := by
    rw [List.filterMap_map]
    exact List.filterMap_some
  simp [declared?, List.filterMap_cons, hsilent.undeclared, hfresh]

private theorem filterMap_removed? (h : Assigns before story after v fresh) :
    story.filterMap removed? = [] := by
  obtain ⟨front, hsilent, rfl⟩ := h.story_eq
  have hfresh : (fresh.map Occurrence.declare).filterMap removed? = [] := by
    rw [List.filterMap_map]
    exact List.filterMap_none fresh
  simp [removed?, List.filterMap_cons, hsilent.unremoved, hfresh]

private theorem balanced (h : Assigns before story after v fresh) : Balanced story := by
  obtain ⟨front, hsilent, rfl⟩ := h.story_eq
  apply Balanced.within
  apply hsilent.balanced.append
  rcases h.fresh_eq with rfl | rfl
  · exact .nil
  · exact .plain rfl

private theorem released_append (h : Assigns before story after v fresh)
    (hleaves : fresh = [v] →
      LeavesLoop v (.finish Rule.assignmentStatement.name :: rest))
    (hrest : Released rules rest) : Released rules (story ++ rest) := by
  obtain ⟨front, hsilent, rfl⟩ := h.story_eq
  rw [List.cons_append, List.cons_append, released_cons, List.append_assoc, List.append_assoc]
  refine ⟨by simp, ?_⟩
  apply (Released.of_undeclared _ hsilent.undeclared).append
  rw [hsilent.balanced.openAfter]
  have hfinish : Released (Rule.assignmentStatement.name :: rules)
      (.finish Rule.assignmentStatement.name :: rest) :=
    released_cons.mpr ⟨by simp, hrest⟩
  rcases h.fresh_eq with rfl | rfl
  · exact hfinish
  · rw [List.map_singleton, List.singleton_append, released_cons]
    refine ⟨?_, hfinish⟩
    rintro u hu -
    cases hu
    exact hleaves rfl

private theorem declarations_eq (h : Assigns before story after v fresh) (inHeader : Bool) :
    declarations inHeader (Rule.forStatement.name :: rules) story =
      if inHeader then fresh else [] := by
  obtain ⟨front, hsilent, rfl⟩ := h.story_eq
  have hheader : InHeader (Rule.assignmentStatement.name :: Rule.forStatement.name :: rules) :=
    List.prefix_append [_, _] rules
  change declarations inHeader (_ :: _ :: rules) (front ++ fresh.map .declare ++ [_]) = _
  rw [declarations_append, declarations_append, declarations_eq_nil _ _ hsilent.undeclared,
    openAfter_append, hsilent.balanced.openAfter]
  rcases h.fresh_eq with rfl | rfl
  · cases inHeader <;> rfl
  · cases inHeader <;> simp [declarations, hheader]

private theorem live_eq (h : Assigns before story after v fresh) :
    liveAfter before.entries story = after.entries := by
  obtain ⟨front, hsilent, rfl⟩ := h.story_eq
  have hlive : liveAfter before.entries front = before.entries :=
    liveAfter_of_silent _ hsilent.undeclared hsilent.unremoved
  change liveAfter before.entries (front ++ fresh.map .declare ++ [_]) = _
  rw [liveAfter_append, liveAfter_append, hlive, h.entries]
  rcases h.fresh_eq with rfl | rfl
  · exact (List.append_nil _).symm
  · rfl

private theorem steady (h : Assigns before story after v fresh) {old : List Variable}
    (hold : old <+: before.entries) : Steady old before.entries story := by
  have hlive := h.live_eq
  have hafter : old <+: after.entries := h.entries ▸ hold.trans (List.prefix_append _ _)
  obtain ⟨front, hsilent, rfl⟩ := h.story_eq
  have hdeclare : Steady old before.entries (fresh.map .declare) := by
    rcases h.fresh_eq with rfl | rfl
    · exact .nil hold
    · exact .single hold (hold.trans (List.prefix_append _ _))
  have hfront : Steady old before.entries (front ++ fresh.map .declare) := by
    apply (Steady.of_silent hold hsilent).append
    rw [liveAfter_of_silent _ hsilent.undeclared hsilent.unremoved]
    exact hdeclare
  have hcommence : Steady old before.entries [.commence Rule.assignmentStatement.name] :=
    .single hold hold
  apply (hcommence.append hfront).append
  have hclose : liveAfter before.entries
      ([.commence Rule.assignmentStatement.name] ++ (front ++ fresh.map .declare)) =
        after.entries := by
    rw [liveAfter_append] at hlive
    exact hlive
  rw [hclose]
  exact .single hafter hafter

end Assigns

/-- What comes behind the header of a loop: the rest of the loop, the removals, and its end. -/
def EndsLoop (v : Variable) (story : Story) : Prop :=
  ∃ inside removals rest, story = inside ++ removals ++ .finish Rule.forStatement.name :: rest ∧
    Balanced inside ∧ .remove v ∈ removals ∧
    ∀ occurrence ∈ removals, (removed? occurrence).isSome

namespace EndsLoop

variable {v : Variable} {story : Story}

private theorem prepend (h : EndsLoop v story) {front : Story} (hfront : Balanced front) :
    EndsLoop v (front ++ story) := by
  obtain ⟨inside, removals, rest, rfl, hinside, hmem, hremovals⟩ := h
  refine ⟨front ++ inside, removals, rest, ?_, hfront.append hinside, hmem, hremovals⟩
  simp only [List.append_assoc]

private theorem leavesLoop (h : EndsLoop v story) :
    LeavesLoop v (.finish Rule.assignmentStatement.name :: story) := by
  obtain ⟨inside, removals, rest, rfl, hinside, hmem, hremovals⟩ := h
  refine ⟨.finish Rule.assignmentStatement.name :: inside, removals, rest, ?_, ?_, hmem, hremovals⟩
  · simp only [List.cons_append]
  · have hcloses := hinside.closes [] []
    rw [List.append_nil] at hcloses
    simpa [List.filterMap_cons, passage?, Journal.closes] using hcloses

end EndsLoop

/-- A part of the header of a loop, with the variables that it declares. -/
structure Heads (before : Scope) (story : Story) (after : Scope) (fresh : List Variable) :
    Prop where
  balanced : Balanced story
  entries : after.entries = before.entries ++ fresh
  issued : Issued before fresh after
  declared : story.filterMap declared? = fresh
  removed : story.filterMap removed? = []
  declarations_eq : ∀ rules inHeader, declarations inHeader (Rule.forStatement.name :: rules) story =
    if inHeader then fresh else []
  released : ∀ rules rest, (∀ v ∈ fresh, EndsLoop v rest) → Released rules rest →
    Released rules (story ++ rest)
  live : liveAfter before.entries story = after.entries
  steady : ∀ old, old <+: before.entries → Steady old before.entries story

namespace Heads

variable {before middle after : Scope} {story front back : Story} {fresh fresh' : List Variable}

theorem of_silent (h : Silent story) : Heads before story before [] where
  balanced := h.balanced
  entries := (List.append_nil _).symm
  issued := .nil (Nat.le_refl _)
  declared := h.undeclared
  removed := h.unremoved
  declarations_eq := by
    intro rules inHeader
    rw [declarations_eq_nil _ _ h.undeclared]
    cases inHeader <;> rfl
  released := by
    intro rules rest _ hrest
    apply (Released.of_undeclared rules h.undeclared).append
    rw [h.balanced.openAfter]
    exact hrest
  live := liveAfter_of_silent _ h.undeclared h.unremoved
  steady := fun _ hold => .of_silent hold h

theorem of_assigns {v : Variable} (h : Assigns before story after v fresh) :
    Heads before story after fresh where
  balanced := h.balanced
  entries := h.entries
  issued := by
    rcases h.fresh_eq with rfl | rfl
    · exact .nil (by rw [h.issued]; omega)
    · exact .single h.stamp h.issued
  declared := h.filterMap_declared?
  removed := h.filterMap_removed?
  declarations_eq := fun _ inHeader => h.declarations_eq inHeader
  released := by
    intro rules rest hends hrest
    apply h.released_append _ hrest
    intro hfresh
    exact (hends v (hfresh ▸ List.mem_singleton_self v)).leavesLoop
  live := h.live_eq
  steady := fun _ hold => h.steady hold

theorem append (hfront : Heads before front middle fresh) (hback : Heads middle back after fresh') :
    Heads before (front ++ back) after (fresh ++ fresh') where
  balanced := hfront.balanced.append hback.balanced
  entries := by rw [hback.entries, hfront.entries, List.append_assoc]
  issued := hfront.issued.append hback.issued
  declared := by rw [List.filterMap_append, hfront.declared, hback.declared]
  removed := by rw [List.filterMap_append, hfront.removed, hback.removed]; rfl
  declarations_eq := by
    intro rules inHeader
    rw [declarations_append, hfront.balanced.openAfter, hfront.declarations_eq,
      hback.declarations_eq]
    cases inHeader <;> rfl
  released := by
    intro rules rest hends hrest
    rw [List.append_assoc]
    apply hfront.released
    · intro v hv
      exact (hends v (List.mem_append_left _ hv)).prepend hback.balanced
    · apply hback.released _ _ _ hrest
      intro v hv
      exact hends v (List.mem_append_right _ hv)
  live := by rw [liveAfter_append, hfront.live, hback.live]
  steady := by
    intro old hold
    apply (hfront.steady old hold).append
    rw [hfront.live]
    apply hback.steady
    rw [hfront.entries]
    exact hold.trans (List.prefix_append _ _)

end Heads

end OnePass
