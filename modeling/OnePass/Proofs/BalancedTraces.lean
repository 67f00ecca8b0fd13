import Mathlib.Order.Bounds.Image
import OnePass.Proofs.Recording.Histories
import OnePass.Proofs.Recording.Passages
/-!
# Balance and depth

Whether a trace is balanced is told by a stack of names, the depth of its events by a counter that
never looks at a name and never falls below zero. Both keep to the grammar of well-nested entries
and exits: it is what the stack accepts, and where it holds the counter tells how many rules are
open. Where it does not hold, the counter tells how many more rules have been entered than left
since the moment from which on these are most.
-/
namespace OnePass

namespace Occurrence

/-- How much deeper it is behind an occurrence, as far as it has not gone below all rules. -/
def rise : Occurrence → Int
  | .commence _ => 1
  | .finish _ => -1
  | _ => 0

/-- What counts for the depth of an occurrence behind `front`. An exit stands behind itself. -/
def reached (front : Story) : Occurrence → Story
  | .finish rule => front ++ [.finish rule]
  | _ => front

end Occurrence

namespace Story

/-- How many more rules are entered than left. -/
def surplus (story : Story) : Int :=
  story.foldl (fun height occurrence => height + occurrence.rise) 0

/-- The surpluses of a story since any moment up to its end. -/
def surpluses (story : Story) : Set Int :=
  {n | ∃ recent, recent <:+ story ∧ surplus recent = n}

variable {story : Story} {occurrence : Occurrence} {depth : Int}

private theorem surpluses_nil : surpluses [] = {0} := by
  ext n
  simp [surpluses, surplus, eq_comm]

private theorem surpluses_concat (story : Story) (occurrence : Occurrence) :
    surpluses (story ++ [occurrence]) = insert 0 ((· + occurrence.rise) '' surpluses story) := by
  ext n
  simp only [surpluses, List.suffix_concat_iff, Set.mem_ofPred_eq, Set.mem_insert_iff,
    Set.mem_image]
  constructor
  · rintro ⟨recent, rfl | ⟨recent, rfl, hrecent⟩, rfl⟩
    · exact .inl rfl
    · refine .inr ⟨surplus recent, ⟨recent, hrecent, rfl⟩, ?_⟩
      simp [surplus]
  · rintro (rfl | ⟨n, ⟨recent, hrecent, rfl⟩, rfl⟩)
    · exact ⟨[], .inl rfl, rfl⟩
    · refine ⟨recent ++ [occurrence], .inr ⟨recent, rfl, hrecent⟩, ?_⟩
      simp [surplus]

private theorem isGreatest_concat (h : IsGreatest (surpluses story) depth)
    (occurrence : Occurrence) :
    IsGreatest (surpluses (story ++ [occurrence])) (max 0 (depth + occurrence.rise)) := by
  rw [surpluses_concat]
  -- The surpluses since all former moments move alike, and the one since the end is new.
  have hmonotone : Monotone (· + occurrence.rise) :=
    fun _ _ hle => Int.add_le_add_right hle occurrence.rise
  exact (hmonotone.map_isGreatest h).insert 0

private theorem nonneg_of_isGreatest (h : IsGreatest (surpluses story) depth) : 0 ≤ depth :=
  h.2 ⟨[], List.nil_suffix, rfl⟩

private theorem Placed.behind {depth : Nat} {rules : List String} {front back : List Event}
    (h : Placed depth rules (front ++ back)) :
    Placed depth (openAfter rules (front.map Event.occurrence)) back := by
  rintro before event after rfl
  rw [← openAfter_append, ← List.map_append]
  exact h (front ++ before) event after (List.append_assoc ..).symm

end Story

private theorem forall_cut_concat {α : Type} {P : List α → α → Prop} {a : α} {l : List α} :
    (∀ front b back, l ++ [a] = front ++ b :: back → P front b) ↔
      (∀ front b back, l = front ++ b :: back → P front b) ∧ P l a := by
  constructor
  · intro h
    constructor
    · rintro front b back rfl
      exact h front b (back ++ [a]) (by simp)
    · exact h l a [] rfl
  · rintro ⟨hfront, hlast⟩ front b back hl
    rcases List.eq_nil_or_concat back with rfl | ⟨back, last, rfl⟩
    · obtain ⟨rfl, hb⟩ := List.append_inj' hl rfl
      cases hb
      exact hlast
    · rw [List.concat_eq_append, ← List.cons_append, ← List.append_assoc] at hl
      exact hfront front b back (List.append_inj' hl rfl).1

private theorem exists_cut_of_map {α β : Type} {f : α → β} {l : List α} {front back : List β}
    {b : β} (h : l.map f = front ++ b :: back) :
    ∃ before a after, l = before ++ a :: after ∧ before.map f = front ∧ f a = b ∧
      after.map f = back := by
  obtain ⟨before, rest, hl, hfront, hrest⟩ := List.map_eq_append_iff.mp h
  obtain ⟨a, after, rfl, ha, hback⟩ := List.map_eq_cons_iff.mp hrest
  exact ⟨before, a, after, hl, hfront, ha, hback⟩

namespace Event

/-- A rule is entered and left, and all rules that are entered inside are left there in order. -/
structure Encloses (opening : Event) (inside : List Event) (closing : Event) : Prop where
  rule : ∃ rule, opening.occurrence = .commence rule ∧ closing.occurrence = .finish rule
  inside : WellNested (inside.filterMap Journal.passage?)

/-- An event between `front` and `back` stands within a rule. -/
def Within (front : List Event) (event : Event) (back : List Event) : Prop :=
  ∃ before opening inside inside' closing after, front = before ++ opening :: inside ∧
    back = inside' ++ closing :: after ∧ Encloses opening (inside ++ event :: inside') closing

end Event

namespace Journal

open Story

variable {journal : Journal} {events : List Event}

/-- The rule that an operation enters or leaves. -/
def Operation.passage? : Operation → Option (Passage × String)
  | .commence rule => some (.commence, rule)
  | .finish rule => some (.finish, rule)
  | _ => none

/-- The events stand as deep as the rules that they are within. -/
structure Tiered (events : List Event) : Prop where
  entered : ∀ front closing back rule, events = front ++ closing :: back →
    closing.occurrence = .finish rule →
      ∃ before opening inside, front = before ++ opening :: inside ∧
        opening.Encloses inside closing
  enclosed : ∀ before opening inside closing after,
    events = before ++ opening :: inside ++ closing :: after → opening.Encloses inside closing →
      closing.depth = opening.depth ∧ ∀ event ∈ inside, opening.depth < event.depth
  outermost : ∀ front event back, events = front ++ event :: back →
    ¬ event.Within front back → event.depth = 0

/-- The depth of each event, and that of the journal, is the greatest surplus up to there. -/
structure Leveled (journal : Journal) : Prop where
  events : ∀ front event back, journal.events.toList = front ++ event :: back →
    IsGreatest (surpluses (event.occurrence.reached (front.map Event.occurrence))) event.depth
  depth : IsGreatest (surpluses journal.occurrences) journal.depth

private theorem filterMap_passage? (events : List Event) :
    events.filterMap passage? = Story.passages (events.map Event.occurrence) := by
  rw [Story.passages, List.filterMap_map]
  rfl

private theorem isBalanced_iff :
    journal.isBalanced = true ↔ WellNested (Story.passages journal.occurrences) := by
  rw [isBalanced, Journal.passages, filterMap_passage?]
  exact closes_nil_iff

private theorem exists_follow_of_performAll (journal : Journal) (history : List Operation) :
    ∃ scope story, journal.performAll history = journal.follow scope story := by
  induction history using List.reverseRecOn with
  | nil => exact ⟨journal.scope, [], rfl⟩
  | append_singleton history operation ih =>
      obtain ⟨scope, story, hstory⟩ := ih
      rw [performAll_concat, perform_eq_follow, hstory, follow_follow]
      exact ⟨_, _, rfl⟩

private theorem passages_performAll (history : List Operation) :
    Story.passages (journal.performAll history).occurrences =
      Story.passages journal.occurrences ++ history.filterMap Operation.passage? := by
  induction history using List.reverseRecOn with
  | nil => exact (List.append_nil _).symm
  | append_singleton history operation ih =>
      have hrecorded : Story.passages (operation.recorded (journal.performAll history).scope) =
          [operation].filterMap Operation.passage? := by
        cases operation with
        | commence | finish | terminal | complain => rfl
        | declare | drop => simp only [Operation.recorded]; split <;> rfl
      rw [performAll_concat, occurrences_perform, passages_append, ih, hrecorded,
        List.filterMap_append, List.append_assoc]

private theorem depth_enclosed {depth : Nat} {rules : List String} {opening closing : Event}
    {inside after : List Event}
    (hplaced : Placed depth rules (opening :: inside ++ closing :: after))
    (hencloses : opening.Encloses inside closing) :
    closing.depth = opening.depth ∧ ∀ event ∈ inside, opening.depth < event.depth := by
  obtain ⟨⟨rule, hcommence, hfinish⟩, hinside⟩ := hencloses
  rw [filterMap_passage?] at hinside
  rw [List.cons_append, placed_cons, hcommence] at hplaced
  obtain ⟨hopening, hrest⟩ := hplaced
  constructor
  · have hclosing := hrest inside closing after rfl
    rw [openAfter_of_wellNested hinside, hfinish] at hclosing
    exact hclosing.trans hopening.symm
  · intro event hevent
    obtain ⟨front, back, rfl⟩ := List.append_of_mem hevent
    rw [List.map_append, List.map_cons] at hinside
    have hdepth := hrest front event (back ++ closing :: after) (by simp)
    have hdeeper := length_le_surrounding hinside (rule :: rules)
    rw [hopening, hdepth]
    exact Nat.add_lt_add_left hdeeper depth

private theorem tiered_of_placed (hplaced : Placed 0 [] events)
    (hnested : WellNested (Story.passages (events.map Event.occurrence))) : Tiered events where
  entered front closing back rule hevents hfinish := by
    rw [hevents, List.map_append, List.map_cons, hfinish] at hnested
    obtain ⟨before, inside, hfront, hinside⟩ := exists_entry hnested
    obtain ⟨before, opening, inside, rfl, -, hcommence, rfl⟩ := exists_cut_of_map hfront
    rw [← filterMap_passage?] at hinside
    exact ⟨before, opening, inside, rfl, ⟨rule, hcommence, hfinish⟩, hinside⟩
  enclosed before opening inside closing after hevents hencloses := by
    rw [hevents, List.append_assoc] at hplaced
    exact depth_enclosed hplaced.behind hencloses
  outermost front event back hevents hwithin := by
    have hdepth := hplaced front event back hevents
    rw [hevents, List.map_append, List.map_cons] at hnested
    cases hsurrounding : event.occurrence.surrounding
        (openAfter [] (front.map Event.occurrence)) with
    | nil => rw [hdepth, hsurrounding]; rfl
    | cons rule outer =>
        obtain ⟨before, inside, inside', after, hfront, hback, hinside⟩ :=
          exists_enclosure hnested hsurrounding
        obtain ⟨before, opening, inside, rfl, -, hcommence, rfl⟩ := exists_cut_of_map hfront
        obtain ⟨inside', closing, after, rfl, rfl, hfinish, -⟩ := exists_cut_of_map hback
        rw [← List.map_cons, ← List.map_append, ← filterMap_passage?] at hinside
        exact absurd ⟨before, opening, inside, inside', closing, after, rfl, rfl,
          ⟨rule, hcommence, hfinish⟩, hinside⟩ hwithin

namespace Leveled

private theorem start (scope : Scope) (echo : Bool) : (start scope echo).Leveled where
  events front event back h := by cases front <;> cases h
  depth := by
    change IsGreatest (surpluses []) 0
    rw [surpluses_nil]
    exact isGreatest_singleton

private theorem tell (h : journal.Leveled) (occurrence : Occurrence) :
    (journal.tell occurrence).Leveled := by
  have hnext := isGreatest_concat h.depth occurrence
  cases occurrence with
  | commence rule =>
      have hdepth : max 0 ((journal.depth : Int) + 1) = (journal.depth + 1 : Nat) := by omega
      constructor
      · simp only [Journal.tell, commence, events_record]
        exact forall_cut_concat.mpr ⟨h.events, h.depth⟩
      · rw [occurrences_tell]
        exact hdepth ▸ hnext
  | finish rule =>
      have hdepth : max 0 ((journal.depth : Int) + -1) = (journal.depth - 1 : Nat) := by omega
      rw [Occurrence.rise, hdepth] at hnext
      constructor
      · simp only [Journal.tell, finish, events_record]
        exact forall_cut_concat.mpr ⟨h.events, hnext⟩
      · rw [occurrences_tell]
        exact hnext
  | terminal | declare | remove | complaint =>
      have hdepth : max 0 ((journal.depth : Int) + 0) = journal.depth := by omega
      constructor
      · simp only [Journal.tell, events_record]
        exact forall_cut_concat.mpr ⟨h.events, h.depth⟩
      · rw [occurrences_tell]
        exact hdepth ▸ hnext

private theorem follow (h : journal.Leveled) (scope : Scope) (story : Story) :
    (journal.follow scope story).Leveled := by
  induction story generalizing journal with
  | nil => exact ⟨h.events, h.depth⟩
  | cons occurrence story ih => exact ih (h.tell occurrence)

end Leveled

/-- A trace is balanced just if the rules that the operations enter and leave are well nested. Then
each rule that is left has been entered, at the same depth and above all that is inside, and what is
within no rule stands at depth 0. In any trace the depth is the greatest surplus of rules entered
since any moment, and not negative. -/
theorem balance_of_history (scope : Scope) (echo : Bool) (history : List Operation) :
    let journal := (start scope echo).performAll history
    let events := journal.events.toList
    (journal.isBalanced = true ↔ WellNested (history.filterMap Operation.passage?)) ∧
      (journal.isBalanced = true → Tiered events) ∧
      ∀ front event back, events = front ++ event :: back →
        0 ≤ (event.depth : Int) ∧
          IsGreatest (surpluses (event.occurrence.reached (front.map Event.occurrence)))
            event.depth := by
  intro journal events
  obtain ⟨scope', story, hfollow⟩ := exists_follow_of_performAll (start scope echo) history
  have hpassages : Story.passages journal.occurrences = history.filterMap Operation.passage? :=
    passages_performAll history
  have hleveled : journal.Leveled := by
    change ((start scope echo).performAll history).Leveled
    rw [hfollow]
    exact (Leveled.start scope echo).follow scope' story
  refine ⟨?_, ?_, ?_⟩
  · rw [isBalanced_iff, hpassages]
  · intro hbalanced
    have hnested := isBalanced_iff.mp hbalanced
    have hstory : journal.occurrences = story := by
      change ((start scope echo).performAll history).occurrences = _
      rw [hfollow, occurrences_follow]
      rfl
    have hmatched : Matched [] story := hstory ▸ matched_of_wellNested hnested
    have hdepth : (start scope echo).depth = 0 + ([] : List String).length := rfl
    obtain ⟨added, hadded, -, hplaced, -⟩ := follow_of_matched scope' hdepth hmatched
    rw [← hfollow] at hadded
    have hevents : events = added := hadded
    rw [← hevents] at hplaced
    exact tiered_of_placed hplaced hnested
  · intro front event back hevents
    have hgreatest := hleveled.events front event back hevents
    exact ⟨nonneg_of_isGreatest hgreatest, hgreatest⟩

end Journal

end OnePass
