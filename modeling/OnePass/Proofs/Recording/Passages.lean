import Mathlib.Data.List.Induction
import OnePass.Proofs.Recording.OpenRules
/-!
# Entries and exits of rules

The entries and exits of a story are well nested if each rule is left before the one around it. That
is a grammar, and to be told by a stack. Wherever a story is cut, what is in front has entered the
rules that are open there, and what is behind leaves them, the innermost one first.
-/
namespace OnePass

/-- Nothing, or a rule that is entered and left, well nested inside, and then more of the kind. -/
inductive WellNested : List (Passage × String) → Prop where
  | nil : WellNested []
  | within (rule : String) {inside rest : List (Passage × String)} (hinside : WellNested inside)
    (hrest : WellNested rest) :
    WellNested ((.commence, rule) :: inside ++ (.finish, rule) :: rest)

namespace WellNested

variable {front back inside : List (Passage × String)}

private theorem append (hfront : WellNested front) (hback : WellNested back) :
    WellNested (front ++ back) := by
  induction hfront with
  | nil => exact hback
  | within rule hinside _ _ ih =>
      rw [List.append_assoc, List.cons_append]
      exact .within rule hinside ih

private theorem enclosed (rule : String) (h : WellNested inside) :
    WellNested ((.commence, rule) :: inside ++ [(.finish, rule)]) :=
  .within rule h .nil

private theorem closes (h : WellNested front) (unfinished : List String)
    (rest : List (Passage × String)) :
    Journal.closes unfinished (front ++ rest) = Journal.closes unfinished rest := by
  induction h generalizing unfinished rest with
  | nil => rfl
  | within rule _ _ ihinside ihrest =>
      rw [List.append_assoc, List.cons_append, List.cons_append]
      simp only [Journal.closes, ihinside, ihrest, decide_true, Bool.true_and]

end WellNested

namespace Story

open Occurrence (passage?)

variable {rules outer : List String} {story front back : Story}

/-- The entries and exits of a story, in order. -/
def passages (story : Story) : List (Passage × String) :=
  story.filterMap passage?

theorem passages_append (front back : Story) :
    passages (front ++ back) = passages front ++ passages back :=
  List.filterMap_append

private theorem closes_iff :
    Journal.closes rules (passages story) = true ↔
      Matched rules story ∧ openAfter rules story = [] := by
  induction story generalizing rules with
  | nil =>
      have hclosed : Journal.closes rules (passages []) = rules.isEmpty := by
        cases rules <;> rfl
      rw [hclosed, List.isEmpty_iff]
      exact ⟨fun h => ⟨.nil rules, h⟩, And.right⟩
  | cons occurrence story ih =>
      have hopen : openAfter rules (occurrence :: story) =
        openAfter (occurrence.reopen rules) story := rfl
      rw [matched_cons, hopen, and_assoc, ← ih]
      cases occurrence with
      | commence rule =>
          have hcloses : Journal.closes rules (passages (.commence rule :: story)) =
              Journal.closes (rule :: rules) (passages story) := by
            cases rules <;> rfl
          rw [hcloses]
          exact ⟨fun h => ⟨nofun, h⟩, And.right⟩
      | finish rule =>
          cases rules with
          | nil =>
              constructor
              · nofun
              · rintro ⟨hmatches, -⟩
                cases hmatches rule rfl
          | cons innermost rules =>
              have hcloses :
                  Journal.closes (innermost :: rules) (passages (.finish rule :: story)) =
                (decide (innermost = rule) && Journal.closes rules (passages story)) := rfl
              have hmatches : (Occurrence.finish rule).Matches (innermost :: rules) ↔
                  innermost = rule := by
                simp [Occurrence.Matches]
              rw [hcloses, Bool.and_eq_true, decide_eq_true_iff, hmatches]
              rfl
      | terminal | declare | remove | complaint => exact ⟨fun h => ⟨nofun, h⟩, And.right⟩

private theorem openAfter_around (h : Matched rules story) (outer : List String) :
    openAfter (rules ++ outer) story = openAfter rules story ++ outer := by
  induction story generalizing rules with
  | nil => rfl
  | cons occurrence story ih =>
      obtain ⟨hmatches, hrest⟩ := matched_cons.mp h
      have hreopen : occurrence.reopen (rules ++ outer) = occurrence.reopen rules ++ outer := by
        cases occurrence with
        | finish rule =>
            obtain ⟨rest, rfl⟩ := List.head?_eq_some_iff.mp (hmatches rule rfl)
            rfl
        | commence | terminal | declare | remove | complaint => rfl
      change openAfter (occurrence.reopen (rules ++ outer)) story = _
      rw [hreopen, ih hrest]
      rfl

private theorem matched_append :
    Matched rules (front ++ back) ↔ Matched rules front ∧ Matched (openAfter rules front) back := by
  constructor
  · intro h
    constructor
    · rintro before occurrence after rfl
      exact h before occurrence (after ++ back) (by simp)
    · rintro before occurrence after rfl
      rw [← openAfter_append]
      exact h (front ++ before) occurrence after (by simp)
  · rintro ⟨hfront, hback⟩
    exact hfront.append hback

/-- A story that enters the rules given, the innermost one last, and leaves all others. -/
inductive Enters : List String → Story → Prop where
  | settled {story : Story} (h : WellNested (passages story)) : Enters [] story
  | entered {rules : List String} {front inside : Story} (rule : String) (hfront : Enters rules front)
    (hinside : WellNested (passages inside)) :
    Enters (rule :: rules) (front ++ .commence rule :: inside)

/-- A story that leaves the rules given, the innermost one first, and all others that it enters. -/
inductive Leaves : List String → Story → Prop where
  | settled {story : Story} (h : WellNested (passages story)) : Leaves [] story
  | left {rules : List String} {inside back : Story} (rule : String)
    (hinside : WellNested (passages inside)) (hback : Leaves rules back) :
    Leaves (rule :: rules) (inside ++ .finish rule :: back)

private theorem Enters.append (h : Enters rules front) (hback : WellNested (passages back)) :
    Enters rules (front ++ back) := by
  cases h with
  | settled hfront =>
      apply Enters.settled
      rw [passages_append]
      exact hfront.append hback
  | entered rule hfront hinside =>
      rw [List.append_assoc, List.cons_append]
      apply hfront.entered rule
      rw [passages_append]
      exact hinside.append hback

private theorem Leaves.prepend (h : Leaves rules back) (hfront : WellNested (passages front)) :
    Leaves rules (front ++ back) := by
  cases h with
  | settled hback =>
      apply Leaves.settled
      rw [passages_append]
      exact hfront.append hback
  | left rule hinside hback =>
      rw [← List.append_assoc]
      apply hback.left rule
      rw [passages_append]
      exact hfront.append hinside

private theorem wellNested_enclosed (rule : String) (h : WellNested (passages story)) :
    WellNested (passages (.commence rule :: story ++ [.finish rule])) := by
  have hpassages : passages (.commence rule :: story ++ [.finish rule]) =
      (.commence, rule) :: passages story ++ [(.finish, rule)] := by
    simp [passages, passage?]
  rw [hpassages]
  exact h.enclosed rule

private theorem wellNested_plain {occurrence : Occurrence} (h : occurrence.passage? = none) :
    WellNested (passages [occurrence]) := by
  rw [passages, List.filterMap_cons_none h]
  exact .nil

private theorem enters_of_matched (h : Matched [] story) : Enters (openAfter [] story) story := by
  induction story using List.reverseRecOn with
  | nil => exact .settled .nil
  | append_singleton story occurrence ih =>
      obtain ⟨hmatched, hlast⟩ := matched_append.mp h
      have hstory := ih hmatched
      have hmatches := (matched_cons.mp hlast).1
      rw [openAfter_append]
      change Enters (occurrence.reopen (openAfter [] story)) _
      generalize openAfter [] story = rules at hstory hmatches ⊢
      cases occurrence with
      | commence rule => exact hstory.entered rule .nil
      | finish rule =>
          obtain ⟨outer, rfl⟩ := List.head?_eq_some_iff.mp (hmatches rule rfl)
          cases hstory with
          | entered rule hfront hinside =>
              rw [List.append_assoc]
              exact hfront.append (wellNested_enclosed rule hinside)
      | terminal | declare | remove | complaint => exact hstory.append (wellNested_plain rfl)

private theorem leaves_of_closes (h : Journal.closes rules (passages story) = true) :
    Leaves rules story := by
  rw [closes_iff] at h
  induction story generalizing rules with
  | nil =>
      obtain ⟨-, rfl⟩ := h
      exact .settled .nil
  | cons occurrence story ih =>
      obtain ⟨hmatched, hopen⟩ := h
      obtain ⟨hmatches, hrest⟩ := matched_cons.mp hmatched
      have hstory : Leaves (occurrence.reopen rules) story := ih ⟨hrest, hopen⟩
      cases occurrence with
      | commence rule =>
          cases hstory with
          | left rule hinside hback =>
              have hwithin := hback.prepend (wellNested_enclosed rule hinside)
              rwa [List.append_assoc, List.cons_append, List.singleton_append] at hwithin
      | finish rule =>
          obtain ⟨outer, rfl⟩ := List.head?_eq_some_iff.mp (hmatches rule rfl)
          have hnone : WellNested (passages []) := .nil
          exact hstory.left rule hnone
      | terminal | declare | remove | complaint => exact hstory.prepend (wellNested_plain rfl)

theorem closes_nil_iff :
    Journal.closes [] (passages story) = true ↔ WellNested (passages story) := by
  constructor
  · intro h
    cases leaves_of_closes h with
    | settled hnested => exact hnested
  · intro h
    have hcloses := h.closes [] []
    rw [List.append_nil] at hcloses
    rw [hcloses]
    rfl

theorem matched_of_wellNested (h : WellNested (passages story)) : Matched [] story :=
  (closes_iff.mp (closes_nil_iff.mpr h)).1

theorem openAfter_of_wellNested (h : WellNested (passages story)) (rules : List String) :
    openAfter rules story = rules := by
  obtain ⟨hmatched, hopen⟩ := closes_iff.mp (closes_nil_iff.mpr h)
  have haround := openAfter_around hmatched rules
  rwa [hopen] at haround

private theorem exists_around {rule : String} (h : WellNested (passages (front ++ back)))
    (hopen : openAfter [] front = rule :: outer) :
    ∃ before inside inside' after, front = before ++ .commence rule :: inside ∧
      back = inside' ++ .finish rule :: after ∧ WellNested (passages inside) ∧
      WellNested (passages inside') := by
  obtain ⟨hmatched, hclosed⟩ := closes_iff.mp (closes_nil_iff.mpr h)
  obtain ⟨hfront, hback⟩ := matched_append.mp hmatched
  rw [openAfter_append] at hclosed
  -- The front enters the innermost rule last, and the back leaves it first.
  have henters := enters_of_matched hfront
  have hleaves := leaves_of_closes (closes_iff.mpr ⟨hback, hclosed⟩)
  rw [hopen] at henters hleaves
  clear h hmatched hfront hback hclosed hopen
  cases henters with
  | entered _ hbefore hinside =>
      cases hleaves with
      | left _ hinside' hafter => exact ⟨_, _, _, _, rfl, rfl, hinside, hinside'⟩

theorem exists_entry {rule : String} (h : WellNested (passages (front ++ .finish rule :: back))) :
    ∃ before inside, front = before ++ .commence rule :: inside ∧ WellNested (passages inside) := by
  have hmatches := matched_of_wellNested h front (.finish rule) back rfl
  obtain ⟨outer, hopen⟩ := List.head?_eq_some_iff.mp (hmatches rule rfl)
  obtain ⟨before, inside, -, -, hfront, -, hinside, -⟩ := exists_around h hopen
  exact ⟨before, inside, hfront, hinside⟩

theorem length_le_surrounding {occurrence : Occurrence}
    (h : WellNested (passages (front ++ occurrence :: back))) (rules : List String) :
    rules.length ≤ (occurrence.surrounding (openAfter rules front)).length := by
  have hmatched := matched_of_wellNested h
  have hmatches := hmatched front occurrence back rfl
  have haround : openAfter rules front = openAfter [] front ++ rules :=
    openAfter_around (matched_append.mp hmatched).1 rules
  rw [haround]
  cases occurrence with
  | finish rule =>
      obtain ⟨outer, hopen⟩ := List.head?_eq_some_iff.mp (hmatches rule rfl)
      rw [hopen]
      simp [Occurrence.surrounding]
  | commence | terminal | declare | remove | complaint => simp [Occurrence.surrounding]

/-- What has rules around it stands between the entry and the exit of the innermost of them. -/
theorem exists_enclosure {occurrence : Occurrence} {rule : String} {outer : List String}
    (h : WellNested (passages (front ++ occurrence :: back)))
    (hsurrounding : occurrence.surrounding (openAfter [] front) = rule :: outer) :
    ∃ before inside inside' after, front = before ++ .commence rule :: inside ∧
      back = inside' ++ .finish rule :: after ∧
      WellNested (passages (inside ++ occurrence :: inside')) := by
  cases occurrence with
  | finish inner =>
      -- The rule that is left here is no longer open behind its exit, and the story is cut there.
      have hcut : WellNested (passages ((front ++ [.finish inner]) ++ back)) := by
        rwa [List.append_assoc, List.singleton_append]
      have hopen : openAfter [] (front ++ [.finish inner]) = rule :: outer := by
        rw [openAfter_append]
        exact hsurrounding
      obtain ⟨before, inside, inside', after, hfront, hback, hinside, hinside'⟩ :=
        exists_around hcut hopen
      rcases List.eq_nil_or_concat inside with rfl | ⟨inside, last, rfl⟩
      · have hlast := congrArg List.getLast? hfront
        simp at hlast
      · rw [List.concat_eq_append, ← List.cons_append, ← List.append_assoc] at hfront
        obtain ⟨hbefore, hlast⟩ := List.append_inj' hfront rfl
        cases hlast
        refine ⟨before, inside, inside', after, hbefore, hback, ?_⟩
        rw [← List.singleton_append, ← List.append_assoc, ← List.concat_eq_append, passages_append]
        exact hinside.append hinside'
  | commence | terminal | declare | remove | complaint =>
      obtain ⟨before, inside, inside', after, hfront, hback, hinside, hinside'⟩ :=
        exists_around h hsurrounding
      cases inside' with
      | nil => cases hback
      | cons first inside' =>
          rw [List.cons_append, List.cons.injEq] at hback
          obtain ⟨rfl, hback⟩ := hback
          refine ⟨before, inside, inside', after, hfront, hback, ?_⟩
          rw [passages_append]
          exact hinside.append hinside'

end Story

end OnePass
