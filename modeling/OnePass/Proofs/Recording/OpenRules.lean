import OnePass.Proofs.Derivation.Account
import OnePass.Proofs.Scoping.Story
/-!
# Rules that are open

A story whose rules are left in the order in which their nesting asks for keeps the depth of a
journal equal to the number of rules that are open. So every event stands as deep as the rules
around it.
-/
namespace OnePass

private theorem forall_cut_cons {α : Type} {P : List α → α → Prop} {a : α} {l : List α} :
    (∀ front b back, a :: l = front ++ b :: back → P front b) ↔
      P [] a ∧ ∀ front b back, l = front ++ b :: back → P (a :: front) b := by
  constructor
  · intro h
    constructor
    · exact h [] a l rfl
    · intro front b back hl
      exact h (a :: front) b back (by rw [hl, List.cons_append])
  · intro ⟨hhead, hrest⟩ front b back hl
    cases front with
    | nil =>
        obtain ⟨rfl, rfl⟩ := List.cons.inj hl
        exact hhead
    | cons first front =>
        obtain ⟨rfl, htail⟩ := List.cons.inj hl
        exact hrest front b back htail

namespace Occurrence

def complaint? : Occurrence → Option String
  | .complaint message _ => some message
  | _ => none

/-- The rules around an occurrence, where `rules` are open. A rule that is left is not around its
own end. -/
def surrounding (rules : List String) : Occurrence → List String
  | .finish _ => rules.tail
  | _ => rules

/-- The occurrence leaves no rule but the innermost one. -/
def Matches (rules : List String) (occurrence : Occurrence) : Prop :=
  ∀ rule, occurrence = .finish rule → rules.head? = some rule

end Occurrence

namespace Story

open Occurrence (complaint?)

/-- Each rule that is left is the innermost one that is open. -/
def Matched (rules : List String) (story : Story) : Prop :=
  ∀ front occurrence back, story = front ++ occurrence :: back →
    occurrence.Matches (openAfter rules front)

/-- Each event stands at the depth that the rules around it make up. -/
def Placed (depth : Nat) (rules : List String) (events : List Event) : Prop :=
  ∀ front event back, events = front ++ event :: back →
    event.depth = depth +
      (event.occurrence.surrounding (openAfter rules (front.map Event.occurrence))).length

/-- Rules are left in order, and those that are not left are the ones given, outermost first. -/
structure Nests (story : Story) (unfinished : List String) : Prop where
  matched : ∀ rules, Matched rules story
  openAfter : ∀ rules, openAfter rules story = unfinished.reverse ++ rules

variable {rules unfinished : List String} {front back story : Story} {occurrence : Occurrence}

theorem matched_cons :
    Matched rules (occurrence :: story) ↔
      occurrence.Matches rules ∧ Matched (occurrence.reopen rules) story :=
  forall_cut_cons

theorem placed_cons {depth : Nat} {event : Event} {events : List Event} :
    Placed depth rules (event :: events) ↔
      event.depth = depth + (event.occurrence.surrounding rules).length ∧
        Placed depth (event.occurrence.reopen rules) events :=
  forall_cut_cons

theorem filterMap_complaint?_within (rule : String) (story : Story) :
    List.filterMap complaint? (.commence rule :: story ++ [.finish rule]) =
      story.filterMap complaint? := by
  simp [complaint?, List.filterMap_cons]

theorem Matched.nil (rules : List String) : Matched rules [] := by
  intro front occurrence back h
  simp at h

private theorem Placed.nil (depth : Nat) (rules : List String) : Placed depth rules [] := by
  intro front event back h
  simp at h

theorem Matched.append (hfront : Matched rules front)
    (hback : Matched (openAfter rules front) back) : Matched rules (front ++ back) := by
  induction front generalizing rules with
  | nil => exact hback
  | cons occurrence front ih =>
      rw [matched_cons] at hfront
      rw [List.cons_append, matched_cons]
      exact ⟨hfront.1, ih hfront.2 hback⟩

namespace Nests

private theorem nil : Nests [] [] where
  matched := Matched.nil
  openAfter _ := rfl

theorem append (hfront : Nests front []) (hback : Nests back unfinished) :
    Nests (front ++ back) unfinished where
  matched rules := (hfront.matched rules).append (hback.matched _)
  openAfter rules := by
    rw [openAfter_append, hfront.openAfter, hback.openAfter]
    rfl

theorem plain (h : occurrence.passage? = none) : Nests [occurrence] [] := by
  have hreopen (rules : List String) : occurrence.reopen rules = rules := by
    cases occurrence <;> first | rfl | cases h
  constructor
  · intro rules
    rw [matched_cons]
    constructor
    · intro rule hfinish
      rw [hfinish] at h
      cases h
    · exact Matched.nil _
  · exact hreopen

theorem commence (rule : String) (h : Nests story unfinished) :
    Nests (.commence rule :: story) (rule :: unfinished) where
  matched rules := matched_cons.mpr ⟨nofun, h.matched _⟩
  openAfter rules := by
    have hopen := h.openAfter (rule :: rules)
    rw [List.reverse_cons, List.append_assoc]
    exact hopen

private theorem within (rule : String) (h : Nests story []) :
    Nests (.commence rule :: story ++ [.finish rule]) [] where
  matched rules := by
    have hfinish : (Occurrence.finish rule).Matches (rule :: rules) := by
      intro rule' hrule
      cases hrule
      rfl
    apply ((h.commence rule).matched rules).append
    rw [(h.commence rule).openAfter rules, matched_cons]
    exact ⟨hfinish, Matched.nil _⟩
  openAfter rules := by
    rw [openAfter_append, (h.commence rule).openAfter rules]
    rfl

end Nests

theorem Balanced.nests (h : Balanced story) : Nests story [] := by
  induction h with
  | nil => exact .nil
  | plain hplain => exact .plain hplain
  | append _ _ ihfront ihback => exact ihfront.append ihback
  | within rule _ ih => exact ih.within rule

end Story

namespace Journal

open Story

private theorem tell_of_matches {journal : Journal} {depth : Nat} {rules : List String}
    {occurrence : Occurrence} (hdepth : journal.depth = depth + rules.length)
    (hmatches : occurrence.Matches rules) :
    (journal.tell occurrence).events.toList = journal.events.toList ++
        [⟨depth + (occurrence.surrounding rules).length, occurrence⟩] ∧
      (journal.tell occurrence).depth = depth + (occurrence.reopen rules).length := by
  cases occurrence with
  | finish rule =>
      obtain ⟨outer, rfl⟩ := List.head?_eq_some_iff.mp (hmatches rule rfl)
      have hbelow : journal.depth - 1 = depth + outer.length := by
        rw [hdepth, List.length_cons]
        omega
      constructor
      · simp [tell, finish, hbelow, Occurrence.surrounding]
      · exact hbelow
  | commence rule =>
      constructor
      · simp [tell, commence, hdepth, Occurrence.surrounding]
      · have habove : journal.depth + 1 = depth + (rules.length + 1) := by omega
        exact habove
  | terminal | declare | remove | complaint =>
      constructor
      · simp [tell, hdepth, Occurrence.surrounding]
      · exact hdepth

/-- A story in which rules are left in order is recorded with every event at its depth. -/
theorem follow_of_matched {journal : Journal} {depth : Nat} {rules : List String} {story : Story}
    (scope : Scope) (hdepth : journal.depth = depth + rules.length)
    (hmatched : Matched rules story) :
    ∃ added, (journal.follow scope story).events.toList = journal.events.toList ++ added ∧
      added.map Event.occurrence = story ∧ Placed depth rules added ∧
      (journal.follow scope story).depth = depth + (openAfter rules story).length := by
  induction story generalizing journal rules with
  | nil => exact ⟨[], (List.append_nil _).symm, rfl, Placed.nil depth rules, hdepth⟩
  | cons occurrence story ih =>
      rw [matched_cons] at hmatched
      obtain ⟨hevents, hafter⟩ := tell_of_matches hdepth hmatched.1
      obtain ⟨added, hadded, hstory, hplaced, hend⟩ := ih hafter hmatched.2
      let event : Event := ⟨depth + (occurrence.surrounding rules).length, occurrence⟩
      refine ⟨event :: added, ?_, ?_, ?_, hend⟩
      · change ((journal.tell occurrence).follow scope story).events.toList = _
        rw [hadded, hevents, List.append_assoc, List.singleton_append]
      · rw [List.map_cons, hstory]
      · exact placed_cons.mpr ⟨rfl, hplaced⟩

end Journal

end OnePass
