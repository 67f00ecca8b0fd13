import OnePass.Analysis.Rule
import OnePass.Trace.Journal
/-!
# Variables in a story

A story is what a journal records, in order. It tells which rules are open at each moment, which
variables are declared there, and which are live: those of the scope before it, then those declared
and not removed since.
-/
namespace OnePass

namespace Occurrence

def passage? : Occurrence → Option (Passage × String)
  | .commence rule => some (.commence, rule)
  | .finish rule => some (.finish, rule)
  | _ => none

def declared? : Occurrence → Option Variable
  | .declare v => some v
  | _ => none

def removed? : Occurrence → Option Variable
  | .remove v => some v
  | _ => none

/-- The live variables after an occurrence. -/
def revise (live : List Variable) : Occurrence → List Variable
  | .declare v => live ++ [v]
  | .remove v => live.erase v
  | _ => live

/-- The open rules after an occurrence, innermost first. -/
def reopen (rules : List String) : Occurrence → List String
  | .commence rule => rule :: rules
  | .finish _ => rules.tail
  | _ => rules

end Occurrence

abbrev Story := List Occurrence

namespace Story

open Occurrence (passage? declared? removed?)

def openAfter (rules : List String) (story : Story) : List String :=
  story.foldl Occurrence.reopen rules

def liveAfter (live : List Variable) (story : Story) : List Variable :=
  story.foldl Occurrence.revise live

/-- The innermost open rule is an assignment in the header of a loop. -/
def InHeader (rules : List String) : Prop :=
  [Rule.assignmentStatement.name, Rule.forStatement.name] <+: rules

instance (rules : List String) : Decidable (InHeader rules) :=
  inferInstanceAs (Decidable (_ <+: _))

/-- The variables that are declared in the headers of loops, or those that are declared elsewhere,
in the order of their declaration. -/
def declarations (inHeader : Bool) : List String → Story → List Variable
  | _, [] => []
  | rules, .declare v :: story =>
    if InHeader rules ↔ inHeader then v :: declarations inHeader rules story
    else declarations inHeader rules story
  | rules, occurrence :: story => declarations inHeader (occurrence.reopen rules) story

/-- What comes behind the declaration of a header variable: the assignment and all that is entered
inside the loop are left, and the variable is removed among the last things before the loop itself
is left. -/
def LeavesLoop (v : Variable) (story : Story) : Prop :=
  ∃ inside removals rest, story = inside ++ removals ++ .finish Rule.forStatement.name :: rest ∧
    Journal.closes [Rule.assignmentStatement.name] (inside.filterMap passage?) ∧
    .remove v ∈ removals ∧ ∀ occurrence ∈ removals, (removed? occurrence).isSome

/-- Every variable that is declared in the header of a loop is removed at the end of that loop. -/
def Released (rules : List String) (story : Story) : Prop :=
  ∀ front v back, story = front ++ .declare v :: back → InHeader (openAfter rules front) →
    LeavesLoop v back

/-- Every rule that is entered is left, one inside the other. -/
inductive Balanced : Story → Prop where
  | nil : Balanced []
  | plain {occurrence : Occurrence} (h : occurrence.passage? = none) : Balanced [occurrence]
  | append {front back : Story} (hfront : Balanced front) (hback : Balanced back) :
    Balanced (front ++ back)
  | within (rule : String) {story : Story} (h : Balanced story) :
    Balanced (.commence rule :: story ++ [.finish rule])

/-- Rules are entered and left and terminals accepted, and nothing is declared or removed. -/
structure Silent (story : Story) : Prop where
  balanced : Balanced story
  undeclared : story.filterMap declared? = []
  unremoved : story.filterMap removed? = []

theorem openAfter_append (rules : List String) (front back : Story) :
    openAfter rules (front ++ back) = openAfter (openAfter rules front) back :=
  List.foldl_append

theorem liveAfter_append (live : List Variable) (front back : Story) :
    liveAfter live (front ++ back) = liveAfter (liveAfter live front) back :=
  List.foldl_append

theorem declarations_append (inHeader : Bool) (rules : List String) (front back : Story) :
    declarations inHeader rules (front ++ back) =
      declarations inHeader rules front ++ declarations inHeader (openAfter rules front) back := by
  induction front generalizing rules with
  | nil => rfl
  | cons occurrence front ih =>
      have hopen : openAfter rules (occurrence :: front) =
        openAfter (occurrence.reopen rules) front := rfl
      rw [List.cons_append, hopen]
      cases occurrence with
      | declare v =>
          by_cases hheader : InHeader rules ↔ inHeader
          · simp only [declarations, if_pos hheader, ih, List.cons_append]
            rfl
          · simp only [declarations, if_neg hheader, ih]
            rfl
      | commence | finish | terminal | remove | complaint => exact ih _

theorem declarations_within (inHeader : Bool) (rules : List String) (rule : String)
    (story : Story) : declarations inHeader rules (.commence rule :: story ++ [.finish rule]) =
      declarations inHeader (rule :: rules) story := by
  have happend := declarations_append inHeader (rule :: rules) story [.finish rule]
  exact happend.trans (List.append_nil _)

theorem liveAfter_within (live : List Variable) (rule : String) (story : Story) :
    liveAfter live (.commence rule :: story ++ [.finish rule]) = liveAfter live story :=
  liveAfter_append live story [.finish rule]

theorem filterMap_declared?_within (rule : String) (story : Story) :
    List.filterMap declared? (.commence rule :: story ++ [.finish rule]) =
      story.filterMap declared? := by
  simp [declared?, List.filterMap_cons]

theorem filterMap_removed?_within (rule : String) (story : Story) :
    List.filterMap removed? (.commence rule :: story ++ [.finish rule]) =
      story.filterMap removed? := by
  simp [removed?, List.filterMap_cons]

theorem declarations_sublist (inHeader : Bool) (rules : List String) (story : Story) :
    (declarations inHeader rules story).Sublist (story.filterMap declared?) := by
  induction story generalizing rules with
  | nil => exact .slnil
  | cons occurrence story ih =>
      cases occurrence with
      | declare v =>
          by_cases hheader : InHeader rules ↔ inHeader
          · simp only [declarations, if_pos hheader]
            exact (ih rules).cons_cons v
          · simp only [declarations, if_neg hheader]
            exact (ih rules).cons v
      | commence | finish | terminal | remove | complaint => exact ih _

theorem declarations_eq_nil (inHeader : Bool) (rules : List String) {story : Story}
    (h : story.filterMap declared? = []) : declarations inHeader rules story = [] := by
  have hsublist := declarations_sublist inHeader rules story
  rw [h] at hsublist
  exact List.sublist_nil.mp hsublist

namespace Balanced

theorem openAfter {story : Story} (h : Balanced story) (rules : List String) :
    openAfter rules story = rules := by
  induction h generalizing rules with
  | nil => rfl
  | @plain occurrence hplain => cases occurrence <;> first | rfl | cases hplain
  | append _ _ ihfront ihback => rw [openAfter_append, ihfront, ihback]
  | within rule _ ih =>
      rw [List.cons_append]
      change Story.openAfter (rule :: rules) _ = _
      rw [openAfter_append, ih]
      rfl

theorem closes {story : Story} (h : Balanced story) (unfinished : List String)
    (rest : List (Passage × String)) :
    Journal.closes unfinished (story.filterMap passage? ++ rest) =
      Journal.closes unfinished rest := by
  induction h generalizing unfinished rest with
  | nil => rfl
  | plain hplain => rw [List.filterMap_cons_none hplain]; rfl
  | append _ _ ihfront ihback =>
      rw [List.filterMap_append, List.append_assoc, ihfront, ihback]
  | @within rule story _ ih =>
      have hpassages :
          List.filterMap passage? (.commence rule :: story ++ [Occurrence.finish rule]) =
            (.commence, rule) :: story.filterMap passage? ++ [(.finish, rule)] := by
        simp [passage?]
      rw [hpassages, List.cons_append, List.cons_append, List.append_assoc]
      cases unfinished <;> simp only [Journal.closes, ih] <;> simp [Journal.closes]

end Balanced

private theorem LeavesLoop.append {v : Variable} {story : Story} (h : LeavesLoop v story)
    (more : Story) :
    LeavesLoop v (story ++ more) := by
  obtain ⟨inside, removals, rest, rfl, hcloses, hmem, hremovals⟩ := h
  refine ⟨inside, removals, rest ++ more, ?_, hcloses, hmem, hremovals⟩
  simp only [List.append_assoc, List.cons_append]

theorem released_cons {rules : List String} {occurrence : Occurrence} {story : Story} :
    Released rules (occurrence :: story) ↔
      (∀ v, occurrence = .declare v → InHeader rules → LeavesLoop v story) ∧
        Released (occurrence.reopen rules) story := by
  constructor
  · intro h
    constructor
    · rintro v rfl hheader
      exact h [] v story rfl hheader
    · intro front v back hstory hheader
      exact h (occurrence :: front) v back (hstory ▸ rfl) hheader
  · rintro ⟨hhead, hrest⟩ front v back hstory hheader
    cases front with
    | nil =>
        obtain ⟨rfl, rfl⟩ := List.cons.inj hstory
        exact hhead v rfl hheader
    | cons first front =>
        obtain ⟨rfl, rfl⟩ := List.cons.inj hstory
        exact hrest front v back rfl hheader

namespace Released

theorem nil (rules : List String) : Released rules [] := by
  intro front v back hstory
  cases front <;> cases hstory

theorem append {rules : List String} {front back : Story} (hfront : Released rules front)
    (hback : Released (openAfter rules front) back) : Released rules (front ++ back) := by
  induction front generalizing rules with
  | nil => exact hback
  | cons occurrence front ih =>
      rw [released_cons] at hfront
      rw [List.cons_append, released_cons]
      refine ⟨?_, ih hfront.2 hback⟩
      intro v hdeclare hheader
      exact (hfront.1 v hdeclare hheader).append back

theorem of_undeclared (rules : List String) {story : Story}
    (h : story.filterMap declared? = []) : Released rules story := by
  intro front v back hstory
  rw [hstory, List.filterMap_append] at h
  have hback := (List.append_eq_nil_iff.mp h).2
  cases hback

end Released

end Story

end OnePass
