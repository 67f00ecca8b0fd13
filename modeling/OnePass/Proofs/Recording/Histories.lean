import Mathlib.Data.List.Induction
import OnePass.Proofs.Scoping.Live
import OnePass.Proofs.Scoping.Story
/-!
# Histories of a journal

A journal may be driven by any operations in any order. What an operation records, and what it makes
of the scope, is settled by the variables that are live before it; made again from the scope at the
start, the recorded declarations and removals lead to the scope at the end.
-/
namespace OnePass

/-- The scope after an occurrence, when declarations and removals are made again. -/
def Occurrence.redo (scope : Scope) : Occurrence → Scope
  | .declare v => (scope.add v).2
  | .remove v => (scope.remove v).2
  | _ => scope

def Scope.replay (scope : Scope) (story : Story) : Scope :=
  story.foldl Occurrence.redo scope

namespace Journal

inductive Operation where
  | commence (rule : String)
  | finish (rule : String)
  | terminal (token : Token)
  | complain (message : String) (line : Int)
  | declare (v : Variable)
  | drop (v : Variable)
  deriving DecidableEq, Repr

def perform (journal : Journal) : Operation → Journal
  | .commence rule => journal.commence rule
  | .finish rule => journal.finish rule
  | .terminal token => journal.terminal token
  | .complain message line => journal.complain message line
  | .declare v => (journal.declare v).2
  | .drop v => journal.drop v

def performAll (journal : Journal) (history : List Operation) : Journal :=
  history.foldl perform journal

namespace Operation

/-- The scope that an operation leaves. -/
def revise (scope : Scope) : Operation → Scope
  | .declare v => (scope.add v).2
  | .drop v => (scope.remove v).2
  | _ => scope

/-- What an operation records. A variable that is live already is declared once more, unless it is
another one of the same name. -/
def recorded (scope : Scope) : Operation → Story
  | .commence rule => [.commence rule]
  | .finish rule => [.finish rule]
  | .terminal token => [.terminal token]
  | .complain message line => [.complaint message line]
  | .declare v =>
    if scope.find? v.identifier = none ∨ scope.find? v.identifier = some v then [.declare v] else []
  | .drop v => if scope.find? v.identifier = some v then [.remove v] else []

end Operation

private theorem performAll_append (journal : Journal) (front back : List Operation) :
    journal.performAll (front ++ back) = (journal.performAll front).performAll back :=
  List.foldl_append

theorem performAll_concat (journal : Journal) (history : List Operation) (operation : Operation) :
    journal.performAll (history ++ [operation]) = (journal.performAll history).perform operation :=
  journal.performAll_append history [operation]

end Journal

namespace Scope

private theorem fst_add_eq_iff {scope : Scope} {v : Variable} :
    (scope.add v).1 = v ↔
      scope.find? v.identifier = none ∨ scope.find? v.identifier = some v := by
  cases hfind : scope.find? v.identifier with
  | none => simp [(add_eq_of_find?_eq_none hfind).1]
  | some stored => simp [add_eq_of_find?_eq_some hfind]

theorem fst_remove_eq_true_iff {scope : Scope} {v : Variable} :
    (scope.remove v).1 = true ↔ scope.find? v.identifier = some v := by
  rw [fst_remove, decide_eq_true_iff, find?_eq_some_iff]

private theorem replay_append (scope : Scope) (front back : Story) :
    scope.replay (front ++ back) = (scope.replay front).replay back :=
  List.foldl_append

private theorem replay_recorded (scope : Scope) (operation : Journal.Operation) :
    scope.replay (operation.recorded scope) = operation.revise scope := by
  cases operation with
  | commence | finish | terminal | complain => rfl
  | declare v =>
      simp only [Journal.Operation.recorded, Journal.Operation.revise]
      split
      · rfl
      next hother =>
        rw [not_or] at hother
        obtain ⟨stored, hfind⟩ := Option.ne_none_iff_exists'.mp hother.1
        rw [add_eq_of_find?_eq_some hfind]
        rfl
  | drop v =>
      simp only [Journal.Operation.recorded, Journal.Operation.revise]
      split
      · rfl
      next hother =>
        unfold remove
        rw [if_neg hother]
        rfl

end Scope

namespace Journal

theorem perform_eq_follow (journal : Journal) (operation : Operation) :
    journal.perform operation =
      journal.follow (operation.revise journal.scope) (operation.recorded journal.scope) := by
  cases operation with
  | commence | finish | terminal | complain => rfl
  | declare v =>
      have hdeclare := journal.declare_eq_follow v
      simp only [Scope.fst_add_eq_iff] at hdeclare
      exact hdeclare
  | drop v =>
      have hdrop := journal.drop_eq_follow v
      simp only [Scope.fst_remove_eq_true_iff] at hdrop
      exact hdrop

@[simp] theorem scope_perform (journal : Journal) (operation : Operation) :
    (journal.perform operation).scope = operation.revise journal.scope := by
  rw [perform_eq_follow, scope_follow]

@[simp] theorem occurrences_perform (journal : Journal) (operation : Operation) :
    (journal.perform operation).occurrences =
      journal.occurrences ++ operation.recorded journal.scope := by
  rw [perform_eq_follow, occurrences_follow]

/-- The recorded declarations and removals lead from the scope at the start to that at the end. -/
theorem replay_occurrences (scope : Scope) (echo : Bool) (history : List Operation) :
    scope.replay ((start scope echo).performAll history).occurrences =
      ((start scope echo).performAll history).scope := by
  induction history using List.reverseRecOn with
  | nil => rfl
  | append_singleton history operation ih =>
      rw [performAll_concat, occurrences_perform, Scope.replay_append, ih, Scope.replay_recorded,
        scope_perform]

end Journal

end OnePass
