import OnePass.Command.Report
import OnePass.Proofs.Derivation.Soundness
import OnePass.Proofs.Derivation.Start
import OnePass.Proofs.Scoping.Loops
/-!
# The listing of variables

A listing shows the live variables in the order of their names, each once, and with the type of the
declaration that is on record.
-/
namespace OnePass

open Analysis Story

namespace Scope

/-- The live variables in the order of their names. -/
def sorted (scope : Scope) : List Variable :=
  scope.entries.mergeSort fun u v => u.identifier ≤ v.identifier

theorem sorted_perm (scope : Scope) : scope.sorted.Perm scope.entries :=
  List.mergeSort_perm _ _

/-- No two live variables have one name, so that the names grow strictly. -/
theorem sorted_pairwise (scope : Scope) :
    scope.sorted.Pairwise fun u v => u.identifier < v.identifier := by
  have htrans : ∀ u v w : Variable, decide (u.identifier ≤ v.identifier) = true →
      decide (v.identifier ≤ w.identifier) = true →
      decide (u.identifier ≤ w.identifier) = true := by
    simp only [decide_eq_true_iff]
    exact fun _ _ _ => String.le_trans
  have htotal : ∀ u v : Variable,
      (decide (u.identifier ≤ v.identifier) || decide (v.identifier ≤ u.identifier)) = true := by
    simp only [Bool.or_eq_true, decide_eq_true_iff]
    exact fun _ _ => String.le_total _ _
  have hle : scope.sorted.Pairwise fun u v => u.identifier ≤ v.identifier :=
    (List.pairwise_mergeSort htrans htotal scope.entries).imp of_decide_eq_true
  have hne : scope.sorted.Pairwise fun u v => u.identifier ≠ v.identifier := by
    have hnodup : (scope.sorted.map Variable.identifier).Nodup :=
      (scope.sorted_perm.map _).nodup_iff.mpr scope.identifiers_nodup
    exact List.pairwise_map.mp hnodup
  refine hle.imp₂ (fun u v hle hne => ?_) hne
  apply String.not_le.mp
  intro hge
  exact hne (String.le_antisymm hle hge)

theorem snapshot_eq (scope : Scope) :
    scope.snapshot = scope.sorted.map fun v => (v.identifier, v.type) := by
  have hsame : ∀ u ∈ scope.entries, ∀ v ∈ scope.entries,
      decide (u.identifier ≤ v.identifier) =
        decide ((u.identifier, u.type).1 ≤ (v.identifier, v.type).1) := fun _ _ _ _ => rfl
  exact (List.map_mergeSort hsame).symm

end Scope

theorem Report.symbolLines_eq (scope : Scope) :
    symbolLines scope = scope.sorted.map fun v => s!"  {v.identifier}: {v.type.name}" := by
  rw [symbolLines, Scope.snapshot_eq, List.map_map]
  rfl

namespace Analysis

theorem declare_mem_of_parse {source : Source} {j : Journal} {s : Analyser}
    (h : parse (.ofSource source j) = .ok () s) {v : Variable} (hv : v ∈ s.journal.scope.entries) :
    v ∈ j.scope.entries ∨ .declare v ∈ s.journal.occurrences := by
  obtain ⟨c, c', -, -, hrun, -, -⟩ := parse_eq_ok h
  obtain ⟨t, c', scope, story, -, haccount, -, rfl⟩ := exists_tree_of_runRule hrun
  have hkeeps : t.account.Keeps [] := t.account_keeps (by simp [InHeader])
  have hentries := (hkeeps _ _ scope story haccount).entries
  change v ∈ scope.entries at hv
  rw [hentries] at hv
  rcases List.mem_append.mp hv with hold | hnew
  · exact .inl hold
  · have hdeclared := (declarations_sublist false [] story).mem hnew
    obtain ⟨occurrence, hmem, hsome⟩ := List.mem_filterMap.mp hdeclared
    cases occurrence with
    | declare u =>
        cases hsome
        refine .inr ?_
        change _ ∈ (Journal.follow _ scope story).occurrences
        rw [Journal.occurrences_follow]
        exact List.mem_append_right _ hmem
    | commence | finish | terminal | remove | complaint => cases hsome

end Analysis

end OnePass
