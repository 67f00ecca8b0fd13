import Mathlib.Data.List.Nodup
import OnePass.Proofs.Derivation.Account
/-!
# Live variables

A variable that is issued differs from every live one, so that declaring it puts it behind them or
leaves them as they are, and removing it takes away that very variable or nothing.
-/
namespace OnePass

namespace Scope

/-- What a declaration would add to the live variables. -/
def additions (scope : Scope) (identifier : String) (type : VarType) : List Variable :=
  if scope.contains identifier then [] else [(scope.issue identifier type).1]

theorem contains_iff_mem {scope : Scope} {identifier : String} :
    scope.contains identifier ↔ identifier ∈ scope.entries.map Variable.identifier := by
  unfold contains
  rw [Option.isSome_iff_ne_none, Ne, find?_eq_none, not_not]

theorem find?_eq_some_iff {scope : Scope} {v : Variable} :
    scope.find? v.identifier = some v ↔ v ∈ scope.entries := by
  constructor
  · intro h
    exact (mem_of_find?_eq_some h).1
  · intro h
    cases hfind : scope.find? v.identifier with
    | none =>
        exact absurd (List.mem_map_of_mem h) (find?_eq_none.mp hfind)
    | some u =>
        obtain ⟨hmem, hidentifier⟩ := mem_of_find?_eq_some hfind
        rw [List.inj_on_of_nodup_map scope.identifiers_nodup hmem h hidentifier]

theorem fst_remove (scope : Scope) (v : Variable) :
    (scope.remove v).1 = decide (v ∈ scope.entries) := by
  unfold remove
  by_cases h : v ∈ scope.entries
  · simp [find?_eq_some_iff, h]
  · simp [find?_eq_some_iff, h]

theorem entries_remove (scope : Scope) (v : Variable) :
    (scope.remove v).2.entries = scope.entries.erase v := by
  unfold remove
  by_cases h : v ∈ scope.entries
  · simp [find?_eq_some_iff, h]
  · simp [find?_eq_some_iff, h, List.erase_of_not_mem]

theorem issued_remove (scope : Scope) (v : Variable) :
    (scope.remove v).2.issued = scope.issued := by
  unfold remove
  split <;> rfl

theorem issued_add_of_find?_eq_none {scope : Scope} {v : Variable}
    (h : scope.find? v.identifier = none) :
    (scope.add v).2.issued = max scope.issued (v.stamp + 1) := by
  unfold add
  split <;> simp_all

theorem find?_eq_some {scope : Scope} {identifier : String} {v : Variable} :
    scope.find? identifier = some v ↔ v ∈ scope.entries ∧ v.identifier = identifier := by
  constructor
  · exact mem_of_find?_eq_some
  · rintro ⟨hmem, rfl⟩
    exact find?_eq_some_iff.mpr hmem

theorem find?_add (scope : Scope) (v : Variable) (identifier : String) :
    (scope.add v).2.find? identifier =
      (scope.find? identifier).or (if v.identifier = identifier then some v else none) := by
  cases hfind : scope.find? v.identifier with
  | some stored =>
      rw [add_eq_of_find?_eq_some hfind]
      by_cases hname : v.identifier = identifier
      · rw [← hname, hfind, Option.some_or]
      · rw [if_neg hname, Option.or_none]
  | none =>
      have hentries := (add_eq_of_find?_eq_none hfind).2
      unfold find?
      rw [hentries, List.find?_append]
      simp

theorem find?_remove (scope : Scope) (v : Variable) (identifier : String) :
    (scope.remove v).2.find? identifier =
      if scope.find? identifier = some v then none else scope.find? identifier := by
  have hnodup : scope.entries.Nodup := scope.identifiers_nodup.of_map
  ext u
  rw [find?_eq_some, entries_remove, hnodup.mem_erase_iff]
  by_cases hlive : scope.find? identifier = some v
  · rw [if_pos hlive]
    constructor
    · rintro ⟨⟨hother, hmem⟩, hname⟩
      rw [find?_eq_some.mpr ⟨hmem, hname⟩] at hlive
      exact absurd (Option.some.inj hlive) hother
    · nofun
  · rw [if_neg hlive, find?_eq_some]
    constructor
    · rintro ⟨⟨-, hmem⟩, hname⟩
      exact ⟨hmem, hname⟩
    · rintro ⟨hmem, hname⟩
      refine ⟨⟨?_, hmem⟩, hname⟩
      rintro rfl
      exact hlive (find?_eq_some.mpr ⟨hmem, hname⟩)

theorem not_mem_of_issued_le {scope : Scope} {v : Variable} (h : scope.issued ≤ v.stamp) :
    v ∉ scope.entries := by
  intro hmem
  have hstamp := scope.stamp_lt v hmem
  omega

end Scope

/-- Variables that are issued between two scopes, each once. -/
structure Issued (before : Scope) (vs : List Variable) (after : Scope) : Prop where
  issued_le : before.issued ≤ after.issued
  stamp_mem : ∀ v ∈ vs, before.issued ≤ v.stamp ∧ v.stamp < after.issued
  nodup : vs.Nodup

namespace Issued

variable {before middle after : Scope} {front back : List Variable} {v : Variable}

theorem nil (h : before.issued ≤ after.issued) : Issued before [] after :=
  ⟨h, by simp, .nil⟩

theorem single (hstamp : v.stamp = before.issued) (hissued : after.issued = before.issued + 1) :
    Issued before [v] after where
  issued_le := by omega
  stamp_mem := by
    intro u hu
    rw [List.mem_singleton.mp hu]
    omega
  nodup := List.nodup_singleton v

theorem append (hfront : Issued before front middle) (hback : Issued middle back after) :
    Issued before (front ++ back) after where
  issued_le := Nat.le_trans hfront.issued_le hback.issued_le
  stamp_mem := by
    intro v hv
    have hissued := hfront.issued_le
    have hissued' := hback.issued_le
    rcases List.mem_append.mp hv with hv | hv
    · have hstamp := hfront.stamp_mem v hv
      omega
    · have hstamp := hback.stamp_mem v hv
      omega
  nodup := by
    rw [List.nodup_append]
    refine ⟨hfront.nodup, hback.nodup, ?_⟩
    intro u hu v hv hsame
    have hstamp := (hfront.stamp_mem u hu).2
    have hstamp' := (hback.stamp_mem v hv).1
    rw [hsame] at hstamp
    omega

theorem not_mem_entries (h : Issued before front after) (hv : v ∈ front) : v ∉ before.entries :=
  Scope.not_mem_of_issued_le (h.stamp_mem v hv).1

theorem not_mem_of_stamp_lt (h : Issued before front after) (hv : v.stamp < before.issued) :
    v ∉ front := by
  intro hmem
  have hstamp := (h.stamp_mem v hmem).1
  omega

end Issued

namespace Account

theorem declare_eq_some {identifier : String} {type : VarType} {scope after : Scope} {v : Variable}
    {story : List Occurrence} (h : declare identifier type scope = some (v, after, story)) :
    v = (scope.issue identifier type).1 ∧
      after.entries = scope.entries ++ scope.additions identifier type ∧
      after.issued = scope.issued + 1 ∧
      story = (scope.additions identifier type).map .declare := by
  have hfind : (scope.issue identifier type).2.find? (scope.issue identifier type).1.identifier =
    scope.find? identifier := rfl
  have hdeclare : declare identifier type scope = some ((scope.issue identifier type).1,
    ((scope.issue identifier type).2.add (scope.issue identifier type).1).2,
    if ((scope.issue identifier type).2.add (scope.issue identifier type).1).1 =
      (scope.issue identifier type).1 then [.declare (scope.issue identifier type).1] else []) := rfl
  rw [hdeclare] at h
  cases h
  unfold Scope.additions Scope.contains
  cases hcontains : scope.find? identifier with
  | none =>
      obtain ⟨hstored, hentries⟩ := Scope.add_eq_of_find?_eq_none (hfind.trans hcontains)
      refine ⟨rfl, hentries, ?_, ?_⟩
      · exact (Scope.issued_add_of_find?_eq_none (hfind.trans hcontains)).trans (Nat.max_self _)
      · rw [if_pos hstored]
        rfl
  | some stored =>
      have hadd := Scope.add_eq_of_find?_eq_some (hfind.trans hcontains)
      have hold : stored ≠ (scope.issue identifier type).1 := by
        intro hsame
        have hstamp := scope.stamp_lt stored (Scope.mem_of_find?_eq_some hcontains).1
        rw [hsame] at hstamp
        exact Nat.lt_irrefl _ hstamp
      rw [hadd]
      refine ⟨rfl, (List.append_nil _).symm, rfl, ?_⟩
      rw [if_neg hold]
      rfl

theorem drop_eq_some {v : Variable} {scope after : Scope} {u : Unit} {story : List Occurrence}
    (h : drop v scope = some (u, after, story)) :
    after.entries = scope.entries.erase v ∧ after.issued = scope.issued ∧
      story = if v ∈ scope.entries then [.remove v] else [] := by
  have hdrop : drop v scope = some ((), (scope.remove v).2,
    if (scope.remove v).1 then [.remove v] else []) := rfl
  rw [hdrop, scope.fst_remove] at h
  simp only [decide_eq_true_eq, Option.some.injEq, Prod.mk.injEq, true_and] at h
  obtain ⟨rfl, rfl⟩ := h
  exact ⟨scope.entries_remove v, scope.issued_remove v, rfl⟩

end Account

end OnePass
