import OnePass.Scope.Variable
/-!
# Scopes

A scope holds the live variables in the order of their declaration, at most one of each name. The
first declaration of a name stands until that very variable is removed.
-/
namespace OnePass

/-- The live variables, and a number above the stamp of each. -/
structure Scope where
  entries : List Variable
  issued : Nat
  identifiers_nodup : (entries.map Variable.identifier).Nodup
  stamp_lt : ∀ v ∈ entries, v.stamp < issued

namespace Scope

def empty : Scope :=
  ⟨[], 0, .nil, by simp⟩

/-- The live variable of a name. -/
def find? (scope : Scope) (identifier : String) : Option Variable :=
  scope.entries.find? (·.identifier = identifier)

def contains (scope : Scope) (identifier : String) : Bool :=
  (scope.find? identifier).isSome

def size (scope : Scope) : Nat :=
  scope.entries.length

theorem find?_eq_none {scope : Scope} {identifier : String} :
    scope.find? identifier = none ↔ identifier ∉ scope.entries.map Variable.identifier := by
  simp [find?]

theorem mem_of_find?_eq_some {scope : Scope} {identifier : String} {v : Variable}
    (h : scope.find? identifier = some v) : v ∈ scope.entries ∧ v.identifier = identifier :=
  ⟨List.mem_of_find?_eq_some h, by simpa using List.find?_some h⟩

/-- A variable that no scope has seen, not declared yet. -/
def issue (scope : Scope) (identifier : String) (type : VarType) : Variable × Scope :=
  (⟨identifier, type, scope.issued⟩,
    { scope with
      issued := scope.issued + 1
      stamp_lt := fun v hmem => Nat.lt_succ_of_lt (scope.stamp_lt v hmem) })

/-- Declares a variable unless its name is live, and answers with the live variable of that name. -/
def add (scope : Scope) (v : Variable) : Variable × Scope :=
  match h : scope.find? v.identifier with
  | some stored => (stored, scope)
  | none =>
    (v,
      { entries := scope.entries ++ [v]
        issued := max scope.issued (v.stamp + 1)
        identifiers_nodup := by
          have hnew := find?_eq_none.mp h
          rw [List.map_append, List.nodup_append]
          refine ⟨scope.identifiers_nodup, by simp, ?_⟩
          intro a ha b hb
          simp only [List.map_cons, List.map_nil, List.mem_singleton] at hb
          rintro rfl
          exact hnew (hb ▸ ha)
        stamp_lt := by
          intro u hu
          rcases List.mem_append.mp hu with hu | hu
          · have hlt := scope.stamp_lt u hu
            omega
          · obtain rfl := List.mem_singleton.mp hu
            omega })

/-- Removes a variable if it is itself the live one of its name, and says whether it was. -/
def remove (scope : Scope) (v : Variable) : Bool × Scope :=
  if scope.find? v.identifier = some v then
    (true,
      { scope with
        entries := scope.entries.erase v
        identifiers_nodup := (List.erase_sublist.map _).nodup scope.identifiers_nodup
        stamp_lt := fun u hu => scope.stamp_lt u (List.mem_of_mem_erase hu) })
  else (false, scope)

/-- The live names with their types, in the order of the code points of the names. -/
def snapshot (scope : Scope) : List (String × VarType) :=
  (scope.entries.map fun v => (v.identifier, v.type)).mergeSort fun a b => a.1 ≤ b.1

/-- Issues and adds variables one by one; of a repeated name the first stays. -/
def ofDeclarations (declarations : List (String × VarType)) : Scope :=
  declarations.foldl
    (fun scope declaration =>
      let (v, scope) := scope.issue declaration.1 declaration.2
      (scope.add v).2)
    empty

theorem add_eq_of_find?_eq_some {scope : Scope} {v stored : Variable}
    (h : scope.find? v.identifier = some stored) : scope.add v = (stored, scope) := by
  unfold add
  split <;> simp_all

theorem add_eq_of_find?_eq_none {scope : Scope} {v : Variable}
    (h : scope.find? v.identifier = none) :
    (scope.add v).1 = v ∧ (scope.add v).2.entries = scope.entries ++ [v] := by
  unfold add
  split <;> simp_all

end Scope

end OnePass
