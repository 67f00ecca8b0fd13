import OnePass.Proofs.SideBySide.Renaming
/-!
# The bond of a scope with extra variables

Two analyses read the same tokens, and the second one has extra variables in its scope that no token
names. Whatever is looked up, declared or removed in its scope is done as it would be without them,
so that the two are bound like analyses in which no name is exchanged.
-/
namespace OnePass

namespace Scope

/-- The scope without some variables. -/
def without (scope : Scope) (extra : List Variable) : Scope where
  entries := scope.entries.filter (· ∉ extra)
  issued := scope.issued
  identifiers_nodup := (List.filter_sublist.map _).nodup scope.identifiers_nodup
  stamp_lt v hmem := scope.stamp_lt v (List.mem_of_mem_filter hmem)

@[simp] theorem entries_without (scope : Scope) (extra : List Variable) :
    (scope.without extra).entries = scope.entries.filter (· ∉ extra) := rfl

@[simp] theorem issued_without (scope : Scope) (extra : List Variable) :
    (scope.without extra).issued = scope.issued := rfl

private theorem ext_entries {scope scope' : Scope} (hentries : scope.entries = scope'.entries)
    (hissued : scope.issued = scope'.issued) : scope = scope' := by
  obtain ⟨entries, issued, _, _⟩ := scope
  obtain ⟨entries', issued', _, _⟩ := scope'
  cases hentries
  cases hissued
  rfl

variable {scope : Scope} {extra : List Variable} {v : Variable} {name : String}

private theorem find?_without (scope : Scope) (hname : ∀ u ∈ extra, u.identifier ≠ name) :
    (scope.without extra).find? name = scope.find? name := by
  ext u
  rw [find?_eq_some, find?_eq_some, entries_without, List.mem_filter, decide_eq_true_eq]
  constructor
  · exact fun ⟨⟨hmem, _⟩, hidentifier⟩ => ⟨hmem, hidentifier⟩
  · exact fun ⟨hmem, hidentifier⟩ => ⟨⟨hmem, fun hextra => hname u hextra hidentifier⟩, hidentifier⟩

private theorem fst_add_without (hname : ∀ u ∈ extra, u.identifier ≠ v.identifier) :
    ((scope.without extra).add v).1 = (scope.add v).1 := by
  have hsame := scope.find?_without hname
  cases hfind : scope.find? v.identifier with
  | some stored =>
      rw [add_eq_of_find?_eq_some hfind, add_eq_of_find?_eq_some (hsame.trans hfind)]
  | none =>
      rw [(add_eq_of_find?_eq_none hfind).1, (add_eq_of_find?_eq_none (hsame.trans hfind)).1]

private theorem add_without (hname : ∀ u ∈ extra, u.identifier ≠ v.identifier) :
    (scope.add v).2.without extra = ((scope.without extra).add v).2 := by
  have hother : v ∉ extra := fun hextra => hname v hextra rfl
  have hsame := scope.find?_without hname
  cases hfind : scope.find? v.identifier with
  | some stored =>
      rw [add_eq_of_find?_eq_some hfind, add_eq_of_find?_eq_some (hsame.trans hfind)]
  | none =>
      apply ext_entries
      · rw [(add_eq_of_find?_eq_none (hsame.trans hfind)).2, entries_without, entries_without,
          (add_eq_of_find?_eq_none hfind).2, List.filter_append]
        simp [hother]
      · rw [issued_add_of_find?_eq_none (hsame.trans hfind)]
        exact issued_add_of_find?_eq_none hfind

private theorem fst_remove_without (hother : v ∉ extra) :
    ((scope.without extra).remove v).1 = (scope.remove v).1 := by
  rw [fst_remove, fst_remove, decide_eq_decide, entries_without, List.mem_filter]
  simp [hother]

private theorem remove_without :
    (scope.remove v).2.without extra = ((scope.without extra).remove v).2 := by
  apply ext_entries
  · rw [entries_remove, entries_without, entries_without, entries_remove, List.erase_filter]
  · rw [issued_remove]
    exact issued_remove scope v

/-! ### Variables that are left alone -/

variable {kept : List Variable}

private theorem sublist_add (h : kept.Sublist scope.entries) :
    kept.Sublist (scope.add v).2.entries := by
  cases hfind : scope.find? v.identifier with
  | some stored => rwa [add_eq_of_find?_eq_some hfind]
  | none =>
      rw [(add_eq_of_find?_eq_none hfind).2]
      exact h.trans (List.sublist_append_left _ _)

private theorem sublist_remove (h : kept.Sublist scope.entries) (hother : v ∉ kept) :
    kept.Sublist (scope.remove v).2.entries := by
  rw [entries_remove, ← List.erase_of_not_mem hother]
  exact h.erase v

end Scope

namespace Bond

/-- The names that no variable of the list has. -/
def namesBeside (extra : List Variable) : Set String :=
  {name | ∀ u ∈ extra, u.identifier ≠ name}

/-- The bond of two analyses of which the second one has the extra variables in its scope. They
begin with the scopes `before` and `before'`, whose variables they leave alone. -/
def framed (extra : List Variable) (before before' : Scope) : Bond where
  tokens t t' := t = t' ∧ (t.kind = .identifier → t.text ∈ namesBeside extra)
  sources source source' := source = source' ∧ ∃ filename pending line,
    source = .replay filename pending line ∧
      ∀ t ∈ pending, t.kind = .identifier → t.text ∈ namesBeside extra
  found v v' := v.Twins id (namesBeside extra) before.issued before'.issued v'
  issued v v' := v.Twins id (namesBeside extra) before.issued before'.issued v' ∧
    before.issued ≤ v.stamp
  scopes scope scope' :=
    before.entries.Sublist scope.entries ∧ before'.entries.Sublist scope'.entries ∧
      (renamed id (namesBeside extra) before.issued before'.issued).scopes scope
        (scope'.without extra)
  complaints message line message' line' := message = message' ∧ line = line'
  failures := Eq

namespace framed

variable {extra : List Variable} {before before' : Scope} {v v' : Variable} {scope scope' : Scope}

private theorem next {source source' : Source}
    (h : (framed extra before before').sources source source') :
    (framed extra before before').Outcomes source.next.1 source'.next.1 ∧
      (framed extra before before').sources source.next.2 source'.next.2 := by
  obtain ⟨rfl, filename, pending, line, rfl, hpending⟩ := h
  cases pending with
  | nil => exact ⟨.ok ⟨rfl, nofun⟩, rfl, filename, [], line, rfl, nofun⟩
  | cons token pending =>
      rw [List.forall_mem_cons] at hpending
      exact ⟨.ok ⟨rfl, hpending.1⟩, rfl, filename, pending, token.line, rfl, hpending.2⟩

private theorem beside_of_issued (h : (framed extra before before').issued v v') :
    ∀ u ∈ extra, u.identifier ≠ v'.identifier := by
  rw [h.1.identifier]
  exact h.1.known

private theorem notMem_of_issued (h : (framed extra before before').issued v v') :
    v ∉ before.entries ∧ v' ∉ before'.entries := by
  obtain ⟨htwins, hyoung⟩ := h
  have hyoung' : before'.issued ≤ v'.stamp := by
    have hage := htwins.age
    generalize v.stamp = stamp at hage hyoung
    generalize v'.stamp = stamp' at hage
    cases hage with
    | old => omega
    | issued => omega
  exact ⟨Scope.not_mem_of_issued_le hyoung, Scope.not_mem_of_issued_le hyoung'⟩

theorem holds : (framed extra before before').Holds where
  kind_eq h := congrArg Token.kind h.1
  type_eq h := h.type
  next := next
  find? {t t' scope scope'} htoken hkind h := by
    obtain ⟨rfl, hname⟩ := htoken
    rw [← scope'.find?_without (hname hkind)]
    exact renamed.find? Function.injective_id.injOn (hname hkind) h.2.2
  issue {t t' scope scope'} type htoken hkind h := by
    obtain ⟨rfl, hname⟩ := htoken
    have hrenamed : (renamed id (namesBeside extra) before.issued before'.issued).Holds :=
      renamed.holds Function.injective_id.injOn
    obtain ⟨hissued, hscopes⟩ := hrenamed.issue type ⟨⟨rfl, fun _ => rfl⟩, hname⟩ hkind h.2.2
    exact ⟨hissued, h.1, h.2.1, hscopes⟩
  add {v v' scope scope'} hv h := by
    obtain ⟨hkept, hkept', hscopes⟩ := h
    have hadd := renamed.add Function.injective_id.injOn hv hscopes
    rw [Scope.fst_add_without (beside_of_issued hv), ← Scope.add_without (beside_of_issued hv)]
      at hadd
    exact ⟨hadd.1, Scope.sublist_add hkept, Scope.sublist_add hkept', hadd.2⟩
  remove {v v' scope scope'} hv h := by
    obtain ⟨hkept, hkept', hscopes⟩ := h
    obtain ⟨hnew, hnew'⟩ := notMem_of_issued hv
    have hother : v' ∉ extra := fun hextra => beside_of_issued hv v' hextra rfl
    have hremove := renamed.remove Function.injective_id.injOn hv hscopes
    rw [Scope.fst_remove_without hother, ← Scope.remove_without] at hremove
    exact ⟨hremove.1, Scope.sublist_remove hkept hnew, Scope.sublist_remove hkept' hnew',
      hremove.2⟩
  complain hcomplaints htokens hsources := by
    obtain ⟨rfl, -⟩ := htokens
    obtain ⟨rfl, -⟩ := hsources
    cases hcomplaints with
    | same complaint => exact ⟨⟨rfl, rfl⟩, rfl⟩
    | undeclared h =>
        obtain ⟨rfl, -⟩ := h
        exact ⟨⟨rfl, rfl⟩, rfl⟩
  wrap rule h := congrArg (Failure.wrap rule) h

end framed

end Bond

end OnePass
