import Mathlib.Data.Set.Function
import OnePass.Proofs.Scoping.Live
import OnePass.Proofs.SideBySide.Runs
/-!
# The bond of a renaming

The one analysis reads a list of tokens, and the other one a list of tokens of the same kinds with
the names exchanged. The names are exchanged in the scopes as well. A variable of the one is told
from the others wherever that of the other is: names stay apart, and what the two analyses issue
themselves has been issued equally long after their start.
-/
namespace OnePass

/-- Tokens of one kind. A name is exchanged, and any other text does not matter. -/
structure Token.Renamed (rename : String → String) (t t' : Token) : Prop where
  kind : t.kind = t'.kind
  name : t.kind = .identifier → t'.text = rename t.text

structure Variable.Renamed (rename : String → String) (v v' : Variable) : Prop where
  identifier : v'.identifier = rename v.identifier
  type : v.type = v'.type

private theorem find?_of_forall₂ {α : Type} {R : α → α → Prop} {p p' : α → Bool} {l l' : List α}
    (h : List.Forall₂ R l l') (hp : ∀ a a', R a a' → p a = p' a') :
    Option.Rel R (l.find? p) (l'.find? p') := by
  induction h with
  | nil => exact .none
  | @cons a a' l l' ha _ ih =>
      cases hfound : p a with
      | true =>
          rw [List.find?_cons_of_pos hfound, List.find?_cons_of_pos (hp a a' ha ▸ hfound)]
          exact .some ha
      | false =>
          have hother : ¬ p a = true := by simp [hfound]
          rw [List.find?_cons_of_neg hother, List.find?_cons_of_neg (hp a a' ha ▸ hother)]
          exact ih

private theorem mem_iff_of_forall₂ {α : Type} {R : α → α → Prop} {b b' : α} {l l' : List α}
    (h : List.Forall₂ R l l') (hb : ∀ a a', R a a' → (a = b ↔ a' = b')) : b ∈ l ↔ b' ∈ l' := by
  induction h with
  | nil => simp
  | @cons a a' l l' ha _ ih => rw [List.mem_cons, List.mem_cons, eq_comm, hb a a' ha, ih, eq_comm]

private theorem erase_of_forall₂ {α : Type} [DecidableEq α] {R : α → α → Prop} {b b' : α}
    {l l' : List α} (h : List.Forall₂ R l l') (hb : ∀ a a', R a a' → (a = b ↔ a' = b')) :
    List.Forall₂ R (l.erase b) (l'.erase b') := by
  induction h with
  | nil => exact .nil
  | @cons a a' l l' ha hrest ih =>
      by_cases hfound : a = b
      · have hfound' := (hb a a' ha).mp hfound
        subst hfound hfound'
        rw [List.erase_cons_head, List.erase_cons_head]
        exact hrest
      · have hother : ¬ a' = b' := mt (hb a a' ha).mpr hfound
        rw [List.erase_cons_tail (by simpa using hfound),
          List.erase_cons_tail (by simpa using hother)]
        exact .cons ha ih

theorem forall₂_and_mem {α : Type} {R : α → α → Prop} {l l' : List α}
    (h : List.Forall₂ R l l') : List.Forall₂ (fun a a' => R a a' ∧ a ∈ l ∧ a' ∈ l') l l' := by
  rw [List.forall₂_iff_zip] at h ⊢
  refine ⟨h.1, fun {a a'} hmem => ⟨h.2 hmem, List.of_mem_zip hmem⟩⟩

/-- Two stamps are both older than the analyses, or have been issued equally long after their
start. -/
inductive SameAge (base base' : Nat) : Nat → Nat → Prop where
  | old {stamp stamp' : Nat} (h : stamp < base) (h' : stamp' < base') :
    SameAge base base' stamp stamp'
  | issued (k : Nat) : SameAge base base' (base + k) (base' + k)

private theorem SameAge.eq_iff {base base' m m' n n' : Nat} (hm : SameAge base base' m m')
    (hn : SameAge base base' n n') (hyoung : base ≤ n) : m = n ↔ m' = n' := by
  cases hn with
  | old => omega
  | issued k =>
      cases hm with
      | old => omega
      | issued => omega

private theorem SameAge.exists_max {base base' n n' : Nat} (hn : SameAge base base' n n')
    (hyoung : base ≤ n) (k : Nat) :
    ∃ m, max (base + k) (n + 1) = base + m ∧ max (base' + k) (n' + 1) = base' + m := by
  cases hn with
  | old => omega
  | issued i => exact ⟨max k (i + 1), by omega, by omega⟩

/-- Variables whose names are known and correspond, and whose stamps are of the same age. -/
structure Variable.Twins (rename : String → String) (known : Set String) (base base' : Nat)
    (v v' : Variable) : Prop extends v.Renamed rename v' where
  known : v.identifier ∈ known
  age : SameAge base base' v.stamp v'.stamp

private theorem Variable.eq_iff {u v : Variable} :
    u = v ↔ u.identifier = v.identifier ∧ u.type = v.type ∧ u.stamp = v.stamp := by
  obtain ⟨name, type, stamp⟩ := u
  obtain ⟨name', type', stamp'⟩ := v
  exact Variable.mk.injEq .. ▸ Iff.rfl

private theorem Variable.Twins.eq_iff {rename : String → String} {known : Set String}
    {base base' : Nat} (hrename : Set.InjOn rename known) {u u' v v' : Variable}
    (hu : u.Twins rename known base base' u') (hv : v.Twins rename known base base' v')
    (hyoung : base ≤ v.stamp) : u = v ↔ u' = v' := by
  -- Variables from before may have any stamps, so that this needs one that has been issued.
  have hnames : u.identifier = v.identifier ↔ u'.identifier = v'.identifier := by
    rw [hu.identifier, hv.identifier, hrename.eq_iff hu.known hv.known]
  rw [Variable.eq_iff, Variable.eq_iff, hnames, hu.type, hv.type, hu.age.eq_iff hv.age hyoung]

namespace Bond

/-- The bond of two analyses of which the second one has the names exchanged. The variables that
they issue have stamps from `base` and from `base'` on. -/
def renamed (rename : String → String) (known : Set String) (base base' : Nat) : Bond where
  tokens t t' := t.Renamed rename t' ∧ (t.kind = .identifier → t.text ∈ known)
  sources source source' := ∃ filename pending line filename' pending' line',
    source = .replay filename pending line ∧ source' = .replay filename' pending' line' ∧
      List.Forall₂ (fun t t' => t.Renamed rename t' ∧ (t.kind = .identifier → t.text ∈ known))
        pending pending'
  found v v' := v.Twins rename known base base' v'
  issued v v' := v.Twins rename known base base' v' ∧ base ≤ v.stamp
  scopes scope scope' :=
    List.Forall₂ (Variable.Twins rename known base base') scope.entries scope'.entries ∧
      ∃ k, scope.issued = base + k ∧ scope'.issued = base' + k
  complaints _ _ _ _ := True
  failures failure failure' := failure.category = failure'.category ∧
    failure.root.category = failure'.root.category ∧ failure.ruleTrace = failure'.ruleTrace

namespace renamed

variable {rename : String → String} {known : Set String} {base base' : Nat}
  {v v' : Variable} {scope scope' : Scope}

private theorem next {source source' : Source}
    (h : (renamed rename known base base').sources source source') :
    (renamed rename known base base').Outcomes source.next.1 source'.next.1 ∧
      (renamed rename known base base').sources source.next.2 source'.next.2 := by
  obtain ⟨filename, pending, line, filename', pending', line', rfl, rfl, hpending⟩ := h
  cases hpending with
  | nil =>
      have hend : (Token.endOfFile line).Renamed rename (.endOfFile line') := ⟨rfl, nofun⟩
      exact ⟨.ok ⟨hend, nofun⟩, _, [], _, _, [], _, rfl, rfl, .nil⟩
  | cons htoken hrest => exact ⟨.ok htoken, _, _, _, _, _, _, rfl, rfl, hrest⟩

theorem find? (hrename : Set.InjOn rename known) {name : String} (hname : name ∈ known)
    (h : (renamed rename known base base').scopes scope scope') :
    Option.Rel (Variable.Twins rename known base base') (scope.find? name)
      (scope'.find? (rename name)) := by
  refine find?_of_forall₂ h.1 fun u u' hu => ?_
  rw [hu.identifier, decide_eq_decide, hrename.eq_iff hu.known hname]

theorem add (hrename : Set.InjOn rename known)
    (hv : (renamed rename known base base').issued v v')
    (h : (renamed rename known base base').scopes scope scope') :
    ((scope.add v).1 = v ↔ (scope'.add v').1 = v') ∧
      (renamed rename known base base').scopes (scope.add v).2 (scope'.add v').2 := by
  obtain ⟨hv, hyoung⟩ := hv
  have hfound := find? hrename hv.known h
  rw [← hv.identifier] at hfound
  generalize hfind : scope.find? v.identifier = found at hfound
  generalize hfind' : scope'.find? v'.identifier = found' at hfound
  cases hfound with
  | some hu =>
      rw [Scope.add_eq_of_find?_eq_some hfind, Scope.add_eq_of_find?_eq_some hfind']
      exact ⟨hu.eq_iff hrename hv hyoung, h⟩
  | none =>
      obtain ⟨hstored, hentries⟩ := Scope.add_eq_of_find?_eq_none hfind
      obtain ⟨hstored', hentries'⟩ := Scope.add_eq_of_find?_eq_none hfind'
      refine ⟨iff_of_true hstored hstored', ?_, ?_⟩
      · rw [hentries, hentries']
        exact List.rel_append h.1 (.cons hv .nil)
      · obtain ⟨k, hissued, hissued'⟩ := h.2
        rw [Scope.issued_add_of_find?_eq_none hfind, Scope.issued_add_of_find?_eq_none hfind',
          hissued, hissued']
        exact hv.age.exists_max hyoung k

theorem remove (hrename : Set.InjOn rename known)
    (hv : (renamed rename known base base').issued v v')
    (h : (renamed rename known base base').scopes scope scope') :
    (scope.remove v).1 = (scope'.remove v').1 ∧
      (renamed rename known base base').scopes (scope.remove v).2 (scope'.remove v').2 := by
  have hsame : ∀ u u', u.Twins rename known base base' u' → (u = v ↔ u' = v') :=
    fun u u' hu => hu.eq_iff hrename hv.1 hv.2
  refine ⟨?_, ?_, ?_⟩
  · rw [Scope.fst_remove, Scope.fst_remove, decide_eq_decide]
    exact mem_iff_of_forall₂ h.1 hsame
  · rw [Scope.entries_remove, Scope.entries_remove]
    exact erase_of_forall₂ h.1 hsame
  · rw [Scope.issued_remove, Scope.issued_remove]
    exact h.2

theorem holds (hrename : Set.InjOn rename known) : (renamed rename known base base').Holds where
  kind_eq h := h.1.kind
  type_eq h := h.type
  next := next
  find? htoken hkind h := by
    rw [htoken.1.name hkind]
    exact find? hrename (htoken.2 hkind) h
  issue {t t' scope scope'} type htoken hkind h := by
    obtain ⟨k, hissued, hissued'⟩ := h.2
    have hage : SameAge base base' scope.issued scope'.issued := by
      rw [hissued, hissued']
      exact .issued k
    refine ⟨⟨⟨⟨htoken.1.name hkind, rfl⟩, htoken.2 hkind, hage⟩, ?_⟩, h.1, k + 1, ?_, ?_⟩
    · exact (Nat.le_add_right base k).trans_eq hissued.symm
    · exact congrArg (· + 1) hissued
    · exact congrArg (· + 1) hissued'
  add := add hrename
  remove := remove hrename
  complain hcomplaints _ _ := by
    cases hcomplaints with
    | same complaint => exact ⟨trivial, rfl, rfl, rfl⟩
    | undeclared => exact ⟨trivial, rfl, rfl, rfl⟩
  wrap {failure failure'} rule h := by
    obtain ⟨-, hroot, hrules⟩ := h
    refine ⟨hroot, hroot, ?_⟩
    rw [Failure.ruleTrace_wrap, Failure.ruleTrace_wrap, hrules]

end renamed

end Bond

end OnePass
