import OnePass.Proofs.Derivation.Cursor
import OnePass.Proofs.SideBySide.Bond
/-!
# Steps side by side

Two analyses are coupled if they go the same way wherever they start under a bond, and what they
leave corresponds again. Under a bond that holds, every step is coupled with itself.
-/
namespace OnePass

open Analysis

namespace Bond

inductive Stops (bond : Bond) : Stop → Stop → Prop where
  | rejected {failure failure' : Failure} (h : bond.failures failure failure') :
    Stops bond (.rejected failure) (.rejected failure')
  | notStarted : Stops bond .notStarted .notStarted
  | alreadyStarted : Stops bond .alreadyStarted .alreadyStarted
  | allowanceUsedUp : Stops bond .allowanceUsedUp .allowanceUsedUp

private theorem Stops.through {bond : Bond} {stop stop' : Stop} (h : bond.Stops stop stop')
    (hbond : bond.Holds) (rule : Rule) : bond.Stops (stop.through rule) (stop'.through rule) := by
  cases h with
  | rejected hfailures => exact .rejected (hbond.wrap rule.name hfailures)
  | notStarted => exact .notStarted
  | alreadyStarted => exact .alreadyStarted
  | allowanceUsedUp => exact .allowanceUsedUp

/-- Two runs have come to the same, and leave what corresponds. -/
inductive Ends (bond : Bond) {α : Type} (values : α → α → Prop) :
    EStateM.Result Stop Analyser α → EStateM.Result Stop Analyser α → Prop where
  | ok {a a' : α} {s s' : Analyser} (hvalues : values a a') (hs : bond.Analysers s s') :
    Ends bond values (.ok a s) (.ok a' s')
  | error {stop stop' : Stop} {s s' : Analyser} (hstops : bond.Stops stop stop')
    (hs : bond.Analysers s s') : Ends bond values (.error stop s) (.error stop' s')

/-- Two analyses that go the same way wherever they start side by side. -/
def Couples (bond : Bond) {α : Type} (values : α → α → Prop) (x y : Analysis α) : Prop :=
  ∀ s s', bond.Analysers s s' → bond.Ends values (x s) (y s')

namespace Couples

variable {bond : Bond} {α β : Type} {values : α → α → Prop} {values' : β → β → Prop}
  {x y : Analysis α} {f g : α → Analysis β}

theorem bind (hxy : bond.Couples values x y)
    (hfg : ∀ a a', values a a' → bond.Couples values' (f a) (g a')) :
    bond.Couples values' (x >>= f) (y >>= g) := by
  intro s s' hs
  have hfirst := hxy s s' hs
  change bond.Ends values' (EStateM.bind x f s) (EStateM.bind y g s')
  unfold EStateM.bind
  generalize x s = result at hfirst ⊢
  generalize y s' = result' at hfirst ⊢
  cases hfirst with
  | ok hvalues ht => exact hfg _ _ hvalues _ _ ht
  | error hstops ht => exact .error hstops ht

protected theorem pure {a a' : α} (h : values a a') : bond.Couples values (pure a) (pure a') :=
  fun _ _ hs => .ok h hs

protected theorem get : bond.Couples bond.Analysers get get :=
  fun _ _ hs => .ok hs hs

protected theorem throw {stop stop' : Stop} (h : bond.Stops stop stop') :
    bond.Couples values (throw stop) (throw stop') :=
  fun _ _ hs => .error h hs

protected theorem note {change change' : Journal → Journal}
    (h : ∀ j j', bond.Journals j j' → bond.Journals (change j) (change' j')) :
    bond.Couples Eq (note change) (note change') :=
  fun _ _ hs => .ok rfl ⟨hs.sources, hs.lookaheads, h _ _ hs.journals⟩

protected theorem lookahead : bond.Couples bond.tokens lookahead lookahead := by
  rintro ⟨source, token, journal⟩ ⟨source', token', journal'⟩ ⟨hsources, hlookaheads, hjournals⟩
  cases hlookaheads with
  | none => exact .error .notStarted ⟨hsources, .none, hjournals⟩
  | some htoken => exact .ok htoken ⟨hsources, .some htoken, hjournals⟩

theorem enclose (hbond : bond.Holds) (rule : Rule) (h : bond.Couples values x y) :
    bond.Couples values (enclose rule x) (enclose rule y) := by
  intro s s' hs
  have hinner := h { s with journal := s.journal.commence rule.name }
    { s' with journal := s'.journal.commence rule.name }
    ⟨hs.sources, hs.lookaheads, hs.journals.commence rule⟩
  unfold Analysis.enclose
  generalize x _ = result at hinner ⊢
  generalize y _ = result' at hinner ⊢
  cases hinner with
  | ok hvalues ht => exact .ok hvalues ⟨ht.sources, ht.lookaheads, ht.journals.finish rule⟩
  | error hstops ht => exact .error (hstops.through hbond rule) ht

variable (hbond : bond.Holds)
include hbond

protected theorem pull : bond.Couples bond.tokens pull pull := by
  rintro ⟨source, token, journal⟩ ⟨source', token', journal'⟩ ⟨hsources, hlookaheads, hjournals⟩
  obtain ⟨houtcomes, hrests⟩ := hbond.next hsources
  unfold Analysis.pull
  rcases hnext : source.next with ⟨outcome, rest⟩
  rcases hnext' : source'.next with ⟨outcome', rest'⟩
  simp only [hnext, hnext'] at houtcomes hrests ⊢
  cases houtcomes with
  | ok htoken => exact .ok htoken ⟨hrests, .some htoken, hjournals⟩
  | error hfailure => exact .error (.rejected hfailure) ⟨hrests, hlookaheads, hjournals⟩

private theorem reportAlike {complaint complaint' : Complaint}
    (h : bond.Complaints complaint complaint') :
    bond.Couples values (report complaint) (report complaint') := by
  refine Couples.lookahead.bind fun token token' htoken => ?_
  refine Couples.get.bind fun s s' hs => ?_
  obtain ⟨hcomplaint, hfailure⟩ := hbond.complain h htoken hs.sources
  exact (Couples.note fun _ _ hj => hj.record (.complaint hcomplaint)).bind fun _ _ _ =>
    .throw (.rejected hfailure)

protected theorem report {complaint : Complaint} (h : complaint.quoted? = none) :
    bond.Couples values (report complaint) (report complaint) :=
  .reportAlike hbond (.same complaint h)

protected theorem accept (kind : Kind) :
    bond.Couples (fun t t' => bond.tokens t t' ∧ t.kind = kind) (accept kind) (accept kind) := by
  refine Couples.lookahead.bind fun token token' htoken => ?_
  rw [← hbond.kind_eq htoken]
  split
  next hkind =>
    have hnote : bond.Couples Eq (note (·.terminal token)) (note (·.terminal token')) :=
      .note fun _ _ hj => hj.record (.terminal htoken)
    exact hnote.bind fun _ _ _ => (Couples.pull hbond).bind fun _ _ _ => .pure ⟨htoken, hkind⟩
  next => exact .report hbond rfl

protected theorem acceptVariable : bond.Couples bond.found acceptVariable acceptVariable := by
  refine Couples.lookahead.bind fun token token' htoken => ?_
  rw [← hbond.kind_eq htoken]
  split
  next hkind =>
    refine Couples.get.bind fun s s' hs => ?_
    have hfound := hbond.find? htoken hkind hs.journals.scopes
    revert hfound
    generalize s.journal.scope.find? token.text = v?
    generalize s'.journal.scope.find? token'.text = v?'
    intro hfound
    cases hfound with
    | none => exact .reportAlike hbond (.undeclared htoken)
    | some hv => exact (Couples.accept hbond .identifier).bind fun _ _ _ => .pure hv
  next => exact .report hbond rfl

protected theorem declare {t t' : Token} (htoken : bond.tokens t t') (hkind : t.kind = .identifier)
    (type : VarType) : bond.Couples bond.issued (declare t.text type) (declare t'.text type) := by
  intro s s' hs
  obtain ⟨hv, hscopes⟩ := hbond.issue type htoken hkind hs.journals.scopes
  exact .ok hv ⟨hs.sources, hs.lookaheads, (hs.journals.withScope hscopes).declare hbond hv⟩

protected theorem drop {v v' : Variable} (hv : bond.issued v v') :
    bond.Couples Eq (note (·.drop v)) (note (·.drop v')) :=
  .note fun _ _ hj => hj.drop hbond hv

protected theorem checkAdding (operator : Kind) (left right : VarType) :
    bond.Couples Eq (checkAdding operator left right) (checkAdding operator left right) := by
  unfold checkAdding
  split
  · exact .pure rfl
  · exact .report hbond rfl

protected theorem checkMultiplying (operator : Kind) (side : Side) (type : VarType) :
    bond.Couples Eq (checkMultiplying operator side type)
      (checkMultiplying operator side type) := by
  unfold checkMultiplying
  split
  · exact .report hbond rfl
  · exact .pure rfl

end Couples

end Bond

end OnePass
