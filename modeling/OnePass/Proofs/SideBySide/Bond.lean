import Mathlib.Data.List.Forall2
import OnePass.Proofs.Derivation.Account
/-!
# Bonds between two analyses

Two analyses run side by side on sources and scopes that need not be the same. A bond says how the
tokens, variables and failures of the one correspond to those of the other. It holds if whatever a
single step looks at corresponds, and then the journals that the analyses write correspond as well.
-/
namespace OnePass

/-- The text that a complaint takes over as it is. -/
def Complaint.quoted? : Complaint → Option String
  | .undeclared identifier => some identifier
  | .other _ text => some text
  | _ => none

/-- Variables that are found in the scopes correspond in one way, and those that an analysis has
issued itself may correspond in a closer one. -/
structure Bond where
  tokens : Token → Token → Prop
  sources : Source → Source → Prop
  found : Variable → Variable → Prop
  issued : Variable → Variable → Prop
  scopes : Scope → Scope → Prop
  complaints : (message : String) → (line : Int) → (message' : String) → (line' : Int) → Prop
  failures : Failure → Failure → Prop

namespace Bond

variable {bond : Bond}

/-- The same kind of thing has happened, to what corresponds. -/
inductive Occurrences (bond : Bond) : Occurrence → Occurrence → Prop where
  | commence (rule : Rule) : Occurrences bond (.commence rule.name) (.commence rule.name)
  | finish (rule : Rule) : Occurrences bond (.finish rule.name) (.finish rule.name)
  | terminal {t t' : Token} (h : bond.tokens t t') : Occurrences bond (.terminal t) (.terminal t')
  | declare {v v' : Variable} (h : bond.issued v v') : Occurrences bond (.declare v) (.declare v')
  | remove {v v' : Variable} (h : bond.issued v v') : Occurrences bond (.remove v) (.remove v')
  | complaint {message message' : String} {line line' : Int}
    (h : bond.complaints message line message' line') :
    Occurrences bond (.complaint message line) (.complaint message' line')

structure Events (bond : Bond) (event event' : Event) : Prop where
  depth : event.depth = event'.depth
  occurrence : bond.Occurrences event.occurrence event'.occurrence

structure Journals (bond : Bond) (j j' : Journal) : Prop where
  events : List.Forall₂ bond.Events j.events.toList j'.events.toList
  depth : j.depth = j'.depth
  scopes : bond.scopes j.scope j'.scope

structure Analysers (bond : Bond) (s s' : Analyser) : Prop where
  sources : bond.sources s.source s'.source
  lookaheads : Option.Rel bond.tokens s.lookahead s'.lookahead
  journals : bond.Journals s.journal s'.journal

/-- What sources hand out. -/
inductive Outcomes (bond : Bond) : Except Failure Token → Except Failure Token → Prop where
  | ok {t t' : Token} (h : bond.tokens t t') : Outcomes bond (.ok t) (.ok t')
  | error {failure failure' : Failure} (h : bond.failures failure failure') :
    Outcomes bond (.error failure) (.error failure')

/-- Complaints are the same but for the name that is not declared. -/
inductive Complaints (bond : Bond) : Complaint → Complaint → Prop where
  | same (complaint : Complaint) (h : complaint.quoted? = none) :
    Complaints bond complaint complaint
  | undeclared {t t' : Token} (h : bond.tokens t t') :
    Complaints bond (.undeclared t.text) (.undeclared t'.text)

/-- Whatever a step looks at corresponds, and what it comes to corresponds again. -/
structure Holds (bond : Bond) : Prop where
  kind_eq {t t' : Token} : bond.tokens t t' → t.kind = t'.kind
  type_eq {v v' : Variable} : bond.found v v' → v.type = v'.type
  next {source source' : Source} : bond.sources source source' →
    bond.Outcomes source.next.1 source'.next.1 ∧ bond.sources source.next.2 source'.next.2
  find? {t t' : Token} {scope scope' : Scope} : bond.tokens t t' → t.kind = .identifier →
    bond.scopes scope scope' → Option.Rel bond.found (scope.find? t.text) (scope'.find? t'.text)
  issue {t t' : Token} {scope scope' : Scope} (type : VarType) : bond.tokens t t' →
    t.kind = .identifier → bond.scopes scope scope' →
    bond.issued (scope.issue t.text type).1 (scope'.issue t'.text type).1 ∧
      bond.scopes (scope.issue t.text type).2 (scope'.issue t'.text type).2
  add {v v' : Variable} {scope scope' : Scope} : bond.issued v v' → bond.scopes scope scope' →
    ((scope.add v).1 = v ↔ (scope'.add v').1 = v') ∧
      bond.scopes (scope.add v).2 (scope'.add v').2
  remove {v v' : Variable} {scope scope' : Scope} : bond.issued v v' → bond.scopes scope scope' →
    (scope.remove v).1 = (scope'.remove v').1 ∧
      bond.scopes (scope.remove v).2 (scope'.remove v').2
  complain {complaint complaint' : Complaint} {t t' : Token} {source source' : Source} :
    bond.Complaints complaint complaint' → bond.tokens t t' → bond.sources source source' →
    bond.complaints (complaint.message source.filename t) t.line
        (complaint'.message source'.filename t') t'.line ∧
      bond.failures
        (.diagnostic complaint.category (complaint.message source.filename t) t.line)
        (.diagnostic complaint'.category (complaint'.message source'.filename t') t'.line)
  wrap {failure failure' : Failure} (rule : String) : bond.failures failure failure' →
    bond.failures (failure.wrap rule) (failure'.wrap rule)

namespace Journals

variable {j j' : Journal} {v v' : Variable}

theorem record (h : bond.Journals j j') {occurrence occurrence' : Occurrence}
    (hoccurrence : bond.Occurrences occurrence occurrence') :
    bond.Journals (j.record occurrence) (j'.record occurrence') where
  events := by
    rw [Journal.events_record, Journal.events_record]
    exact List.rel_append h.events (.cons ⟨h.depth, hoccurrence⟩ .nil)
  depth := h.depth
  scopes := h.scopes

theorem commence (h : bond.Journals j j') (rule : Rule) :
    bond.Journals (j.commence rule.name) (j'.commence rule.name) where
  events := (h.record (.commence rule)).events
  depth := congrArg (· + 1) h.depth
  scopes := h.scopes

theorem finish (h : bond.Journals j j') (rule : Rule) :
    bond.Journals (j.finish rule.name) (j'.finish rule.name) := by
  have houter : bond.Journals { j with depth := j.depth - 1 } { j' with depth := j'.depth - 1 } :=
    ⟨h.events, congrArg (· - 1) h.depth, h.scopes⟩
  exact houter.record (.finish rule)

theorem withScope (h : bond.Journals j j') {scope scope' : Scope}
    (hscopes : bond.scopes scope scope') :
    bond.Journals { j with scope } { j' with scope := scope' } :=
  ⟨h.events, h.depth, hscopes⟩

theorem declare (hbond : bond.Holds) (h : bond.Journals j j') (hv : bond.issued v v') :
    bond.Journals (j.declare v).2 (j'.declare v').2 := by
  obtain ⟨hnew, hscopes⟩ := hbond.add hv h.scopes
  have hadded := h.withScope hscopes
  unfold Journal.declare
  by_cases hstored : (j.scope.add v).1 = v
  · simp only [if_pos hstored, if_pos (hnew.mp hstored)]
    exact hadded.record (.declare hv)
  · simp only [if_neg hstored, if_neg (mt hnew.mpr hstored)]
    exact hadded

theorem drop (hbond : bond.Holds) (h : bond.Journals j j') (hv : bond.issued v v') :
    bond.Journals (j.drop v) (j'.drop v') := by
  obtain ⟨hremoved, hscopes⟩ := hbond.remove hv h.scopes
  have hdropped := h.withScope hscopes
  unfold Journal.drop
  simp only [hremoved]
  split
  · exact hdropped.record (.remove hv)
  · exact hdropped

end Journals

end Bond

end OnePass
