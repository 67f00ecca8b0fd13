import OnePass.Proofs.SideBySide.Runs
/-!
# The bond of a name for a text

The one analysis reads a text that has no name, and the other one reads it under a name. They accept
the same tokens and declare the same variables; whatever they have to say about the text, the second
one puts the name in front.
-/
namespace OnePass

/-- Puts a name in front of a complaint. -/
def Occurrence.named (name : String) : Occurrence → Occurrence
  | .complaint message line => .complaint (name ++ message) line
  | occurrence => occurrence

def Event.named (name : String) (event : Event) : Event :=
  { event with occurrence := event.occurrence.named name }

namespace Bond

/-- The bond of two analyses of one text, of which only the second one has a name for it. -/
def named (name : String) : Bond where
  tokens := Eq
  sources source source' := ∃ lexer : Lexer,
    source = .text { lexer with filename := "" } ∧ source' = .text { lexer with filename := name }
  found := Eq
  issued := Eq
  scopes := Eq
  complaints message line message' line' := message' = name ++ message ∧ line' = line
  failures failure failure' := failure'.root.message = name ++ failure.root.message ∧
    failure'.ruleTrace = failure.ruleTrace

namespace named

variable {name : String}

private theorem message_eq (complaint : Complaint) (token : Token) :
    complaint.message name token = name ++ complaint.message "" token := by
  simp only [Complaint.message, toString, String.empty_append, String.append_assoc]

private theorem next {source source' : Source} (h : (named name).sources source source') :
    (named name).Outcomes source.next.1 source'.next.1 ∧
      (named name).sources source.next.2 source'.next.2 := by
  obtain ⟨lexer, rfl, rfl⟩ := h
  change (named name).Outcomes
      (Lexer.token { lexer.skipTrivia with filename := "" }).1
      (Lexer.token { lexer.skipTrivia with filename := name }).1 ∧
    (named name).sources (.text (Lexer.token { lexer.skipTrivia with filename := "" }).2)
      (.text (Lexer.token { lexer.skipTrivia with filename := name }).2)
  unfold Lexer.token
  dsimp only
  cases Scan.front lexer.skipTrivia.rest with
  | finished => exact ⟨.ok rfl, lexer.skipTrivia, rfl, rfl⟩
  | token kind text taken rest =>
      exact ⟨.ok rfl, lexer.skipTrivia.past taken rest, rfl, rfl⟩
  | unterminated taken rest =>
      refine ⟨.error ⟨?_, rfl⟩, lexer.skipTrivia.past taken rest, rfl, rfl⟩
      simp only [Lexer.unterminatedString, Failure.diagnostic, Failure.ofLayer, toString,
        String.empty_append, String.append_assoc]

private theorem holds (name : String) : (named name).Holds where
  kind_eq h := congrArg Token.kind h
  type_eq h := congrArg Variable.type h
  next := next
  find? htoken _ hscopes := by
    cases htoken
    cases hscopes
    generalize Scope.find? _ _ = found
    cases found with
    | none => exact .none
    | some v => exact .some rfl
  issue type htoken _ hscopes := by
    cases htoken
    cases hscopes
    exact ⟨rfl, rfl⟩
  add hv hscopes := by
    cases hv
    cases hscopes
    exact ⟨Iff.rfl, rfl⟩
  remove hv hscopes := by
    cases hv
    cases hscopes
    exact ⟨rfl, rfl⟩
  complain hcomplaints htoken hsources := by
    cases htoken
    obtain ⟨lexer, rfl, rfl⟩ := hsources
    cases hcomplaints with
    | same => exact ⟨⟨message_eq _ _, rfl⟩, message_eq _ _, rfl⟩
    | undeclared htokens =>
        cases htokens
        exact ⟨⟨message_eq _ _, rfl⟩, message_eq _ _, rfl⟩
  wrap rule h := by
    refine ⟨h.1, ?_⟩
    rw [Failure.ruleTrace_wrap, Failure.ruleTrace_wrap, h.2]

private theorem sources_ofString (name text : String) :
    (named name).sources (.text (.ofString "" text)) (.text (.ofString name text)) :=
  ⟨.ofString "" text, rfl, rfl⟩

private theorem journals_start (name : String) (scope : Scope) (echo echo' : Bool) :
    (named name).Journals (.start scope echo) (.start scope echo') :=
  ⟨.nil, rfl, rfl⟩

end named

private theorem Events.eq_named {name : String} {event event' : Event}
    (h : (named name).Events event event') : event.named name = event' := by
  obtain ⟨depth, occurrence⟩ := event
  obtain ⟨depth', occurrence'⟩ := event'
  obtain ⟨rfl, hoccurrence⟩ := h
  cases hoccurrence with
  | commence | finish => rfl
  | terminal h | declare h | remove h =>
      cases h
      rfl
  | complaint h =>
      obtain ⟨rfl, rfl⟩ := h
      rfl

private theorem Journals.events_eq_named {name : String} {j j' : Journal}
    (h : (named name).Journals j j') :
    j'.events.toList = j.events.toList.map (Event.named name) := by
  symm
  rw [← List.forall₂_eq_eq_eq, List.forall₂_map_left_iff]
  exact h.events.imp fun _ _ hevent => hevent.eq_named

end Bond

/-- What a text comes to, told without the name of the text: what is recorded, and the scope in the
end or the failure. -/
inductive Judgement where
  | accepted (events : List Event) (scope : Scope)
  | rejected (events : List Event) (message : String) (rules : List String)

/-- Whether an analysis under a name comes to the judgement. -/
def Judgement.Of (name : String) (result : EStateM.Result Stop Analyser Unit) : Judgement → Prop
  | .accepted events scope => ∃ s, result = .ok () s ∧
      s.journal.events.toList = events.map (Event.named name) ∧ s.journal.scope = scope
  | .rejected events message rules => ∃ failure s, result = .error (.rejected failure) s ∧
      s.journal.events.toList = events.map (Event.named name) ∧
      failure.root.message = name ++ message ∧ failure.ruleTrace = rules

namespace Analysis

open Bond

/-- A text comes to one judgement under every name, whether or not the journal echoes. -/
theorem exists_judgement (text : String) (scope : Scope) : ∃ judgement : Judgement, ∀ name echo,
    judgement.Of name (parse (.ofSource (.text (.ofString name text)) (.start scope echo))) := by
  rcases parse_ok_or_rejected (.text (.ofString "" text)) (.start scope false) with
    ⟨unnamed, hunnamed⟩ | ⟨cause, unnamed, hunnamed⟩
  · refine ⟨.accepted unnamed.journal.events.toList unnamed.journal.scope, fun name echo => ?_⟩
    rcases (named.holds name).parse_cases (named.sources_ofString name text)
      (named.journals_start name scope false echo) with
      ⟨s, s', hparse, hparse', hs⟩ | ⟨_, _, _, _, hparse, -⟩
    · cases hunnamed.symm.trans hparse
      exact ⟨s', hparse', hs.journals.events_eq_named, hs.journals.scopes.symm⟩
    · cases hunnamed.symm.trans hparse
  · refine ⟨.rejected unnamed.journal.events.toList cause.root.message cause.ruleTrace,
      fun name echo => ?_⟩
    rcases (named.holds name).parse_cases (named.sources_ofString name text)
      (named.journals_start name scope false echo) with
      ⟨_, _, hparse, -⟩ | ⟨_, s, failure', s', hparse, hparse', hfailures, hs⟩
    · cases hunnamed.symm.trans hparse
    · cases hunnamed.symm.trans hparse
      exact ⟨failure', s', hparse', hs.journals.events_eq_named, hfailures⟩

end Analysis

end OnePass
