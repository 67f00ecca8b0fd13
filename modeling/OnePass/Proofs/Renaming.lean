import Mathlib.Logic.Equiv.Basic
import OnePass.Proofs.SideBySide.Renaming
/-!
# Names do not steer the analysis

Two lists of tokens of the same kinds, in which the names are exchanged in a way that keeps them
apart, are analysed alike from scopes in which they are exchanged as well. How keywords, symbols and
constants are written, the lines, and the name of the text may all be different.
-/
namespace OnePass

def Occurrence.Renamed (rename : String → String) : Occurrence → Occurrence → Prop
  | .commence rule, .commence rule' => rule = rule'
  | .finish rule, .finish rule' => rule = rule'
  | .terminal t, .terminal t' => t.Renamed rename t'
  | .declare v, .declare v' => v.Renamed rename v'
  | .remove v, .remove v' => v.Renamed rename v'
  | .complaint _ _, .complaint _ _ => True
  | _, _ => False

structure Event.Renamed (rename : String → String) (event event' : Event) : Prop where
  depth : event.depth = event'.depth
  occurrence : event.occurrence.Renamed rename event'.occurrence

/-- What two journals tell is the same but for the names, and the live variables are. -/
structure Journal.Renamed (rename : String → String) (j j' : Journal) : Prop where
  events : List.Forall₂ (Event.Renamed rename) j.events.toList j'.events.toList
  live : List.Forall₂ (Variable.Renamed rename) j.scope.entries j'.scope.entries

/-- Both programs are accepted, or both are rejected: for errors of one category, through the same
rules, and behind as many terminals. -/
def Analysis.Renamed (rename : String → String) :
    EStateM.Result Stop Analyser Unit → EStateM.Result Stop Analyser Unit → Prop
  | .ok _ s, .ok _ s' => s.journal.Renamed rename s'.journal
  | .error (.rejected failure) s, .error (.rejected failure') s' =>
    failure.category = failure'.category ∧ failure.ruleTrace = failure'.ruleTrace ∧
      s.journal.terminals.length = s'.journal.terminals.length ∧
      s.journal.Renamed rename s'.journal
  | _, _ => False

/-- The names that a list of tokens and a scope are about. -/
def namesIn (tokens : List Token) (scope : Scope) : Set String :=
  {name | (∃ t ∈ tokens, t.kind = .identifier ∧ t.text = name) ∨
    ∃ v ∈ scope.entries, v.identifier = name}

private theorem Bond.Occurrences.toRenamed {rename : String → String} {known : Set String}
    {base base' : Nat} {occurrence occurrence' : Occurrence}
    (h : (Bond.renamed rename known base base').Occurrences occurrence occurrence') :
    occurrence.Renamed rename occurrence' := by
  cases h with
  | commence | finish => rfl
  | terminal ht => exact ht.1
  | declare hv | remove hv => exact hv.1.toRenamed
  | complaint => trivial

private theorem Bond.Journals.toRenamed {rename : String → String} {known : Set String}
    {base base' : Nat} {j j' : Journal}
    (h : (Bond.renamed rename known base base').Journals j j') : j.Renamed rename j' where
  events := h.events.imp fun _ _ hevent => ⟨hevent.depth, hevent.occurrence.toRenamed⟩
  live := h.scopes.1.imp fun _ _ htwins => htwins.toRenamed

private theorem Journal.Renamed.length_terminals {rename : String → String} {j j' : Journal}
    (h : j.Renamed rename j') : j.terminals.length = j'.terminals.length := by
  have hterminal : ∀ e e' : Event, e.Renamed rename e' →
      Option.Rel (Token.Renamed rename) (terminal? e) (terminal? e') := by
    rintro ⟨depth, occurrence⟩ ⟨depth', occurrence'⟩ ⟨-, hoccurrence⟩
    cases occurrence <;> cases occurrence' <;>
      first | exact hoccurrence.elim | exact .none | exact .some hoccurrence
  exact (List.rel_filterMap hterminal h.events).length_eq

namespace Analysis

/-- Two programs that are the same but for their names, and for how all else is written and where,
are analysed alike. The names need only be kept apart as far as they occur. -/
theorem parse_of_renamed {rename : String → String} {tokens tokens' : List Token}
    {scope scope' : Scope} (hrename : Set.InjOn rename (namesIn tokens scope))
    (htokens : List.Forall₂ (Token.Renamed rename) tokens tokens')
    (hscopes : List.Forall₂ (Variable.Renamed rename) scope.entries scope'.entries)
    (filename filename' : String) (echo echo' : Bool) :
    Analysis.Renamed rename
      (parse (.ofSource (.ofTokens filename tokens) (.start scope echo)))
      (parse (.ofSource (.ofTokens filename' tokens') (.start scope' echo'))) := by
  let bond := Bond.renamed rename (namesIn tokens scope) scope.issued scope'.issued
  have hbond : bond.Holds := Bond.renamed.holds hrename
  have hsources : bond.sources (.ofTokens filename tokens) (.ofTokens filename' tokens') := by
    refine ⟨filename, tokens, 1, filename', tokens', 1, rfl, rfl, ?_⟩
    exact (forall₂_and_mem htokens).imp fun t _ ⟨ht, hmem, _⟩ =>
      ⟨ht, fun hkind => .inl ⟨t, hmem, hkind, rfl⟩⟩
  have hjournals : bond.Journals (.start scope echo) (.start scope' echo') := by
    refine ⟨.nil, rfl, ?_, 0, rfl, rfl⟩
    refine (forall₂_and_mem hscopes).imp fun v v' ⟨hv, hmem, hmem'⟩ => ?_
    exact ⟨hv, .inr ⟨v, hmem, rfl⟩, .old (scope.stamp_lt v hmem) (scope'.stamp_lt v' hmem')⟩
  rcases hbond.parse_cases hsources hjournals with
    ⟨s, s', hparse, hparse', hs⟩ | ⟨failure, s, failure', s', hparse, hparse', hfailures, hs⟩
  · rw [hparse, hparse']
    exact hs.journals.toRenamed
  · rw [hparse, hparse']
    have hjournal := hs.journals.toRenamed
    exact ⟨hfailures.1, hfailures.2.2, hjournal.length_terminals, hjournal⟩

/-- Two names are exchanged, and everything else is written in another way. -/
theorem parse_of_swapped :
    Analysis.Renamed (Equiv.swap "i" "n")
      (parse (.ofSource
        (.ofTokens "a" [⟨.beginWord, "begin", 1⟩, ⟨.identifier, "i", 1⟩, ⟨.becomes, ":=", 1⟩,
          ⟨.identifier, "n", 1⟩, ⟨.endWord, "end", 1⟩])
        (.start (Scope.empty.add ⟨"n", .number, 0⟩).2 false)))
      (parse (.ofSource
        (.ofTokens "b" [⟨.beginWord, "", 7⟩, ⟨.identifier, "n", 3⟩, ⟨.becomes, "?", 3⟩,
          ⟨.identifier, "i", 3⟩, ⟨.endWord, "stop", 9⟩])
        (.start (Scope.empty.add ⟨"i", .number, 5⟩).2 true))) := by
  have hn : Equiv.swap "i" "n" "n" = "i" := Equiv.swap_apply_right _ _
  have hi : Equiv.swap "i" "n" "i" = "n" := Equiv.swap_apply_left _ _
  apply parse_of_renamed (Equiv.swap "i" "n").injective.injOn
  · refine .cons ⟨rfl, nofun⟩ <| .cons ⟨rfl, fun _ => hi.symm⟩ <| .cons ⟨rfl, nofun⟩ <|
      .cons ⟨rfl, fun _ => hn.symm⟩ <| .cons ⟨rfl, nofun⟩ .nil
  · rw [(Scope.add_eq_of_find?_eq_none rfl).2, (Scope.add_eq_of_find?_eq_none rfl).2]
    exact .cons ⟨hn.symm, rfl⟩ .nil

end Analysis

end OnePass
