import OnePass.Proofs.SideBySide.Framing
/-!
# Variables that a program does not name

A program is analysed alike whether or not its scope has variables besides, anywhere between the
others, that no token of the program names. They stay in the scope as they are, and without them the
scopes that the two analyses leave are the same.
-/
namespace OnePass

/-- Variables of one name and type. They need not be the same variable. -/
structure Variable.Alike (v v' : Variable) : Prop where
  identifier : v.identifier = v'.identifier
  type : v.type = v'.type

/-- The same has happened, if need be to a variable that is not the same one. -/
def Occurrence.Alike : Occurrence → Occurrence → Prop
  | .declare v, .declare v' => v.Alike v'
  | .remove v, .remove v' => v.Alike v'
  | occurrence, occurrence' => occurrence = occurrence'

structure Event.Alike (event event' : Event) : Prop where
  depth : event.depth = event'.depth
  occurrence : event.occurrence.Alike event'.occurrence

/-- The second scope has the variables of the first one in the same order, and besides them,
anywhere between them, the extra ones. -/
structure Scope.Extends (extra : List Variable) (scope scope' : Scope) : Prop where
  extras : extra.Sublist scope'.entries
  others : List.Forall₂ Variable.Alike scope.entries (scope'.entries.filter (· ∉ extra))

/-- What two journals that began with the given scopes tell is alike. The scopes still have all
variables that were in them, and still differ in the extra ones. -/
structure Journal.Framed (extra : List Variable) (before before' : Scope) (j j' : Journal) :
    Prop where
  events : List.Forall₂ Event.Alike j.events.toList j'.events.toList
  scopes : Scope.Extends extra j.scope j'.scope
  kept : before.entries.Sublist j.scope.entries
  kept' : before'.entries.Sublist j'.scope.entries

/-- Both programs are accepted, or both are rejected for the same failure. -/
def Analysis.Framed (extra : List Variable) (before before' : Scope) :
    EStateM.Result Stop Analyser Unit → EStateM.Result Stop Analyser Unit → Prop
  | .ok _ s, .ok _ s' => Journal.Framed extra before before' s.journal s'.journal
  | .error (.rejected failure) s, .error (.rejected failure') s' =>
    failure = failure' ∧ Journal.Framed extra before before' s.journal s'.journal
  | _, _ => False

variable {extra : List Variable} {before before' : Scope}

private theorem Scope.Extends.twins (h : Scope.Extends extra before before') :
    List.Forall₂ (Variable.Twins id (Bond.namesBeside extra) before.issued before'.issued)
      before.entries (before'.without extra).entries := by
  refine (forall₂_and_mem h.others).imp fun v v' ⟨hv, hmem, hmem'⟩ => ?_
  rw [List.mem_filter, decide_eq_true_eq] at hmem'
  have hbeside : ∀ u ∈ extra, u.identifier ≠ v.identifier := by
    intro u hu hname
    have hsame : u = v' := List.inj_on_of_nodup_map before'.identifiers_nodup (h.extras.mem hu)
      hmem'.1 (hname.trans hv.identifier)
    exact hmem'.2 (hsame ▸ hu)
  exact ⟨⟨hv.identifier.symm, hv.type⟩, hbeside,
    .old (before.stamp_lt v hmem) (before'.stamp_lt v' hmem'.1)⟩

private theorem Bond.Occurrences.toAlike {occurrence occurrence' : Occurrence}
    (h : (Bond.framed extra before before').Occurrences occurrence occurrence') :
    occurrence.Alike occurrence' := by
  cases h with
  | commence | finish => rfl
  | terminal ht => exact congrArg Occurrence.terminal ht.1
  | declare hv | remove hv => exact ⟨hv.1.identifier.symm, hv.1.type⟩
  | complaint h => exact congrArg₂ Occurrence.complaint h.1 h.2

private theorem Bond.Journals.toFramed {j j' : Journal}
    (h : (Bond.framed extra before before').Journals j j')
    (hextra : extra.Sublist before'.entries) : Journal.Framed extra before before' j j' := by
  obtain ⟨hevents, -, hkept, hkept', htwins, -⟩ := h
  refine ⟨?_, ⟨hextra.trans hkept', ?_⟩, hkept, hkept'⟩
  · exact hevents.imp fun _ _ hevent => ⟨hevent.depth, hevent.occurrence.toAlike⟩
  · exact htwins.imp fun _ _ hv => ⟨hv.identifier.symm, hv.type⟩

namespace Analysis

/-- From two scopes of which the second one has extra variables besides, a list of tokens that does
not name them is analysed alike: the outcome and the failure are the same, the same is recorded up
to which variables it is about, and in the end the scopes differ in the extra variables again, which
are still the same ones. -/
theorem parse_of_extended {tokens : List Token} (hscopes : Scope.Extends extra before before')
    (hbeside : ∀ v ∈ extra, ∀ t ∈ tokens, t.kind = .identifier → t.text ≠ v.identifier)
    (filename : String) (echo echo' : Bool) :
    Analysis.Framed extra before before'
      (parse (.ofSource (.ofTokens filename tokens) (.start before echo)))
      (parse (.ofSource (.ofTokens filename tokens) (.start before' echo'))) := by
  have hbond : (Bond.framed extra before before').Holds := Bond.framed.holds
  have hsources : (Bond.framed extra before before').sources (.ofTokens filename tokens)
      (.ofTokens filename tokens) :=
    ⟨rfl, filename, tokens, 1, rfl, fun t ht hkind v hv => (hbeside v hv t ht hkind).symm⟩
  have hjournals : (Bond.framed extra before before').Journals (.start before echo)
      (.start before' echo') :=
    ⟨.nil, rfl, .refl _, .refl _, hscopes.twins, 0, rfl, rfl⟩
  rcases hbond.parse_cases hsources hjournals with
    ⟨s, s', hparse, hparse', hs⟩ | ⟨failure, s, failure', s', hparse, hparse', hfailures, hs⟩
  · rw [hparse, hparse']
    exact hs.journals.toFramed hscopes.extras
  · rw [hparse, hparse']
    exact ⟨hfailures, hs.journals.toFramed hscopes.extras⟩

/-- A variable that the program reads stands between two that it does not name, and the program
declares another one behind them. -/
theorem parse_of_surrounded :
    ∃ s s' : Analyser,
      let extra : List Variable := [⟨"a", .string, 0⟩, ⟨"b", .unknown, 2⟩]
      let before : Scope := ⟨[⟨"n", .number, 0⟩], 1, by decide, by decide⟩
      let before' : Scope :=
        ⟨[⟨"a", .string, 0⟩, ⟨"n", .number, 1⟩, ⟨"b", .unknown, 2⟩], 3, by decide, by decide⟩
      let source : Source := .ofTokens "surrounded"
        [⟨.beginWord, "begin", 1⟩, ⟨.identifier, "i", 1⟩, ⟨.becomes, ":=", 1⟩,
          ⟨.identifier, "n", 1⟩, ⟨.plus, "+", 1⟩, ⟨.numberConstant, "1", 1⟩, ⟨.endWord, "end", 1⟩]
      parse (.ofSource source (.start before false)) = .ok () s ∧
      parse (.ofSource source (.start before' true)) = .ok () s' ∧
      Journal.Framed extra before before' s.journal s'.journal ∧
      s'.journal.scope.entries =
        [⟨"a", .string, 0⟩, ⟨"n", .number, 1⟩, ⟨"b", .unknown, 2⟩, ⟨"i", .number, 3⟩] := by
  let extra : List Variable := [⟨"a", .string, 0⟩, ⟨"b", .unknown, 2⟩]
  let before : Scope := ⟨[⟨"n", .number, 0⟩], 1, by decide, by decide⟩
  let before' : Scope :=
    ⟨[⟨"a", .string, 0⟩, ⟨"n", .number, 1⟩, ⟨"b", .unknown, 2⟩], 3, by decide, by decide⟩
  let tokens : List Token :=
    [⟨.beginWord, "begin", 1⟩, ⟨.identifier, "i", 1⟩, ⟨.becomes, ":=", 1⟩,
      ⟨.identifier, "n", 1⟩, ⟨.plus, "+", 1⟩, ⟨.numberConstant, "1", 1⟩, ⟨.endWord, "end", 1⟩]
  let source : Source := .ofTokens "surrounded" tokens
  have hscopes : Scope.Extends extra before before' := by
    have hothers : before'.entries.filter (· ∉ extra) = [⟨"n", .number, 1⟩] := by decide
    refine ⟨by decide, ?_⟩
    rw [hothers]
    exact .cons ⟨rfl, rfl⟩ .nil
  have hbeside : ∀ v ∈ extra, ∀ t ∈ tokens, t.kind = .identifier → t.text ≠ v.identifier := by
    decide
  have hsucceeds : succeeds parse (.ofSource source (.start before false)) = true := by
    decide +kernel
  have hsucceeds' : succeeds parse (.ofSource source (.start before' true)) = true := by
    decide +kernel
  have hentries :
      (finalJournal (parse (.ofSource source (.start before' true)))).scope.entries =
        [⟨"a", .string, 0⟩, ⟨"n", .number, 1⟩, ⟨"b", .unknown, 2⟩, ⟨"i", .number, 3⟩] := by
    decide +kernel
  obtain ⟨_, s, hparse⟩ := exists_of_succeeds hsucceeds
  obtain ⟨_, s', hparse'⟩ := exists_of_succeeds hsucceeds'
  have hframed : Journal.Framed extra before before' s.journal s'.journal := by
    change Analysis.Framed extra before before' (.ok () s) (.ok () s')
    rw [← hparse, ← hparse']
    -- Reducible, so that the two analyses are not run to compare the types.
    with_reducible exact parse_of_extended hscopes hbeside "surrounded" false true
  rw [hparse'] at hentries
  exact ⟨s, s', hparse, hparse', hframed, hentries⟩

end Analysis

end OnePass
