import OnePass.Proofs.Recording.Entries
import OnePass.Proofs.TokenDelivery
/-!
# Nesting is bounded by what has been accepted

The analysis of a program comes to an end from every source and scope, and it is a result or a
rejection. It asks for no more tokens than there are before the end of the text and the one for the
end, and at no moment are more rules open than three for each terminal accepted so far and one.
-/
namespace OnePass

open Analysis

namespace Source

/-- The tokens handed out before the first one for the end of the text. -/
def tokens (source : Source) : List Token :=
  source.transcript.outcomes.filterMap Except.toOption

private theorem prefix_tokens {source : Source} {front : List Token}
    {more : List (Except Failure Token)}
    {calls : Nat} (h : (source.deliver calls).1 = front.map .ok ++ more)
    (hkinds : ∀ token ∈ front, token.kind ≠ .endOfFile) : front <+: source.tokens := by
  induction front generalizing source calls with
  | nil => exact List.nil_prefix
  | cons first front ih =>
      cases calls with
      | zero => cases h
      | succ calls =>
          rw [deliver_succ, List.map_cons, List.cons_append] at h
          obtain ⟨hfirst, hlater⟩ := List.cons.inj h
          have hnext : source.next = (.ok first, source.next.2) := Prod.ext hfirst rfl
          rw [List.forall_mem_cons] at hkinds
          have htokens : source.tokens = first :: source.next.2.tokens := by
            rw [tokens, transcript_of_ne_end hnext hkinds.1]
            rfl
          rw [htokens]
          exact (List.prefix_cons_inj first).mpr (ih hlater hkinds.2)

end Source

/-- What a run has asked of its source and what it has had open. The source was asked once for each
terminal and once more, and the terminals are the first of its tokens. Whenever so many terminals
had been accepted, at most three times as many rules and one were open, and no rule was entered
again without a terminal in between. -/
structure Analyser.Bounded (source : Source) (s : Analyser) : Prop where
  asked : ∃ outcome, source.deliver (s.journal.terminals.length + 1) =
    (s.journal.terminals.map .ok ++ [outcome], s.source)
  accepted : s.journal.terminals <+: source.tokens
  asked_le : s.journal.terminals.length + 1 ≤ source.tokens.length + 1
  nested : ∀ front back, s.journal.occurrences = front ++ back →
    (Story.openAfter [] front).length ≤ 3 * (front.filterMap Occurrence.terminal?).length + 1
  reentered : ∀ outer (rule : Rule) inner back,
    s.journal.occurrences = outer ++ .commence rule.name :: inner ++ .commence rule.name :: back →
      inner.filterMap Occurrence.terminal? ≠ []

namespace Analysis

variable {source : Source} {s : Analyser}

private theorem kinds_of_word {tokens : List Token}
    (h : Viable Rule.statementPart.language (tokens.map Token.kind)) :
    ∀ token ∈ tokens, token.kind ≠ .endOfFile := by
  intro token htoken hkind
  exact h.kind_notMem (List.mem_map_of_mem htoken) (by simp [hkind])

private theorem asked_of_parse (source : Source) (j : Journal) (hfresh : j.terminals = []) :
    ∃ s, (parse (.ofSource source j) = .ok () s ∨
        ∃ failure, parse (.ofSource source j) = .error (.rejected failure) s) ∧
      (∀ token ∈ s.journal.terminals, token.kind ≠ .endOfFile) ∧
      ∃ outcome, source.deliver (s.journal.terminals.length + 1) =
        (s.journal.terminals.map .ok ++ [outcome], s.source) := by
  have hpasses {c c' : Cursor} {tokens : List Token} {j' : Journal}
      (hplace : source.place? = some c) (hpasses : c.Passes tokens c')
      (hterminals : j'.terminals = tokens) :
      source.deliver (j'.terminals.length + 1) =
        (j'.terminals.map .ok ++ [.ok c'.token], c'.source) := by
    rw [hterminals, Source.deliver_of_passes hplace hpasses, List.map_append]
    rfl
  rcases parse_cases source j with ⟨c, tokens, c', j', hplace, haccepts, hparse⟩ |
    ⟨c, tokens, c', j', failure, hplace, hrefuses, hparse⟩ | ⟨tokens, failure, s, hfails⟩
  · have hterminals : j'.terminals = tokens := by simpa [hfresh] using haccepts.terminals
    refine ⟨_, .inl hparse, ?_, _, hpasses hplace haccepts.passes hterminals⟩
    exact hterminals ▸ kinds_of_word (.of_mem haccepts.sentence)
  · have hterminals : j'.terminals = tokens := by simpa [hfresh] using hrefuses.terminals
    refine ⟨_, .inr ⟨failure, hparse⟩, ?_, _, hpasses hplace hrefuses.passes hterminals⟩
    exact hterminals ▸ kinds_of_word hrefuses.viable
  · have hterminals : s.journal.terminals = tokens := by simpa [hfresh] using hfails.terminals
    obtain ⟨cause, -, hdelivers⟩ := hfails.delivers
    refine ⟨s, .inr ⟨failure, hfails.stops⟩, ?_, .error cause, ?_⟩
    · exact hterminals ▸ kinds_of_word hfails.viable
    · rwa [hterminals]

/-- From every source and scope the analysis of a program ends in a result or a rejection, and keeps
within the bounds. -/
theorem nesting_of_parse (source : Source) (scope : Scope) (echo : Bool) :
    match parse (.ofSource source (.start scope echo)) with
    | .ok _ s | .error (.rejected _) s => s.Bounded source
    | .error _ _ => False := by
  obtain ⟨s, hends, hkinds, outcome, hasked⟩ := asked_of_parse source (.start scope echo) rfl
  have hstory : ∃ left, Story.spend 1 s.journal.occurrences = some left := by
    rcases hends with hparse | ⟨failure, hparse⟩
    · obtain ⟨story, hadds, hspend⟩ := spends_parse.ok hparse
      rw [hadds]
      exact ⟨_, hspend⟩
    · obtain ⟨story, rest, hadds, hspend⟩ := spends_parse.error hparse
      rw [hadds]
      exact ⟨_, hspend⟩
  obtain ⟨left, hspend⟩ := hstory
  have hbounded : s.Bounded source := by
    have haccepted : s.journal.terminals <+: source.tokens :=
      Source.prefix_tokens (congrArg Prod.fst hasked) hkinds
    refine ⟨⟨outcome, hasked⟩, haccepted, Nat.succ_le_succ haccepted.length_le, ?_, ?_⟩
    · intro front back hcut
      rw [hcut] at hspend
      obtain ⟨middle, hfront, -⟩ := Story.spend_append_eq_some.mp hspend
      have hle := Story.length_openAfter_le hfront []
      simp only [List.length_nil] at hle
      omega
    · intro outer rule inner back hcut
      rw [hcut] at hspend
      exact Story.terminal_of_reentered hspend
  rcases hends with hparse | ⟨failure, hparse⟩ <;> rw [hparse] <;> exact hbounded

end Analysis

end OnePass
