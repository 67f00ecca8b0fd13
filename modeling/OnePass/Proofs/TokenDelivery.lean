import OnePass.Proofs.Derivation.Delivery
/-!
# No token is lost

What a source has handed out in the analysis of a program are the tokens that have been accepted, in
their order, and the one that is looked at. Where the source fails, its failure stands in place of
that one.
-/
namespace OnePass

namespace Analysis

variable {source : Source} {scope : Scope} {echo : Bool} {c c' : Cursor} {j' : Journal}
  {tokens : List Token}

private theorem kinds_of_viable
    (h : Viable Rule.statementPart.language (tokens.map Token.kind)) :
    ∀ token ∈ tokens, token.kind ∉ [Kind.endOfFile, .illegalSymbol] :=
  fun _ htoken => h.kind_notMem (List.mem_map_of_mem htoken)

private theorem deliver_of_terminals (hplace : source.place? = some c)
    (hpasses : c.Passes tokens c') (hterminals : j'.terminals = tokens) :
    source.deliver (j'.terminals.length + 1) =
      ((j'.terminals ++ [c'.token]).map .ok, c'.source) := by
  rw [hterminals]
  exact Source.deliver_of_passes hplace hpasses

/-- The source is asked once for each token that is accepted and once more: for the token that is
then looked at, if the program is accepted or rejected for what it says, and otherwise for the
failure that stops the analysis. An accepted program goes up to the first token for the end of the
text, and neither such a token nor an illegal symbol is ever accepted. -/
theorem delivered_of_parse (source : Source) (scope : Scope) (echo : Bool) :
    match parse (.ofSource source (.start scope echo)) with
    | .ok _ s =>
        (∀ token ∈ s.journal.terminals, token.kind ∉ [Kind.endOfFile, .illegalSymbol]) ∧
        ∃ last : Token, s.lookahead = some last ∧ last.kind = .endOfFile ∧
          source.deliver (s.journal.terminals.length + 1) =
            ((s.journal.terminals ++ [last]).map .ok, s.source)
    | .error (.rejected failure) s =>
        (∀ token ∈ s.journal.terminals, token.kind ∉ [Kind.endOfFile, .illegalSymbol]) ∧
        ((failure.root.category = .syntactic ∨ failure.root.category = .semantic) ∧
            (∃ last : Token, s.lookahead = some last ∧
              source.deliver (s.journal.terminals.length + 1) =
                ((s.journal.terminals ++ [last]).map .ok, s.source)) ∨
          failure.root.category = .lexical ∧
            ∃ cause : Failure, cause.root = failure.root ∧
              source.deliver (s.journal.terminals.length + 1) =
                (s.journal.terminals.map .ok ++ [.error cause], s.source))
    | .error _ _ => False := by
  rcases parse_cases source (.start scope echo) with
    ⟨c, tokens, c', j', hplace, haccepts, hparse⟩ |
    ⟨c, tokens, c', j', failure, hplace, hrefuses, hparse⟩ | ⟨tokens, failure, s, hfails⟩
  · have hterminals : j'.terminals = tokens := haccepts.terminals
    have hviable : Viable Rule.statementPart.language (tokens.map Token.kind) :=
      .of_mem haccepts.sentence
    rw [hparse]
    constructor
    · exact hterminals ▸ kinds_of_viable hviable
    · exact ⟨c'.token, rfl, haccepts.ends, deliver_of_terminals hplace haccepts.passes hterminals⟩
  · have hterminals : j'.terminals = tokens := hrefuses.terminals
    obtain ⟨complaint, hroot, hcategory, -⟩ := hrefuses.blames
    rw [hparse]
    constructor
    · exact hterminals ▸ kinds_of_viable hrefuses.viable
    · refine .inl ⟨?_, c'.token, rfl, deliver_of_terminals hplace hrefuses.passes hterminals⟩
      rw [hroot]
      exact hcategory
  · have hterminals : s.journal.terminals = tokens := hfails.terminals
    rw [hfails.stops]
    constructor
    · exact hterminals ▸ kinds_of_viable hfails.viable
    · refine .inr ⟨hfails.category, ?_⟩
      rw [hterminals]
      exact hfails.delivers

end Analysis

end OnePass
