import OnePass.Proofs.Derivation.Settling
import OnePass.Proofs.Lexing.Steps
/-!
# The tokens that are read decide

Two sources of one name may go on in different ways. A program that is accepted, or rejected for
what it says, comes to the same in both as soon as they hand out the same tokens up to the one that
is looked at last. So a text is analysed as the list of its tokens is.
-/
namespace OnePass

namespace Analysis

variable {source : Source} {scope : Scope} {echo : Bool} {j : Journal} {tokens : List Token}
  {last : Token}

private theorem not_fails {failure : Failure} {s : Analyser} {front : List Token}
    (hdelivered : (source.deliver (tokens.length + 1)).1 = (tokens ++ [last]).map .ok)
    (hend : last.kind = .endOfFile) : ¬ Fails source j front failure s := by
  intro hfails
  obtain ⟨cause, -, hfront⟩ := hfails.delivers
  have hle := Source.length_le_of_deliver hdelivered hend (congrArg Prod.fst hfront)
    fun token hmem => hfails.viable.kind_ne (List.mem_map_of_mem hmem)
  -- The call that fails would be among those that come to a token.
  have htake : (source.deliver (tokens.length + 1)).1.take (front.length + 1) =
      (source.deliver (front.length + 1)).1 := Source.take_deliver (by omega)
  rw [hfront, hdelivered] at htake
  have hmem : Except.error cause ∈ ((tokens ++ [last]).map Except.ok).take (front.length + 1) := by
    rw [htake]
    simp
  have hnever := List.mem_of_mem_take hmem
  simp at hnever

private theorem settled_of_transcript (h : source.transcript = ⟨tokens.map .ok, last⟩) :
    (verdict parse (.ofSource source (.start scope echo))).Settled ∧
      (verdict parse (.ofSource source (.start scope echo))).calls ≤ tokens.length + 1 := by
  obtain ⟨hdelivered, hend, -⟩ := Source.transcript_eq_iff.mp h
  rcases settles_or_fails source (.start scope echo) with
    ⟨front, last', outcome, j', hsettles⟩ | ⟨front, failure, s, hfails⟩
  · have hfront := hsettles.delivers
    rw [List.map_append] at hfront
    have hle := Source.length_le_of_deliver hdelivered hend hfront hsettles.kinds
    constructor
    · rw [hsettles.here]
      exact hsettles.category
    · rw [hsettles.calls_eq]
      exact Nat.succ_le_succ hle
  · exact absurd hfails (not_fails hdelivered hend)

private theorem verdict_of_transcript (h : source.transcript = ⟨tokens.map .ok, last⟩) :
    verdict parse (.ofSource (.ofTokens source.filename (tokens ++ [last])) (.start scope echo)) =
      verdict parse (.ofSource source (.start scope echo)) := by
  have hread : (verdict parse (.ofSource source (.start scope echo))).Settled ∧
      (verdict parse (.ofSource source (.start scope echo))).calls ≤ tokens.length + 1 :=
    settled_of_transcript h
  obtain ⟨hsettled, hcalls⟩ := hread
  obtain ⟨hdelivered, -⟩ := Source.transcript_eq_iff.mp h
  have hreplay := Source.deliver_replay source.filename (tokens ++ [last]) 1
  rw [List.length_append, List.length_singleton] at hreplay
  have hfilename : (Source.ofTokens source.filename (tokens ++ [last])).filename =
      source.filename := rfl
  apply verdict_of_deliver_eq hfilename hsettled
  let calls := (verdict parse (.ofSource source (.start scope echo))).calls
  have htake : (source.deliver (tokens.length + 1)).1.take calls = (source.deliver calls).1 :=
    Source.take_deliver hcalls
  rw [← htake, hdelivered, ← hreplay]
  exact (Source.take_deliver hcalls).symm

/-- Let the analysis of a source not be stopped by a failure of the source. Any other source of the
same name that hands out the same tokens up to the one looked at last then comes to the same, its
trace and scope included, whatever stands behind that token. In particular a text is analysed as the
list of its tokens is. -/
theorem verdict_of_same_tokens :
    (∀ (source source' : Source) (scope : Scope) (echo : Bool),
      source'.filename = source.filename →
      (verdict parse (.ofSource source (.start scope echo))).Settled →
      (source'.deliver (verdict parse (.ofSource source (.start scope echo))).calls).1 =
        (source.deliver (verdict parse (.ofSource source (.start scope echo))).calls).1 →
      verdict parse (.ofSource source' (.start scope echo)) =
        verdict parse (.ofSource source (.start scope echo))) ∧
    ∀ (filename text : String) (tokens : List Token) (last : Token) (scope : Scope) (echo : Bool),
      lex filename text = ⟨tokens.map .ok, last⟩ →
      verdict parse (.ofSource (.ofTokens filename (tokens ++ [last])) (.start scope echo)) =
        verdict parse (.ofSource (.text (.ofString filename text)) (.start scope echo)) := by
  constructor
  · intro source source' scope echo hfilename hsettled hsame
    exact verdict_of_deliver_eq hfilename hsettled hsame
  · intro filename text tokens last scope echo hlex
    exact verdict_of_transcript hlex

/-- An undeclared variable is complained about whether an operator or an unclosed string follows. -/
theorem verdict_of_unclosed_tail :
    let whole : Source := .text (.ofString "source" "begin x := y + 1 end")
    let broken : Source := .text (.ofString "source" "begin x := y \"never closed")
    let tokens : List Token := [⟨.beginWord, "begin", 1⟩, ⟨.identifier, "x", 1⟩, ⟨.becomes, ":=", 1⟩,
      ⟨.identifier, "y", 1⟩, ⟨.plus, "+", 1⟩, ⟨.numberConstant, "1", 1⟩, ⟨.endWord, "end", 1⟩]
    ∃ failure s, parse (.ofSource whole (.start .empty false)) = .error (.rejected failure) s ∧
      failure.root.message = "source:1: found 'y' (identifier), 'y' is not declared" ∧
      verdict parse (.ofSource broken (.start .empty false)) =
        verdict parse (.ofSource whole (.start .empty false)) ∧
      verdict parse (.ofSource (.ofTokens "source" (tokens ++ [.endOfFile 1]))
          (.start .empty false)) =
        verdict parse (.ofSource whole (.start .empty false)) := by
  intro whole broken tokens
  have hrejects : rejects parse (.ofSource whole (.start .empty false))
      (fun failure s => failure.root.category = .semantic && s.journal.terminals.length = 3 &&
        failure.root.message = "source:1: found 'y' (identifier), 'y' is not declared") = true := by
    decide +kernel
  obtain ⟨failure, s, hparse, hhow⟩ := exists_of_rejects hrejects
  simp only [Bool.and_eq_true, decide_eq_true_eq] at hhow
  obtain ⟨⟨hcategory, hterminals⟩, hmessage⟩ := hhow
  have hsettled := settled_of_error hparse (.inr hcategory)
  have hcalls := calls_of_error hparse hterminals
  have hfilename : broken.filename = whole.filename := by decide +kernel
  have hsame : (broken.deliver (3 + 1)).1 = (whole.deliver (3 + 1)).1 := by decide +kernel
  have hlex : lex "source" "begin x := y + 1 end" = ⟨tokens.map .ok, .endOfFile 1⟩ :=
    Source.transcript_eq_iff.mpr (by decide +kernel)
  rw [← hcalls] at hsame
  refine ⟨failure, s, hparse, hmessage, ?_, ?_⟩
  · exact verdict_of_same_tokens.1 whole broken .empty false hfilename hsettled hsame
  · exact verdict_of_same_tokens.2 "source" "begin x := y + 1 end" tokens (.endOfFile 1) .empty false
      hlex

end Analysis

end OnePass
