import OnePass.Proofs.Lexing.Layout
import OnePass.Proofs.Lexing.Steps
/-!
# Lexing undoes printing

However the tokens of a layout are spaced, lexing its text gives them back, each on its line, and
nothing else.
-/
namespace OnePass

namespace Lexeme

private theorem exists_spelling (lexeme : Lexeme) : ∃ c cs, lexeme.spelling = c :: cs := by
  have hself := lexeme.front_spelling
  cases hspelling : lexeme.spelling with
  | nil =>
      rw [hspelling] at hself
      cases hself
  | cons c cs => exact ⟨c, cs, rfl⟩

variable {more : List Char}

private theorem front_append (lexeme : Lexeme) (hmore : ∀ b ∈ more.head?, Text.isBlank b = true) :
    Scan.front (lexeme.spelling ++ more) =
      .token lexeme.kind lexeme.text lexeme.spelling more := by
  have hself := lexeme.front_spelling
  obtain ⟨c, cs, hspelling⟩ := lexeme.exists_spelling
  cases more with
  | nil => rw [List.append_nil, hself]
  | cons b more =>
      rw [hspelling] at hself ⊢
      have hclosed : ∀ taken rest, Scan.front (c :: cs) = .unterminated taken rest →
          b = '\n' := by
        intro taken rest hopen
        rw [hself] at hopen
        cases hopen
      rw [Scan.front_append (hmore b rfl) hclosed, hself]
      rfl

private theorem split_append (lexeme : Lexeme) (hmore : ∀ b ∈ more.head?, Text.isBlank b = true) :
    Trivia.split false (lexeme.spelling ++ more) = ([], lexeme.spelling ++ more) := by
  obtain ⟨c, cs, hspelling⟩ := lexeme.exists_spelling
  obtain ⟨hblank, hminus⟩ := head_spelling hspelling
  have hcomment : Trivia.startsComment (c :: (cs ++ more)) = false := by
    unfold Trivia.startsComment
    split
    next rest hdashes =>
      obtain ⟨hc, htail⟩ := List.cons.inj hdashes
      rw [hminus hc, List.nil_append] at htail
      rw [htail] at hmore
      have hdash : Text.isBlank '-' = true := hmore '-' rfl
      cases hdash
    next => rfl
  rw [hspelling]
  exact Trivia.split_of_no_trivia hblank hcomment

end Lexeme

namespace Source

private theorem transcript_of_lexeme {lexer : Lexer} {spacings : List Spacing} {lexeme : Lexeme}
    {more : List Char}
    (hrest : lexer.rest = spacings.flatMap Spacing.text ++ (lexeme.spelling ++ more))
    (hmore : ∀ b ∈ more.head?, Text.isBlank b = true) :
    (text lexer).transcript = .cons
      (.ok ⟨lexeme.kind, String.ofList lexeme.text,
        ↑(lexer.line + (spacings.flatMap Spacing.text).count '\n')⟩)
      (text (lexer.past (spacings.flatMap Spacing.text ++ lexeme.spelling) more)).transcript := by
  have hsplit := Trivia.split_spacings spacings (lexeme.spelling ++ more)
  have hscan := lexeme.front_append hmore
  rw [← hrest, lexeme.split_append hmore, List.append_nil] at hsplit
  obtain ⟨c, cs, hspelling⟩ := lexeme.exists_spelling
  rw [hspelling] at hsplit hscan ⊢
  rw [List.cons_append] at hsplit hscan
  rw [transcript_of_split_cons hsplit, Lexer.behind, hscan]
  rfl

private theorem transcript_of_remainder (rest : Remainder) (spacings : List Spacing) {lexer : Lexer}
    {before : List Char} (hrest : lexer.rest = spacings.flatMap Spacing.text ++ rest.text)
    (hline : lexer.line + (spacings.flatMap Spacing.text).count '\n' = 1 + before.count '\n') :
    (text lexer).transcript =
      ⟨(rest.tokens before).map .ok, .endOfFile ↑(1 + (before ++ rest.text).count '\n')⟩ := by
  induction rest generalizing lexer spacings before with
  | finished remark =>
      have hsplit := Trivia.split_spacings spacings (Remainder.finished remark).text
      have hend : (Trivia.split false (Remainder.finished remark).text).2 = [] := by
        cases remark with
        | none => rfl
        | some remark => rw [Remainder.text, Trivia.split_remark]
      rw [← hrest] at hsplit
      rw [transcript_of_split_nil (hsplit ▸ hend)]
      have hlines : lexer.line + lexer.rest.count '\n' =
          1 + (before ++ (Remainder.finished remark).text).count '\n' := by
        rw [hrest, List.count_append, List.count_append]
        omega
      rw [hlines]
      rfl
  | last lexeme =>
      have hrest' : lexer.rest = spacings.flatMap Spacing.text ++ (lexeme.spelling ++ []) := by
        rw [List.append_nil]
        exact hrest
      have hend :
          (text (lexer.past (spacings.flatMap Spacing.text ++ lexeme.spelling) [])).transcript
          = ⟨[], .endOfFile ↑(1 + (before ++ lexeme.spelling).count '\n')⟩ := by
        have hlines : lexer.line + (spacings.flatMap Spacing.text ++ lexeme.spelling).count '\n' =
            1 + (before ++ lexeme.spelling).count '\n' := by
          rw [List.count_append, List.count_append]
          omega
        rw [transcript_of_split_nil rfl, ← hlines]
        rfl
      rw [transcript_of_lexeme hrest' (by simp), hline, hend]
      rfl
  | token lexeme gap rest ih =>
      let behind := lexer.past (spacings.flatMap Spacing.text ++ lexeme.spelling)
        (gap.text ++ rest.text)
      have hrest' : lexer.rest =
          spacings.flatMap Spacing.text ++ (lexeme.spelling ++ (gap.text ++ rest.text)) := by
        rw [hrest, Remainder.text, List.append_assoc]
      have hmore : ∀ b ∈ (gap.text ++ rest.text).head?, Text.isBlank b = true := by
        intro b hb
        cases hb
        exact gap.blank
      have hbehind : behind.line + gap.text.count '\n' =
          1 + (before ++ lexeme.spelling ++ gap.text).count '\n' := by
        simp only [behind, Lexer.past, List.count_append]
        omega
      -- A gap is spacing too, so that the rest stands behind spacing again.
      have hlater := ih (.blank gap.first gap.blank :: gap.others) rfl hbehind
      rw [transcript_of_lexeme hrest' hmore, hline, hlater]
      simp only [Transcript.cons, Remainder.tokens, Remainder.text, Lexeme.token, List.map_cons,
        List.append_assoc]

end Source

/-- The text of a layout is lexed into the tokens of the layout, in order and with their lines, and
the end of the text. -/
theorem lex_layout (filename : String) (layout : Layout) :
    lex filename (String.ofList layout.text) =
      ⟨layout.tokens.map .ok, .endOfFile ↑(1 + layout.text.count '\n')⟩ := by
  apply Source.transcript_of_remainder layout.rest layout.front
  · exact String.toList_ofList
  · rfl

end OnePass
