import OnePass.Proofs.Lexing.Separation
import OnePass.Proofs.Lexing.Steps
/-!
# A line feed separates texts

Two texts with a line feed between them are lexed as each of them is by itself, the second one on
later lines. This holds wherever the first text ends, be it inside a comment, a string or a number.
-/
namespace OnePass

/-- The same token so many lines further down. -/
def Token.shift (lines : Nat) (token : Token) : Token :=
  { token with line := token.line + lines }

/-- The second outcome is the first one so many lines further down. -/
inductive Shifted (filename : String) (lines : Nat) :
    Except Failure Token → Except Failure Token → Prop where
  | token (token : Token) : Shifted filename lines (.ok token) (.ok (token.shift lines))
  | failure (line : Nat) : Shifted filename lines
    (.error (Lexer.unterminatedString filename line))
    (.error (Lexer.unterminatedString filename (line + lines)))

namespace Shifted

variable {filename : String} {lines : Nat}

private theorem outcome {scan : Scan} (line : Nat) :
    Shifted filename lines (scan.outcome filename line) (scan.outcome filename (line + lines)) := by
  cases scan with
  | finished => exact .token (.endOfFile line)
  | token kind text taken rest => exact .token ⟨kind, String.ofList text, line⟩
  | unterminated taken rest => exact .failure line

private theorem eq {outcome outcome' : Except Failure Token}
    (h : Shifted filename 0 outcome outcome') :
    outcome = outcome' := by
  cases h with
  | token token => simp [Token.shift]
  | failure line => rfl

end Shifted

private theorem Scan.outcome_extend (filename : String) (line : Nat) (more : List Char)
    (scan : Scan) :
    (scan.extend more).outcome filename line = scan.outcome filename line := by
  cases scan <;> rfl

namespace Source

private theorem transcript_shift {lexer lexer' : Lexer} {lines : Nat}
    (hfilename : lexer'.filename = lexer.filename) (hrest : lexer'.rest = lexer.rest)
    (hline : lexer'.line = lexer.line + lines) :
    List.Forall₂ (Shifted lexer.filename lines) (text lexer).transcript.outcomes
        (text lexer').transcript.outcomes ∧
      (text lexer').transcript.ending = (text lexer).transcript.ending.shift lines := by
  induction lexer using Lexer.scanInduction generalizing lexer' with
  | finish lexer hend =>
      have hline' : lexer'.line + lexer'.rest.count '\n' =
          lexer.line + lexer.rest.count '\n' + lines := by
        rw [hrest, hline]
        omega
      rw [transcript_of_split_nil hend, transcript_of_split_nil (hrest ▸ hend), hline']
      exact ⟨.nil, rfl⟩
  | step lexer trivia c cs hsplit ih =>
      let behind' := lexer'.behind trivia (c :: cs)
      have hname : behind'.filename = (lexer.behind trivia (c :: cs)).filename := hfilename
      have hbehind : behind'.line = (lexer.behind trivia (c :: cs)).line + lines := by
        rw [Lexer.line_behind, Lexer.line_behind, hline]
        omega
      have hline' : lexer'.line + trivia.count '\n' = lexer.line + trivia.count '\n' + lines := by
        omega
      obtain ⟨houtcomes, hending⟩ := ih hname rfl hbehind
      have hsplit' : Trivia.split false lexer'.rest = (trivia, c :: cs) := hrest ▸ hsplit
      rw [transcript_of_split_cons hsplit, transcript_of_split_cons hsplit', hfilename, hline']
      exact ⟨.cons (.outcome _) houtcomes, hending⟩

private theorem transcript_congr {lexer lexer' : Lexer}
    (hfilename : lexer'.filename = lexer.filename)
    (hrest : lexer'.rest = lexer.rest) (hline : lexer'.line = lexer.line) :
    (text lexer').transcript = (text lexer).transcript := by
  obtain ⟨houtcomes, hending⟩ := @transcript_shift lexer lexer' 0 hfilename hrest hline
  have hsame : List.Forall₂ Eq (text lexer).transcript.outcomes
      (text lexer').transcript.outcomes := houtcomes.imp fun _ _ h => h.eq
  rw [List.forall₂_eq_eq_eq] at hsame
  have hend : (text lexer').transcript.ending = (text lexer).transcript.ending := by
    simpa [Token.shift] using hending
  rw [Transcript.mk.injEq]
  exact ⟨hsame.symm, hend⟩

private theorem transcript_skipTrivia (lexer : Lexer) :
    (text lexer.skipTrivia).transcript = (text lexer).transcript := by
  rcases hsplit : Trivia.split false lexer.rest with ⟨trivia, _ | ⟨c, cs⟩⟩
  · have hend : (Trivia.split false lexer.rest).2 = [] := by rw [hsplit]
    have hwhole : trivia = lexer.rest := by
      simpa [hsplit] using Trivia.append_split false lexer.rest
    have hskip : lexer.skipTrivia = lexer.past trivia [] := by
      simp only [Lexer.skipTrivia, hsplit]
    rw [transcript_of_split_nil hend, hskip, transcript_of_split_nil rfl, ← hwhole]
    rfl
  · obtain ⟨hblank, hcomment⟩ := Trivia.split_eq_cons hsplit
    have hskip : lexer.skipTrivia = lexer.past trivia (c :: cs) := by
      simp only [Lexer.skipTrivia, hsplit]
    have hsplit' : Trivia.split false (lexer.past trivia (c :: cs)).rest = ([], c :: cs) :=
      Trivia.split_of_no_trivia hblank hcomment
    rw [transcript_of_split_cons hsplit, hskip, transcript_of_split_cons hsplit', Lexer.behind,
      Lexer.past_past]
    rfl

private theorem transcript_of_append {front back whole : Lexer}
    (hname : whole.filename = front.filename)
    (hrest : whole.rest = front.rest ++ '\n' :: back.rest) (hline : whole.line = front.line)
    (hback : back.filename = front.filename)
    (hnext : back.line = front.line + front.rest.count '\n' + 1) :
    (text whole).transcript =
      ⟨(text front).transcript.outcomes ++ (text back).transcript.outcomes,
        (text back).transcript.ending⟩ := by
  induction front using Lexer.scanInduction generalizing whole with
  | finish front hend =>
      have hsplit := Trivia.split_append_of_nil hend back.rest
      rw [← hrest] at hsplit
      have hsame : (text whole.skipTrivia).transcript = (text back.skipTrivia).transcript := by
        apply transcript_congr
        · exact hname.trans hback.symm
        · simp only [Lexer.skipTrivia, Lexer.past, hsplit]
        · simp only [Lexer.skipTrivia, Lexer.past, hsplit, List.count_append, List.count_cons_self]
          omega
      rw [← transcript_skipTrivia whole, hsame, transcript_skipTrivia, transcript_of_split_nil hend]
      rfl
  | step front trivia c cs hsplit ih =>
      have hsplit' := Trivia.split_append_of_cons hsplit back.rest
      rw [← hrest, List.cons_append] at hsplit'
      have hscan : Scan.front (c :: (cs ++ '\n' :: back.rest)) =
          (Scan.front (c :: cs)).extend ('\n' :: back.rest) :=
        Scan.front_append Text.isBlank_newline (fun _ _ _ => rfl) back.rest
      let front' := front.behind trivia (c :: cs)
      let whole' := whole.behind trivia (c :: (cs ++ '\n' :: back.rest))
      have hname' : whole'.filename = front'.filename := hname
      have hrest' : whole'.rest = front'.rest ++ '\n' :: back.rest := by
        rw [Lexer.rest_behind, Lexer.rest_behind, hscan,
          Scan.rest_extend _ (Scan.front_ne_finished c cs)]
      have hline' : whole'.line = front'.line := by
        rw [Lexer.line_behind, Lexer.line_behind, hscan, Scan.taken_extend, hline]
      have hnext' : back.line = front'.line + front'.rest.count '\n' + 1 := by
        have hlines := congrArg (List.count '\n') (Lexer.rest_of_split_cons hsplit)
        have hfront := front.line_behind trivia (c :: cs)
        rw [List.count_append, List.count_append] at hlines
        change back.line = (front.behind trivia (c :: cs)).line +
          (front.behind trivia (c :: cs)).rest.count '\n' + 1
        omega
      have hlater := ih hname' hrest' hline' hback hnext'
      rw [transcript_of_split_cons hsplit, transcript_of_split_cons hsplit', hlater, hscan,
        Scan.outcome_extend, hname, hline]
      rfl

end Source

/-- With a line feed between two texts, all outcomes of the first come first. Those of the second
and its end follow, as many lines further down as the first text and the line feed take up. -/
theorem transcript_append_newline (filename front back : String) :
    ∃ later, lex filename (front ++ "\n" ++ back) =
        ⟨(lex filename front).outcomes ++ later,
          (lex filename back).ending.shift (front.toList.count '\n' + 1)⟩ ∧
      List.Forall₂ (Shifted filename (front.toList.count '\n' + 1))
        (lex filename back).outcomes later := by
  let start : Lexer := .ofString filename back
  let second : Lexer := { start with line := start.line + (front.toList.count '\n' + 1) }
  have hrest : (front ++ "\n" ++ back).toList = front.toList ++ '\n' :: back.toList := by
    simp
  have hwhole : lex filename (front ++ "\n" ++ back) =
      ⟨(lex filename front).outcomes ++ (Source.text second).transcript.outcomes,
        (Source.text second).transcript.ending⟩ :=
    Source.transcript_of_append rfl hrest rfl rfl (Nat.add_assoc _ _ _).symm
  obtain ⟨houtcomes, hending⟩ := @Source.transcript_shift start second _ rfl rfl rfl
  refine ⟨(Source.text second).transcript.outcomes, ?_, houtcomes⟩
  rw [hwhole, hending]
  rfl

end OnePass
