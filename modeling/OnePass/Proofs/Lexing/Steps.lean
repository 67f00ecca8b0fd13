import Mathlib.Data.List.Forall2
import OnePass.Proofs.Lexing.Transcript
/-!
# Transcripts of texts

A text is lexed scan by scan, and trivia may stand in front of each. What is handed out for a scan
depends on the line that it starts on. The text ends where nothing but trivia is left.
-/
namespace OnePass

namespace Kind

theorem mem_of_lookup {table : List (String × Kind)} {spelling : String} {kind : Kind}
    (h : table.lookup spelling = some kind) : (spelling, kind) ∈ table := by
  obtain ⟨front, back, rfl, -⟩ := List.lookup_eq_some_iff.mp h
  simp

private theorem ne_endOfFile_of_keyword? {word : String} {kind : Kind}
    (h : keyword? word = some kind) :
    kind ≠ .endOfFile :=
  ne_of_spelling?_eq_none (List.mem_append_left _ (mem_of_lookup h)) (by decide)

private theorem ne_endOfFile_of_symbol? {spelling : String} {kind : Kind}
    (h : symbol? spelling = some kind) : kind ≠ .endOfFile :=
  ne_of_spelling?_eq_none (List.mem_append_right _ (mem_of_lookup h)) (by decide)

end Kind

namespace Scan

/-- What is handed out for a scan that starts on the given line. -/
def outcome (filename : String) (line : Nat) : Scan → Except Failure Token
  | .finished => .ok (.endOfFile line)
  | .token kind text _ _ => .ok ⟨kind, String.ofList text, line⟩
  | .unterminated _ _ => .error (Lexer.unterminatedString filename line)

variable {cs text taken rest : List Char} {kind : Kind}

private theorem kind_ne_of_word (h : word cs = .token kind text taken rest) :
    kind ≠ .endOfFile := by
  cases h
  cases hword : Kind.keyword? (String.ofList (cs.takeWhile isNamePart)) with
  | none => simp
  | some keyword => exact Kind.ne_endOfFile_of_keyword? hword

private theorem kind_ne_of_string (h : string cs = .token kind text taken rest) :
    kind ≠ .endOfFile := by
  unfold string at h
  split at h
  · cases h
  · split at h
    · cases h
      simp
    · cases h

private theorem kind_ne_of_symbol? (h : symbol? cs = some (.token kind text taken rest)) :
    kind ≠ .endOfFile := by
  obtain ⟨size, -, hsize⟩ := List.exists_of_findSome?_eq_some h
  obtain ⟨symbol, hkind, hscan⟩ := Option.map_eq_some_iff.mp hsize
  cases hscan
  exact Kind.ne_endOfFile_of_symbol? hkind

theorem kind_ne_endOfFile (h : front cs = .token kind text taken rest) : kind ≠ .endOfFile := by
  unfold front at h
  split at h
  · cases h
  next c cs =>
    split at h
    · exact kind_ne_of_word h
    · split at h
      · cases h
        simp
      · split at h
        · exact kind_ne_of_string h
        · cases hsymbol : symbol? (c :: cs) with
          | none =>
              rw [hsymbol] at h
              cases h
              simp
          | some scan =>
              rw [hsymbol] at h
              exact kind_ne_of_symbol? (hsymbol.trans (congrArg some h))

theorem front_ne_finished (c : Char) (cs : List Char) : front (c :: cs) ≠ .finished := by
  intro h
  have htaken := taken_ne_nil_of_front c cs
  rw [h] at htaken
  exact htaken rfl

end Scan

namespace Lexer

/-- The lexer behind the scan of the text `cs`, in front of which `trivia` stands. -/
def behind (lexer : Lexer) (trivia cs : List Char) : Lexer :=
  lexer.past (trivia ++ (Scan.front cs).taken) (Scan.front cs).rest

@[simp] theorem rest_behind (lexer : Lexer) (trivia cs : List Char) :
    (lexer.behind trivia cs).rest = (Scan.front cs).rest := rfl

@[simp] theorem line_behind (lexer : Lexer) (trivia cs : List Char) :
    (lexer.behind trivia cs).line =
      lexer.line + (trivia.count '\n' + (Scan.front cs).taken.count '\n') := by
  simp [behind, past]

theorem token_of_ne_nil {lexer : Lexer} (h : lexer.rest ≠ []) :
    lexer.token = ((Scan.front lexer.rest).outcome lexer.filename lexer.line,
      lexer.past (Scan.front lexer.rest).taken (Scan.front lexer.rest).rest) := by
  unfold token
  split
  next hscan =>
    obtain ⟨c, cs, hrest⟩ := List.exists_cons_of_ne_nil h
    rw [hrest] at hscan
    exact absurd hscan (Scan.front_ne_finished c cs)
  next kind text taken rest hscan =>
    rw [hscan]
    rfl
  next taken rest hscan =>
    rw [hscan]
    rfl

theorem next_of_split_nil {lexer : Lexer} (h : (Trivia.split false lexer.rest).2 = []) :
    lexer.next =
      (.ok (.endOfFile ↑(lexer.line + lexer.rest.count '\n')), lexer.skipTrivia) := by
  have hwhole := Trivia.append_split false lexer.rest
  rw [h, List.append_nil] at hwhole
  have hrest : lexer.skipTrivia.rest = [] := h
  have hline : lexer.skipTrivia.line = lexer.line + lexer.rest.count '\n' := by
    simp only [skipTrivia, past, hwhole]
  rw [next, token_of_rest_eq_nil hrest, hline]

theorem next_of_split_cons {lexer : Lexer} {trivia cs : List Char} {c : Char}
    (h : Trivia.split false lexer.rest = (trivia, c :: cs)) :
    lexer.next = ((Scan.front (c :: cs)).outcome lexer.filename (lexer.line + trivia.count '\n'),
      lexer.behind trivia (c :: cs)) := by
  have hskip : lexer.skipTrivia = lexer.past trivia (c :: cs) := by
    simp only [skipTrivia, h]
  have hrest : (lexer.past trivia (c :: cs)).rest ≠ [] := List.cons_ne_nil c cs
  rw [next, hskip, token_of_ne_nil hrest, behind, ← past_past _ _ _ (c :: cs)]
  rfl

theorem rest_of_split_cons {lexer : Lexer} {trivia cs : List Char} {c : Char}
    (h : Trivia.split false lexer.rest = (trivia, c :: cs)) :
    lexer.rest =
      trivia ++ (Scan.front (c :: cs)).taken ++ (lexer.behind trivia (c :: cs)).rest := by
  have hwhole := Trivia.append_split false lexer.rest
  have hscan := Scan.taken_append_rest_front (c :: cs)
  rw [h] at hwhole
  rw [← hwhole, List.append_assoc]
  exact congrArg (trivia ++ ·) hscan.symm

/-- Lexing goes on from scan to scan until nothing but trivia is left. -/
theorem scanInduction {motive : Lexer → Prop}
    (finish : ∀ lexer : Lexer, (Trivia.split false lexer.rest).2 = [] → motive lexer)
    (step : ∀ (lexer : Lexer) (trivia : List Char) (c : Char) (cs : List Char),
      Trivia.split false lexer.rest = (trivia, c :: cs) → motive (lexer.behind trivia (c :: cs)) →
        motive lexer) (lexer : Lexer) : motive lexer := by
  induction hlength : lexer.rest.length using Nat.strongRecOn generalizing lexer with
  | ind length ih =>
      rcases hsplit : Trivia.split false lexer.rest with ⟨trivia, _ | ⟨c, cs⟩⟩
      · exact finish lexer (by rw [hsplit])
      · apply step lexer trivia c cs hsplit
        apply ih _ ?_ _ rfl
        have hwhole := congrArg List.length (rest_of_split_cons hsplit)
        have htaken := List.length_pos_iff.mpr (Scan.taken_ne_nil_of_front c cs)
        rw [List.length_append, List.length_append] at hwhole
        omega

end Lexer

namespace Source

theorem transcript_of_split_nil {lexer : Lexer} (h : (Trivia.split false lexer.rest).2 = []) :
    (text lexer).transcript = ⟨[], .endOfFile ↑(lexer.line + lexer.rest.count '\n')⟩ := by
  have hnext : (text lexer).next =
      (.ok (.endOfFile ↑(lexer.line + lexer.rest.count '\n')), text lexer.skipTrivia) := by
    simp only [next, Lexer.next_of_split_nil h]
  exact transcript_of_end hnext rfl

theorem transcript_of_split_cons {lexer : Lexer} {trivia cs : List Char} {c : Char}
    (h : Trivia.split false lexer.rest = (trivia, c :: cs)) :
    (text lexer).transcript = .cons
      ((Scan.front (c :: cs)).outcome lexer.filename (lexer.line + trivia.count '\n'))
      (text (lexer.behind trivia (c :: cs))).transcript := by
  have hnext : (text lexer).next =
      ((Scan.front (c :: cs)).outcome lexer.filename (lexer.line + trivia.count '\n'),
        text (lexer.behind trivia (c :: cs))) := by
    simp only [next, Lexer.next_of_split_cons h]
  cases hscan : Scan.front (c :: cs) with
  | finished => exact absurd hscan (Scan.front_ne_finished c cs)
  | token kind text taken rest =>
      rw [hscan] at hnext
      exact transcript_of_ne_end hnext (Scan.kind_ne_endOfFile hscan)
  | unterminated taken rest =>
      rw [hscan] at hnext
      exact transcript_of_error hnext

end Source

/-- What comes of a text under the name of a file. -/
def lex (filename text : String) : Transcript :=
  (Source.text (.ofString filename text)).transcript

end OnePass
