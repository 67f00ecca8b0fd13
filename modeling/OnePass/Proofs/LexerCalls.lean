import OnePass.Proofs.Lexing.Characters
import OnePass.Proofs.MaximalMunch
/-!
# A lexer under any calls

The operations of a lexer may be called in any order, also behind calls that fail. Whatever has been
called, the lexer stands in its text on the right line and has not moved back, and of its operations
only two fail: reading a single character, at the end of the text, and reading a token, at a string
that is not closed. The loops that read character by character are refused nothing.
-/
namespace OnePass

/-- A token as it is written: a string stands between quotes. -/
def Token.written (token : Token) : List Char :=
  if token.kind = .stringConstant then Scan.quote :: token.text.toList ++ [Scan.quote]
  else token.text.toList

/-- A token is written in a text between two positions. It is on the line of its first character and
does not go beyond that line. -/
structure Token.Spans (token : Token) (text : String) (start stop : Nat) : Prop where
  written : text.toList.drop start = token.written ++ text.toList.drop stop
  stop_eq : stop = start + token.written.length
  line : token.line = ↑(1 + (text.toList.take start).count '\n')
  unbroken : '\n' ∉ token.text.toList

namespace Lexeme

private theorem unbroken_of_mem_tables :
    ∀ entry ∈ Kind.keywords ++ Kind.symbols, '\n' ∉ entry.1.toList := by
  decide +kernel

private theorem unbroken (lexeme : Lexeme) : '\n' ∉ lexeme.text := by
  intro hmem
  cases lexeme with
  | fixed entry hentry => exact unbroken_of_mem_tables entry hentry hmem
  | name first others hfirst hothers hword =>
      rcases List.mem_cons.mp hmem with heq | hmem
      · exact absurd (heq ▸ hfirst) (by decide +kernel)
      · exact absurd (hothers _ hmem) (by decide +kernel)
  | number whole fraction =>
      have hdigit : ∀ digits : Digits, '\n' ∉ digits.text :=
        fun digits hmem => absurd (digits.digits _ hmem) (by decide +kernel)
      cases fraction with
      | none => simp [text, Digits.fraction, hdigit] at hmem
      | some digits => simp [text, Digits.fraction, hdigit] at hmem
  | string body hbody => exact absurd (hbody _ hmem) (by decide)
  | illegal c hblank =>
      have hc : '\n' = c := List.mem_singleton.mp hmem
      rw [← hc, Text.isBlank_newline] at hblank
      cases hblank

private theorem written (lexeme : Lexeme) (line : Int) :
    (Token.mk lexeme.kind (String.ofList lexeme.text) line).written = lexeme.spelling := by
  cases lexeme with
  | fixed entry hentry =>
      have hkind : entry.2 ≠ .stringConstant :=
        Kind.ne_of_spelling?_eq_none hentry (by decide)
      simp [Token.written, kind, text, spelling, hkind]
  | name | number | string | illegal => simp [Token.written, kind, text, spelling]

end Lexeme

theorem Munch.written {cs trivia : List Char} {scan : Scan} (h : Munch cs trivia scan)
    {filename : String} {line : Nat} {token : Token}
    (houtcome : scan.outcome filename line = .ok token) :
    token.written = scan.taken ∧ token.line = line ∧ '\n' ∉ token.text.toList := by
  have hsplit := h.longest.split_eq
  have hfound := h.found
  cases hfound with
  | finished =>
      cases houtcome
      exact ⟨rfl, rfl, by simp [Token.endOfFile]⟩
  | @closed body rest _ hbody =>
      cases houtcome
      refine ⟨(Lexeme.string body hbody).written line, rfl, ?_⟩
      rw [String.toList_ofList]
      exact (Lexeme.string body hbody).unbroken
  | unclosed => cases houtcome
  | @longest lexeme =>
      cases houtcome
      exact ⟨lexeme.written line, rfl, by simpa using lexeme.unbroken⟩
  | @illegal c rest =>
      cases houtcome
      have hblank := (Trivia.split_eq_cons hsplit).1
      refine ⟨by simp [Token.written, Scan.taken], rfl, ?_⟩
      rw [String.toList_ofList, List.mem_singleton]
      rintro rfl
      rw [Text.isBlank_newline] at hblank
      cases hblank

namespace Lexer

/-- An operation of a lexer. -/
inductive Call where
  | peek | advance | skipTrivia | skipComment | matchSymbol | next
  deriving DecidableEq, Repr

/-- What a call hands back. -/
inductive Reply where
  | nothing
  | character (c? : Option Char)
  | token (token? : Option Token)
  deriving DecidableEq, Repr

/-- What the operation hands back, and the lexer it leaves. -/
def Call.answer (lexer : Lexer) : Call → Except Interruption Reply × Lexer
  | .peek => (.ok (.character lexer.peek), lexer)
  | .advance =>
    ((lexer.advance.1.map fun c => .character (some c)).mapError .refused, lexer.advance.2)
  | .skipTrivia => (.ok .nothing, lexer.skipTrivia)
  | .skipComment => (.ok .nothing, lexer.skipComment)
  | .matchSymbol => (.ok (.token lexer.matchSymbol.1), lexer.matchSymbol.2)
  | .next => ((lexer.next.1.map fun token => .token (some token)).mapError .failed, lexer.next.2)

/-- The operation in loops that read one character at a time. -/
def Call.loops : Call → Reading Reply
  | .peek => return .character (← get).peek
  | .advance => return .character (some (← read))
  | .skipTrivia => do readTrivia; return .nothing
  | .skipComment => do readComment; return .nothing
  | .matchSymbol => return .token (← readSymbol)
  | .next => return .token (some (← readToken))

/-- The lexer after the calls, whether they fail or not. -/
def afterCalls (lexer : Lexer) (calls : List Call) : Lexer :=
  calls.foldl (fun lexer call => (call.answer lexer).2) lexer

/-- What a reading comes to, and the lexer it leaves. -/
def ending {α : Type} : EStateM.Result Interruption Lexer α → Except Interruption α × Lexer
  | .ok a later => (.ok a, later)
  | .error interruption later => (.error interruption, later)

private theorem ending_loops (call : Call) (lexer : Lexer) :
    ending (call.loops lexer) = call.answer lexer := by
  cases call with
  | peek => rfl
  | advance =>
      change ending (EStateM.bind read _ lexer) = _
      simp only [EStateM.bind, read, Call.answer]
      rcases lexer.advance with ⟨refusal | c, later⟩ <;> rfl
  | skipTrivia => rw [Call.loops, bind_of_ok (readTrivia_eq lexer)]; rfl
  | skipComment => rw [Call.loops, bind_of_ok (readComment_eq lexer)]; rfl
  | matchSymbol => rw [Call.loops, bind_of_ok (readSymbol_eq lexer)]; rfl
  | next =>
      change ending (EStateM.bind readToken _ lexer) = _
      simp only [EStateM.bind, readToken_eq, Call.answer]
      rcases lexer.next with ⟨failure | token, later⟩ <;> rfl

variable {lexer : Lexer} {filename text : String}

/-! ### One call -/

private theorem exists_taken_answer (call : Call) (lexer : Lexer) :
    ∃ taken rest, lexer.rest = taken ++ rest ∧ (call.answer lexer).2 = lexer.past taken rest := by
  cases call with
  | peek => exact ⟨[], lexer.rest, rfl, rfl⟩
  | advance =>
      cases hrest : lexer.rest with
      | nil => exact ⟨[], [], rfl, by simp [Call.answer, advance, hrest, past_nil_of_rest_eq]⟩
      | cons c rest => exact ⟨[c], rest, rfl, by simp [Call.answer, advance, hrest]⟩
  | skipTrivia => exact ⟨_, _, (Trivia.append_split false lexer.rest).symm, rfl⟩
  | skipComment => exact ⟨_, _, List.takeWhile_append_dropWhile.symm, rfl⟩
  | matchSymbol =>
      rcases lexer.matchSymbol_eq with ⟨-, hmatch⟩ | ⟨kind, taken, rest, hsymbol, hmatch⟩
      · exact ⟨[], lexer.rest, rfl, by simp only [Call.answer, hmatch, past_nil]⟩
      · exact ⟨taken, rest, (Scan.taken_append_rest_symbol? hsymbol).symm,
          by simp only [Call.answer, hmatch]⟩
  | next =>
      obtain ⟨trivia, scan, hmunch, hnext⟩ := lexer.exists_munch
      exact ⟨trivia ++ scan.taken, scan.rest, by rw [hmunch.whole, List.append_assoc],
        by simp only [Call.answer, hnext]⟩

/-- The lexer stands at its position in the text, which is not beyond the end. -/
structure Inside (lexer : Lexer) (filename text : String) : Prop
    extends lexer.StandsIn filename text where
  length_eq : lexer.position + lexer.rest.length = text.length

theorem Inside.start (filename text : String) : (ofString filename text).Inside filename text :=
  ⟨.start filename text, by simp [ofString, String.length_toList]⟩

private theorem Inside.answer (h : lexer.Inside filename text) (call : Call) :
    (call.answer lexer).2.Inside filename text ∧
      lexer.position ≤ (call.answer lexer).2.position := by
  obtain ⟨taken, rest, hrest, hanswer⟩ := exists_taken_answer call lexer
  have hlength := h.length_eq
  rw [hrest, List.length_append] at hlength
  rw [hanswer]
  refine ⟨⟨h.toStandsIn.past hrest, ?_⟩, Nat.le_add_right ..⟩
  simp only [past]
  omega

private theorem Inside.position_le (h : lexer.Inside filename text) :
    lexer.position ≤ text.length := by
  have hlength := h.length_eq
  omega

private theorem Inside.rest_eq_nil (h : lexer.Inside filename text) :
    lexer.rest = [] ↔ lexer.position = text.length := by
  have hlength := h.length_eq
  rw [← List.length_eq_zero_iff]
  omega

private theorem advance_eq_error {refusal : Text.Stream.Refusal} :
    lexer.advance.1 = .error refusal ↔
      refusal = .pastEnd lexer.position lexer.line ∧ lexer.rest = [] := by
  cases hrest : lexer.rest <;> simp [advance, hrest, eq_comm]

private theorem Inside.refused_iff (h : lexer.Inside filename text) (call : Call) :
    (∃ refusal, (call.answer lexer).1 = .error (.refused refusal)) ↔
      call = .advance ∧ lexer.position = text.length := by
  rw [← h.rest_eq_nil]
  cases call with
  | advance =>
      cases hrest : lexer.rest <;> simp [Call.answer, advance, hrest, Except.map, Except.mapError]
  | next =>
      rcases hnext : lexer.next with ⟨failure | token, later⟩ <;>
        simp [Call.answer, hnext, Except.map, Except.mapError]
  | peek | skipTrivia | skipComment | matchSymbol => simp [Call.answer]

theorem next_cases (lexer : Lexer) :
    (lexer.next.2.rest = [] ∧ lexer.next.1 = .ok (.endOfFile lexer.next.2.line)) ∨
      (lexer.position < lexer.next.2.position ∧
        ∀ token, lexer.next.1 = .ok token → token.kind ≠ .endOfFile) := by
  rcases hsplit : Trivia.split false lexer.rest with ⟨trivia, _ | ⟨c, cs⟩⟩
  · have hend : (Trivia.split false lexer.rest).2 = [] := by rw [hsplit]
    have hwhole := Trivia.append_split false lexer.rest
    rw [hend, List.append_nil] at hwhole
    rw [next_of_split_nil hend]
    exact .inl ⟨hend, by simp only [skipTrivia, past, hwhole]⟩
  · have htaken := List.length_pos_iff.mpr (Scan.taken_ne_nil_of_front c cs)
    rw [next_of_split_cons hsplit]
    refine .inr ⟨?_, ?_⟩
    · simp only [behind, past, List.length_append]
      omega
    · intro token hoc hkind
      cases hfront : Scan.front (c :: cs) with
      | finished => exact Scan.front_ne_finished c cs hfront
      | token kind text taken rest =>
          rw [hfront] at hoc
          cases hoc
          exact Scan.kind_ne_endOfFile hfront hkind
      | unterminated taken rest =>
          rw [hfront] at hoc
          cases hoc

/-! ### The head of the lexer -/

/-- The reading head on the text that stands where the lexer does. -/
def head (lexer : Lexer) (text : String) : Text.Stream :=
  ⟨text.toList, lexer.position, lexer.line⟩

/-- The lexer gives the characters that its head gives: those some places ahead, and, in a text
whose places can be counted, the next one, over which both move. -/
structure ReadsByHead (lexer : Lexer) (text : String) : Prop where
  peek_eq : ∀ offset : Nat, (lexer.head text).peek offset = lexer.peekAt offset
  next_eq : Text.IsIndex text.length →
    (lexer.head text).next = (lexer.advance.1, lexer.advance.2.head text)

private theorem charAt?_natCast (stream : Text.Stream) (index : Nat) :
    stream.charAt? index = stream.source[index]? := by
  have hnatural : ¬ (index : Int) < 0 := by omega
  unfold Text.Stream.charAt?
  rw [if_neg hnatural]
  exact if_neg hnatural

private theorem StandsIn.peek_head (h : lexer.StandsIn filename text) (offset : Nat) :
    (lexer.head text).peek offset = lexer.peekAt offset := by
  have hindex : (lexer.position : Int) + offset = ↑(lexer.position + offset) := by omega
  rw [Text.Stream.peek, peekAt, ← h.rest, List.getElem?_drop]
  simp only [head, hindex, Int.toNat_natCast]
  exact if_neg (by omega)

private theorem Inside.next_head (h : lexer.Inside filename text)
    (hindex : Text.IsIndex text.length) :
    (lexer.head text).next = (lexer.advance.1, lexer.advance.2.head text) := by
  have hlength := h.length_eq
  cases hrest : lexer.rest with
  | nil =>
      have hend : (lexer.head text).atEnd = true := by
        simp [head, Text.Stream.atEnd, String.length_toList, h.rest_eq_nil.mp hrest]
      rw [Text.Stream.next_of_atEnd hend]
      simp only [advance, hrest]
      rfl
  | cons c rest =>
      rw [hrest, List.length_cons] at hlength
      have hsome : ¬ (lexer.head text).atEnd = true := by
        simp only [head, Text.Stream.atEnd, String.length_toList, decide_eq_true_eq]
        omega
      have hposition : Text.IsIndex (lexer.head text).position := by
        simp only [Text.IsIndex, head] at hindex ⊢
        omega
      have hchar : (lexer.head text).charAt? (lexer.head text).position = some c := by
        have hget : text.toList[lexer.position]? = some c := by
          rw [← List.head?_drop, h.rest, hrest, List.head?_cons]
        exact (charAt?_natCast _ _).trans hget
      rw [Text.Stream.next, if_neg hsome, if_neg (not_not.mpr hposition), hchar]
      by_cases hc : c = '\n'
      · simp [advance, hrest, head, past, hc]
      · simp [advance, hrest, head, past, hc]

private theorem Inside.readsByHead (h : lexer.Inside filename text) : lexer.ReadsByHead text where
  peek_eq := h.toStandsIn.peek_head
  next_eq := h.next_head

private theorem StandsIn.spans (h : lexer.StandsIn filename text) (token : Token) {rest : List Char}
    (hrest : lexer.rest = token.written ++ rest) (hline : token.line = lexer.line)
    (hunbroken : '\n' ∉ token.text.toList) :
    token.Spans text lexer.position (lexer.past token.written rest).position where
  written := by rw [h.rest, hrest, (h.past hrest).rest]; rfl
  stop_eq := rfl
  line := by rw [hline, h.line]
  unbroken := hunbroken

theorem StandsIn.spans_next (h : lexer.StandsIn filename text) {token : Token}
    (hnext : lexer.next.1 = .ok token) :
    ∃ start, lexer.position ≤ start ∧ token.Spans text start lexer.next.2.position := by
  obtain ⟨trivia, scan, hmunch, heq⟩ := lexer.exists_munch
  rw [heq] at hnext
  obtain ⟨hwritten, hline, hunbroken⟩ := hmunch.written hnext
  refine ⟨lexer.position + trivia.length, Nat.le_add_right .., ?_⟩
  have hspans := (h.past hmunch.whole).spans token (congrArg (· ++ scan.rest) hwritten.symm) hline
    hunbroken
  rw [past_past, hwritten] at hspans
  rw [heq]
  exact hspans

private theorem StandsIn.spans_matchSymbol (h : lexer.StandsIn filename text) {token : Token}
    (hmatch : lexer.matchSymbol.1 = some token) :
    token.Spans text lexer.position lexer.matchSymbol.2.position := by
  rcases lexer.matchSymbol_eq with ⟨-, heq⟩ | ⟨kind, taken, rest, hsymbol, heq⟩
  · rw [heq] at hmatch
    cases hmatch
  · obtain ⟨lexeme, rest', -, hscan⟩ := Scan.exists_lexeme_symbol hsymbol
    have hrest : lexer.rest = taken ++ rest := (Scan.taken_append_rest_symbol? hsymbol).symm
    rw [heq] at hmatch ⊢
    cases hmatch
    injection hscan with hkind htext htaken
    have hwritten : (Token.mk kind (String.ofList taken) lexer.line).written = taken := by
      rw [hkind, htext, lexeme.written, ← htaken, htext]
    have hunbroken : '\n' ∉ (String.ofList taken).toList := by
      rw [String.toList_ofList, htext]
      exact lexeme.unbroken
    have hspans := h.spans _ (hrest.trans (congrArg (· ++ rest) hwritten.symm)) rfl hunbroken
    rwa [hwritten] at hspans

private theorem StandsIn.outcome (h : lexer.StandsIn filename text) (call : Call) :
    match (call.answer lexer).1 with
    | .ok (.token (some token)) =>
      ∃ start, lexer.position ≤ start ∧ token.Spans text start (call.answer lexer).2.position
    | .ok _ => True
    | .error (.refused refusal) => refusal = .pastEnd lexer.position lexer.line
    | .error (.failed failure) =>
      call = .next ∧ ∃ line, failure = unterminatedString filename line := by
  cases call with
  | peek | skipTrivia | skipComment => trivial
  | advance =>
      cases hadvance : lexer.advance.1 with
      | error refusal =>
          simp only [Call.answer, hadvance]
          exact (advance_eq_error.mp hadvance).1
      | ok c => simp only [Call.answer, hadvance]; trivial
  | matchSymbol =>
      cases hmatch : lexer.matchSymbol.1 with
      | none => simp only [Call.answer, hmatch]
      | some token =>
          simp only [Call.answer, hmatch]
          exact ⟨lexer.position, Nat.le_refl _, h.spans_matchSymbol hmatch⟩
  | next =>
      cases hnext : lexer.next.1 with
      | ok token =>
          simp only [Call.answer, hnext]
          exact h.spans_next hnext
      | error failure =>
          simp only [Call.answer, hnext]
          obtain ⟨trivia, scan, -, heq⟩ := lexer.exists_munch
          rw [heq] at hnext
          cases scan with
          | finished | token => cases hnext
          | unterminated taken rest =>
              cases hnext
              exact ⟨trivial, _, by rw [h.filename]⟩

/-! ### Any number of calls -/

private theorem Inside.afterCalls (h : lexer.Inside filename text) (calls : List Call) :
    (lexer.afterCalls calls).Inside filename text := by
  induction calls generalizing lexer with
  | nil => exact h
  | cons call calls ih => exact ih (h.answer call).1

theorem Inside.count_le (h : lexer.Inside filename text) (calls : List Call) :
    min text.length (lexer.position + calls.count .next) ≤
      (lexer.afterCalls calls).position := by
  induction calls generalizing lexer with
  | nil => exact Nat.min_le_right ..
  | cons call calls ih =>
      obtain ⟨hinside, hle⟩ := h.answer call
      have hcalls := ih hinside
      change _ ≤ ((call.answer lexer).2.afterCalls calls).position
      by_cases hnext : call = .next
      · subst hnext
        have hinside : lexer.next.2.Inside filename text := hinside
        have hprogress : lexer.position < lexer.next.2.position ∨
            lexer.next.2.position = text.length := by
          rcases lexer.next_cases with ⟨hnil, -⟩ | ⟨hlt, -⟩
          · exact .inr (hinside.rest_eq_nil.mp hnil)
          · exact .inl hlt
        rw [List.count_cons_self]
        simp only [Call.answer] at hcalls
        simp only [Call.answer]
        omega
      · rw [List.count_cons_of_ne hnext]
        omega

private theorem answer_of_rest_eq_nil (h : lexer.rest = []) (call : Call) :
    (call.answer lexer).2 = lexer := by
  obtain ⟨taken, rest, hrest, hanswer⟩ := exists_taken_answer call lexer
  rw [h] at hrest
  obtain ⟨rfl, rfl⟩ := List.append_eq_nil_iff.mp hrest.symm
  rw [hanswer, past_nil_of_rest_eq h]

private theorem afterCalls_of_rest_eq_nil (h : lexer.rest = []) (calls : List Call) :
    lexer.afterCalls calls = lexer := by
  induction calls with
  | nil => rfl
  | cons call calls ih =>
      change (call.answer lexer).2.afterCalls calls = lexer
      rw [answer_of_rest_eq_nil h, ih]

theorem next_of_rest_eq_nil (h : lexer.rest = []) :
    lexer.next = (.ok (.endOfFile lexer.line), lexer) := by
  have hskip : lexer.skipTrivia = lexer := by
    rw [skipTrivia, h]
    exact past_nil_of_rest_eq h
  rw [next, hskip, token_of_rest_eq_nil h]

/-- The next call for a token comes to the end of the text, and so does every later one, whatever
is called before it. -/
structure Finishes (lexer : Lexer) (text : String) : Prop where
  token_eq : lexer.next.1 = .ok (.endOfFile lexer.next.2.line)
  position_eq : lexer.next.2.position = text.length
  stays : ∀ more, (lexer.next.2.afterCalls more).next = lexer.next

private theorem Inside.finishes (h : lexer.Inside filename text) :
    lexer.Finishes text ∨ lexer.position < lexer.next.2.position ∧
      ∀ token, lexer.next.1 = .ok token → token.kind ≠ .endOfFile := by
  rcases lexer.next_cases with ⟨hnil, htoken⟩ | hnext
  · have hinside : lexer.next.2.Inside filename text := (h.answer .next).1
    refine .inl ⟨htoken, hinside.rest_eq_nil.mp hnil, fun more => ?_⟩
    rw [afterCalls_of_rest_eq_nil hnil, next_of_rest_eq_nil hnil, ← htoken]
  · exact .inr hnext

/-- Whatever has been called on a lexer of a text before, failures included, the next call keeps it
in the text and on the line that the line feeds before its position make up, and does not move it
back. It gives single characters as a reading head does that stands where it stands. The call does
what the loops of it do that read one character at a time. It is refused only as a request for one
character at the end of the text, and fails only as one for a token. A token is written between the
positions and on the line of its first character. A call for a token moves on or comes to the end,
where it stays, and it does so once there have been as many as characters. -/
theorem calls_safe (filename text : String) (before : List Call) (call : Call) :
    let lexer := (ofString filename text).afterCalls before
    let later := (call.answer lexer).2
    lexer.StandsIn filename text ∧ later.StandsIn filename text ∧ lexer.ReadsByHead text ∧
    lexer.position ≤ later.position ∧ later.position ≤ text.length ∧
    ending (call.loops lexer) = call.answer lexer ∧
    ((∃ refusal, (call.answer lexer).1 = .error (.refused refusal)) ↔
      call = .advance ∧ lexer.position = text.length) ∧
    (match (call.answer lexer).1 with
    | .ok (.token (some token)) =>
      ∃ start, lexer.position ≤ start ∧ token.Spans text start later.position
    | .ok _ => True
    | .error (.refused refusal) => refusal = .pastEnd lexer.position lexer.line
    | .error (.failed failure) =>
      call = .next ∧ ∃ line, failure = unterminatedString filename line) ∧
    (lexer.Finishes text ∨ lexer.position < lexer.next.2.position) ∧
    (lexer.Finishes text ∨ before.count .next < text.length) ∧
    (lexer.Finishes text ↔ ∃ token, lexer.next.1 = .ok token ∧ token.kind = .endOfFile) := by
  intro lexer later
  have hlexer : lexer.Inside filename text := (Inside.start filename text).afterCalls before
  obtain ⟨hlater, hle⟩ : later.Inside filename text ∧ lexer.position ≤ later.position :=
    hlexer.answer call
  have hcount : min text.length (0 + before.count .next) ≤ lexer.position :=
    (Inside.start filename text).count_le before
  refine ⟨hlexer.toStandsIn, hlater.toStandsIn, hlexer.readsByHead, hle, hlater.position_le,
    ending_loops call lexer, ?refused, ?outcome, ?progress, ?bound, ?finish⟩
  case refused => exact hlexer.refused_iff call
  case outcome => exact hlexer.toStandsIn.outcome call
  case progress => exact hlexer.finishes.imp_right And.left
  case bound =>
    refine hlexer.finishes.imp_right fun hnext => ?_
    have hnextLe : lexer.next.2.position ≤ text.length := (hlexer.answer .next).1.position_le
    have hlt := hnext.1
    omega
  case finish =>
    constructor
    · exact fun hfinish => ⟨_, hfinish.token_eq, rfl⟩
    · rintro ⟨token, htoken, hkind⟩
      exact hlexer.finishes.resolve_right fun hnext => hnext.2 token htoken hkind

end Lexer

end OnePass
