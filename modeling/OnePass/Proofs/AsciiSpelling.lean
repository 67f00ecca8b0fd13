import OnePass.Proofs.Derivation.Delivery
import OnePass.Proofs.Lexing.Alphabets
import OnePass.Proofs.Lexing.Portions
/-!
# What names and numbers are written with

The language wants names and numbers to be within ASCII, and takes every other character outside of
comments and strings for an illegal symbol, with which no program is accepted. The lexer keeps to
this rule, but for the alphabet of all scripts. Main statement: it keeps to the rule for ASCII in
just those texts where each character beyond ASCII is blank, in a comment or a string, or an illegal
symbol.
-/
namespace OnePass

/-- A string constant, closed or not. -/
def Scan.isString : Scan → Bool
  | .finished => false
  | .token kind _ _ _ => kind = .stringConstant
  | .unterminated _ _ => true

namespace Source

private theorem mem_outcomes_of_after {lexer : Lexer} {calls : Nat} {token : Token}
    (h : (lexer.after calls).next.1 = .ok token) (hkind : token.kind ≠ .endOfFile) :
    .ok token ∈ (text lexer).transcript.outcomes := by
  induction calls generalizing lexer with
  | zero =>
      have hnext : (text lexer).next = (.ok token, text lexer.next.2) := by
        rw [next, show lexer.next.1 = .ok token from h]
      rw [transcript_of_ne_end hnext hkind]
      exact List.mem_cons_self
  | succ calls ih =>
      have hlater : (lexer.next.2.after calls).next.1 = .ok token := h
      rcases lexer.next_cases with ⟨hnil, -⟩ | ⟨-, hkinds⟩
      · -- Behind the end of the text there is nothing but the end.
        have hfixed : lexer.next.2.after calls = lexer.next.2 :=
          Function.iterate_fixed (congrArg Prod.snd (Lexer.next_of_rest_eq_nil hnil)) calls
        rw [hfixed, Lexer.next_of_rest_eq_nil hnil] at hlater
        cases hlater
        exact absurd rfl hkind
      · have hmem := ih hlater
        cases hfirst : lexer.next.1 with
        | error failure =>
            have hnext : (text lexer).next = (.error failure, text lexer.next.2) := by
              rw [next, hfirst]
            rw [transcript_of_error hnext]
            exact List.mem_cons_of_mem _ hmem
        | ok first =>
            have hnext : (text lexer).next = (.ok first, text lexer.next.2) := by
              rw [next, hfirst]
            rw [transcript_of_ne_end hnext (hkinds first hfirst)]
            exact List.mem_cons_of_mem _ hmem

end Source

namespace Analysis

private theorem rejected_of_illegal {filename text : String} {calls : Nat} {token : Token}
    (h : ((Lexer.ofString filename text).after calls).next.1 = .ok token)
    (hkind : token.kind = .illegalSymbol) (scope : Scope) (echo : Bool) :
    ∃ failure s, parse (.ofSource (.text (.ofString filename text)) (.start scope echo)) =
      .error (.rejected failure) s := by
  rcases parse_cases (.text (.ofString filename text)) (.start scope echo) with
    ⟨c, tokens, c', j', hplace, haccepts, -⟩ | ⟨c, tokens, c', j', failure, -, -, hparse⟩ |
    ⟨tokens, failure, s, hfails⟩
  · have hviable : Viable Rule.statementPart.language (tokens.map Token.kind) :=
      .of_mem haccepts.sentence
    have htranscript := Source.transcript_of_passes hplace haccepts.passes
      (fun token htoken => hviable.kind_ne (List.mem_map_of_mem htoken)) haccepts.ends
    have hmem := Source.mem_outcomes_of_after h (by simp [hkind])
    rw [htranscript] at hmem
    obtain ⟨token', htoken, hsame⟩ := List.mem_map.mp hmem
    obtain rfl := Except.ok.inj hsame
    have hkinds := hviable.kind_notMem (List.mem_map_of_mem htoken)
    simp [hkind] at hkinds
  · exact ⟨failure, _, hparse⟩
  · exact ⟨failure, s, hfails.stops⟩

end Analysis

namespace Scan

variable {scan : Scan} {filename : String} {line : Nat} {token : Token}

private theorem isString_iff (h : scan.outcome filename line = .ok token) :
    scan.isString = true ↔ token.kind = .stringConstant := by
  cases scan with
  | finished =>
      cases h
      simp [isString, Token.endOfFile]
  | token kind text taken rest =>
      cases h
      exact decide_eq_true_iff
  | unterminated taken rest => cases h

private theorem isString_of_error {failure : Failure}
    (h : scan.outcome filename line = .error failure) :
    scan.isString = true := by
  cases scan with
  | finished | token => cases h
  | unterminated taken rest => rfl

end Scan

private theorem Token.Spans.getElem?_eq {token : Token} {text : String} {start stop : Nat}
    (h : token.Spans text start stop) {index : Nat} (hindex : index < token.written.length) :
    text.toList[start + index]? = token.written[index]? := by
  rw [← List.getElem?_drop, h.written, List.getElem?_append_left hindex]

namespace Alphabet

open Text (isAscii)

variable {filename text : String} {position : Nat} {portion : Portion filename text}
  {token : Token}

/-- The character at the position is neither blank nor in a comment or a string, nor is it part of a
keyword or a symbol, or of a name or a number that is written in the alphabet. -/
structure Foreign (alphabet : Alphabet) (portion : Portion filename text) (position : Nat) :
    Prop where
  middle_le : portion.middle ≤ position
  lt_stop : position < portion.stop
  unquoted : portion.scan.isString = false
  unspelled : ∀ token, portion.outcome = .ok token → ¬ alphabet.Spells token

/-- The names and numbers of the text are written in the alphabet, and any character foreign to it
is an illegal symbol, with which the text is no program. -/
structure Governs (alphabet : Alphabet) (filename text : String) : Prop where
  names : ∀ calls token, ((Lexer.ofString filename text).after calls).next.1 = .ok token →
    token.kind = .identifier → token.text.toList ∈ alphabet.names
  numbers : ∀ calls token, ((Lexer.ofString filename text).after calls).next.1 = .ok token →
    token.kind = .numberConstant → token.text.toList ∈ alphabet.numbers
  illegal : ∀ (portion : Portion filename text) position, alphabet.Foreign portion position →
    ∃ token, portion.outcome = .ok token ∧ token.kind = .illegalSymbol ∧
      token.Spans text position (position + 1)
  rejected : ∀ (portion : Portion filename text) position, alphabet.Foreign portion position →
    ∀ scope echo, ∃ failure s,
      Analysis.parse (.ofSource (.text (.ofString filename text)) (.start scope echo)) =
        .error (.rejected failure) s

/-- Every character beyond ASCII that is neither blank nor in a comment or a string is an illegal
symbol. -/
def Plain (filename text : String) : Prop :=
  ∀ (portion : Portion filename text) position c, text.toList[position]? = some c →
    isAscii c = false → portion.middle ≤ position → position < portion.stop →
    portion.scan.isString = false →
    ∃ token, portion.outcome = .ok token ∧ token.kind = .illegalSymbol

/-! ### The alphabet of all scripts -/

private theorem outcome_cases (h : portion.outcome = .ok token) :
    token.kind = .endOfFile ∧ portion.stop = portion.middle ∨
      token.kind = .stringConstant ∨
      unicode.Spells token ∨
      token.kind = .illegalSymbol ∧ portion.stop = portion.middle + 1 := by
  rw [Portion.outcome, portion.next_eq] at h
  obtain ⟨calls, trivia, scan, hmunch⟩ := portion
  have hfound := hmunch.found
  cases hfound with
  | finished =>
      cases h
      exact .inl ⟨rfl, rfl⟩
  | closed =>
      cases h
      exact .inr (.inl rfl)
  | unclosed => cases h
  | @longest lexeme rest _ hplain =>
      cases h
      exact .inr (.inr (.inl (Lexeme.spells hplain _)))
  | illegal =>
      cases h
      exact .inr (.inr (.inr ⟨rfl, rfl⟩))

private theorem unquoted_iff (h : portion.outcome = .ok token) :
    portion.scan.isString = false ↔ token.kind ≠ .stringConstant := by
  rw [Portion.outcome, portion.next_eq] at h
  rw [← Bool.not_eq_true, Scan.isString_iff h]

private theorem spells_of_kind (h : portion.outcome = .ok token)
    (hkind : token.kind ∈ [Kind.identifier, .numberConstant]) : unicode.Spells token := by
  rcases outcome_cases h with ⟨hother, -⟩ | hother | hspells | ⟨hother, -⟩
  · simp [hother] at hkind
  · simp [hother] at hkind
  · exact hspells
  · simp [hother] at hkind

private theorem Foreign.illegal (h : unicode.Foreign portion position) :
    ∃ token, portion.outcome = .ok token ∧ token.kind = .illegalSymbol ∧
      token.Spans text position (position + 1) := by
  have hbehind := h.middle_le
  have hbefore := h.lt_stop
  cases houtcome : portion.outcome with
  | error failure =>
      have hfails := houtcome
      rw [Portion.outcome, portion.next_eq] at hfails
      have hstring := Scan.isString_of_error hfails
      rw [h.unquoted] at hstring
      cases hstring
  | ok token =>
      rcases outcome_cases houtcome with ⟨-, hstop⟩ | hstring | hspells | ⟨hkind, hstop⟩
      · omega
      · exact absurd hstring ((unquoted_iff houtcome).mp h.unquoted)
      · exact absurd hspells (h.unspelled token houtcome)
      · have hspans := Portion.spans houtcome
        rw [hstop] at hspans
        obtain rfl : position = portion.middle := by omega
        exact ⟨token, rfl, hkind, hspans⟩

private theorem governs_unicode (filename text : String) : unicode.Governs filename text where
  names calls token h hkind := by
    obtain ⟨portion, rfl⟩ := Portion.exists_calls_eq filename text calls
    exact (spells_of_kind h (by simp [hkind])).mem_names hkind
  numbers calls token h hkind := by
    obtain ⟨portion, rfl⟩ := Portion.exists_calls_eq filename text calls
    exact (spells_of_kind h (by simp [hkind])).mem_numbers hkind
  illegal portion position h := h.illegal
  rejected portion position h scope echo := by
    obtain ⟨token, houtcome, hkind, -⟩ := h.illegal
    exact Analysis.rejected_of_illegal houtcome hkind scope echo

/-! ### The ASCII alphabet -/

private theorem isAscii_of_mem_tables : ∀ entry ∈ Kind.keywords ++ Kind.symbols,
    entry.1.toList.all isAscii = true := by
  decide +kernel

private theorem Spells.isAscii_written (h : ascii.Spells token) :
    ∀ c ∈ token.written, isAscii c = true := by
  cases h with
  | fixed hentry line =>
      rw [Token.written, if_neg (Kind.ne_of_spelling?_eq_none hentry (by decide))]
      exact List.all_eq_true.mp (isAscii_of_mem_tables _ hentry)
  | name hname line => exact (mem_names_ascii.mp hname).2
  | number hnumber line => exact (mem_numbers_ascii.mp hnumber).2

private theorem getElem?_middle (h : portion.outcome = .ok token) {index : Nat}
    (hindex : index < token.written.length) :
    text.toList[portion.middle + index]? = token.written[index]? ∧
      portion.middle + index < portion.stop := by
  have hspans := Portion.spans h
  have hstop := hspans.stop_eq
  exact ⟨hspans.getElem?_eq hindex, by omega⟩

private theorem Governs.plain (h : ascii.Governs filename text) : Plain filename text := by
  intro portion position c hc hbeyond hbehind hbefore hunquoted
  by_cases hforeign : ascii.Foreign portion position
  · obtain ⟨token, houtcome, hkind, -⟩ := h.illegal portion position hforeign
    exact ⟨token, houtcome, hkind⟩
  · obtain ⟨token, houtcome, hspells⟩ :
        ∃ token, portion.outcome = .ok token ∧ ascii.Spells token := by
      by_contra hnone
      refine hforeign ⟨hbehind, hbefore, hunquoted, fun token houtcome hspells => ?_⟩
      exact hnone ⟨token, houtcome, hspells⟩
    have hstop := (Portion.spans houtcome).stop_eq
    have hindex : position - portion.middle < token.written.length := by omega
    have hget := (getElem?_middle houtcome hindex).1
    rw [Nat.add_sub_cancel' hbehind, hc] at hget
    have hascii := hspells.isAscii_written c (List.mem_of_getElem? hget.symm)
    rw [hbeyond] at hascii
    cases hascii

private theorem Plain.isAscii_text (h : Plain filename text)
    (houtcome : portion.outcome = .ok token)
    (hkind : token.kind ∈ [Kind.identifier, .numberConstant]) :
    ∀ c ∈ token.text.toList, isAscii c = true := by
  intro c hc
  have hstring : token.kind ≠ .stringConstant := by
    intro hstring
    simp [hstring] at hkind
  have hwritten : token.written = token.text.toList := if_neg hstring
  rw [← hwritten] at hc
  obtain ⟨index, hindex, hget⟩ := List.getElem_of_mem hc
  obtain ⟨hmiddle, hbefore⟩ := getElem?_middle houtcome hindex
  rw [List.getElem?_eq_getElem hindex, hget] at hmiddle
  by_contra hbeyond
  obtain ⟨token', hsame, hillegal⟩ := h portion _ c hmiddle (Bool.not_eq_true _ ▸ hbeyond)
    (Nat.le_add_right ..) hbefore ((unquoted_iff houtcome).mpr hstring)
  rw [houtcome] at hsame
  cases hsame
  simp [hillegal] at hkind

private theorem Plain.governs (h : Plain filename text) : ascii.Governs filename text := by
  have hunicode := governs_unicode filename text
  have hforeign : ∀ {portion : Portion filename text} {position : Nat},
      ascii.Foreign portion position → unicode.Foreign portion position := by
    intro portion position hforeign
    refine { hforeign with unspelled := fun token houtcome hspells => ?_ }
    exact hforeign.unspelled token houtcome (hspells.toAscii (h.isAscii_text houtcome))
  constructor
  · intro calls token hnext hkind
    obtain ⟨portion, rfl⟩ := Portion.exists_calls_eq filename text calls
    have houtcome : portion.outcome = .ok token := hnext
    have hascii := h.isAscii_text houtcome (by simp [hkind])
    exact mem_names_ascii.mpr ⟨hunicode.names portion.calls token hnext hkind, hascii⟩
  · intro calls token hnext hkind
    obtain ⟨portion, rfl⟩ := Portion.exists_calls_eq filename text calls
    have houtcome : portion.outcome = .ok token := hnext
    have hascii := h.isAscii_text houtcome (by simp [hkind])
    exact mem_numbers_ascii.mpr ⟨hunicode.numbers portion.calls token hnext hkind, hascii⟩
  · intro portion position h
    exact hunicode.illegal portion position (hforeign h)
  · intro portion position h
    exact hunicode.rejected portion position (hforeign h)

/-- Each character of a text is in one portion of it. The alphabet that the lexer goes by governs
every text: its names and numbers are written in it, and a character foreign to it is an illegal
symbol, with which no text is a program. The ASCII alphabet is the part of it within ASCII, class by
class, and governs a text just if every character beyond ASCII is blank, in a comment or a string,
or an illegal symbol. -/
theorem governs_of_text (filename text : String) :
    (∀ position < text.length, ∃! portion : Portion filename text, portion.Holds position) ∧
    unicode.Governs filename text ∧
    ascii = unicode.restrict isAscii ∧
    (ascii.Governs filename text ↔ Plain filename text) :=
  ⟨fun _ h => Portion.existsUnique_holds h, governs_unicode filename text, ascii_eq_restrict,
    Governs.plain, Plain.governs⟩

/-- A letter with an accent is a name, although it is beyond ASCII, and a program is accepted that
is written with such a name and a raised digit. -/
theorem name_beyond_ascii :
    (Lexer.ofString "<string>" "é").next.1 = .ok ⟨.identifier, "é", 1⟩ ∧
    ¬ ascii.Governs "<string>" "é" ∧
    ∃ s, Analysis.parse (.ofSource (.text (.ofString "<string>" "begin é := ² end"))
      (.start .empty false)) = .ok () s := by
  have hname : (Lexer.ofString "<string>" "é").next.1 = .ok ⟨.identifier, "é", 1⟩ := by
    decide +kernel
  refine ⟨hname, ?_, ?_⟩
  · intro h
    have hmem := h.names 0 _ hname rfl
    have hascii := (mem_names_ascii.mp hmem).2 'é' (by decide +kernel)
    cases hascii
  · obtain ⟨u, s, hparse⟩ := Analysis.exists_of_succeeds (x := Analysis.parse)
      (s := .ofSource (.text (.ofString "<string>" "begin é := ² end")) (.start .empty false))
      (by decide +kernel)
    exact ⟨s, hparse⟩

end Alphabet

end OnePass
