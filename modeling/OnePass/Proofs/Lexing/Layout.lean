import Mathlib.Data.List.TakeWhile
import OnePass.Proofs.Lexing.Separation
import OnePass.Token.Basic
/-!
# Layouts of tokens

A layout is a choice of tokens and of the spacing around them. Any spacing may stand in front, and a
blank stands behind each token unless the text ends there. A comment may be left open at the end of
the text.
-/
namespace OnePass

/-- A comment without the line feed that ends it. -/
structure Remark where
  body : List Char
  unbroken : '\n' ∉ body

def Remark.text (remark : Remark) : List Char :=
  '-' :: '-' :: remark.body

/-- A blank, or a comment with the line feed that ends it. -/
inductive Spacing where
  | blank (c : Char) (h : Text.isBlank c = true)
  | comment (remark : Remark)

def Spacing.text : Spacing → List Char
  | .blank c _ => [c]
  | .comment remark => remark.text ++ ['\n']

/-- Spacing that begins with a blank. -/
structure Gap where
  first : Char
  blank : Text.isBlank first = true
  others : List Spacing

def Gap.text (gap : Gap) : List Char :=
  gap.first :: gap.others.flatMap Spacing.text

structure Digits where
  first : Char
  others : List Char
  digits : ∀ c ∈ first :: others, Text.isDigit c = true

def Digits.text (digits : Digits) : List Char :=
  digits.first :: digits.others

/-- A point and the digits behind it, if there is a fraction. -/
def Digits.fraction : Option Digits → List Char
  | none => []
  | some digits => '.' :: digits.text

/-- A token that can be written down, wherever it stands. -/
inductive Lexeme where
  | fixed (entry : String × Kind) (h : entry ∈ Kind.keywords ++ Kind.symbols)
  | name (first : Char) (others : List Char) (hfirst : Text.isLetter first = true)
    (hothers : ∀ c ∈ others, Scan.isNamePart c = true)
    (hword : Kind.keyword? (String.ofList (first :: others)) = none)
  | number (whole : Digits) (fraction : Option Digits)
  | string (body : List Char) (h : ∀ c ∈ body, Scan.inString c = true)
  | illegal (c : Char) (hblank : Text.isBlank c = false) (hletter : Text.isLetter c = false)
    (hdigit : Text.isDigit c = false) (hquote : c ≠ Scan.quote)
    (hsymbol : Kind.symbol? (String.ofList [c]) = none)

namespace Lexeme

def kind : Lexeme → Kind
  | .fixed entry _ => entry.2
  | .name _ _ _ _ _ => .identifier
  | .number _ _ => .numberConstant
  | .string _ _ => .stringConstant
  | .illegal _ _ _ _ _ _ => .illegalSymbol

def text : Lexeme → List Char
  | .fixed entry _ => entry.1.toList
  | .name first others _ _ _ => first :: others
  | .number whole fraction => whole.text ++ Digits.fraction fraction
  | .string body _ => body
  | .illegal c _ _ _ _ _ => [c]

/-- The text as it is written: a string stands between quotes. -/
def spelling : Lexeme → List Char
  | .string body _ => Scan.quote :: body ++ [Scan.quote]
  | lexeme => lexeme.text

/-- The token that comes of the lexeme behind the given characters. -/
def token (lexeme : Lexeme) (before : List Char) : Token :=
  ⟨lexeme.kind, String.ofList lexeme.text, ↑(1 + before.count '\n')⟩

end Lexeme

/-- What stands behind spacing: perhaps a comment that is left open, a token that ends the text, or
a token with a gap behind it. -/
inductive Remainder where
  | finished (remark : Option Remark)
  | last (lexeme : Lexeme)
  | token (lexeme : Lexeme) (gap : Gap) (rest : Remainder)

/-- The spacing in front of a text and what stands behind it. -/
structure Layout where
  front : List Spacing
  rest : Remainder

namespace Remainder

def text : Remainder → List Char
  | .finished none => []
  | .finished (some remark) => remark.text
  | .last lexeme => lexeme.spelling
  | .token lexeme gap rest => lexeme.spelling ++ gap.text ++ rest.text

/-- The tokens, each on the line that the line feeds before it make up. -/
def tokens (before : List Char) : Remainder → List Token
  | .finished _ => []
  | .last lexeme => [lexeme.token before]
  | .token lexeme gap rest => lexeme.token before ::
    rest.tokens (before ++ lexeme.spelling ++ gap.text)

end Remainder

namespace Layout

def text (layout : Layout) : List Char :=
  layout.front.flatMap Spacing.text ++ layout.rest.text

def tokens (layout : Layout) : List Token :=
  layout.rest.tokens (layout.front.flatMap Spacing.text)

end Layout

namespace Trivia

private theorem split_of_notMem {body : List Char} (h : '\n' ∉ body) :
    split true body = (body, []) := by
  induction body with
  | nil => rfl
  | cons c body ih =>
      rw [List.mem_cons, not_or] at h
      have hc : c ≠ '\n' := Ne.symm h.1
      simp [split, hc, ih h.2]

theorem split_remark (remark : Remark) : split false remark.text = (remark.text, []) := by
  have hblank : Text.isBlank '-' = false := by decide
  simp [Remark.text, split, startsComment, hblank, split_of_notMem remark.unbroken]

theorem split_spacings (spacings : List Spacing) (after : List Char) :
    split false (spacings.flatMap Spacing.text ++ after) =
      (spacings.flatMap Spacing.text ++ (split false after).1, (split false after).2) := by
  induction spacings with
  | nil => rfl
  | cons spacing spacings ih =>
      rw [List.flatMap_cons, List.append_assoc]
      cases spacing with
      | blank c h => simp [Spacing.text, split, h, ih]
      | comment remark =>
          have hend : (split false remark.text).2 = [] := by rw [split_remark]
          have hsplit := split_append_of_nil hend (spacings.flatMap Spacing.text ++ after)
          rw [ih] at hsplit
          simpa [Spacing.text] using hsplit

end Trivia

namespace Scan

private theorem front_of_mem_tables : ∀ entry ∈ Kind.keywords ++ Kind.symbols,
    front entry.1.toList = .token entry.2 entry.1.toList entry.1.toList [] := by
  decide +kernel

private theorem front_name {first : Char} {others : List Char} (hfirst : Text.isLetter first = true)
    (hothers : ∀ c ∈ others, isNamePart c = true)
    (hword : Kind.keyword? (String.ofList (first :: others)) = none) :
    front (first :: others) = .token .identifier (first :: others) (first :: others) [] := by
  have hparts : ∀ c ∈ first :: others, isNamePart c = true := by
    intro c hc
    rcases List.mem_cons.mp hc with rfl | hc
    · simp [isNamePart, hfirst]
    · exact hothers c hc
  have htake := List.takeWhile_eq_self_iff.mpr hparts
  have hdrop := List.dropWhile_eq_nil_iff.mpr hparts
  simp only [front, hfirst, if_true, word, htake, hdrop, hword, Option.getD_none]

private theorem splitFraction_fraction (fraction : Option Digits) :
    (Digits.fraction fraction).takeWhile Text.isDigit = [] ∧
      (Digits.fraction fraction).dropWhile Text.isDigit = Digits.fraction fraction ∧
        splitFraction (Digits.fraction fraction) = (Digits.fraction fraction, []) := by
  cases fraction with
  | none => exact ⟨rfl, rfl, rfl⟩
  | some digits =>
      have hpoint : Text.isDigit '.' = false := by decide
      have hfirst : Text.isDigit digits.first = true := digits.digits _ List.mem_cons_self
      have htake := List.takeWhile_eq_self_iff.mpr digits.digits
      have hdrop := List.dropWhile_eq_nil_iff.mpr digits.digits
      refine ⟨?_, ?_, ?_⟩
      · simp [Digits.fraction, hpoint]
      · simp [Digits.fraction, hpoint]
      · simp only [Digits.fraction, Digits.text, splitFraction, if_pos hfirst, htake, hdrop]

private theorem front_number (whole : Digits) (fraction : Option Digits) :
    front (whole.text ++ Digits.fraction fraction) = .token .numberConstant
      (whole.text ++ Digits.fraction fraction) (whole.text ++ Digits.fraction fraction) [] := by
  obtain ⟨hnone, hself, hsplit⟩ := splitFraction_fraction fraction
  have hdigits : ∀ c ∈ whole.text, Text.isDigit c = true := whole.digits
  have hfirst : Text.isDigit whole.first = true := whole.digits _ List.mem_cons_self
  have hletter := Text.isLetter_of_isDigit hfirst
  have hfront : front (whole.text ++ Digits.fraction fraction) =
      number (whole.text ++ Digits.fraction fraction) := by
    simp [front, Digits.text, hletter, hfirst]
  simp only [hfront, number, List.takeWhile_append_of_pos hdigits,
    List.dropWhile_append_of_pos hdigits, hnone, hself, hsplit, List.append_nil]

private theorem front_string {body : List Char} (h : ∀ c ∈ body, inString c = true) :
    front (quote :: body ++ [quote]) =
      .token .stringConstant body (quote :: body ++ [quote]) [] := by
  have hletter : Text.isLetter quote = false := by decide
  have hdigit : Text.isDigit quote = false := by decide
  have hquote : inString quote = false := by decide
  have htake : (body ++ [quote]).takeWhile inString = body := by
    simp [List.takeWhile_append_of_pos h, hquote]
  have hdrop : (body ++ [quote]).dropWhile inString = [quote] := by
    simp [List.dropWhile_append_of_pos h, hquote]
  simp [front, hletter, hdigit, string, htake, hdrop]

private theorem front_illegal {c : Char} (hletter : Text.isLetter c = false)
    (hdigit : Text.isDigit c = false) (hquote : c ≠ quote)
    (hsymbol : Kind.symbol? (String.ofList [c]) = none) :
    front [c] = .token .illegalSymbol [c] [c] [] := by
  have hnone : symbol? [c] = none := by
    rw [symbol?_eq]
    simp only [List.take, hsymbol, Option.map_none]
  simp [front, hletter, hdigit, hquote, hnone]

end Scan

namespace Lexeme

private theorem head_of_mem_tables : ∀ entry ∈ Kind.keywords ++ Kind.symbols,
    entry.1.toList.head?.all (fun c => !Text.isBlank c &&
      (c != '-' || entry.1.toList.tail.isEmpty)) = true := by
  decide +kernel

theorem front_spelling (lexeme : Lexeme) :
    Scan.front lexeme.spelling = .token lexeme.kind lexeme.text lexeme.spelling [] := by
  cases lexeme with
  | fixed entry h => exact Scan.front_of_mem_tables entry h
  | name first others hfirst hothers hword => exact Scan.front_name hfirst hothers hword
  | number whole fraction => exact Scan.front_number whole fraction
  | string body h => exact Scan.front_string h
  | illegal c hblank hletter hdigit hquote hsymbol =>
      exact Scan.front_illegal hletter hdigit hquote hsymbol

theorem head_spelling {lexeme : Lexeme} {c : Char} {cs : List Char}
    (h : lexeme.spelling = c :: cs) : Text.isBlank c = false ∧ (c = '-' → cs = []) := by
  have hminus : Text.isLetter '-' = false ∧ Text.isDigit '-' = false := by decide
  cases lexeme with
  | fixed entry hentry =>
      have hspelling : entry.1.toList = c :: cs := h
      have hhead := head_of_mem_tables entry hentry
      simp only [hspelling, List.head?_cons, List.tail_cons, Option.all_some, Bool.and_eq_true,
        Bool.or_eq_true, Bool.not_eq_true', bne_iff_ne, List.isEmpty_iff] at hhead
      exact ⟨hhead.1, fun hc => hhead.2.resolve_left (absurd hc)⟩
  | name first others hfirst hothers hword =>
      obtain ⟨rfl, rfl⟩ := List.cons.inj h
      refine ⟨Text.isBlank_of_isLetter hfirst, ?_⟩
      intro hc
      simp [hc, hminus.1] at hfirst
  | number whole fraction =>
      have hdigit : Text.isDigit c = true := by
        obtain ⟨rfl, -⟩ := List.cons.inj h
        exact whole.digits _ List.mem_cons_self
      refine ⟨Text.isBlank_of_isDigit hdigit, ?_⟩
      intro hc
      simp [hc, hminus.2] at hdigit
  | string body hbody =>
      obtain ⟨rfl, -⟩ := List.cons.inj h
      exact ⟨by decide, fun hquote => absurd hquote (by decide)⟩
  | illegal first hblank hletter hdigit hquote hsymbol =>
      obtain ⟨rfl, rfl⟩ := List.cons.inj h
      exact ⟨hblank, fun _ => rfl⟩

end Lexeme

end OnePass
