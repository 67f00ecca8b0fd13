import Mathlib.Computability.Language
import OnePass.Proofs.Lexing.Munch
/-!
# Alphabets of names and numbers

An alphabet says which characters names and numbers are written with; how they are put together does
not depend on it. The lexer goes by an alphabet that draws on all scripts. The words of it that are
within ASCII are those of the ASCII alphabet, which is all that the language wants.
-/
namespace OnePass

open Computability

namespace Text

/-- The words of one character of the class. -/
def oneOf (p : Char → Bool) : Language Char :=
  {word | ∃ c, p c = true ∧ word = [c]}

/-- The words of the language with no character outside the class. -/
def within (p : Char → Bool) (L : Language Char) : Language Char :=
  {word | word ∈ L ∧ ∀ c ∈ word, p c = true}

variable {p q : Char → Bool} {L M : Language Char} {word : List Char}

private theorem mem_within : word ∈ within p L ↔ word ∈ L ∧ ∀ c ∈ word, p c = true := Iff.rfl

private theorem within_oneOf : within p (oneOf q) = oneOf fun c => q c && p c := by
  ext word
  rw [mem_within]
  constructor
  · rintro ⟨⟨c, hq, rfl⟩, hp⟩
    exact ⟨c, by simp [hq, hp c], rfl⟩
  · rintro ⟨c, hc, rfl⟩
    rw [Bool.and_eq_true] at hc
    exact ⟨⟨c, hc.1, rfl⟩, by simpa using hc.2⟩

private theorem within_one : within p 1 = 1 := by
  ext word
  rw [mem_within, Language.mem_one]
  constructor
  · exact And.left
  · rintro rfl
    exact ⟨rfl, by simp⟩

private theorem within_singleton {c : Char} (hc : p c = true) : within p {[c]} = {[c]} := by
  ext word
  constructor
  · exact And.left
  · intro hword
    obtain rfl : word = [c] := hword
    exact ⟨rfl, by simpa using hc⟩

private theorem within_add : within p (L + M) = within p L + within p M := by
  ext word
  simp only [mem_within, Language.mem_add, or_and_right]

private theorem within_mul : within p (L * M) = within p L * within p M := by
  ext word
  simp only [mem_within, Language.mem_mul]
  constructor
  · rintro ⟨⟨front, hfront, back, hback, rfl⟩, hp⟩
    rw [List.forall_mem_append] at hp
    exact ⟨front, ⟨hfront, hp.1⟩, back, ⟨hback, hp.2⟩, rfl⟩
  · rintro ⟨front, ⟨hfront, hpfront⟩, back, ⟨hback, hpback⟩, rfl⟩
    exact ⟨⟨front, hfront, back, hback, rfl⟩, List.forall_mem_append.mpr ⟨hpfront, hpback⟩⟩

private theorem within_kstar : within p L∗ = (within p L)∗ := by
  ext word
  simp only [mem_within, Language.mem_kstar]
  constructor
  · rintro ⟨⟨words, rfl, hwords⟩, hp⟩
    refine ⟨words, rfl, fun part hpart => ⟨hwords part hpart, fun c hc => ?_⟩⟩
    exact hp c (List.mem_flatten_of_mem hpart hc)
  · rintro ⟨words, rfl, hwords⟩
    refine ⟨⟨words, rfl, fun part hpart => (hwords part hpart).1⟩, fun c hc => ?_⟩
    obtain ⟨part, hpart, hc⟩ := List.mem_flatten.mp hc
    exact (hwords part hpart).2 c hc

private theorem mem_oneOf_kstar : word ∈ (oneOf p)∗ ↔ ∀ c ∈ word, p c = true := by
  rw [Language.mem_kstar]
  constructor
  · rintro ⟨words, rfl, hwords⟩ c hc
    obtain ⟨part, hpart, hc⟩ := List.mem_flatten.mp hc
    obtain ⟨d, hd, rfl⟩ := hwords part hpart
    rwa [List.mem_singleton.mp hc]
  · intro hp
    refine ⟨word.map fun c => [c], by simp [← List.flatMap_def], fun part hpart => ?_⟩
    obtain ⟨c, hc, rfl⟩ := List.mem_map.mp hpart
    exact ⟨c, hp c hc, rfl⟩

private theorem cons_mem_oneOf_mul {c : Char} :
    c :: word ∈ oneOf p * L ↔ p c = true ∧ word ∈ L := by
  rw [Language.mem_mul]
  constructor
  · rintro ⟨-, ⟨d, hd, rfl⟩, back, hback, hwhole⟩
    obtain ⟨rfl, rfl⟩ := List.cons.inj hwhole
    exact ⟨hd, hback⟩
  · rintro ⟨hc, hword⟩
    exact ⟨[c], ⟨c, hc, rfl⟩, word, hword, rfl⟩

/-! ### ASCII within the classes -/

def isAscii (c : Char) : Bool :=
  c.toNat < 0x80

variable {c : Char}

private theorem isAscii_of_isAlphanum (h : c.isAlphanum = true) : isAscii c = true := by
  delta Char.isAlphanum Char.isAlpha Char.isUpper Char.isLower Char.isDigit at h
  simp only [Bool.or_eq_true, Bool.and_eq_true, decide_eq_true_eq, UInt32.le_iff_toNat_le] at h
  have hvalue := c.toNat_val
  rw [isAscii, decide_eq_true_eq]
  rcases h with (⟨_, h⟩ | ⟨_, h⟩) | ⟨_, h⟩ <;> simp at h <;> omega

private theorem eq_and_isAscii (hascii : p c = true → isAscii c = true)
    (hsame : isAscii c = true → q c = p c) : p c = (q c && isAscii c) := by
  cases hc : isAscii c with
  | true => rw [Bool.and_true, hsame hc]
  | false =>
      rw [Bool.and_false, Bool.eq_false_iff]
      intro hp
      rw [hascii hp] at hc
      cases hc

private theorem isLetter_of_isAscii (h : isAscii c = true) : isLetter c = c.isAlpha :=
  if_pos (decide_eq_true_iff.mp h)

private theorem isDigit_of_isAscii (h : isAscii c = true) : isDigit c = c.isDigit :=
  if_pos (decide_eq_true_iff.mp h)

private theorem isNumeral_of_isAscii (h : isAscii c = true) : isNumeral c = c.isDigit := by
  have hbeyond : ∀ range ∈ numeralRanges, 0x80 ≤ range.1 := by decide
  have hnone : inRanges numeralRanges c.toNat = false := by
    rw [Bool.eq_false_iff]
    intro hin
    obtain ⟨range, hrange, hle, -⟩ := inRanges_iff.mp hin
    have hlow := hbeyond range hrange
    rw [isAscii, decide_eq_true_eq] at h
    omega
  rw [isNumeral, hnone, Bool.or_false, isDigit_of_isAscii h]

private theorem isAlpha_eq (c : Char) : c.isAlpha = (isLetter c && isAscii c) := by
  refine eq_and_isAscii (fun hc => isAscii_of_isAlphanum ?_) isLetter_of_isAscii
  rw [Char.isAlphanum, hc, Bool.true_or]

private theorem isDigit_eq (c : Char) : c.isDigit = (isDigit c && isAscii c) := by
  refine eq_and_isAscii (fun hc => isAscii_of_isAlphanum ?_) isDigit_of_isAscii
  rw [Char.isAlphanum, hc, Bool.or_true]

private theorem isNamePart_eq (c : Char) :
    (c.isAlphanum || c == '_') = (Scan.isNamePart c && isAscii c) := by
  refine eq_and_isAscii (p := fun c => c.isAlphanum || c == '_') (fun hc => ?_) (fun hc => ?_)
  · rcases Bool.or_eq_true_iff.mp hc with hc | hc
    · exact isAscii_of_isAlphanum hc
    · rw [beq_iff_eq.mp hc]
      decide
  · rw [Scan.isNamePart, isLetter_of_isAscii hc, isNumeral_of_isAscii hc, Char.isAlphanum]

end Text

/-- The characters that a name starts with, those that it goes on with, and the digits. -/
structure Alphabet where
  initial : Char → Bool
  part : Char → Bool
  digit : Char → Bool

namespace Alphabet

open Text (isAscii oneOf within)

/-- The letters and digits of all scripts, and every numeral within a name: the classes that the
lexer goes by. -/
def unicode : Alphabet :=
  ⟨Text.isLetter, Scan.isNamePart, Text.isDigit⟩

/-- The letters, digits and low line of ASCII: `[A-Za-z]`, `[A-Za-z0-9_]` and `[0-9]`. -/
def ascii : Alphabet :=
  ⟨Char.isAlpha, fun c => c.isAlphanum || c == '_', Char.isDigit⟩

/-- Names have an initial and any number of parts behind it. -/
def names (alphabet : Alphabet) : Language Char :=
  oneOf alphabet.initial * (oneOf alphabet.part)∗

/-- One digit or more. -/
def figures (alphabet : Alphabet) : Language Char :=
  oneOf alphabet.digit * (oneOf alphabet.digit)∗

/-- Numbers are figures, and perhaps a point with figures behind it. -/
def numbers (alphabet : Alphabet) : Language Char :=
  alphabet.figures * (1 + {['.']} * alphabet.figures)

/-- The characters of the alphabet that are in the class too. -/
def restrict (alphabet : Alphabet) (p : Char → Bool) : Alphabet :=
  ⟨fun c => alphabet.initial c && p c, fun c => alphabet.part c && p c,
    fun c => alphabet.digit c && p c⟩

private theorem names_restrict (alphabet : Alphabet) (p : Char → Bool) :
    (alphabet.restrict p).names = within p alphabet.names := by
  simp only [names, restrict, Text.within_mul, Text.within_kstar, Text.within_oneOf]

private theorem figures_restrict (alphabet : Alphabet) (p : Char → Bool) :
    (alphabet.restrict p).figures = within p alphabet.figures := by
  simp only [figures, restrict, Text.within_mul, Text.within_kstar, Text.within_oneOf]

private theorem numbers_restrict (alphabet : Alphabet) {p : Char → Bool} (hpoint : p '.' = true) :
    (alphabet.restrict p).numbers = within p alphabet.numbers := by
  simp only [numbers, figures_restrict, Text.within_mul, Text.within_add,
    Text.within_one, Text.within_singleton hpoint]

/-- The ASCII alphabet has no character beyond ASCII, and within it the alphabets agree: on each
code point, as an initial, as a part and as a digit. -/
theorem ascii_eq_restrict : ascii = unicode.restrict isAscii := by
  simp only [ascii, unicode, restrict, ← Text.isAlpha_eq, ← Text.isDigit_eq, ← Text.isNamePart_eq]

theorem mem_names_ascii {word : List Char} :
    word ∈ ascii.names ↔ word ∈ unicode.names ∧ ∀ c ∈ word, isAscii c = true := by
  rw [ascii_eq_restrict, names_restrict, Text.mem_within]

theorem mem_numbers_ascii {word : List Char} :
    word ∈ ascii.numbers ↔ word ∈ unicode.numbers ∧ ∀ c ∈ word, isAscii c = true := by
  rw [ascii_eq_restrict, numbers_restrict unicode (by decide), Text.mem_within]

/-- A keyword or a symbol, or a name or a number that is written in the alphabet. -/
inductive Spells (alphabet : Alphabet) : Token → Prop where
  | fixed {entry : String × Kind} (h : entry ∈ Kind.keywords ++ Kind.symbols) (line : Int) :
    Spells alphabet ⟨entry.2, entry.1, line⟩
  | name {text : String} (h : text.toList ∈ alphabet.names) (line : Int) :
    Spells alphabet ⟨.identifier, text, line⟩
  | number {text : String} (h : text.toList ∈ alphabet.numbers) (line : Int) :
    Spells alphabet ⟨.numberConstant, text, line⟩

variable {alphabet : Alphabet} {token : Token}

theorem Spells.mem_names (h : alphabet.Spells token) (hkind : token.kind = .identifier) :
    token.text.toList ∈ alphabet.names := by
  cases h with
  | fixed hentry line => exact absurd hkind (Kind.ne_of_spelling?_eq_none hentry (by decide))
  | name hname line => exact hname
  | number hnumber line => cases hkind

theorem Spells.mem_numbers (h : alphabet.Spells token) (hkind : token.kind = .numberConstant) :
    token.text.toList ∈ alphabet.numbers := by
  cases h with
  | fixed hentry line => exact absurd hkind (Kind.ne_of_spelling?_eq_none hentry (by decide))
  | name hname line => cases hkind
  | number hnumber line => exact hnumber

theorem Spells.toAscii (h : unicode.Spells token)
    (hascii : token.kind ∈ [Kind.identifier, .numberConstant] →
      ∀ c ∈ token.text.toList, isAscii c = true) : ascii.Spells token := by
  cases h with
  | fixed hentry line => exact .fixed hentry line
  | name hname line => exact .name (mem_names_ascii.mpr ⟨hname, hascii (by simp)⟩) line
  | number hnumber line => exact .number (mem_numbers_ascii.mpr ⟨hnumber, hascii (by simp)⟩) line

end Alphabet

namespace Digits

private theorem mem_figures (digits : Digits) : digits.text ∈ Alphabet.unicode.figures := by
  have hdigits := List.forall_mem_cons.mp digits.digits
  exact Text.cons_mem_oneOf_mul.mpr ⟨hdigits.1, Text.mem_oneOf_kstar.mpr hdigits.2⟩

end Digits

theorem Lexeme.spells {lexeme : Lexeme} (hplain : lexeme.isPlain = true) (line : Int) :
    Alphabet.unicode.Spells ⟨lexeme.kind, String.ofList lexeme.text, line⟩ := by
  cases lexeme with
  | fixed entry hentry =>
      simp only [Lexeme.kind, Lexeme.text, String.ofList_toList]
      exact .fixed hentry line
  | name first others hfirst hothers hword =>
      refine .name ?_ line
      rw [String.toList_ofList]
      exact Text.cons_mem_oneOf_mul.mpr ⟨hfirst, Text.mem_oneOf_kstar.mpr hothers⟩
  | number whole fraction =>
      refine .number ?_ line
      rw [String.toList_ofList]
      refine Language.append_mem_mul whole.mem_figures ?_
      cases fraction with
      | none => exact .inl rfl
      | some digits =>
          exact .inr (Language.append_mem_mul (Set.mem_singleton ['.']) digits.mem_figures)
  | string | illegal => cases hplain

end OnePass
