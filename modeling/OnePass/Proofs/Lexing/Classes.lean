import OnePass.Text.Blank
import OnePass.Token.Scan
/-!
# Classes of characters exclude one another

A list of ranges is the number whose binary digits mark its code points, so that two tables have no
code point in common if their numbers have no digit in common. Within ASCII the characters are gone
through one by one.
-/
namespace OnePass.Text

/-- The number with a one at each code point in the ranges. -/
def mask (ranges : List (Nat × Nat)) : Nat :=
  ranges.foldr (fun range rest => ((1 <<< (range.2 + 1 - range.1) - 1) <<< range.1) ||| rest) 0

private theorem testBit_mask (ranges : List (Nat × Nat)) (n : Nat) :
    (mask ranges).testBit n = inRanges ranges n := by
  induction ranges with
  | nil => exact Nat.zero_testBit n
  | cons range ranges ih =>
      have hrange : ((1 <<< (range.2 + 1 - range.1) - 1) <<< range.1).testBit n =
          (range.1 ≤ n && n ≤ range.2 : Bool) := by
        rw [Nat.testBit_shiftLeft, Nat.one_shiftLeft, Nat.testBit_two_pow_sub_one]
        by_cases hlow : range.1 ≤ n
        · simp [hlow]
          omega
        · simp [hlow]
      change (_ ||| mask ranges).testBit n = _
      rw [Nat.testBit_or, hrange, ih]
      rfl

private theorem inRanges_eq_false_of_mask {ranges ranges' : List (Nat × Nat)} {n : Nat}
    (h : mask ranges &&& mask ranges' = 0) (hn : inRanges ranges n = true) :
    inRanges ranges' n = false := by
  have hbit : (mask ranges &&& mask ranges').testBit n = false := by
    rw [h]
    exact Nat.zero_testBit n
  rw [Nat.testBit_and, testBit_mask, testBit_mask, hn, Bool.true_and] at hbit
  exact hbit

private theorem exclude {p q : Char → Bool}
    (hascii : ∀ n < 0x80, p (Char.ofNat n) = true → q (Char.ofNat n) = false)
    (hbeyond : ∀ c : Char, ¬ c.toNat < 0x80 → p c = true → q c = false) {c : Char}
    (h : p c = true) : q c = false := by
  by_cases hsmall : c.toNat < 0x80
  · have hself : Char.ofNat c.toNat = c := c.ofNat_toNat
    have hq := hascii c.toNat hsmall
    rw [hself] at hq
    exact hq h
  · exact hbeyond c hsmall h

private theorem isLetter_of_isBlank {c : Char} (h : isBlank c = true) : isLetter c = false := by
  refine exclude (by decide +kernel) ?_ h
  intro c hlarge hblank
  simp only [isBlank, isLetter, if_neg hlarge] at hblank ⊢
  exact inRanges_eq_false_of_mask (by decide +kernel) hblank

theorem isDigit_of_isBlank {c : Char} (h : isBlank c = true) : isDigit c = false := by
  refine exclude (by decide +kernel) ?_ h
  intro c hlarge hblank
  simp only [isBlank, isDigit, if_neg hlarge] at hblank ⊢
  exact inRanges_eq_false_of_mask (by decide +kernel) hblank

private theorem isNumeral_of_isBlank {c : Char} (h : isBlank c = true) : isNumeral c = false := by
  refine exclude (by decide +kernel) ?_ h
  intro c hlarge hblank
  have hdigit := isDigit_of_isBlank hblank
  simp only [isBlank, if_neg hlarge] at hblank
  rw [isNumeral, hdigit, Bool.false_or]
  exact inRanges_eq_false_of_mask (by decide +kernel) hblank

theorem isLetter_of_isDigit {c : Char} (h : isDigit c = true) : isLetter c = false := by
  refine exclude (by decide +kernel) ?_ h
  intro c hlarge hdigit
  simp only [isDigit, isLetter, if_neg hlarge] at hdigit ⊢
  exact inRanges_eq_false_of_mask (by decide +kernel) hdigit

theorem isBlank_of_isLetter {c : Char} (h : isLetter c = true) : isBlank c = false := by
  rw [Bool.eq_false_iff]
  intro hblank
  rw [isLetter_of_isBlank hblank] at h
  cases h

theorem isBlank_of_isDigit {c : Char} (h : isDigit c = true) : isBlank c = false := by
  rw [Bool.eq_false_iff]
  intro hblank
  rw [isDigit_of_isBlank hblank] at h
  cases h

theorem isNamePart_of_isBlank {c : Char} (h : isBlank c = true) : Scan.isNamePart c = false := by
  have hne : c ≠ '_' := by
    rintro rfl
    cases h
  simp [Scan.isNamePart, isLetter_of_isBlank h, isNumeral_of_isBlank h, hne]

end OnePass.Text
