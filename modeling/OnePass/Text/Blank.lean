import OnePass.Text.Ranges
/-!
# Blank characters

A blank separates tokens. Besides the space and the controls 09 to 0D and 1C to 1F, the blanks are
the characters beyond ASCII that separate words or lines.
-/
namespace OnePass.Text

def blankRanges : List (Nat × Nat) :=
  [(0x85, 0x85), (0xa0, 0xa0), (0x1680, 0x1680), (0x2000, 0x200a), (0x2028, 0x2029),
   (0x202f, 0x202f), (0x205f, 0x205f), (0x3000, 0x3000)]

def isBlank (c : Char) : Bool :=
  let n := c.toNat
  if n < 0x80 then n == 0x20 || (0x09 ≤ n && n ≤ 0x0d) || (0x1c ≤ n && n ≤ 0x1f)
  else inRanges blankRanges n

@[simp] theorem isBlank_newline : isBlank '\n' = true := by decide

end OnePass.Text
