/-!
# Strict UTF-8

Bytes are read from left to right. A first byte says how many bytes follow and between which bounds
the next one lies; the bounds leave out overlong forms, surrogates and numbers above 10FFFF. The
first byte that breaks the rules decides the reason for a refusal.
-/
namespace OnePass.Text.Utf8

inductive Refusal where
  | invalidStart
  | invalidContinuation
  | unexpectedEnd
  deriving DecidableEq, Repr

def Refusal.message : Refusal → String
  | .invalidStart => "invalid start byte"
  | .invalidContinuation => "invalid continuation byte"
  | .unexpectedEnd => "unexpected end of data"

/-- A character begun: its bits so far, the bounds of its next byte and how many follow that one. -/
structure Begun where
  bits : Nat
  low : Nat
  high : Nat
  more : Nat
  deriving DecidableEq, Repr

/-- The character that a byte above 7F begins. -/
def begin? (byte : Nat) : Option Begun :=
  if byte < 0xc2 then none
  else if byte < 0xe0 then some ⟨byte - 0xc0, 0x80, 0xbf, 0⟩
  else if byte < 0xf0 then
    some ⟨byte - 0xe0, if byte = 0xe0 then 0xa0 else 0x80, if byte = 0xed then 0x9f else 0xbf, 1⟩
  else if byte < 0xf5 then
    some ⟨byte - 0xf0, if byte = 0xf0 then 0x90 else 0x80, if byte = 0xf4 then 0x8f else 0xbf, 2⟩
  else none

/-- Reads on when `begun` is under way, or between characters when it is `none`. -/
def decodeFrom : (begun : Option Begun) → List UInt8 → Except Refusal (List Char)
  | none, [] => .ok []
  | some _, [] => .error .unexpectedEnd
  | none, byte :: rest =>
    let n := byte.toNat
    if n < 0x80 then (Char.ofNat n :: ·) <$> decodeFrom none rest
    else match begin? n with
      | none => .error .invalidStart
      | some begun => decodeFrom (some begun) rest
  | some begun, byte :: rest =>
    let n := byte.toNat
    if n < begun.low ∨ begun.high < n then .error .invalidContinuation
    else
      let bits := 64 * begun.bits + n % 64
      match begun.more with
      | 0 => (Char.ofNat bits :: ·) <$> decodeFrom none rest
      | more + 1 => decodeFrom (some ⟨bits, 0x80, 0xbf, more⟩) rest

def decode (bytes : List UInt8) : Except Refusal (List Char) :=
  decodeFrom none bytes

end OnePass.Text.Utf8
