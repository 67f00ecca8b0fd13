/-!
# Indices

An integer can count places in a text only if it is an index, a signed number of 64 bits.
-/
namespace OnePass.Text

/-- The first integer that is too large. -/
def indexBound : Int :=
  0x8000000000000000

def IsIndex (n : Int) : Prop :=
  -indexBound ≤ n ∧ n < indexBound

instance (n : Int) : Decidable (IsIndex n) :=
  inferInstanceAs (Decidable (_ ∧ _))

/-- What is said of an integer that is not an index. -/
def notAnIndex : String :=
  "cannot fit 'int' into an index-sized integer"

end OnePass.Text
