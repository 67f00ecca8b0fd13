/-!
# Variables

A variable has a name and the type of what it was first assigned. Its stamp is the number it was
issued under, which tells it from every other variable of the same name and type.
-/
namespace OnePass

inductive VarType where
  | number | string | unknown
  deriving DecidableEq, Repr

namespace VarType

def name : VarType → String
  | .number => "Number"
  | .string => "String"
  | .unknown => "Unknown"

end VarType

structure Variable where
  identifier : String
  type : VarType
  stamp : Nat
  deriving DecidableEq, Repr

/-- The name and type, as a listing of variables shows them. -/
def Variable.label (v : Variable) : String :=
  s!"{v.identifier}: {v.type.name}"

def Variable.summary (v : Variable) : String :=
  s!"Variable({v.identifier}, {v.type.name})"

end OnePass
