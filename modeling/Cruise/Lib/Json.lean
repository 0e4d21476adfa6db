/-
JSON values as a program reads them.

An object is its items in order, with distinct keys. A number is an integer or a float; a float that is not finite has no
value. What a program asks of a value is its members (`get`), whether it equals an integer or a string, whether it counts as
true (`truthy`), and what integer it converts to (`toInt`).
-/
import Cruise.Lib.Decimal

namespace Cruise.Lib

inductive Json where
  | null
  | bool (b : Bool)
  | int (n : Int)
  | float (value : Option ℚ)
  | str (s : String)
  | arr (values : List Json)
  | obj (items : List (String × Json))

namespace Json

/-- the items of an object; nothing else has any -/
def items : Json → Option (List (String × Json))
  | .obj items => some items
  | _ => none

/-- the member of an object -/
def get (value : Json) (key : String) : Option Json := value.items.bind fun items => items.lookup key

/-- the value of a number; truth values are numbers -/
def number : Json → Option ℚ
  | .bool b => some (if b then 1 else 0)
  | .int n => some n
  | .float value => value
  | _ => none

def equalsInt (value : Json) (n : Int) : Bool := value.number = some (n : ℚ)

def equalsStr (value : Json) (s : String) : Bool :=
  match value with
  | .str t => t = s
  | _ => false

def truthy : Json → Bool
  | .null => false
  | .bool b => b
  | .int n => n ≠ 0
  | .float value => value ≠ some 0
  | .str s => s ≠ ""
  | .arr values => !values.isEmpty
  | .obj items => !items.isEmpty

/-- `int(value)` -/
def toInt : Json → Option Int
  | .bool b => some (if b then 1 else 0)
  | .int n => some n
  | .float value => value.map fun q => if 0 ≤ q then ⌊q⌋ else ⌈q⌉
  | .str s => readInt s.toList
  | _ => none

@[simp] theorem equalsStr_iff {value : Json} {s : String} : value.equalsStr s = true ↔ value = .str s := by
  cases value <;> simp [equalsStr]

@[simp] theorem equalsInt_iff {value : Json} {n : Int} : value.equalsInt n = true ↔ value.number = some (n : ℚ) :=
  decide_eq_true_iff

end Json

end Cruise.Lib
