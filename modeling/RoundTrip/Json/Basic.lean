import RoundTrip.Text.Utf8

/-!
# JSON documents

A JSON document as it was written: the members of an object keep their order and their
repetitions, since a repeated member is an error where records are read, and a number that is not
written as an integer keeps its digits. A string may hold half of a surrogate pair, which encodes
no text; such a string is a value of its own, and is fine where nobody looks at it.
-/

namespace RoundTrip

/-- A JSON document. -/
inductive Json where
  /-- The value that stands for nothing. -/
  | null
  /-- A truth value. -/
  | bool (b : Bool)
  /-- A number written without fraction and exponent, `-0` apart. -/
  | int (n : Int)
  /-- Any other number, as it was written. -/
  | number (literal : List Char)
  /-- A string. -/
  | str (text : String)
  /-- A string with an escape for half of a surrogate pair. -/
  | unpaired
  /-- An array. -/
  | list (items : List Json)
  /-- An object; the name of a member is `none` where it is `unpaired`. -/
  | object (members : List (Option String × Json))
  deriving Inhabited

namespace Json

/-- The object with the given members. -/
def record (members : List (String × Json)) : Json :=
  .object (members.map fun m => (some m.1, m.2))

/-- The array of the given texts. -/
def texts (items : List String) : Json := .list (items.map .str)

/-- The members of an object whose names are texts, with the last value of each name first. -/
def members : Json → List (String × Json)
  | .object ms => (ms.filterMap fun m => m.1.map (·, m.2)).reverse
  | _ => []

/-- The value of the last member of an object with a given name. -/
def get? (j : Json) (name : String) : Option Json := j.members.lookup name

/-- The text of a string. -/
def text? : Json → Option String
  | .str s => some s
  | _ => none

/-- A truth value. -/
def bool? : Json → Option Bool
  | .bool b => some b
  | _ => none

/-- An integer. -/
def int? : Json → Option Int
  | .int n => some n
  | _ => none

/-- The items of an array. -/
def list? : Json → Option (List Json)
  | .list items => some items
  | _ => none

/-- The items of an array, each read in the same way. -/
def listOf? {α : Type} (item : Json → Option α) (j : Json) : Option (List α) :=
  j.list?.bind (·.mapM item)

/-- An array of texts. -/
def texts? (j : Json) : Option (List String) := j.listOf? text?

/-- A signed 32-bit integer. -/
def int32? (j : Json) : Option Int32 := do
  let n ← j.int?
  if -2147483648 ≤ n ∧ n ≤ 2147483647 then some (Int32.ofInt n) else none

/-- A count, which is below 2^64. -/
def count? (j : Json) : Option Nat := do
  let n ← j.int?
  if 0 ≤ n ∧ n < 18446744073709551616 then some n.toNat else none

/-- An unsigned 64-bit integer. -/
def uint64? (j : Json) : Option UInt64 := j.count?.map UInt64.ofNat

end Json

end RoundTrip
