import RoundTrip.Json.Magnitude

/-!
# How records and choices are written in JSON

A record is an object with a member for each field, or an array of the fields in their order. As
an object it may have members that are no fields, which are passed over, but no field twice. Some
records may leave out fields, which then have their defaults; as an array such a record may end
early.

A choice is either a name alone, the name with the content of the choice, or a record with one
field, the tag, that holds the name. A tagged choice is only understood once its tag is known, so
everything in it is read whatever it is (`isPlain`), which bounds how deeply it may nest.
-/

namespace RoundTrip.Json

/-- The names of the members of an object, unless one of them is no text. -/
def names? (members : List (Option String × Json)) : Option (List (String × Json)) :=
  members.mapM fun m => m.1.map (·, m.2)

/-- Whether a record may leave out fields. -/
inductive Completeness where
  /-- An array holds all fields. -/
  | full
  /-- An array may end early. -/
  | short
  deriving DecidableEq

/-- The values of the fields of a record; a field that is left out has none. -/
def fields? (complete : Completeness) (names : List String) : Json → Option (List (Option Json))
  | .object members => do
    let members ← names? members
    if names.all fun name => (members.filter (·.1 == name)).length ≤ 1 then
      some (names.map fun name => members.lookup name)
    else none
  | .list items =>
    if items.length = names.length ∨ (complete = .short ∧ items.length < names.length) then
      some (items.map some ++ List.replicate (names.length - items.length) none)
    else none
  | _ => none

/-- The name of a choice and its content, if it has one. -/
def choice? : Json → Option (String × Option Json)
  | .str name => some (name, none)
  | .object [(some name, content)] => some (name, some content)
  | _ => none

/-- The name of a choice without content. -/
def bareChoice? (j : Json) : Option String :=
  match j.choice? with
  | some (name, none) | some (name, some .null) => some name
  | _ => none

/-- How deeply the values inside a tagged choice may nest, counted from the root of the text. -/
def depthLimit : Nat := 127

mutual

/-- Whether a value can be read whatever it is: it opens at most `room` arrays and objects inside
each other, its strings are texts, and its numbers are finite. -/
def isPlain (room : Nat) : Json → Bool
  | .null | .bool _ | .str _ => true
  | .int n => isFinite (Nat.toDigits 10 n.natAbs)
  | .number literal => isFinite literal
  | .unpaired => false
  | .list items => match room with
    | 0 => false
    | room + 1 => arePlain room items
  | .object members => match room with
    | 0 => false
    | room + 1 => areMembersPlain room members

/-- `isPlain` of the items of an array. -/
def arePlain (room : Nat) : List Json → Bool
  | [] => true
  | item :: items => isPlain room item && arePlain room items

/-- `isPlain` of the members of an object. -/
def areMembersPlain (room : Nat) : List (Option String × Json) → Bool
  | [] => true
  | (name, value) :: members =>
    name.isSome && isPlain room value && areMembersPlain room members

end

/-- The name of a tagged choice, and the record of its fields, which stands inside `opened` arrays
and objects. -/
def tagged? (tag : String) (opened : Nat) : Json → Option (String × Json)
  | .object members => do
    let others := members.filter (·.1 != some tag)
    match members.filter (·.1 == some tag) with
    | [(_, .str name)] =>
      if areMembersPlain (depthLimit - opened - 1) others then some (name, .object others) else none
    | _ => none
  | .list (.str name :: items) =>
    if arePlain (depthLimit - opened - 1) items then some (name, .list items) else none
  | _ => none

/-- Whether a tagged choice that has no fields may be written with these: as an object it may have
any members, as an array it has no more items. -/
def isFieldless : Json → Bool
  | .object _ => true
  | .list items => items.isEmpty
  | _ => false

/-- The name of a choice without content inside a tagged choice, where an empty object stands for
no content as well. -/
def innerBareChoice? (j : Json) : Option String :=
  match j.choice? with
  | some (name, none) | some (name, some .null) | some (name, some (.object [])) => some name
  | _ => none

end RoundTrip.Json
