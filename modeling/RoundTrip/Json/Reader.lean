import RoundTrip.Json.Token

/-!
# Reading a JSON text

The reader takes the tokens one at a time and keeps the arrays and objects that are still open on
a stack, so it reads documents of any depth by recursion on the text alone. Nothing but one
document may stand in the text: no second document, no comma before a closing bracket, no member
without a value.
-/

namespace RoundTrip.Json

/-- An array or object that is still open, with what it holds so far, the last one first. -/
inductive Frame where
  /-- An array. -/
  | list (items : List Json)
  /-- An object, with the name of the member that is being read. -/
  | object (members : List (Option String × Json)) (name : Option String)

/-- What may come next. -/
inductive Place where
  /-- A document. -/
  | value (stack : List Frame)
  /-- A document or the end of the array. -/
  | firstItem (stack : List Frame)
  /-- A name or the end of the object. -/
  | firstName (stack : List Frame)
  /-- A name. -/
  | nextName (members : List (Option String × Json)) (stack : List Frame)
  /-- The colon behind a name. -/
  | colon (stack : List Frame)
  /-- The comma or the end of the innermost frame. -/
  | behind (frame : Frame) (stack : List Frame)
  /-- The end of the text. -/
  | done (document : Json)

namespace Place

/-- The place behind a document that is complete. -/
def deliver (j : Json) : List Frame → Place
  | [] => .done j
  | .list items :: stack => .behind (.list (j :: items)) stack
  | .object members name :: stack => .behind (.object ((name, j) :: members) none) stack

/-- The effect of the first token of a document. -/
def begun (stack : List Frame) : Token → Option Place
  | .leaf j => some (deliver j stack)
  | .listStart => some (.firstItem stack)
  | .objectStart => some (.firstName stack)
  | _ => none

/-- The effect of the name of a member. -/
def named (members : List (Option String × Json)) (stack : List Frame) : Token → Option Place
  | .leaf (.str s) => some (.colon (.object members (some s) :: stack))
  | .leaf .unpaired => some (.colon (.object members none :: stack))
  | _ => none

/-- The effect of a token. -/
def next : Place → Token → Option Place
  | .value stack, t => begun stack t
  | .firstItem stack, .listEnd => some (deliver (.list []) stack)
  | .firstItem stack, t => begun (.list [] :: stack) t
  | .firstName stack, .objectEnd => some (deliver (.object []) stack)
  | .firstName stack, t => named [] stack t
  | .nextName members stack, t => named members stack t
  | .colon stack, .colon => some (.value stack)
  | .behind (.list items) stack, .comma => some (.value (.list items :: stack))
  | .behind (.list items) stack, .listEnd => some (deliver (.list items.reverse) stack)
  | .behind (.object members _) stack, .comma => some (.nextName members stack)
  | .behind (.object members _) stack, .objectEnd =>
    some (deliver (.object members.reverse) stack)
  | _, _ => none

end Place

/-- The document of a sequence of tokens. -/
def ofTokens? (tokens : List Token) : Option Json := do
  match ← tokens.foldlM Place.next (.value []) with
  | .done j => some j
  | _ => none

/-- The document of a text. -/
def ofChars? (text : List Char) : Option Json := (tokens? text).bind ofTokens?

/-- The document of a text. -/
def ofText? (text : String) : Option Json := ofChars? text.toList

end RoundTrip.Json
