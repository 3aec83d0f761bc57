import RoundTrip.Text.Utf8

/-!
# Paths

A path is a byte string that a slash cuts into pieces. Its components are what the pieces mean: the
root, the directory itself (a point, which counts only where it begins a relative path), the
directory above, or a name. Empty pieces and all other points mean nothing, so the last component
of `a/b/./` is `b`.

The operations rebuild a path from its bytes and not from its components, because an answer shows
every byte of a path: what stands in front of the last component is kept as it was written, without
the slashes and points at its end (`Path.parent?`).
-/

namespace RoundTrip

/-- A path, as it is written. -/
structure Path where
  /-- The bytes of the path. -/
  bytes : Bytes
  deriving DecidableEq, Inhabited

namespace Path

/-- The slash, which separates the pieces of a path. -/
def slash : UInt8 := 0x2F

/-- The point, which stands for the directory itself. -/
def dot : Bytes := [0x2E]

/-- Two points, which stand for the directory above. -/
def dotDot : Bytes := [0x2E, 0x2E]

/-- The path with a given text. -/
def ofText (text : String) : Path := ⟨Utf8.encode text⟩

/-- The text of a path, if it is one. -/
def text? (p : Path) : Option String := Utf8.decode? p.bytes

/-- What messages show of a path. -/
def display (p : Path) : String := Utf8.display p.bytes

/-- The path of a text has that text. -/
@[simp] theorem text?_ofText (text : String) : (ofText text).text? = some text := by
  simp [text?, ofText]

/-- A path that is a text is the path of that text. -/
theorem ofText_of_text? {p : Path} {text : String} (h : p.text? = some text) :
    ofText text = p := by
  cases p; simp [ofText, Utf8.encode_of_decode? h]

/-- Cuts a byte string at its slashes. -/
def cut : Bytes → List Bytes
  | [] => [[]]
  | b :: rest =>
    if b = slash then [] :: cut rest
    else
      match cut rest with
      | [] => [[b]]
      | piece :: pieces => (b :: piece) :: pieces

/-- Writes pieces with slashes between them. -/
def glue : List Bytes → Bytes
  | [] => []
  | [piece] => piece
  | piece :: pieces => piece ++ slash :: glue pieces

/-- A byte string is cut into at least one piece. -/
theorem cut_ne_nil (bytes : Bytes) : cut bytes ≠ [] := by
  cases bytes with
  | nil => simp [cut]
  | cons b rest =>
    simp only [cut]
    split
    · simp
    · split <;> simp

/-- The pieces of a byte string, with slashes between them, are the byte string. -/
theorem glue_cut (bytes : Bytes) : glue (cut bytes) = bytes := by
  induction bytes with
  | nil => rfl
  | cons b rest ih =>
    have hne := cut_ne_nil rest
    simp only [cut]
    split
    · rename_i h
      cases hc : cut rest with
      | nil => exact absurd hc hne
      | cons piece pieces => rw [hc] at ih; simp [glue, ih, h]
    · cases hc : cut rest with
      | nil => exact absurd hc hne
      | cons piece pieces =>
        rw [hc] at ih
        cases pieces with
        | nil => simpa [glue] using ih
        | cons q qs => simpa [glue] using ih

/-- What a piece of a path means. -/
inductive Component where
  /-- The root. -/
  | root
  /-- The directory itself. -/
  | here
  /-- The directory above. -/
  | up
  /-- An entry of the directory. -/
  | name (bytes : Bytes)
  deriving DecidableEq

/-- Where the components of a path start: at the root, at a point that begins the path, or at
neither. -/
inductive Origin where
  | root | here | bare
  deriving DecidableEq

/-- Where the components of a path start, and the pieces behind that. -/
def body (p : Path) : Origin × List Bytes :=
  match cut p.bytes with
  | [] => (.bare, [])
  | [[]] => (.bare, [])
  | [] :: pieces => (.root, pieces)
  | piece :: pieces => if piece = dot then (.here, pieces) else (.bare, piece :: pieces)

/-- Whether a piece means nothing behind the start of a path. -/
def isTrivial (piece : Bytes) : Bool := piece.isEmpty || piece == dot

/-- The meaning of a piece that has one. -/
def Component.ofPiece (piece : Bytes) : Component := if piece = dotDot then .up else .name piece

/-- The components of a path. -/
def components (p : Path) : List Component :=
  let rest := (p.body.2.filter fun piece => !isTrivial piece).map .ofPiece
  match p.body.1 with
  | .root => .root :: rest
  | .here => .here :: rest
  | .bare => rest

/-- The last component of a path, if it is a name. -/
def fileName? (p : Path) : Option Bytes :=
  match p.components.getLast? with
  | some (.name bytes) => some bytes
  | _ => none

/-- Whether a path starts at the root. -/
def isAbsolute (p : Path) : Bool := p.bytes.head? == some slash

/-- Whether a path has no bytes. -/
def isEmpty (p : Path) : Bool := p.bytes.isEmpty

/-- The pieces without those at the end that mean nothing. -/
def dropTrivial (pieces : List Bytes) : List Bytes := (pieces.reverse.dropWhile isTrivial).reverse

/-- The path of a start and the pieces behind it. -/
def ofBody : Origin → List Bytes → Path
  | .root, pieces => ⟨slash :: glue pieces⟩
  | .here, [] => ⟨dot⟩
  | .here, pieces => ⟨dot ++ slash :: glue pieces⟩
  | .bare, pieces => ⟨glue pieces⟩

/-- The path without its last component, unless there is none or it is the root. -/
def parent? (p : Path) : Option Path :=
  match p.body.1, dropTrivial p.body.2 with
  | .root, [] | .bare, [] => none
  | .here, [] => some ⟨[]⟩
  | origin, pieces => some (ofBody origin (dropTrivial pieces.dropLast))

/-- The path of an entry: a slash separates the two unless the directory is empty or ends in one,
and an absolute entry stands alone. -/
def join (dir entry : Path) : Path :=
  if entry.isAbsolute then entry
  else
    match dir.bytes.getLast? with
    | none => entry
    | some b => ⟨dir.bytes ++ (if b = slash then [] else [slash]) ++ entry.bytes⟩

/-- The path with another name in place of its last component. -/
def withFileName (p : Path) (name : Bytes) : Path :=
  match p.fileName? with
  | some _ => (p.parent?.getD p).join ⟨name⟩
  | none => p.join ⟨name⟩

end Path

end RoundTrip
