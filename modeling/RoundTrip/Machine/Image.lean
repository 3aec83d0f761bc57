import RoundTrip.Json.Token
import RoundTrip.Machine.Host
import RoundTrip.Storage

/-!
# Images of machines

An image is a JSON document that says what files a machine has besides its programs: a list of
entries, which are made in order, each with the directories that it lies in. An entry is an object
with a member `dir`, `link` or `file`, which holds its path; a link has its target in `to`, and a
file may have its content in `text`, or in `hex` as hexadecimal digits, and its permissions in
`mode` as octal ones. A path is a string or an object whose member `hex` holds its bytes.
-/

namespace RoundTrip.Machine

/-- An entry of an image. -/
inductive Entry where
  | dir (path : Path)
  | link (path target : Path)
  | file (path : Path) (content : Bytes) (mode : Nat)
  deriving DecidableEq, Inhabited

/-- The bytes of pairs of hexadecimal digits. -/
def ofHex : List Char → Bytes
  | a :: b :: rest =>
    let digit (c : Char) : Nat := (Json.Scan.hexDigit? c).getD 0
    UInt8.ofNat (digit a * 16 + digit b) :: ofHex rest
  | _ => []

/-- The bytes that a document stands for. -/
def bytes? : Json → Option Bytes
  | .str text => some (Utf8.encode text)
  | j => do return ofHex (← (← j.get? "hex").text?).toList

/-- The path that a document stands for. -/
def path? (j : Json) : Option Path := (bytes? j).map Path.mk

namespace Entry

/-- The content of a file. -/
def content (j : Json) : Bytes :=
  match (j.get? "hex").bind Json.text? with
  | some digits => ofHex digits.toList
  | none => Utf8.encode (((j.get? "text").bind Json.text?).getD "")

/-- The permissions of a file. -/
def mode (j : Json) : Nat :=
  match (j.get? "mode").bind Json.text? with
  | some digits => Nat.ofDigitChars 8 digits.toList 0
  | none => Node.plainMode

/-- Reads an entry. -/
def ofJson? (j : Json) : Option Entry := do
  match j.get? "dir", j.get? "link" with
  | some p, _ => return .dir (← path? p)
  | none, some p => return .link (← path? p) (← path? (← j.get? "to"))
  | none, none => return .file (← path? (← j.get? "file")) (content j) (mode j)

/-- Makes an entry. -/
def install (e : Entry) (files : FileTree) : Except Reason FileTree := do
  let settled (attempted : FileTree.Attempted) : Except Reason FileTree :=
    attempted.2.map fun _ => attempted.1
  match e with
  | .dir p => settled (files.makeDirs p)
  | .link p target => (← settled (Report.makeRoom files p)).makeLink p target
  | .file p content mode =>
    (← (← settled (Report.makeRoom files p)).write p content).setMode p mode

end Entry

/-- The files of a machine with a working directory and the entries of an image; an entry that
cannot be made is left out. -/
def filesOf (cwd : Place) (entries : List Entry) : FileTree :=
  let bare : FileTree := { root := Node.put (.dir []) cwd rootTree, cwd }
  entries.foldl (fun files e => (e.install files).toOption.getD files) bare

end RoundTrip.Machine
