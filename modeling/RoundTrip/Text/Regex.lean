/-!
# Regular expressions

An expression stands for stretches of a text. `Regex.endings` gives all places at which a stretch
that begins at a place may end, so the longest one and the ones that satisfy a further condition
are found by looking through a list. Repetitions only go on where they get ahead, which bounds them
by the length of the text (`Regex.repeated`).
-/

namespace RoundTrip

/-- A class of characters that has a name. -/
inductive CharClass where
  | alpha | digit | alnum | upper | lower | space | blank | punct | print | graph | cntrl | xdigit
  /-- The characters that words are made of. -/
  | word
  deriving DecidableEq, Inhabited

namespace CharClass

/-- The classes, by their names. -/
def named : List (String × CharClass) :=
  [("alpha", .alpha), ("digit", .digit), ("alnum", .alnum), ("upper", .upper), ("lower", .lower),
    ("space", .space), ("blank", .blank), ("punct", .punct), ("print", .print),
    ("graph", .graph), ("cntrl", .cntrl), ("xdigit", .xdigit)]

/-- Whether a character is in a class. Characters beyond ASCII count as letters without case. -/
def has (k : CharClass) (c : Char) : Bool :=
  let beyond := 0x80 ≤ c.toNat
  let letter := c.isAlpha || beyond
  let control := c < ' ' || c == '\x7f'
  match k with
  | .alpha => letter
  | .digit => c.isDigit
  | .alnum => letter || c.isDigit
  | .upper => c.isUpper
  | .lower => c.isLower
  | .space => c == ' ' || ('\t' ≤ c && c ≤ '\r')
  | .blank => c == ' ' || c == '\t'
  | .punct => !control && c != ' ' && !letter && !c.isDigit
  | .print => !control
  | .graph => !control && c != ' '
  | .cntrl => control
  | .xdigit => c.isDigit || ('a' ≤ c.toLower && c.toLower ≤ 'f')
  | .word => letter || c.isDigit || c == '_'

end CharClass

/-- What a set of characters is made of. -/
inductive CharTest where
  /-- The characters from one to another. -/
  | range (low high : Char)
  /-- The characters of a class. -/
  | ofClass (k : CharClass)
  deriving DecidableEq, Inhabited

/-- Whether a character passes a test. -/
def CharTest.passes (t : CharTest) (c : Char) : Bool :=
  match t with
  | .range low high => low ≤ c && c ≤ high
  | .ofClass k => k.has c

/-- A set of characters. -/
structure CharSet where
  /-- Whether it holds the characters that pass no test, and not those that pass one. -/
  negated : Bool := false
  /-- The tests. -/
  tests : List CharTest
  deriving DecidableEq, Inhabited

namespace CharSet

/-- The set of all characters. -/
def all : CharSet := ⟨true, []⟩

/-- The set of a single character. -/
def single (c : Char) : CharSet := ⟨false, [.range c c]⟩

/-- Whether a set holds a character; `fold` says that case does not count. -/
def has (fold : Bool) (s : CharSet) (c : Char) : Bool :=
  let passes (c : Char) : Bool := s.tests.any (·.passes c)
  (passes c || (fold && (passes c.toLower || passes c.toUpper))) != s.negated

end CharSet

/-- The edges of a word. -/
inductive WordEdge where
  /-- Where a word begins or ends. -/
  | any
  /-- Where none begins or ends. -/
  | none
  /-- Where a word begins. -/
  | left
  /-- Where a word ends. -/
  | right
  deriving DecidableEq, Inhabited

/-- A regular expression. -/
inductive Regex where
  /-- The empty stretch. -/
  | empty
  /-- A character of a set. -/
  | one (set : CharSet)
  /-- A stretch of one expression and behind it one of another. -/
  | seq (first second : Regex)
  /-- A stretch of one of two expressions. -/
  | either (first second : Regex)
  /-- So many stretches behind each other. -/
  | many (r : Regex) (least : Nat) (most : Option Nat)
  /-- A stretch that gets a number. -/
  | group (number : Nat) (r : Regex)
  /-- The text of the stretch with a number. -/
  | again (number : Nat)
  /-- The begin of the text. -/
  | start
  /-- The end of the text. -/
  | finish
  /-- An edge of a word. -/
  | edge (kind : WordEdge)
  deriving Inhabited

namespace Regex

/-- A place in a text. -/
structure Spot where
  /-- The character before it. -/
  before : Option Char
  /-- The text behind it. -/
  rest : List Char
  /-- How long that text is. -/
  left : Nat
  /-- The texts of the numbered stretches. -/
  groups : List (Nat × List Char) := []
  deriving Inhabited

namespace Spot

/-- The start of a text. -/
def ofText (text : List Char) : Spot := ⟨none, text, text.length, []⟩

/-- The place behind the next character. -/
def next? (s : Spot) : Option Spot :=
  match s.rest with
  | c :: rest => some { s with before := some c, rest, left := s.left - 1 }
  | [] => none

/-- The place so many characters further on. -/
def skip : Nat → Spot → Spot
  | 0, s => s
  | n + 1, s =>
    match s.next? with
    | some t => skip n t
    | none => s

/-- Whether two places are the same, with the same numbered stretches. -/
def same (a b : Spot) : Bool := a.left == b.left && a.groups == b.groups

/-- Whether the characters before and behind a place belong to words. -/
def sides (s : Spot) : Bool × Bool :=
  (s.before.any CharClass.word.has, s.rest.head?.any CharClass.word.has)

/-- The text from a place to a later one. -/
def upTo (a b : Spot) : List Char := a.rest.take (a.left - b.left)

end Spot

/-- Whether a place is an edge of a word. -/
def isEdge (k : WordEdge) (s : Spot) : Bool :=
  let (before, behind) := s.sides
  match k with
  | .any => before != behind
  | .none => before == behind
  | .left => !before && behind
  | .right => before && !behind

/-- Places without repetitions. -/
def distinct (spots : List Spot) : List Spot :=
  (spots.foldl (fun seen s => if seen.any s.same then seen else s :: seen) []).reverse

/-- The places behind at least `least` steps and at most `most`, of which `count` were done; of the
steps that need not be done, only those that get ahead are. -/
def repeated (step : Spot → List Spot) (least : Nat) (most : Option Nat) : Nat → Nat →
    List Spot → List Spot
  | 0, _, _ => []
  | fuel + 1, count, spots =>
    let here := if least ≤ count then spots else []
    if spots.isEmpty || most == some count then here
    else
      let ahead := spots.flatMap fun s =>
        (step s).filter fun t => count < least || t.left < s.left
      here ++ repeated step least most fuel (count + 1) (distinct ahead)

/-- The places at which a stretch that begins at a place may end; `fold` says that case does not
count. -/
def endings (fold : Bool) : Regex → Spot → List Spot
  | .empty, s => [s]
  | .one set, s =>
    match s.rest with
    | c :: _ => if set.has fold c then s.next?.toList else []
    | [] => []
  | .seq a b, s => distinct ((endings fold a s).flatMap (endings fold b))
  | .either a b, s => distinct (endings fold a s ++ endings fold b s)
  | .many r least most, s =>
    distinct (repeated (endings fold r) least most (s.left + least + 1) 0 [s])
  | .group n r, s =>
    (endings fold r s).map fun t => { t with groups := (n, s.upTo t) :: t.groups.filter (·.1 != n) }
  | .again n, s =>
    match s.groups.lookup n with
    | some text =>
      let flat (t : List Char) : List Char := if fold then t.map Char.toLower else t
      if (flat text).isPrefixOf (flat s.rest) then [s.skip text.length] else []
    | none => []
  | .start, s => if s.before.isNone then [s] else []
  | .finish, s => if s.rest.isEmpty then [s] else []
  | .edge kind, s => if isEdge kind s then [s] else []

/-- The expression that stands for a text itself. -/
def ofText (text : List Char) : Regex :=
  text.foldr (fun c r => .seq (.one (.single c)) r) .empty

/-- The first stretch, and of those that begin there the longest, among those that are `wanted`.
The places from `s` on are tried, at most `fuel` of them. -/
def find? (fold : Bool) (r : Regex) (wanted : Spot → Spot → Bool) :
    Nat → Spot → Option (Spot × Spot)
  | 0, _ => none
  | fuel + 1, s =>
    let ends := (endings fold r s).filter (wanted s)
    match ends with
    | e :: es => some (s, es.foldl (fun best t => if t.left < best.left then t else best) e)
    | [] => s.next?.bind (find? fold r wanted fuel)

/-- Whether an expression stands for a whole text. -/
def fits (r : Regex) (text : List Char) : Bool :=
  (endings false r (.ofText text)).any (·.rest.isEmpty)

end Regex

end RoundTrip
