import RoundTrip.Files.Tree
import RoundTrip.Machine.Shell.Pattern
import RoundTrip.Machine.Task

/-!
# The fields of a word

What a word stands for before it is cut into fields is a list of runs. Only what was put in may be
cut (`Region`): at the separators of the shell, or just between the arguments that were put in.
Fields that hold patterns stand for the names of the files that match.
-/

namespace RoundTrip.Shell

open Machine

/-- A piece of an expanded word. -/
inductive Glyph where
  /-- A character. -/
  | char (c : Char)
  /-- A character that stands for itself. -/
  | escaped (c : Char)
  /-- A place where a quote was. -/
  | mark
  /-- The end of an argument. -/
  | gap
  deriving DecidableEq, Inhabited

/-- Where some glyphs may be cut. -/
inductive Region where
  /-- Nowhere. -/
  | whole
  /-- At separators. -/
  | soft
  /-- Between arguments. -/
  | gaps
  deriving DecidableEq, Inhabited

/-- Some glyphs of a region. -/
structure Run where
  region : Region
  glyphs : List Glyph
  deriving Inhabited

/-- The character of a glyph. -/
def Glyph.char? : Glyph → Option Char
  | .char c | .escaped c => some c
  | .mark => none
  | .gap => some '\x00'

/-- The text of some glyphs. -/
def textOf (glyphs : List Glyph) : Chars := glyphs.filterMap Glyph.char?

/-- The text of some runs. -/
def textOfRuns (runs : List Run) : Chars := runs.flatMap fun r => textOf r.glyphs

/-! ## Cutting -/

/-- The separators that are used if no others are set. -/
def defaultSeparators : Chars := [' ', '\t', '\n']

/-- What was cut so far. -/
structure Cutting where
  /-- The fields, the last one first. -/
  fields : List (List Glyph) := []
  /-- The field that is not complete yet, the last glyph first. -/
  field : List Glyph := []
  /-- Whether a blank has just ended a field. -/
  blank : Bool := false
  /-- How many fields there may be; the last one keeps its separators. -/
  limit : Option Nat
  /-- The last field without the separators at its end. -/
  trimmed : Option (List Glyph) := none
  /-- Whether the last run was cut between arguments only. -/
  gaps : Bool := false

namespace Cutting

/-- The cutting with another glyph in its field. -/
def add (k : Cutting) (g : Glyph) : Cutting := { k with field := g :: k.field }

/-- Goes on with a glyph of a region that may be cut; `hasGaps` says that this run or the one in
front of it is cut between arguments. -/
def glyph (separators : Chars) (hasGaps : Bool) (k : Cutting) (g : Glyph) : Cutting :=
  let c := g.char?.getD ' '
  let separates := g.char?.isSome && (c == '\x00' || separators.contains c)
  let isBlank := separates && (c == '\x00' || defaultSeparators.contains c)
  if k.limit = some 0 then
    if isBlank then { k.add g with trimmed := some (k.trimmed.getD k.field) }
    else
      let trimmed := if separates && k.blank then k.trimmed else none
      { k.add g with trimmed, blank := false }
  else if k.blank && isBlank then { k with field := [] }
  else if k.blank && separates then { k with field := [], blank := false }
  else
    let k := if k.blank then { k with field := [] } else k
    if !separates then { k.add g with blank := false }
    else
      let k := if hasGaps then k else { k with blank := isBlank }
      if k.field.isEmpty && k.blank then { k with blank := false }
      else if k.limit = some 1 then { k.add g with limit := some 0, trimmed := some k.field }
      else
        { k with
          fields := k.field.reverse :: k.fields, field := [], limit := k.limit.map (· - 1) }

/-- Goes on with a run. -/
def run (separators : Chars) (k : Cutting) (r : Run) : Cutting :=
  match r.region with
  | .whole => { k with field := r.glyphs.reverse ++ k.field }
  | region =>
    let gaps := region == .gaps
    let own := if gaps then [] else separators
    let cut := r.glyphs.foldl (glyph own (gaps || k.gaps)) { k with blank := false }
    { cut with gaps }

/-- The fields. -/
def all (k : Cutting) : List (List Glyph) :=
  let field := if k.gaps then k.field else k.trimmed.getD k.field
  (if field.isEmpty && !k.gaps then k.fields else field.reverse :: k.fields).reverse

end Cutting

/-- The fields of some runs, of which there may be a greatest number. -/
def fieldsOf (separators : Chars) (limit : Option Nat) (runs : List Run) : List (List Glyph) :=
  (runs.foldl (Cutting.run separators) { limit }).all

/-! ## Patterns -/

/-- The pattern that some glyphs are; a backslash stands in front of a character that stands for
itself, unless there is one already. -/
def patternFrom : Bool → List Glyph → Chars
  | _, [] => []
  | _, .mark :: rest => patternFrom true rest
  | fresh, .escaped c :: rest =>
    if fresh then '\\' :: c :: patternFrom true rest else c :: patternFrom true rest
  | _, .char c :: rest => c :: patternFrom (c != '\\') rest
  | _, .gap :: rest => patternFrom true rest

/-- The pattern that some glyphs are. -/
def patternOf (glyphs : List Glyph) : Chars := patternFrom true glyphs

/-- The pieces of a pattern between its slashes. -/
def cutPattern : Chars → List Chars
  | [] => [[]]
  | '\\' :: '/' :: rest => [] :: cutPattern rest
  | '\\' :: c :: rest =>
    match cutPattern rest with
    | [] => [['\\', c]]
    | piece :: pieces => ('\\' :: c :: piece) :: pieces
  | c :: rest =>
    if c = '/' then [] :: cutPattern rest
    else
      match cutPattern rest with
      | [] => [[c]]
      | piece :: pieces => (c :: piece) :: pieces

/-- Whether a pattern stands for more than one text. -/
def isOpenPattern (pattern : Chars) : Bool :=
  (itemsOf pattern).any fun
    | .char _ => false
    | _ => true

/-- A pattern without the backslashes in front of characters. -/
def literalOf : Chars → Chars
  | '\\' :: c :: rest => c :: literalOf rest
  | c :: rest => c :: literalOf rest
  | [] => []

/-- Whether a text does not come behind another one in the order of their bytes. -/
def textLe : Chars → Chars → Bool
  | [], _ => true
  | _ :: _, [] => false
  | a :: as, b :: bs => a < b || (a == b && textLe as bs)

/-- The names in a directory that a piece of a pattern stands for. -/
def namesFor (files : FileTree) (dir piece : Chars) : List Chars :=
  match files.node? (if dir.isEmpty then ⟨Path.dot⟩ else pathOf dir) with
  | some (.dir entries) =>
    let hidden := (literalOf (piece.take 2)).head? == some '.'
    let items := itemsOf piece
    (['.'] :: ['.', '.'] :: entries.map fun e => charsOf e.1).filter fun n =>
      (hidden || n.head? != some '.') && matchesItems items n
  | _ => []

/-- The paths that the pieces of a pattern stand for, behind a directory. -/
def pathsFrom (files : FileTree) (dir : Chars) : List Chars → List Chars
  | [] => [dir]
  | [piece] =>
    if isOpenPattern piece then (namesFor files dir piece).map (dir ++ ·)
    else
      let path := dir ++ literalOf piece
      match files.landing false (pathOf path) with
      | .ok (.found _ _) => [path]
      | _ => []
  | piece :: pieces =>
    if isOpenPattern piece then
      (namesFor files dir piece).flatMap fun n => pathsFrom files (dir ++ n ++ ['/']) pieces
    else pathsFrom files (dir ++ literalOf piece ++ ['/']) pieces

/-- The texts that a field stands for. -/
def globField (files : FileTree) (field : List Glyph) : List Chars :=
  let text := textOf field
  if text.any fun c => c ∈ ['*', '?', '['] then
    let pieces := cutPattern (patternOf field)
    let paths := if pieces.any isOpenPattern then pathsFrom files [] pieces else []
    if paths.isEmpty then [text] else paths.mergeSort textLe
  else [text]

end RoundTrip.Shell
