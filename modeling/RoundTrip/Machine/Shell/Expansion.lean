import RoundTrip.Machine.Shell.Arithmetic
import RoundTrip.Machine.Shell.Process

/-!
# Expansion of words

What words stand for: tildes are replaced by directories, parameters by their values, commands by
what they write, and arithmetic by its value. A word is then cut into fields, or taken as a whole,
or taken as a pattern.
-/

namespace RoundTrip.Shell

open Machine

/-- How a word is expanded. -/
structure How where
  /-- It will be cut into fields. -/
  full : Bool := false
  /-- A tilde at its beginning is replaced. -/
  tilde : Bool := false
  /-- Tildes behind an equals sign and behind colons are replaced. -/
  assigns : Bool := false
  /-- An equals sign has been met. -/
  assigned : Bool := false
  /-- It is a pattern. -/
  pattern : Bool := false
  /-- It is the operand of a parameter, which may be cut itself. -/
  operand : Bool := false
  /-- It stands within double quotes. -/
  quoted : Bool := false
  deriving Inhabited

namespace How

/-- Whether it is kept which characters stand for themselves. -/
def keeps (h : How) : Bool := h.full || h.pattern

/-- The glyphs of a text that is put in. -/
def glyphs (h : How) (text : Chars) : List Glyph :=
  if h.keeps && h.quoted then
    text.map fun c => if c = '\\' ∨ c ∈ controls then .escaped c else .char c
  else text.map .char

/-- The run of a text that is put in. -/
def run (h : How) (text : Chars) : Run := ⟨if h.quoted then .whole else .soft, h.glyphs text⟩

end How

/-! ## Tildes -/

/-- What is read of a word for a tilde: how many parts, and the name behind the tilde. -/
def tildeName (h : How) : Word → Chars → Option (Nat × Chars)
  | .char c :: rest, name =>
    if c = '/' ∨ (c = ':' ∧ h.assigns) then some (name.length, name.reverse)
    else tildeName h rest (c :: name)
  | [], name => some (name.length, name.reverse)
  | _, _ => none

/-- The directory that a tilde stands for, of which `rest` is what follows it in the word, and how
many parts of that belong to it. -/
def tildeHome (s : State) (h : How) (rest : Word) : Option (Nat × Chars) := do
  let (count, name) ← tildeName h rest []
  if name.isEmpty then return (count, ← s.var? "HOME".toList)
  else if name = "root".toList then return (count, "/root".toList)
  else none

/-! ## Parameters -/

/-- The arguments as one list of glyphs, with what stands between them. -/
def argGlyphs (s : State) (h : How) (isAt : Bool) : List Glyph :=
  let separator : List Glyph := match s.var? "IFS".toList with
    | none => if h.full && h.quoted && isAt then [.gap] else h.glyphs [' ']
    | some ifs => if h.full && (isAt || !h.quoted) then [.gap] else h.glyphs (ifs.take 1)
  separator.intercalate (s.args.map h.glyphs)

/-- The letters of the options that are set, in their order. -/
def optionText (s : State) : Chars :=
  ['p', 'u', 'b', 'a', 'C', 'E', 'V', 'v', 'x', 's', 'n', 'm', 'i', 'I', 'f', 'e'].filter s.has

/-- The value of a parameter, if it is set. -/
def paramValue (s : State) (h : How) (name : Chars) : Option (List Glyph) :=
  let text (value : Chars) : Option (List Glyph) := some (h.glyphs value)
  let number (n : Nat) : Option (List Glyph) := text (toString n).toList
  match name with
  | ['$'] => number s.pid
  | ['?'] => number s.status
  | ['#'] => number s.args.length
  | ['!'] => s.lastBackground.bind number
  | ['-'] => text (optionText s)
  | ['@'] => some (argGlyphs s h true)
  | ['*'] => some (argGlyphs s h false)
  | _ =>
    if name.all Char.isDigit then
      match digitsValue 10 name with
      | 0 => text s.name
      | n + 1 => s.args[n]?.bind text
    else (s.var? name).bind text

/-- Complains of a parameter that is not set, and stops. -/
def refuseUnset {α : Type} (name message : Chars) : Sh α := Sh.fail (name ++ [':', ' '] ++ message)

/-- What is said of a parameter that is not set. -/
def unsetPhrase : Chars := "parameter not set".toList

/-- The runs of a parameter. The operand is expanded by `operand`, and is empty if `isBare`. -/
def paramRuns (h : How) (name : Chars) (op : ParamOp) (isBare : Bool)
    (operand : How → Sh (List Run)) : Sh (List Run) := do
  let s ← get
  let found := paramValue s h name
  let present (colon : Bool) : Bool := found.any fun g => !(colon && g.isEmpty)
  let record (glyphs : List Glyph) : Sh (List Run) :=
    let region : Region := if !h.quoted then .soft
      else if name == ['@'] && !s.args.isEmpty then .gaps
      else .whole
    return [⟨region, glyphs⟩]
  let demanded : Sh Unit := do
    if found.isNone && s.has 'u' then refuseUnset name unsetPhrase
  let inOperand : How := { h with tilde := true, operand := true }
  match op with
  | .wrong => Sh.failWith "Bad substitution"
  | .value =>
    demanded
    match found with
    | some glyphs => record glyphs
    | none => return []
  | .length =>
    demanded
    let value := (paramValue s { h with full := false } name).getD []
    record (h.glyphs (toString value.length).toList)
  | .orElse colon =>
    if present colon then record (found.getD []) else operand inOperand
  | .instead colon => if present colon then operand inOperand else record []
  | .assign colon =>
    if present colon then record (found.getD [])
    else
      let text := textOfRuns (← operand { tilde := true })
      if !isName name then Sh.fail (name ++ ": bad variable name".toList)
      Sh.assign name text
      match paramValue (← get) h name with
      | some glyphs => record glyphs
      | none => return []
  | .demand colon =>
    if present colon then record (found.getD [])
    else
      let text := textOfRuns (← operand { tilde := true })
      if isBare then
        refuseUnset name (unsetPhrase ++ if colon then " or null".toList else [])
      else refuseUnset name text
  | .dropEnd longest =>
    demanded
    match found with
    | none => return []
    | some glyphs =>
      let pattern := patternOf ((← operand { tilde := true, pattern := true }).flatMap Run.glyphs)
      record (glyphs.take (dropEnd longest pattern (textOf glyphs)).length)
  | .dropStart longest =>
    demanded
    match found with
    | none => return []
    | some glyphs =>
      let pattern := patternOf ((← operand { tilde := true, pattern := true }).flatMap Run.glyphs)
      let left := (dropStart longest pattern (textOf glyphs)).length
      record (glyphs.drop (glyphs.length - left))

/-! ## Arithmetic -/

/-- The value of an arithmetic expression, whose assignments are done. -/
def sumText (expression : Chars) : Sh Chars := do
  let s ← get
  match evalSum ⟨s.var?, s.isFixed⟩ expression with
  | .ok (n, assigned) =>
    for (name, value) in assigned do Sh.assign name (toString value).toList
    return (toString n).toList
  | .error .overflow => Sh.perform (Proc.exit (.signal 8))
  | .error fault => Sh.fail (fault.text expression)

/-! ## Words -/

/-- Where the expansion of a word is. -/
structure Expanding where
  /-- The runs so far, the last one first. -/
  runs : List Run := []
  /-- The characters of the run that is not complete yet, the last one first. -/
  text : List Glyph := []
  /-- Whether quotes are open. -/
  quotes : Bool := false
  /-- Whether a tilde that comes next is replaced. -/
  atTilde : Bool := false
  /-- How many parts are passed over. -/
  passed : Nat := 0

namespace Expanding

/-- With the run complete. -/
def flush (h : How) (e : Expanding) : Expanding :=
  if e.text.isEmpty then e
  else
    let region : Region := if h.operand && !h.quoted && !e.quotes then .soft else .whole
    { e with runs := ⟨region, e.text.reverse⟩ :: e.runs, text := [] }

/-- With more runs. -/
def add (h : How) (runs : List Run) (e : Expanding) : Expanding :=
  { e.flush h with runs := runs.reverse ++ (e.flush h).runs, atTilde := false }

end Expanding

/-- Whether a word goes on with all arguments and a closing quote. -/
def isArgs : Word → Bool
  | .param ['@'] .value _ :: .mark :: _ => true
  | _ => false

/-- The runs of the parts of a word. -/
def expandParts (run : Runner) (h : How) (e : Expanding) : Word → Sh (List Run)
  | [] => return (e.flush h).runs.reverse
  | part :: rest => do
    match e.passed with
    | passed + 1 => expandParts run h { e with passed } rest
    | 0 =>
      let own : How := { h with quoted := h.quoted || e.quotes }
      match part with
      | .char c =>
        let home? ← if c = '~' ∧ e.atTilde then do pure (tildeHome (← get) h rest) else pure none
        match home? with
        | some (passed, home) =>
          let home : Run := ⟨.whole, { h with quoted := true }.glyphs home⟩
          expandParts run h { e.add h [home] with passed } rest
        | none =>
          let isEquals := h.assigns && !h.assigned && c == '='
          let atTilde := isEquals || (h.assigns && c == ':')
          expandParts run { h with assigned := h.assigned || isEquals }
            { e with text := .char c :: e.text, atTilde } rest
      | .escaped c =>
        let glyph : Glyph := if h.keeps then .escaped c else .char c
        expandParts run h (e.add h [⟨.whole, [glyph]⟩]) rest
      | .mark =>
        if !e.quotes && isArgs rest then
          let runs ← paramRuns { h with quoted := true } ['@'] .value true fun _ => return []
          expandParts run h { e.add h runs with passed := 2 } rest
        else
          let e := e.add h (if h.keeps then [⟨.whole, [.mark]⟩] else [])
          expandParts run h { e with quotes := !e.quotes } rest
      | .param name op operand =>
        let runs ← paramRuns own name op operand.isEmpty fun h =>
          expandParts run h { atTilde := h.tilde } operand
        expandParts run h (e.add h runs) rest
      | .output c =>
        let text ← Sh.outputOf run c
        expandParts run h (e.add h [own.run text]) rest
      | .sum inner =>
        let text ← sumText (textOfRuns (← expandParts run {} {} inner))
        expandParts run h (e.add h [own.run text]) rest
termination_by parts => sizeOf parts

/-- The runs of a word. -/
def expand (run : Runner) (h : How) (w : Word) : Sh (List Run) :=
  expandParts run h { atTilde := h.tilde } w

/-- The text of a word that is not cut. -/
def expandText (run : Runner) (h : How) (w : Word) : Sh Chars := do
  return textOfRuns (← expand run h w)

/-- The pattern that a word is. -/
def expandPattern (run : Runner) (w : Word) : Sh Chars := do
  return patternOf ((← expand run { tilde := true, pattern := true } w).flatMap Run.glyphs)

/-- The fields of a word. -/
def expandFields (run : Runner) (w : Word) : Sh (List Chars) := do
  let runs ← expand run { full := true, tilde := true } w
  let s ← get
  let fields := fieldsOf s.separators none runs
  let isPlain (field : List Glyph) : Bool :=
    s.has 'f' || !(textOf field).any fun c => c ∈ ['*', '?', '[']
  if fields.all isPlain then return fields.map textOf
  else Sh.see fun files =>
    fields.flatMap fun f => if isPlain f then [textOf f] else globField files f

/-- The text of a word that assigns a value to a variable. -/
def expandAssignment (run : Runner) (w : Word) : Sh Chars := expandText run { assigns := true } w

/-- What a text stands for as if it stood within double quotes. -/
def expandQuoted (run : Runner) (text : Chars) : Sh Chars := do
  let s ← get
  let here : Pending := { id := 0, mark := [aliasEnd], strips := false }
  let r : Reader := { rest := text, texts := s.texts, aliases := s.aliases }
  let read : Read Token := do
    Script.chars readLimit (some here) { frame := { quoting := .double, double := true } }
      (← nextJoined)
  match read.run r with
  | .error _ => return text
  | .ok (_, r) =>
    set { s with texts := r.texts }
    expandText run { quoted := true } r.word

end RoundTrip.Shell
