import RoundTrip.Log
import RoundTrip.Text.Blank
import RoundTrip.Text.Regex.Reader

/-!
# Log filters

A filter is a list of rules. A rule says how much a record must matter to be shown: a record whose
target begins with a text and that has some fields (a fixed rule), or any record inside a span that
has a name and some fields, perhaps with given values (a rule for spans). A rule that names fields
but neither a span nor values is of both kinds. A record is shown if a span around it lets it pass
(`LogFilter.opened?`), or else if the most specific of the fixed rules for it does: the one with the
longest text, then with the most fields, then the later one. A record without a rule is not shown.

A filter is written with commas between its rules. A rule is a level, which holds for all targets,
or the begin of targets, a span with fields in brackets, or both, and then perhaps an equals sign
and a level. Blanks around a rule only shift the bounds of its parts (`Outline.slice`), so they
usually spoil it.
-/

namespace RoundTrip

/-- What a rule asks of the value of a field. -/
inductive ValueTest where
  /-- A truth value or a number, which no text is. -/
  | exact
  /-- A text that an expression stands for. -/
  | pattern (r : Regex)

/-- A field that a rule asks for. -/
structure FieldTest where
  /-- The name of the field. -/
  name : List Char
  /-- What is asked of its value, if anything. -/
  value : Option ValueTest := none

/-- A rule of a filter. -/
structure LogRule where
  /-- The text that the targets begin with, if the rule is not for all of them. -/
  target : Option (List Char) := none
  /-- The name of a span. -/
  span : Option (List Char) := none
  /-- The fields that are asked for. -/
  fields : List FieldTest := []
  /-- The greatest rank of a level that is shown. -/
  greatest : Nat

/-- A filter. -/
abbrev LogFilter := List LogRule

namespace LogRule

/-! ## Reading rules -/

/-- The rank that a number or the name of a level stands for; 0 for a level that shows nothing. -/
def rank? (text : List Char) : Option Nat :=
  let digits := match text with
    | '+' :: rest => rest
    | cs => cs
  if !digits.isEmpty && digits.all Char.isDigit && Nat.ofDigitChars 10 digits 0 ≤ 5 then
    some (Nat.ofDigitChars 10 digits 0)
  else if text.isEmpty then some Level.error.rank
  else
    [("off".toList, 0), ("error".toList, Level.error.rank), ("warn".toList, Level.warn.rank),
      ("info".toList, Level.info.rank), ("debug".toList, Level.debug.rank),
      ("trace".toList, Level.trace.rank)].lookup (text.map Char.toLower)

/-- Whether a text is written as a floating-point number. -/
def isFloat (text : List Char) : Bool :=
  let unsigned := match text with
    | '+' :: rest | '-' :: rest => rest
    | cs => cs
  let whole := unsigned.takeWhile Char.isDigit
  let rest := unsigned.drop whole.length
  let (fraction, rest) := match rest with
    | '.' :: rest => (rest.takeWhile Char.isDigit, rest.dropWhile Char.isDigit)
    | cs => ([], cs)
  let isExponent := match rest with
    | [] => true
    | e :: rest =>
      let digits := match rest with
        | '+' :: rest | '-' :: rest => rest
        | cs => cs
      (e == 'e' || e == 'E') && !digits.isEmpty && digits.all Char.isDigit
  ["inf".toList, "infinity".toList, "nan".toList].contains (unsigned.map Char.toLower)
    || (!(whole ++ fraction).isEmpty && isExponent)

/-- What the text behind the equals sign of a field asks for. -/
def valueTest? (text : List Char) : Option ValueTest :=
  if text = "true".toList ∨ text = "false".toList ∨ isFloat text then some .exact
  else (Regex.ofPattern true text).toOption.map fun reading => .pattern reading.regex

/-- Reads a field. -/
def fieldTest? (text : List Char) : Option FieldTest :=
  let name := text.takeWhile (· != '=')
  match text.drop name.length with
  | [] => if name.isEmpty then none else some { name }
  | _ :: value =>
    (valueTest? (value.takeWhile (· != '='))).map fun test => { name, value := some test }

/-- Whether a rule may begin with a character. -/
def mayBegin (c : Char) : Bool :=
  c.isAlphanum || c == '-' || c == ':' || c == '_' || 0x80 ≤ c.toNat

/-- The text of a rule and what is left of it without the blanks around it. Bounds of parts are
found in the latter and count in the former. -/
structure Outline where
  /-- The whole text. -/
  whole : List Char
  /-- The text without the blanks around it. -/
  trimmed : List Char

namespace Outline

/-- The part of the text between two bounds. -/
def slice (o : Outline) (a b : Nat) : List Char := (o.whole.take b).drop a

/-- The first place from `a` on that has one of two characters. -/
def find? (o : Outline) (a : Nat) (x y : Char) : Option (Nat × Char) :=
  ((o.trimmed.zipIdx.drop a).find? fun (c, _) => c == x || c == y).map fun (c, i) => (i, c)

end Outline

/-- The rule behind an equals sign. -/
def readLevel (o : Outline) (rule : LogRule) (a : Nat) : Option LogRule :=
  let text := o.whole.drop a
  if text.isEmpty then some rule else (rank? text).map ({ rule with greatest := · })

mutual

/-- The rule behind a closing bracket, of which at most `fuel` brackets follow. -/
def readBehind (o : Outline) : Nat → LogRule → Nat → Option LogRule
  | 0, _, _ => none
  | fuel + 1, rule, a =>
    match o.find? a '=' '[' with
    | some (i, '=') => readLevel o rule (i + 1)
    | some (i, _) => readSpan o fuel rule (i + 1)
    | none => some rule

/-- The rule behind an opening bracket, of which at most `fuel` more follow. -/
def readSpan (o : Outline) : Nat → LogRule → Nat → Option LogRule
  | 0, _, _ => none
  | fuel + 1, rule, a =>
    match o.find? a ']' '\x7b' with
    | none => none
    | some (i, ']') => readBehind o fuel { rule with span := some (o.slice a i) } (i + 1)
    | some (i, _) => do
      let name := o.slice a i
      let (j, _) ← o.find? (i + 1) '\x7d' '\x7d'
      let field ← fieldTest? (o.slice (i + 1) j)
      if o.trimmed[j + 1]? = some ']' then
        readBehind o fuel
          { rule with span := if name.isEmpty then none else some name
                      fields := rule.fields ++ [field] } (j + 2)
      else none

end

/-- Reads a rule. -/
def ofText? (text : List Char) : Option LogRule :=
  let trimmed := (trimBlanks (String.ofList text)).toList
  let o : Outline := ⟨text, trimmed⟩
  let fuel := 2 * trimmed.length + 2
  let all : LogRule := { greatest := Level.trace.rank }
  match trimmed with
  | [] => none
  | c :: _ =>
    if c = '[' then readSpan o fuel all 1
    else if !mayBegin c then none
    else
      match o.find? 0 '=' '[' with
      | some (i, '=') => readLevel o { all with target := some (o.slice 0 i) } (i + 1)
      | some (i, _) => readSpan o fuel { all with target := some (o.slice 0 i) } (i + 1)
      | none =>
        match rank? text with
        | some greatest => some { greatest }
        | none => some { all with target := some text }

/-! ## Applying rules -/

/-- Whether a rule is for spans. -/
def isForSpans (r : LogRule) : Bool := r.span.isSome || !r.fields.isEmpty

/-- Whether a rule is a fixed one. -/
def isFixed (r : LogRule) : Bool := r.span.isNone && r.fields.all (·.value.isNone)

/-- Whether a rule is for a target. -/
def isForTarget (r : LogRule) (target : String) : Bool :=
  r.target.all (·.isPrefixOf target.toList)

/-- Whether a fixed rule is for a record. -/
def isForRecord (r : LogRule) (record : LogRecord) : Bool :=
  r.isForTarget record.target &&
    r.fields.all fun f => record.names.contains (String.ofList f.name)

/-- Whether the value of a field is what a rule asks for. -/
def accepts : ValueTest → FieldValue → Bool
  | .pattern r, .text t => r.fits t.toList
  | _, _ => false

/-- Whether a rule is for a span. -/
def isForSpan (r : LogRule) (s : LogSpan) : Bool :=
  r.isForSpans && r.isForTarget s.target && r.span.all (· == s.name.toList) &&
    r.fields.all fun f =>
      match s.fields.lookup (String.ofList f.name) with
      | some value => f.value.all fun test => value.any (accepts test)
      | none => false

/-- How specific a rule is: the length of its text, the number of its fields, and their names. -/
def rankOf (r : LogRule) : Nat × Nat × String :=
  ((r.target.map (·.length + 1)).getD 0, r.fields.length,
    String.intercalate "\x00" (r.fields.map fun f => String.ofList f.name))

/-- Whether a rule is at least as specific as another. -/
def isAsSpecific (a b : LogRule) : Bool :=
  let (x, m, s) := a.rankOf
  let (y, n, t) := b.rankOf
  y < x || (x == y && (n < m || (m == n && t ≤ s)))

end LogRule

namespace LogFilter

/-- The filter that shows records from a level on, whatever their target. -/
def ofLevel (level : Level) : LogFilter := [{ greatest := level.rank }]

/-- Reads a filter; only errors are shown if there is no rule. -/
def ofText? (text : String) : Option LogFilter :=
  match (text.toList.splitOn ',').filter (!·.isEmpty) with
  | [] => some (ofLevel .error)
  | pieces => pieces.mapM LogRule.ofText?

/-- The fixed rule that holds for a record. -/
def rule? (f : LogFilter) (record : LogRecord) : Option LogRule :=
  (f.filter fun r => r.isFixed && r.isForRecord record).foldl (fun best rule =>
    match best with
    | some b => if rule.isAsSpecific b then some rule else best
    | none => some rule) none

/-- The greatest rank of a level that passes inside a span whatever the record is. -/
def opened? (f : LogFilter) (s : LogSpan) : Option Nat :=
  ((f.filter (·.isForSpan s)).map (·.greatest)).max?

/-- Whether a record inside a span, or outside of all, is shown. -/
def shows (f : LogFilter) (around : Option LogSpan) (record : LogRecord) : Bool :=
  (around.bind f.opened?).any (record.level.rank ≤ ·) ||
    (f.rule? record).any (record.level.rank ≤ ·.greatest)

end LogFilter

end RoundTrip
