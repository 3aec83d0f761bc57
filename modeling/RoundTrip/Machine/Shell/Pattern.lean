import RoundTrip.Machine.Numeral

/-!
# Patterns

Patterns of file names and of `case`: a star stands for any text, a question mark for one
character, and brackets for one character of a set. A character behind a backslash stands for
itself.
-/

namespace RoundTrip.Shell

open Machine

/-- A part of a set of characters. -/
inductive Members where
  /-- The characters from one to another. -/
  | range (low high : Char)
  /-- The characters of a class that has a name. -/
  | named (test : Char → Bool)

/-- What one item of a pattern stands for. -/
inductive Item where
  /-- A character. -/
  | char (c : Char)
  /-- Any character. -/
  | any
  /-- Any text. -/
  | star
  /-- A character that is in one of some parts, or in none of them. -/
  | set (negated : Bool) (members : List Members)

/-- The classes of characters that have names. -/
def charClasses : List (String × (Char → Bool)) := [
  (":alnum:]", Char.isAlphanum), (":alpha:]", Char.isAlpha),
  (":blank:]", fun c => c == ' ' || c == '\t'),
  (":cntrl:]", fun c => c < ' ' || c == '\x7f'), (":digit:]", Char.isDigit),
  (":graph:]", fun c => ' ' < c && c < '\x7f'), (":lower:]", Char.isLower),
  (":print:]", fun c => ' ' ≤ c && c < '\x7f'),
  (":punct:]", fun c => ' ' < c && c < '\x7f' && !c.isAlphanum), (":space:]", isSpace),
  (":upper:]", Char.isUpper), (":xdigit:]", isHex)]

/-- The place of a character in the order of ranges, in which bytes beyond ASCII come first. -/
def rank (c : Char) : Int := if c.toNat < 128 then c.toNat else c.toNat - 256

/-- Whether a character is a member. -/
def Members.has (c : Char) : Members → Bool
  | .range low high => rank low ≤ rank c && rank c ≤ rank high
  | .named test => test c

namespace Item

/-- The members of a set up to its closing bracket, and what follows that; a bracket that comes
first is a member. -/
def members? : Nat → Bool → List Members → Chars → Option (List Members × Chars)
  | 0, _, _, _ => none
  | _, _, _, [] => none
  | fuel + 1, first, acc, c :: rest =>
    let named := if c = '[' then charClasses.find? fun k => k.1.toList.isPrefixOf rest else none
    if c = ']' ∧ !first then some (acc.reverse, rest)
    else
      match named with
      | some (name, test) => members? fuel false (.named test :: acc) (rest.drop name.length)
      | none =>
        let (low, rest) := match c, rest with
          | '\\', e :: rest => (e, rest)
          | c, rest => (c, rest)
        match rest with
        | '-' :: '\\' :: high :: more => members? fuel false (.range low high :: acc) more
        | '-' :: high :: more =>
          if high = ']' then members? fuel false (.range low low :: acc) ('-' :: high :: more)
          else members? fuel false (.range low high :: acc) more
        | rest => members? fuel false (.range low low :: acc) rest

/-- The set that follows an opening bracket, and what follows the set. -/
def set? (text : Chars) : Option (Item × Chars) :=
  let (negated, text) := match text with
    | '!' :: rest => (true, rest)
    | rest => (false, rest)
  (members? (text.length + 1) true [] text).map fun (ms, rest) => (.set negated ms, rest)

/-- The items of a pattern, of which at most `length` characters are read. -/
def ofText : Nat → Chars → List Item
  | _, [] => []
  | 0, _ => []
  | n + 1, '*' :: rest => .star :: ofText n (rest.dropWhile (· == '*'))
  | n + 1, '?' :: rest => .any :: ofText n rest
  | n + 1, '\\' :: c :: rest => .char c :: ofText n rest
  | n + 1, '[' :: rest =>
    match set? rest with
    | some (item, rest) => item :: ofText n rest
    | none => .char '[' :: ofText n rest
  | n + 1, c :: rest => .char c :: ofText n rest

/-- Whether a character is one that an item stands for. -/
def accepts : Item → Char → Bool
  | .char c, d => c == d
  | .any, _ | .star, _ => true
  | .set negated ms, d => ms.any (·.has d) != negated

end Item

/-- The ends of a text, from the whole of it to the empty one. -/
def ends {α : Type} : List α → List (List α)
  | [] => [[]]
  | a :: rest => (a :: rest) :: ends rest

/-- Whether a text is one that items stand for. -/
def matchesItems : List Item → Chars → Bool
  | [], text => text.isEmpty
  | [.star], _ => true
  | .star :: items, text => (ends text).any (matchesItems items)
  | item :: items, c :: text => item.accepts c && matchesItems items text
  | _ :: _, [] => false

/-- The items of a pattern. -/
def itemsOf (pattern : Chars) : List Item := Item.ofText pattern.length pattern

/-- Whether a text is one that a pattern stands for. -/
def isMatch (pattern text : Chars) : Bool := matchesItems (itemsOf pattern) text

/-- A text up to the first gap between arguments. -/
def upToGap (text : Chars) : Chars := text.takeWhile (· != '\x00')

/-- A text without its shortest or longest start that a pattern stands for. Of several arguments
the pattern sees the first one only, but all of them are left out if that is the whole of it. -/
def dropStart (longest : Bool) (pattern text : Chars) : Chars :=
  let items := itemsOf pattern
  let sizes := if longest then (List.range (text.length + 1)).reverse
    else List.range ((upToGap text).length + 1)
  match sizes.find? fun n => matchesItems items (upToGap (text.take n)) with
  | some n => text.drop n
  | none => text

/-- A text without its shortest or longest end that a pattern stands for. Of several arguments one
may have such an end, and those behind it are left out with that: the first one for the longest. -/
def dropEnd (longest : Bool) (pattern text : Chars) : Chars :=
  let items := itemsOf pattern
  let sizes := if longest then List.range ((upToGap text).length + 1)
    else (List.range (text.length + 1)).reverse
  match sizes.find? fun n => matchesItems items (upToGap (text.drop n)) with
  | some n => text.take n
  | none => text

end RoundTrip.Shell
