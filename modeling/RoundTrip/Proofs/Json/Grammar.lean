import RoundTrip.Json.Token

/-!
# The grammar of JSON texts

Which texts a document has (`HasText`), said without the reader. A text is a sequence of tokens with
blanks between them, and the tokens of a document are those of its parts, with commas and colons.
Six of the tokens are marks, three are words, and the others are numbers and strings.

A number is an integer if it has neither point nor exponent, `-0` apart, which is kept as it is
written like all other numbers. A string is a sequence of strokes: most stand for a character, and
an escape with four digits stands for a UTF-16 unit, of which two may make one character. A string
in which half of a pair stands alone has no characters (`Stroke.chars?`), and is a value all the
same.
-/

namespace RoundTrip.Json

/-- What may stand between tokens. -/
def Blank (text : List Char) : Prop := ∀ c ∈ text, c ∈ [' ', '\n', '\t', '\r']

/-- Nothing may stand between tokens. -/
theorem Blank.nil : Blank [] := nofun

/-! ## Numbers -/

/-- Some digits. -/
def Digits (text : List Char) : Prop := text ≠ [] ∧ ∀ c ∈ text, c.isDigit = true

/-- The part of a number in front of the point: a zero, or digits that begin with no zero. -/
inductive Whole : List Char → Prop
  | zero : Whole ['0']
  | digits {c : Char} {rest : List Char} : c ≠ '0' → Digits (c :: rest) → Whole (c :: rest)

/-- The point and the digits behind it, if there are any. -/
inductive Fraction : List Char → Prop
  | none : Fraction []
  | some {digits : List Char} : Digits digits → Fraction ('.' :: digits)

/-- The exponent, if there is one. -/
inductive Exponent : List Char → Prop
  | none : Exponent []
  | some {mark : Char} {sign digits : List Char} : mark ∈ ['e', 'E'] → sign ∈ [[], ['+'], ['-']] →
      Digits digits → Exponent (mark :: (sign ++ digits))

/-- The texts of a number. -/
inductive NumberText : Json → List Char → Prop
  | natural {whole : List Char} : Whole whole →
      NumberText (.int (Nat.ofDigitChars 10 whole 0)) whole
  | negative {whole : List Char} : Whole whole → whole ≠ ['0'] →
      NumberText (.int (-(Nat.ofDigitChars 10 whole 0 : Int))) ('-' :: whole)
  | negativeZero : NumberText (.number ['-', '0']) ['-', '0']
  | decimal {sign whole fraction exponent : List Char} : sign ∈ [[], ['-']] → Whole whole →
      Fraction fraction → Exponent exponent → fraction ++ exponent ≠ [] →
      NumberText (.number (sign ++ (whole ++ (fraction ++ exponent))))
        (sign ++ (whole ++ (fraction ++ exponent)))

/-! ## Strings -/

/-- What a piece of a string stands for. -/
inductive Stroke where
  /-- A character. -/
  | char (c : Char)
  /-- The UTF-16 unit with a number. -/
  | unit (n : Nat)

namespace Stroke

/-- Whether a unit is the upper half of a surrogate pair. -/
def isUpper (n : Nat) : Bool := 0xD800 ≤ n && n < 0xDC00

/-- Whether a unit is the lower half of a surrogate pair. -/
def isLower (n : Nat) : Bool := 0xDC00 ≤ n && n < 0xE000

/-- The character of a surrogate pair. -/
def joined (upper lower : Nat) : Char :=
  Char.ofNat (0x10000 + (upper - 0xD800) * 0x400 + (lower - 0xDC00))

/-- The characters that strokes stand for, unless half of a pair stands alone. -/
def chars? : List Stroke → Option (List Char)
  | [] => some []
  | .char c :: rest => (chars? rest).map (c :: ·)
  | .unit n :: .unit m :: rest =>
    if isUpper n then if isLower m then (chars? rest).map (joined n m :: ·) else none
    else if isLower n then none
    else (chars? (.unit m :: rest)).map (Char.ofNat n :: ·)
  | .unit n :: rest =>
    if isUpper n || isLower n then none else (chars? rest).map (Char.ofNat n :: ·)

/-- The string that strokes make. -/
def value (strokes : List Stroke) : Json :=
  match chars? strokes with
  | some chars => .str (String.ofList chars)
  | none => .unpaired

end Stroke

/-- The letters of escapes, and what they stand for. -/
def escapes : List (Char × Char) :=
  [('"', '"'), ('\\', '\\'), ('/', '/'), ('b', '\x08'), ('f', '\x0c'), ('n', '\n'), ('r', '\r'),
    ('t', '\t')]

/-- A hexadecimal digit has a value, in lower or in upper case. -/
def IsHex (c : Char) (n : Nat) : Prop :=
  ['0', '1', '2', '3', '4', '5', '6', '7', '8', '9', 'a', 'b', 'c', 'd', 'e', 'f'][n]? = some c ∨
    ['0', '1', '2', '3', '4', '5', '6', '7', '8', '9', 'A', 'B', 'C', 'D', 'E', 'F'][n]? = some c

/-- The texts of strokes: a character other than the quote, the backslash and the control
characters stands for itself, and a backslash begins an escape. -/
inductive Strokes : List Stroke → List Char → Prop
  | nil : Strokes [] []
  | plain {c : Char} {strokes : List Stroke} {text : List Char} : ' ' ≤ c → c ≠ '"' → c ≠ '\\' →
      Strokes strokes text → Strokes (.char c :: strokes) (c :: text)
  | escape {letter c : Char} {strokes : List Stroke} {text : List Char} : (letter, c) ∈ escapes →
      Strokes strokes text → Strokes (.char c :: strokes) ('\\' :: letter :: text)
  | unit {a b c d : Char} {w x y z : Nat} {strokes : List Stroke} {text : List Char} :
      IsHex a w → IsHex b x → IsHex c y → IsHex d z → Strokes strokes text →
      Strokes (.unit (((w * 16 + x) * 16 + y) * 16 + z) :: strokes)
        ('\\' :: 'u' :: a :: b :: c :: d :: text)

/-! ## Tokens -/

/-- The marks. -/
def marks : List (Char × Token) :=
  [('[', .listStart), (']', .listEnd), ('\x7b', .objectStart), ('\x7d', .objectEnd), (',', .comma),
    (':', .colon)]

/-- The words. -/
def words : List (List Char × Json) :=
  [(['n', 'u', 'l', 'l'], .null), (['t', 'r', 'u', 'e'], .bool true),
    (['f', 'a', 'l', 's', 'e'], .bool false)]

/-- The texts of a token. -/
inductive TokenText : Token → List Char → Prop
  | mark {c : Char} {t : Token} : (c, t) ∈ marks → TokenText t [c]
  | word {text : List Char} {j : Json} : (text, j) ∈ words → TokenText (.leaf j) text
  | number {text : List Char} {j : Json} : NumberText j text → TokenText (.leaf j) text
  | string {strokes : List Stroke} {text : List Char} : Strokes strokes text →
      TokenText (.leaf (Stroke.value strokes)) ('"' :: (text ++ ['"']))

/-- The texts of tokens, with blanks around each of them. -/
inductive TokensText : List Token → List Char → Prop
  | nil {blank : List Char} : Blank blank → TokensText [] blank
  | cons {blank text rest : List Char} {t : Token} {tokens : List Token} : Blank blank →
      TokenText t text → TokensText tokens rest →
      TokensText (t :: tokens) (blank ++ (text ++ rest))

namespace TokensText

variable {text rest : List Char} {tokens : List Token}

/-- A token stands in front of others. -/
theorem token {t : Token} (ht : TokenText t text) (h : TokensText tokens rest) :
    TokensText (t :: tokens) (text ++ rest) := .cons .nil ht h

/-- A mark stands in front of other tokens. -/
theorem mark {c : Char} {t : Token} (hc : (c, t) ∈ marks) (h : TokensText tokens rest) :
    TokensText (t :: tokens) (c :: rest) := token (.mark hc) h

/-- Blanks stand in front of tokens. -/
theorem blank {front : List Char} (hfront : Blank front) (h : TokensText tokens rest) :
    TokensText tokens (front ++ rest) := by
  have happend : ∀ {back : List Char}, Blank back → Blank (front ++ back) := fun hback =>
    List.forall_mem_append.2 ⟨hfront, hback⟩
  cases h with
  | nil hback => exact .nil (happend hback)
  | cons hback ht h =>
    rw [← List.append_assoc]
    exact .cons (happend hback) ht h

end TokensText

/-! ## Documents -/

/-- The token of the name of a member. -/
def nameToken : Option String → Token
  | some name => .leaf (.str name)
  | none => .leaf .unpaired

mutual

/-- The tokens of a document. -/
def tokens : Json → List Token
  | .list [] => [.listStart, .listEnd]
  | .list (item :: items) => .listStart :: (item.tokens ++ (itemTokens items ++ [.listEnd]))
  | .object [] => [.objectStart, .objectEnd]
  | .object ((name, value) :: members) =>
    .objectStart :: nameToken name :: .colon ::
      (value.tokens ++ (memberTokens members ++ [.objectEnd]))
  | j => [.leaf j]

/-- The tokens of the items of an array behind its first. -/
def itemTokens : List Json → List Token
  | [] => []
  | item :: items => .comma :: (item.tokens ++ itemTokens items)

/-- The tokens of the members of an object behind its first. -/
def memberTokens : List (Option String × Json) → List Token
  | [] => []
  | (name, value) :: members =>
    .comma :: nameToken name :: .colon :: (value.tokens ++ memberTokens members)

end

/-- A document has a text. -/
def HasText (j : Json) (text : String) : Prop := TokensText j.tokens text.toList

end RoundTrip.Json
