/-!
# Finding and replacing text

Both operations scan a text once, from the left, and go on behind each occurrence that they find,
so occurrences that overlap an earlier one are passed over. Texts are lists of characters here;
the text that is looked for has at least one character.
-/

namespace RoundTrip.Text

/-- Replaces the occurrences of `sought` in a text, passing over the first `skip` characters,
which belong to an occurrence that was replaced. -/
def replaceFrom (sought put : List Char) : Nat → List Char → List Char
  | _, [] => []
  | skip + 1, _ :: rest => replaceFrom sought put skip rest
  | 0, c :: rest =>
    if sought.isPrefixOf (c :: rest) then put ++ replaceFrom sought put (sought.length - 1) rest
    else c :: replaceFrom sought put 0 rest

/-- Replaces each occurrence of `sought`. -/
def replaceAll (sought put text : List Char) : List Char := replaceFrom sought put 0 text

/-- What follows each occurrence of `sought` in a text, passing over the first `skip`
characters. -/
def afterEachFrom (sought : List Char) : Nat → List Char → List (List Char)
  | _, [] => []
  | skip + 1, _ :: rest => afterEachFrom sought skip rest
  | 0, c :: rest =>
    if sought.isPrefixOf (c :: rest) then
      (c :: rest).drop sought.length :: afterEachFrom sought (sought.length - 1) rest
    else afterEachFrom sought 0 rest

/-- What follows each occurrence of `sought` in a text. -/
def afterEach (sought text : List Char) : List (List Char) := afterEachFrom sought 0 text

end RoundTrip.Text
