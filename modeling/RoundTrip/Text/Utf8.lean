/-!
# Bytes as text

File names, program arguments and the output of programs are byte strings that need not be text.
`Utf8.decode?` reads a byte string strictly and fails on anything that is not UTF-8;
`Utf8.lossy` always succeeds and puts U+FFFD in place of each maximal run of bytes that begins a
scalar value and is not continued by one. `Utf8.display` is what a message shows of a byte string.
-/

namespace RoundTrip

/-- A byte string: a file name, an argument, the content of a file, what a program printed. -/
abbrev Bytes := List UInt8

namespace Utf8

/-- The UTF-8 bytes of a text. -/
def encode (text : String) : Bytes := text.toUTF8.data.toList

/-- The text that a byte string encodes, if it is UTF-8. -/
def decode? (bytes : Bytes) : Option String := String.fromUTF8? ⟨bytes.toArray⟩

/-- Reading back an encoded text gives the text. -/
@[simp] theorem decode?_encode (text : String) : decode? (encode text) = some text := by
  simp only [decode?, encode, String.fromUTF8?, String.toUTF8_eq_toByteArray,
    dif_pos text.isValidUTF8]
  rfl

/-- A byte string that can be read is the encoding of what was read. -/
theorem encode_of_decode? {bytes : Bytes} {text : String} (h : decode? bytes = some text) :
    encode text = bytes := by
  simp only [decode?, String.fromUTF8?] at h
  split at h
  · injection h with h; subst h; rfl
  · cases h

/-- The bytes of a text that consists of two are the bytes of the first and of the second. -/
theorem encode_append (front back : String) :
    encode (front ++ back) = encode front ++ encode back := by
  simp [encode, String.toUTF8_eq_toByteArray]

/-- Different texts have different bytes. -/
theorem encode_injective {a b : String} (h : encode a = encode b) : a = b := by
  simpa using congrArg decode? h

/-- A scalar value that is being read: how many bytes it still needs, the range that the next of
them must lie in, and the bits read so far. -/
structure Pending where
  /-- Bytes still needed after the next one. -/
  more : Nat
  /-- Least value of the next byte. -/
  low : UInt8
  /-- Greatest value of the next byte. -/
  high : UInt8
  /-- The bits read so far. -/
  bits : Nat

/-- U+FFFD, which stands for bytes that are not text. -/
def replacement : Char := '\uFFFD'

/-- What a byte begins: a scalar value of its own, a longer one, or nothing. The ranges of the
second byte exclude overlong forms, surrogates and values above U+10FFFF. -/
def begins (b : UInt8) : List Char × Option Pending :=
  if b < 0x80 then ([Char.ofNat b.toNat], none)
  else if b < 0xC2 then ([replacement], none)
  else if b < 0xE0 then ([], some ⟨0, 0x80, 0xBF, b.toNat - 0xC0⟩)
  else if b < 0xF0 then
    ([], some ⟨1, if b = 0xE0 then 0xA0 else 0x80, if b = 0xED then 0x9F else 0xBF,
      b.toNat - 0xE0⟩)
  else if b < 0xF5 then
    ([], some ⟨2, if b = 0xF0 then 0x90 else 0x80, if b = 0xF4 then 0x8F else 0xBF,
      b.toNat - 0xF0⟩)
  else ([replacement], none)

/-- The effect of one byte: the characters it completes and what is pending after it. A byte that
does not continue the pending value ends it with one replacement character and is then read
afresh. -/
def next : Option Pending → UInt8 → List Char × Option Pending
  | none, b => begins b
  | some p, b =>
    if p.low ≤ b ∧ b ≤ p.high then
      let bits := p.bits * 64 + (b.toNat - 0x80)
      match p.more with
      | 0 => ([Char.ofNat bits], none)
      | more + 1 => ([], some ⟨more, 0x80, 0xBF, bits⟩)
    else (replacement :: (begins b).1, (begins b).2)

/-- Reads byte strings that need not be text, from the middle of a scalar value (`some`) or between
two of them (`none`). -/
def lossyFrom : Option Pending → Bytes → List Char
  | none, [] => []
  | some _, [] => [replacement]
  | p, b :: rest => (next p b).1 ++ lossyFrom (next p b).2 rest

/-- The text of a byte string, with U+FFFD for what is not text. -/
def lossy (bytes : Bytes) : String := String.ofList (lossyFrom none bytes)

/-- What messages show of a byte string: the text it encodes, else the nearest text. -/
def display (bytes : Bytes) : String := (decode? bytes).getD (lossy bytes)

end Utf8

end RoundTrip
