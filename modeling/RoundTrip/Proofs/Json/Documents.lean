import Mathlib.Tactic.IntervalCases
import RoundTrip.Json.Reader
import RoundTrip.Json.Writer
import RoundTrip.Proofs.Json.Scanning

/-!
# What the reader reads back

The tokens of a document make the document (`ofTokens?_tokens`), and the scanner finds them in every
text that the document has, so each such text is read as the document (`ofText?_of_hasText`). What
is written of a document is a text of it, in both layouts (`hasText_toText`), unless the document
holds something that is not written as it was read: a string with half of a surrogate pair, a name
that is none, or a number that is kept as it is. `ofText?_toText` puts the two together.
-/

namespace RoundTrip.Json

/-! ## From tokens to documents -/

namespace Place

/-- Where an array has begun, whatever is not its end begins its first item. -/
theorem next_firstItem (stack : List Frame) {t : Token} (h : t ≠ .listEnd) :
    next (.firstItem stack) t = next (.value (.list [] :: stack)) t := by
  cases t <;> first | rfl | exact absurd rfl h

/-- A name is followed by a colon and a value. -/
theorem foldlM_named (members : List (Option String × Json)) (stack : List Frame)
    (name : Option String) (tokens : List Token) :
    (nameToken name :: .colon :: tokens).foldlM next (.nextName members stack) =
      tokens.foldlM next (.value (.object members name :: stack)) := by
  cases name <;> rfl

end Place

/-- The first token of a document is not the end of an array. -/
theorem exists_tokens_eq (j : Json) : ∃ t front, j.tokens = t :: front ∧ t ≠ .listEnd := by
  cases j with
  | list items => cases items <;> exact ⟨_, _, rfl, nofun⟩
  | object members => cases members <;> exact ⟨_, _, rfl, nofun⟩
  | null | bool | int | number | str | unpaired => exact ⟨_, _, rfl, nofun⟩

mutual

/-- The tokens of a document make the document. -/
theorem foldlM_tokens : ∀ (j : Json) (stack : List Frame) (rest : List Token),
    (j.tokens ++ rest).foldlM Place.next (.value stack) =
      rest.foldlM Place.next (.deliver j stack)
  | .null, _, _ | .bool _, _, _ | .int _, _, _ | .number _, _, _ | .str _, _, _
  | .unpaired, _, _ | .list [], _, _ | .object [], _, _ => rfl
  | .list (item :: items), stack, rest => by
    have hitem := foldlM_tokens item (.list [] :: stack) (itemTokens items ++ .listEnd :: rest)
    obtain ⟨t, front, htokens, ht⟩ := exists_tokens_eq item
    rw [htokens, List.cons_append, List.foldlM_cons, ← Place.next_firstItem stack ht,
      ← List.foldlM_cons, ← List.cons_append, ← htokens] at hitem
    calc
      _ = (item.tokens ++ (itemTokens items ++ .listEnd :: rest)).foldlM Place.next
            (.firstItem stack) := by simp [tokens, Place.next, Place.begun]
      _ = _ := hitem
      _ = _ := foldlM_itemTokens items [item] stack rest
  | .object ((name, value) :: members), stack, rest => by
    calc
      _ = (nameToken name :: .colon ::
            (value.tokens ++ (memberTokens members ++ .objectEnd :: rest))).foldlM Place.next
            (.nextName [] stack) := by
        cases name <;> simp [tokens, Place.next, Place.begun, nameToken]
      _ = _ := Place.foldlM_named ..
      _ = _ := foldlM_tokens value ..
      _ = _ := foldlM_memberTokens members [(name, value)] stack rest

/-- The tokens of further items make an array with them. -/
theorem foldlM_itemTokens : ∀ (items front : List Json) (stack : List Frame) (rest : List Token),
    (itemTokens items ++ .listEnd :: rest).foldlM Place.next (.behind (.list front) stack) =
      rest.foldlM Place.next (.deliver (.list (front.reverse ++ items)) stack)
  | [], front, stack, rest => by
    rw [List.append_nil]
    rfl
  | item :: items, front, stack, rest => by
    calc
      _ = (item.tokens ++ (itemTokens items ++ .listEnd :: rest)).foldlM Place.next
            (.value (.list front :: stack)) := by simp [itemTokens, Place.next]
      _ = _ := foldlM_tokens item ..
      _ = _ := foldlM_itemTokens items (item :: front) stack rest
      _ = _ := by simp

/-- The tokens of further members make an object with them. -/
theorem foldlM_memberTokens : ∀ (members front : List (Option String × Json)) (stack : List Frame)
    (rest : List Token),
    (memberTokens members ++ .objectEnd :: rest).foldlM Place.next
        (.behind (.object front none) stack) =
      rest.foldlM Place.next (.deliver (.object (front.reverse ++ members)) stack)
  | [], front, stack, rest => by
    rw [List.append_nil]
    rfl
  | (name, value) :: members, front, stack, rest => by
    calc
      _ = (nameToken name :: .colon ::
            (value.tokens ++ (memberTokens members ++ .objectEnd :: rest))).foldlM Place.next
            (.nextName front stack) := by simp [memberTokens, Place.next]
      _ = _ := Place.foldlM_named ..
      _ = _ := foldlM_tokens value ..
      _ = _ := foldlM_memberTokens members ((name, value) :: front) stack rest
      _ = _ := by simp

end

/-- The tokens of a document make the document. -/
theorem ofTokens?_tokens (j : Json) : ofTokens? j.tokens = some j := by
  have h := foldlM_tokens j [] []
  rw [List.append_nil] at h
  rw [ofTokens?, h]
  rfl

/-! ## From texts to documents -/

/-- Tokens may stand behind a document: none of them follows a document at once. -/
structure Follows (rest : List Token) : Prop where
  apart : Apart rest
  first : ∀ t ∈ rest.head?, t.isLeaf = false

/-- A mark may stand behind a document, in front of whatever may stand in a text. -/
theorem Follows.mark {t : Token} {rest : List Token} (ht : t.isLeaf = false) (h : Apart rest) :
    Follows (t :: rest) where
  apart := List.isChain_cons.2 ⟨fun _ _ hleaf => absurd (hleaf.symm.trans ht) nofun, h⟩
  first := by
    rintro _ ⟨⟩
    exact ht

/-- A token may stand in front of what may stand behind a document. -/
theorem Follows.behind {rest : List Token} (h : Follows rest) (t : Token) : Apart (t :: rest) :=
  List.isChain_cons.2 ⟨fun t' ht' _ => h.first t' ht', h.apart⟩

mutual

/-- No document follows another at once in the tokens of a document. -/
theorem apart_tokens : ∀ (j : Json) {rest : List Token}, Follows rest → Apart (j.tokens ++ rest)
  | .null, _, h | .bool _, _, h | .int _, _, h | .number _, _, h | .str _, _, h
  | .unpaired, _, h => h.behind _
  | .list [], _, h | .object [], _, h => (Follows.mark rfl (h.behind _)).apart
  | .list (item :: items), rest, h => by
    have hitems := apart_tokens item
      (follows_itemTokens items (Follows.mark (t := .listEnd) rfl h.apart))
    simpa [tokens] using (Follows.mark (t := .listStart) rfl hitems).apart
  | .object ((name, value) :: members), rest, h => by
    have hmembers := apart_tokens value
      (follows_memberTokens members (Follows.mark (t := .objectEnd) rfl h.apart))
    have hname := (Follows.mark (t := .colon) rfl hmembers).behind (nameToken name)
    simpa [tokens] using (Follows.mark (t := .objectStart) rfl hname).apart

/-- The tokens of further items may stand behind a document. -/
theorem follows_itemTokens : ∀ (items : List Json) {rest : List Token}, Follows rest →
    Follows (itemTokens items ++ rest)
  | [], _, h => h
  | item :: items, rest, h => by
    have hitems := apart_tokens item (follows_itemTokens items h)
    simpa [itemTokens] using Follows.mark (t := .comma) rfl hitems

/-- The tokens of further members may stand behind a document. -/
theorem follows_memberTokens : ∀ (members : List (Option String × Json)) {rest : List Token},
    Follows rest → Follows (memberTokens members ++ rest)
  | [], _, h => h
  | (name, value) :: members, rest, h => by
    have hmembers := apart_tokens value (follows_memberTokens members h)
    have hname := (Follows.mark (t := .colon) rfl hmembers).behind (nameToken name)
    simpa [memberTokens] using Follows.mark (t := .comma) rfl hname

end

/-- Every text of a document is read as the document. -/
theorem ofText?_of_hasText {j : Json} {text : String} (h : j.HasText text) :
    ofText? text = some j := by
  have hapart := apart_tokens j (⟨.nil, nofun⟩ : Follows [])
  rw [List.append_nil] at hapart
  rw [ofText?, ofChars?, Scan.tokens?_eq, Scan.tokens?_of_tokensText h hapart, Option.bind_some,
    ofTokens?_tokens]

/-! ## From documents to texts -/

mutual

/-- Whether a document is read back from its text: its strings and names are texts, and its numbers
are integers. -/
def isRegular : Json → Bool
  | .null | .bool _ | .int _ | .str _ => true
  | .number _ | .unpaired => false
  | .list items => areRegular items
  | .object members => areMembersRegular members

/-- `isRegular` of the items of an array. -/
def areRegular : List Json → Bool
  | [] => true
  | item :: items => item.isRegular && areRegular items

/-- `isRegular` of the members of an object. -/
def areMembersRegular : List (Option String × Json) → Bool
  | [] => true
  | (name, value) :: members => name.isSome && value.isRegular && areMembersRegular members

end

@[simp] theorem isRegular_null : Json.null.isRegular = true := rfl

@[simp] theorem isRegular_bool (b : Bool) : (Json.bool b).isRegular = true := rfl

@[simp] theorem isRegular_int (n : Int) : (Json.int n).isRegular = true := rfl

@[simp] theorem isRegular_str (text : String) : (Json.str text).isRegular = true := rfl

/-- The start of a line is blank. -/
theorem blank_line (layout : Layout) (level : Nat) : Blank (layout.line level) := by
  cases layout with
  | compact => exact nofun
  | indented =>
    refine List.forall_mem_cons.2 ⟨by decide, fun c hc => ?_⟩
    rw [List.eq_of_mem_replicate hc]
    decide

/-- What stands between the name and the value of a member is a colon and a blank. -/
theorem TokensText.colon {tokens : List Token} {text : List Char} (layout : Layout)
    (h : TokensText tokens text) : TokensText (.colon :: tokens) (layout.colon ++ text) := by
  cases layout with
  | compact => exact .mark (by simp [marks]) h
  | indented => exact .mark (by simp [marks]) (.blank (by simp [Blank] : Blank [' ']) h)

/-- The first digit of a number that is not zero is not zero. -/
theorem exists_toDigits_eq {n : Nat} (h : n ≠ 0) :
    ∃ c digits, Nat.toDigits 10 n = c :: digits ∧ c ≠ '0' := by
  induction n using Nat.strongRecOn with
  | ind n ih =>
    rcases Nat.lt_or_ge n 10 with hlt | hge
    · refine ⟨n.digitChar, [], Nat.toDigits_of_lt_base hlt, ?_⟩
      interval_cases n <;> simp_all [Nat.digitChar]
    · obtain ⟨c, digits, hdigits, hc⟩ := ih (n / 10) (by omega) (by omega)
      exact ⟨c, _, by rw [Nat.toDigits_of_base_le (by decide) hge, hdigits]; rfl, hc⟩

/-- The digits of a number that is not zero are the integer part of one, and are not a zero. -/
theorem whole_toDigits {n : Nat} (h : n ≠ 0) :
    Whole (Nat.toDigits 10 n) ∧ Nat.toDigits 10 n ≠ ['0'] := by
  have hall : ∀ c ∈ Nat.toDigits 10 n, c.isDigit = true := fun c hc =>
    Nat.isDigit_of_mem_toDigits (by decide) (by decide) hc
  obtain ⟨c, digits, hdigits, hc⟩ := exists_toDigits_eq h
  rw [hdigits] at hall ⊢
  exact ⟨.digits hc ⟨nofun, hall⟩, fun heq => hc (List.cons.inj heq).1⟩

/-- What is written of an integer is a text of it. -/
theorem numberText_intText (n : Int) : NumberText (.int n) (intText n) := by
  cases n with
  | ofNat n =>
    by_cases hn : n = 0
    · subst hn
      exact .natural .zero
    · have htext := NumberText.natural (whole_toDigits hn).1
      rwa [Nat.ofDigitChars_ten_toDigits] at htext
  | negSucc n =>
    obtain ⟨hwhole, hzero⟩ := whole_toDigits n.succ_ne_zero
    have htext := NumberText.negative hwhole hzero
    rwa [Nat.ofDigitChars_ten_toDigits] at htext

/-- A hexadecimal digit that is written is one. -/
theorem isHex_hexDigit : ∀ n < 16, IsHex (hexDigit n) n := by
  unfold IsHex
  decide

/-- A unit that is no half of a pair is a character. -/
theorem Stroke.chars?_unit {n : Nat} (h : n < 0xD800) (strokes : List Stroke) :
    chars? (.unit n :: strokes) = (chars? strokes).map (Char.ofNat n :: ·) := by
  have hupper : isUpper n = false := by
    simp only [isUpper, Bool.and_eq_false_iff, decide_eq_false_iff_not]
    omega
  have hlower : isLower n = false := by
    simp only [isLower, Bool.and_eq_false_iff, decide_eq_false_iff_not]
    omega
  cases strokes with
  | nil => simp [chars?, hupper, hlower]
  | cons stroke strokes => cases stroke <;> simp [chars?, hupper, hlower]

/-- What is written of a character inside a string is a stroke for the character. -/
theorem exists_stroke (c : Char) : ∃ stroke,
    (∀ {strokes text}, Strokes strokes text → Strokes (stroke :: strokes) (escape c ++ text)) ∧
      ∀ strokes, Stroke.chars? (stroke :: strokes) = (Stroke.chars? strokes).map (c :: ·) := by
  rw [escape]
  split
  · subst c; exact ⟨.char _, .escape (by decide), fun _ => rfl⟩
  split
  · subst c; exact ⟨.char _, .escape (by decide), fun _ => rfl⟩
  split
  · next hcontrol =>
    split
    · subst c; exact ⟨.char _, .escape (by decide), fun _ => rfl⟩
    split
    · subst c; exact ⟨.char _, .escape (by decide), fun _ => rfl⟩
    split
    · subst c; exact ⟨.char _, .escape (by decide), fun _ => rfl⟩
    split
    · subst c; exact ⟨.char _, .escape (by decide), fun _ => rfl⟩
    split
    · subst c; exact ⟨.char _, .escape (by decide), fun _ => rfl⟩
    · -- the four digits make the number of the character, which is no half of a pair
      have hlt : c.toNat < 32 := hcontrol
      have hunit : ((0 * 16 + 0) * 16 + c.toNat / 16) * 16 + c.toNat % 16 = c.toNat := by omega
      refine ⟨.unit c.toNat, fun h => ?_, fun strokes => ?_⟩
      · have hstroke := Strokes.unit (.inl rfl : IsHex '0' 0) (.inl rfl : IsHex '0' 0)
          (isHex_hexDigit (c.toNat / 16) (by omega)) (isHex_hexDigit (c.toNat % 16) (by omega)) h
        rwa [hunit] at hstroke
      · rw [Stroke.chars?_unit (by omega), Char.ofNat_toNat]
  · next hquote hslash hcontrol =>
    exact ⟨.char c, .plain (Char.not_lt.1 hcontrol) hquote hslash, fun _ => rfl⟩

/-- What is written of a string is a text of it. -/
theorem tokenText_quote (text : String) : TokenText (.leaf (.str text)) (quote text.toList) := by
  have hstrokes : ∀ chars : List Char, ∃ strokes, Strokes strokes (chars.flatMap escape) ∧
      Stroke.chars? strokes = some chars := by
    intro chars
    induction chars with
    | nil => exact ⟨[], .nil, rfl⟩
    | cons c chars ih =>
      obtain ⟨strokes, htext, hchars⟩ := ih
      obtain ⟨stroke, hstroke, hvalue⟩ := exists_stroke c
      exact ⟨stroke :: strokes, hstroke htext, by rw [hvalue, hchars]; rfl⟩
  obtain ⟨strokes, htext, hchars⟩ := hstrokes text.toList
  have hvalue : Stroke.value strokes = .str text := by
    simp only [Stroke.value, hchars, String.ofList_toList]
  exact hvalue ▸ .string htext

mutual

/-- What is written of a document shows its tokens. -/
theorem tokensText_write (layout : Layout) : ∀ (j : Json) (level : Nat) {behind : List Token}
    {rest : List Char}, j.isRegular = true → TokensText behind rest →
    TokensText (j.tokens ++ behind) (write layout level j ++ rest)
  | .null, _, _, _, _, h => .token (.word (.head _)) h
  | .bool true, _, _, _, _, h => .token (.word (.tail _ (.head _))) h
  | .bool false, _, _, _, _, h => .token (.word (.tail _ (.tail _ (.head _)))) h
  | .int n, _, _, _, _, h => .token (.number (numberText_intText n)) h
  | .str text, _, _, _, _, h => .token (tokenText_quote text) h
  | .list [], _, behind, rest, _, h => by
    have hall : TokensText (.listStart :: .listEnd :: behind) ('[' :: ']' :: rest) :=
      .mark (by simp [marks]) (.mark (by simp [marks]) h)
    exact hall
  | .object [], _, behind, rest, _, h => by
    have hall : TokensText (.objectStart :: .objectEnd :: behind) ('\x7b' :: '\x7d' :: rest) :=
      .mark (by simp [marks]) (.mark (by simp [marks]) h)
    exact hall
  | .list (item :: items), level, behind, rest, hj, h => by
    obtain ⟨hitem, hitems⟩ := (Bool.and_eq_true _ _).mp hj
    have hend : TokensText (.listEnd :: behind) (layout.line level ++ ']' :: rest) :=
      .blank (blank_line layout level) (.mark (by simp [marks]) h)
    have hitem := tokensText_write layout item (level + 1) hitem
      (tokensText_writeItems layout items (level + 1) hitems hend)
    have hall : TokensText (.listStart :: _) ('[' :: _) :=
      .mark (by simp [marks]) (.blank (blank_line layout (level + 1)) hitem)
    simpa [tokens, write] using hall
  | .object ((none, _) :: _), _, _, _, hj, _ => nomatch hj
  | .object ((some name, value) :: members), level, behind, rest, hj, h => by
    obtain ⟨hvalue, hmembers⟩ := (Bool.and_eq_true _ _).mp hj
    have hend : TokensText (.objectEnd :: behind) (layout.line level ++ '\x7d' :: rest) :=
      .blank (blank_line layout level) (.mark (by simp [marks]) h)
    have hvalue := tokensText_write layout value (level + 1) hvalue
      (tokensText_writeMembers layout members (level + 1) hmembers hend)
    have hall : TokensText (.objectStart :: _) ('\x7b' :: _) :=
      .mark (by simp [marks]) (.blank (blank_line layout (level + 1))
        (.token (tokenText_quote name) (.colon layout hvalue)))
    simpa [tokens, write, nameToken, nameText] using hall

/-- What is written of further items shows their tokens. -/
theorem tokensText_writeItems (layout : Layout) : ∀ (items : List Json) (level : Nat)
    {behind : List Token} {rest : List Char}, areRegular items = true → TokensText behind rest →
    TokensText (itemTokens items ++ behind) (writeItems layout level items ++ rest)
  | [], _, _, _, _, h => h
  | item :: items, level, _, _, hj, h => by
    obtain ⟨hitem, hitems⟩ := (Bool.and_eq_true _ _).mp hj
    have hitem := tokensText_write layout item level hitem
      (tokensText_writeItems layout items level hitems h)
    have hall : TokensText (.comma :: _) (',' :: _) :=
      .mark (by simp [marks]) (.blank (blank_line layout level) hitem)
    simpa [itemTokens, writeItems] using hall

/-- What is written of further members shows their tokens. -/
theorem tokensText_writeMembers (layout : Layout) : ∀ (members : List (Option String × Json))
    (level : Nat) {behind : List Token} {rest : List Char}, areMembersRegular members = true →
    TokensText behind rest →
    TokensText (memberTokens members ++ behind) (writeMembers layout level members ++ rest)
  | [], _, _, _, _, h => h
  | (none, _) :: _, _, _, _, hj, _ => nomatch hj
  | (some name, value) :: members, level, _, _, hj, h => by
    obtain ⟨hvalue, hmembers⟩ := (Bool.and_eq_true _ _).mp hj
    have hvalue := tokensText_write layout value level hvalue
      (tokensText_writeMembers layout members level hmembers h)
    have hall : TokensText (.comma :: _) (',' :: _) :=
      .mark (by simp [marks]) (.blank (blank_line layout level)
        (.token (tokenText_quote name) (.colon layout hvalue)))
    simpa [memberTokens, writeMembers, nameToken, nameText] using hall

end

/-- What is written of a document is a text of it, in both layouts. -/
theorem hasText_toText (layout : Layout) {j : Json} (h : j.isRegular = true) :
    j.HasText (j.toText layout) := by
  have htext := tokensText_write layout j 0 h (.nil .nil)
  rw [List.append_nil, List.append_nil] at htext
  rwa [HasText, toText, String.toList_ofList]

/-- A document is read back from its text, in both layouts. -/
theorem ofText?_toText (layout : Layout) {j : Json} (h : j.isRegular = true) :
    ofText? (j.toText layout) = some j := ofText?_of_hasText (hasText_toText layout h)

end RoundTrip.Json
