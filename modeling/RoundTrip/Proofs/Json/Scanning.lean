import Mathlib.Data.List.Chain
import RoundTrip.Proofs.Json.Grammar

/-!
# What the scanner finds

`Scan.tokens?` is the scanner as a function of the state that it starts in, and it says of each
piece of a text which token it shows, whatever stands behind the piece. A number is the exception:
it goes on until something else begins, so its token is found where what follows continues no number
(`Ends`). That is so unless a number is followed by another document at once, which happens in no
text of a document (`Apart`), and so the scanner finds the tokens of every text that shows some
(`Scan.tokens?_of_tokensText`).
-/

namespace RoundTrip.Json

namespace Scan

/-- The tokens of a text that is read from a state on. -/
def tokens? : Scan → List Char → Option (List Token)
  | s, [] => s.finish
  | s, c :: text => (s.next c).bind fun (front, s) => (tokens? s text).map (front ++ ·)
termination_by structural _ text => text

/-- The tokens of a text are those that are read from the state in which nothing has begun. -/
theorem tokens?_eq (text : List Char) : Json.tokens? text = Scan.between.tokens? text := by
  have hrun : ∀ (tokens : List Token) (s : Scan),
      ((Reading.mk tokens s).run text).bind (fun r => r.scan.finish.map r.tokens.reverseAux) =
        (s.tokens? text).map tokens.reverseAux := by
    induction text with
    | nil => exact fun _ _ => rfl
    | cons c text ih =>
      intro tokens s
      rw [tokens?, Reading.run, List.foldlM_cons, Reading.next]
      cases s.next c with
      | none => rfl
      | some step =>
        refine (ih _ _).trans ?_
        rw [Option.bind_some, Option.map_map]
        refine congrArg (Option.map · _) (funext fun tokens' => ?_)
        simp [List.reverseAux_eq]
  have hid : ∀ o : Option (List Token), o.map ([] : List Token).reverseAux = o := by
    rintro (_ | _) <;> rfl
  rw [← hid (Scan.between.tokens? text), ← hrun, Json.tokens?]
  cases Reading.run ⟨[], .between⟩ text with
  | none => rfl
  | some r => cases h : r.scan.finish <;> simp [h]

variable {text rest : List Char}

/-- A character that completes no token. -/
theorem tokens?_step {s s' : Scan} {c : Char} (h : s.next c = some ([], s')) :
    s.tokens? (c :: rest) = s'.tokens? rest := by
  simp [tokens?, h]

/-- Blanks show no token. -/
theorem tokens?_blank (h : Blank text) (rest : List Char) :
    Scan.between.tokens? (text ++ rest) = Scan.between.tokens? rest := by
  induction text with
  | nil => rfl
  | cons c text ih =>
    obtain ⟨hc, htext⟩ := List.forall_mem_cons.1 h
    have hstart : Scan.between.next c = some ([], .between) := by
      simp only [List.mem_cons, List.not_mem_nil, or_false] at hc
      obtain rfl | rfl | rfl | rfl := hc <;> rfl
    rw [List.cons_append, tokens?_step hstart, ih htext]

/-- A mark is a token of its own. -/
theorem tokens?_mark {c : Char} {t : Token} (h : (c, t) ∈ marks) :
    Scan.between.tokens? (c :: rest) = (Scan.between.tokens? rest).map (t :: ·) := by
  have hstart : start c = some ([t], .between) := by
    simp only [marks, List.mem_cons, Prod.mk.injEq, List.not_mem_nil, or_false] at h
    obtain ⟨rfl, rfl⟩ | ⟨rfl, rfl⟩ | ⟨rfl, rfl⟩ | ⟨rfl, rfl⟩ | ⟨rfl, rfl⟩ | ⟨rfl, rfl⟩ := h <;> rfl
  rw [tokens?, next, hstart]
  rfl

/-- A word is read as what it stands for. -/
theorem tokens?_word {j : Json} (h : (text, j) ∈ words) :
    Scan.between.tokens? (text ++ rest) = (Scan.between.tokens? rest).map (.leaf j :: ·) := by
  simp only [words, List.mem_cons, Prod.mk.injEq, List.not_mem_nil, or_false] at h
  obtain ⟨rfl, rfl⟩ | ⟨rfl, rfl⟩ | ⟨rfl, rfl⟩ := h <;>
    simp [tokens?, next, start, Function.comp_def]

end Scan

/-! ## Strings -/

namespace Partial

/-- A string that is being read, behind another stroke. -/
def take (p : Partial) : Stroke → Partial
  | .char c => p.push c
  | .unit n => p.pushUnit n

/-- Half of a pair that stands alone goes on to stand alone. -/
theorem lone_foldl_take {p : Partial} (strokes : List Stroke) (h : p.lone = true) :
    (strokes.foldl take p).lone = true := by
  induction strokes generalizing p with
  | nil => exact h
  | cons stroke strokes ih =>
    refine ih ?_
    cases stroke with
    | char c => simp [take, push, h]
    | unit n =>
      rw [take, pushUnit]
      split
      · simp [h]
      split
      · split
        · exact h
        · rfl
      · simp [push, h]

/-- A string in which half of a pair stands alone is no text. -/
theorem value_of_lone {p : Partial} (strokes : List Stroke) (h : p.lone = true) :
    (strokes.foldl take p).value = .unpaired := by
  rw [value, lone_foldl_take strokes h, Bool.true_or, if_pos rfl]

/-- A character goes behind those so far. -/
theorem take_char (chars : List Char) (c : Char) :
    take ⟨chars, none, false⟩ (.char c) = ⟨c :: chars, none, false⟩ := rfl

/-- The upper half of a pair waits for the lower half. -/
theorem take_upper {n : Nat} (chars : List Char) (h : Stroke.isUpper n = true) :
    take ⟨chars, none, false⟩ (.unit n) = ⟨chars, some n, false⟩ := by
  simp only [Stroke.isUpper, Bool.and_eq_true, decide_eq_true_eq] at h
  rw [take, pushUnit, if_pos h]
  rfl

/-- The lower half of a pair stands alone. -/
theorem lone_take_lower {n : Nat} (chars : List Char) (h : Stroke.isLower n = true) :
    (take ⟨chars, none, false⟩ (.unit n)).lone = true := by
  simp only [Stroke.isLower, Bool.and_eq_true, decide_eq_true_eq] at h
  rw [take, pushUnit, if_neg (by omega), if_pos h]

/-- Another unit is a character. -/
theorem take_unit {n : Nat} (chars : List Char) (hupper : Stroke.isUpper n = false)
    (hlower : Stroke.isLower n = false) :
    take ⟨chars, none, false⟩ (.unit n) = ⟨Char.ofNat n :: chars, none, false⟩ := by
  simp only [Stroke.isUpper, Stroke.isLower, Bool.and_eq_false_iff, decide_eq_false_iff_not]
    at hupper hlower
  rw [take, pushUnit, if_neg (by omega), if_neg (by omega)]
  rfl

/-- The lower half of a pair completes the character. -/
theorem take_joined {n m : Nat} (chars : List Char) (h : Stroke.isLower m = true) :
    take ⟨chars, some n, false⟩ (.unit m) = ⟨Stroke.joined n m :: chars, none, false⟩ := by
  simp only [Stroke.isLower, Bool.and_eq_true, decide_eq_true_eq] at h
  rw [take, pushUnit, if_neg (by omega), if_pos h]
  rfl

/-- Behind the upper half of a pair, whatever is not the lower half leaves it alone. -/
theorem lone_take_unit {n m : Nat} (chars : List Char) (h : Stroke.isLower m = false) :
    (take ⟨chars, some n, false⟩ (.unit m)).lone = true := by
  simp only [Stroke.isLower, Bool.and_eq_false_iff, decide_eq_false_iff_not] at h
  rw [take, pushUnit]
  split
  · rfl
  · rw [if_neg (by omega)]
    rfl

/-- The string of a character and of further ones. -/
theorem elim_cons (more : Option (List Char)) (c : Char) (chars : List Char) :
    more.elim Json.unpaired (fun more => .str (String.ofList ((c :: chars).reverse ++ more))) =
      (more.map (c :: ·)).elim .unpaired fun more =>
        .str (String.ofList (chars.reverse ++ more)) := by
  cases more <;> simp

/-- Strokes that are read make their string behind the characters so far. -/
theorem value_foldl_take (strokes : List Stroke) (chars : List Char) :
    (strokes.foldl take ⟨chars, none, false⟩).value =
      (Stroke.chars? strokes).elim .unpaired fun more =>
        .str (String.ofList (chars.reverse ++ more)) := by
  induction strokes using Stroke.chars?.induct generalizing chars with
  | case1 => simp [Stroke.chars?, value]
  | case2 c strokes ih => rw [List.foldl_cons, take_char, ih, Stroke.chars?, elim_cons]
  | case3 n m strokes hupper hlower ih =>
    rw [List.foldl_cons, take_upper _ hupper, List.foldl_cons, take_joined _ hlower, ih,
      Stroke.chars?, if_pos hupper, if_pos hlower, elim_cons]
  | case4 n m strokes hupper hlower =>
    rw [List.foldl_cons, take_upper _ hupper, List.foldl_cons,
      value_of_lone _ (lone_take_unit _ (Bool.eq_false_iff.2 hlower)), Stroke.chars?,
      if_pos hupper, if_neg hlower]
    rfl
  | case5 n m strokes hupper hlower =>
    rw [List.foldl_cons, value_of_lone _ (lone_take_lower _ hlower), Stroke.chars?,
      if_neg hupper, if_pos hlower]
    rfl
  | case6 n m strokes hupper hlower ih =>
    rw [List.foldl_cons, take_unit _ (Bool.eq_false_iff.2 hupper) (Bool.eq_false_iff.2 hlower), ih,
      Stroke.chars?, if_neg hupper, if_neg hlower, elim_cons]
  | case7 n strokes hnext halone =>
    have hvalue : (strokes.foldl take (take ⟨chars, none, false⟩ (.unit n))).value = .unpaired := by
      obtain hupper | hlower := Bool.or_eq_true_iff.1 halone
      · rw [take_upper _ hupper]
        match strokes with
        | [] => rfl
        | .char c :: strokes => exact value_of_lone strokes rfl
        | .unit m :: strokes => exact (hnext m strokes rfl).elim
      · exact value_of_lone _ (lone_take_lower _ hlower)
    rw [List.foldl_cons, hvalue, Stroke.chars?, if_pos halone]
    · rfl
    · exact hnext
  | case8 n strokes hnext halone ih =>
    obtain ⟨hupper, hlower⟩ := Bool.or_eq_false_iff.1 (Bool.eq_false_iff.2 halone)
    rw [List.foldl_cons, take_unit _ hupper hlower, ih, Stroke.chars?, if_neg halone, elim_cons]
    exact hnext

/-- Strokes that are read make their string. -/
theorem value_foldl_take_empty (strokes : List Stroke) :
    (strokes.foldl take empty).value = Stroke.value strokes := by
  rw [empty, value_foldl_take, Stroke.value]
  cases Stroke.chars? strokes <;> rfl

end Partial

namespace Scan

variable {text rest : List Char}

/-- A hexadecimal digit is read as its value. -/
theorem hexDigit?_of_isHex {c : Char} {n : Nat} (h : IsHex c n) : hexDigit? c = some n := by
  obtain h | h := h <;>
  · obtain ⟨hn, rfl⟩ := List.getElem?_eq_some_iff.1 h
    revert n
    decide

/-- An escape that is a letter is read as what it stands for. -/
theorem next_escape {letter c : Char} (p : Partial) (h : (letter, c) ∈ escapes) :
    (Scan.escape p).next letter = some ([], .string (p.push c)) := by
  simp only [escapes, List.mem_cons, Prod.mk.injEq, List.not_mem_nil, or_false] at h
  obtain ⟨rfl, rfl⟩ | ⟨rfl, rfl⟩ | ⟨rfl, rfl⟩ | ⟨rfl, rfl⟩ | ⟨rfl, rfl⟩ | ⟨rfl, rfl⟩ | ⟨rfl, rfl⟩ |
    ⟨rfl, rfl⟩ := h <;> rfl

/-- A hexadecimal digit of an escape. -/
theorem tokens?_hex {c : Char} {n : Nat} (p : Partial) (more unit : Nat) (h : IsHex c n) :
    (Scan.hex p (more + 2) unit).tokens? (c :: rest) =
      (Scan.hex p (more + 1) (unit * 16 + n)).tokens? rest := by
  refine tokens?_step ?_
  simp [next, hexDigit?_of_isHex h]

/-- The last hexadecimal digit of an escape. -/
theorem tokens?_lastHex {c : Char} {n : Nat} (p : Partial) (unit : Nat) (h : IsHex c n) :
    (Scan.hex p 1 unit).tokens? (c :: rest) =
      (Scan.string (p.pushUnit (unit * 16 + n))).tokens? rest := by
  refine tokens?_step ?_
  simp [next, hexDigit?_of_isHex h]

/-- Strokes are taken in one after the other. -/
theorem tokens?_strokes {strokes : List Stroke} (h : Strokes strokes text) (p : Partial) :
    (Scan.string p).tokens? (text ++ rest) =
      (Scan.string (strokes.foldl Partial.take p)).tokens? rest := by
  induction h generalizing p with
  | nil => rfl
  | @plain c strokes text hcontrol hquote hslash _ ih =>
    have hstep : (Scan.string p).next c = some ([], .string (p.push c)) := by
      rw [next, if_neg hquote, if_neg hslash, if_neg (Char.not_lt.2 hcontrol)]
    rw [List.cons_append, tokens?_step hstep, ih]
    rfl
  | escape hletter _ ih =>
    rw [List.cons_append, List.cons_append, tokens?_step rfl,
      tokens?_step (next_escape p hletter), ih]
    rfl
  | unit ha hb hc hd _ ih =>
    simp only [List.cons_append]
    rw [tokens?_step rfl, tokens?_step rfl, tokens?_hex p 2 0 ha, tokens?_hex p 1 _ hb,
      tokens?_hex p 0 _ hc, tokens?_lastHex p _ hd, ih, Nat.zero_mul, Nat.zero_add]
    rfl

/-- A string is read as what its strokes make. -/
theorem tokens?_string {strokes : List Stroke} (h : Strokes strokes text) :
    Scan.between.tokens? ('"' :: (text ++ '"' :: rest)) =
      (Scan.between.tokens? rest).map (.leaf (Stroke.value strokes) :: ·) := by
  rw [tokens?_step rfl, tokens?_strokes h, tokens?, next, if_pos rfl,
    Partial.value_foldl_take_empty]
  rfl

end Scan

/-! ## Numbers -/

/-- What may stand behind a number: nothing, a blank or a mark. -/
def Ends (rest : List Char) : Prop :=
  ∀ c ∈ rest.head?, c ∈ [' ', '\n', '\t', '\r'] ++ marks.map Prod.fst

namespace NumberPart

variable {text rest : List Char} {part part' part'' : NumberPart}

/-- Some characters go on with a number, from a part of it to another. -/
def Reads (part : NumberPart) (text : List Char) (part' : NumberPart) : Prop :=
  ∀ chars rest, (Scan.number part chars).tokens? (text ++ rest) =
    (Scan.number part' (text.reverse ++ chars)).tokens? rest

/-- A character goes on with a number. -/
theorem Reads.step {c : Char} (h : part.next c = some part') : part.Reads [c] part' := by
  intro chars rest
  have hstep : (Scan.number part chars).next c = some ([], .number part' (c :: chars)) := by
    rw [Scan.next, h]
  exact Scan.tokens?_step hstep

/-- What goes on with a number is followed by what goes on with it. -/
theorem Reads.append (h : part.Reads text part') (h' : part'.Reads rest part'') :
    part.Reads (text ++ rest) part'' := by
  intro chars more
  rw [List.append_assoc, h, h', List.reverse_append, List.append_assoc]

/-- The part of a number that a digit goes on with. -/
def behindDigit : NumberPart → NumberPart
  | .sign | .zero | .whole => .whole
  | .point | .fraction => .fraction
  | .mark | .exponentSign | .exponent => .exponent

/-- A digit goes on with every part of a number but a zero, and a zero begins another part than
other digits. -/
theorem next_digit {c : Char} (h : c.isDigit = true) (hzero : part ≠ .zero)
    (hsign : part = .sign → c ≠ '0') : part.next c = some part.behindDigit := by
  have hne : ∀ {d : Char}, d.isDigit = false → c ≠ d := by
    rintro d hd rfl
    exact absurd h (Bool.eq_false_iff.1 hd)
  cases part with
  | zero => exact absurd rfl hzero
  | sign =>
    rw [next, if_pos h]
    · rfl
    · exact hsign rfl
  | whole | point | fraction | mark | exponentSign | exponent =>
    rw [next, if_pos h]
    · rfl
    all_goals exact hne rfl

/-- A digit that is no zero begins the integer part. -/
theorem next_sign {c : Char} (h : c.isDigit = true) (h₀ : c ≠ '0') : sign.next c = some .whole :=
  next_digit h nofun fun _ => h₀

/-- Further digits go on with a part of a number that is made of digits. -/
theorem Reads.digits (hpart : part ∈ [.whole, .fraction, .exponent])
    (h : ∀ c ∈ text, c.isDigit = true) : part.Reads text part := by
  have hbehind : part.behindDigit = part ∧ part ≠ .zero ∧ part ≠ .sign := by
    revert hpart
    cases part <;> decide
  obtain ⟨hsame, hzero, hsign⟩ := hbehind
  induction text with
  | nil => exact fun _ _ => rfl
  | cons c text ih =>
    obtain ⟨hc, htext⟩ := List.forall_mem_cons.1 h
    have hnext := next_digit hc hzero fun heq => absurd heq hsign
    rw [hsame] at hnext
    exact (Reads.step hnext).append (ih htext)

/-- Some digits go on with a part of a number that is neither a zero nor the sign. -/
theorem Reads.someDigits (hpart : part ∉ [.sign, .zero]) (h : Digits text) :
    part.Reads text part.behindDigit := by
  obtain ⟨hne, hdigits⟩ := h
  obtain ⟨c, text, rfl⟩ := List.exists_cons_of_ne_nil hne
  obtain ⟨hc, htext⟩ := List.forall_mem_cons.1 hdigits
  have hbehind : part.behindDigit ∈ [.whole, .fraction, .exponent] := by
    cases part <;> decide
  simp only [List.mem_cons, List.not_mem_nil, or_false, not_or] at hpart
  exact (Reads.step (next_digit hc hpart.2 fun heq => absurd heq hpart.1)).append
    (.digits hbehind htext)

/-- The integer part of a number. -/
theorem Reads.whole (h : Whole text) :
    sign.Reads text (if text = ['0'] then .zero else .whole) := by
  cases h with
  | zero => exact Reads.step rfl
  | @digits c text hc hdigits =>
    obtain ⟨hfirst, htext⟩ := List.forall_mem_cons.1 hdigits.2
    rw [if_neg fun heq => hc (List.cons.inj heq).1]
    exact (Reads.step (next_sign hfirst hc)).append (.digits (by decide) htext)

/-- The point and the digits behind it. -/
theorem Reads.fraction (hpart : part ∈ [.zero, .whole]) (h : Digits text) :
    part.Reads ('.' :: text) .fraction := by
  have hpoint : part.next '.' = some .point := by
    revert hpart
    cases part <;> decide
  exact (Reads.step hpoint).append (.someDigits (by decide) h)

/-- The exponent. -/
theorem Reads.exponent {m : Char} {sign : List Char} (hpart : part ∈ [.zero, .whole, .fraction])
    (hm : m ∈ ['e', 'E']) (hsign : sign ∈ [[], ['+'], ['-']]) (h : Digits text) :
    part.Reads (m :: (sign ++ text)) .exponent := by
  have hmark : part.next m = some .mark := by
    simp only [List.mem_cons, List.not_mem_nil, or_false] at hm
    revert hpart
    obtain rfl | rfl := hm <;> cases part <;> decide
  refine (Reads.step hmark).append ?_
  simp only [List.mem_cons, List.not_mem_nil, or_false] at hsign
  obtain rfl | rfl | rfl := hsign
  · exact .someDigits (by decide) h
  all_goals
    have hbehind : NumberPart.exponentSign.Reads text .exponent := .someDigits (by decide) h
    exact (Reads.step rfl).append hbehind

/-- What stands behind the integer part of a decimal. -/
theorem Reads.decimal {fraction exponent : List Char} (hpart : part ∈ [.zero, .whole])
    (hfraction : Fraction fraction) (hexponent : Exponent exponent)
    (hne : fraction ++ exponent ≠ []) :
    ∃ part' ∈ [.fraction, .exponent], part.Reads (fraction ++ exponent) part' := by
  cases hfraction with
  | none =>
    cases hexponent with
    | none => exact absurd rfl hne
    | some hm hsign hdigits =>
      have hpart : part ∈ [.zero, .whole, .fraction] := List.mem_append_left [_] hpart
      exact ⟨.exponent, by decide, .exponent hpart hm hsign hdigits⟩
  | some hdigits =>
    have hfraction := Reads.fraction hpart hdigits
    cases hexponent with
    | none => exact ⟨.fraction, by decide, by rwa [List.append_nil]⟩
    | some hm hsign hdigits =>
      exact ⟨.exponent, by decide, hfraction.append (.exponent (by decide) hm hsign hdigits)⟩

end NumberPart

namespace Scan

variable {text rest : List Char}

/-- A number that is complete ends where nothing continues it. -/
theorem tokens?_number {part : NumberPart} {chars : List Char} (hpart : part.complete = true)
    (h : Ends rest) :
    (Scan.number part chars).tokens? rest =
      (Scan.between.tokens? rest).map (.leaf (numberValue part chars.reverse) :: ·) := by
  cases rest with
  | nil => simp [tokens?, finish, hpart]
  | cons c rest =>
    have hends := h c rfl
    simp only [marks, List.map_cons, List.map_nil, List.cons_append, List.nil_append,
      List.mem_cons, List.not_mem_nil, or_false] at hends
    obtain ⟨hdigit, hnext⟩ : c.isDigit = false ∧ part.next c = none := by
      cases part with
      | sign | point | mark | exponentSign => cases hpart
      | zero | whole | fraction | exponent =>
        obtain rfl | rfl | rfl | rfl | rfl | rfl | rfl | rfl | rfl | rfl := hends <;> decide
    simp only [tokens?, next, hnext, hpart, hdigit]
    cases start c with
    | none => rfl
    | some step => simp [Function.comp_def]

/-- The integer part of a number without a sign is read like that of one with a sign. -/
theorem tokens?_unsigned (h : Whole text) (rest : List Char) :
    Scan.between.tokens? (text ++ rest) = (Scan.number .sign []).tokens? (text ++ rest) := by
  cases h with
  | zero => exact (tokens?_step rfl).trans (tokens?_step rfl).symm
  | @digits c text hc hdigits =>
    have hfirst := hdigits.2 c (List.mem_cons_self ..)
    have hstart : Scan.between.next c = some ([], .number .whole [c]) := by
      rw [next, start, if_pos hfirst]
      all_goals first | exact hc | (rintro rfl; cases hfirst)
    have hnext : (Scan.number .sign []).next c = some ([], .number .whole [c]) := by
      rw [next, NumberPart.next_sign hfirst hc]
    rw [List.cons_append, tokens?_step hstart, tokens?_step hnext]

/-- An integer without a sign is the number that its digits show. -/
theorem numberValue_whole (h : Whole text) :
    numberValue (if text = ['0'] then .zero else .whole) text =
      .int (Nat.ofDigitChars 10 text 0) := by
  cases h with
  | zero => rfl
  | digits hc hdigits =>
    rw [if_neg fun heq => hc (List.cons.inj heq).1, numberValue]
    rintro _ heq
    obtain ⟨rfl, -⟩ := List.cons.inj heq
    cases hdigits.2 _ (List.mem_cons_self ..)

/-- A number is read as what it is, where nothing behind it continues it. -/
theorem tokens?_numberText {j : Json} (h : NumberText j text) (hrest : Ends rest) :
    Scan.between.tokens? (text ++ rest) = (Scan.between.tokens? rest).map (.leaf j :: ·) := by
  cases h with
  | natural hwhole =>
    rw [tokens?_unsigned hwhole, NumberPart.Reads.whole hwhole, tokens?_number _ hrest,
      List.append_nil, List.reverse_reverse, numberValue_whole hwhole]
    split <;> rfl
  | negative hwhole hzero =>
    have hreads := NumberPart.Reads.whole hwhole
    rw [if_neg hzero] at hreads
    rw [List.cons_append, tokens?_step rfl, hreads, tokens?_number rfl hrest, List.reverse_append,
      List.reverse_reverse]
    rfl
  | negativeZero =>
    exact (tokens?_step rfl).trans ((tokens?_step rfl).trans (tokens?_number rfl hrest))
  | @decimal sign whole fraction exponent hsign hwhole hfraction hexponent hne =>
    have hpart : (if whole = ['0'] then NumberPart.zero else .whole) ∈ [.zero, .whole] := by
      split <;> decide
    obtain ⟨part, hpart, hreads⟩ := NumberPart.Reads.decimal hpart hfraction hexponent hne
    have hall := (NumberPart.Reads.whole hwhole).append hreads
    have hbegin : Scan.between.tokens? (sign ++ (whole ++ (fraction ++ exponent)) ++ rest) =
        (Scan.number .sign sign.reverse).tokens? (whole ++ (fraction ++ exponent) ++ rest) := by
      simp only [List.mem_cons, List.not_mem_nil, or_false] at hsign
      obtain rfl | rfl := hsign
      · simpa using tokens?_unsigned hwhole (fraction ++ exponent ++ rest)
      · exact tokens?_step rfl
    have hvalue : part.complete = true ∧ ∀ literal, numberValue part literal = .number literal := by
      simp only [List.mem_cons, List.not_mem_nil, or_false] at hpart
      obtain rfl | rfl := hpart <;> exact ⟨rfl, fun _ => rfl⟩
    rw [hbegin, hall, tokens?_number hvalue.1 hrest, hvalue.2, ← List.reverse_append,
      List.reverse_reverse]

end Scan

/-! ## Texts -/

/-- Whether a token is a document, and no mark. -/
def Token.isLeaf : Token → Bool
  | .leaf _ => true
  | _ => false

/-- No document follows another at once. -/
def Apart (tokens : List Token) : Prop :=
  tokens.IsChain fun t t' => t.isLeaf = true → t'.isLeaf = false

/-- Where no document comes first, no number is continued. -/
theorem TokensText.ends {tokens : List Token} {text : List Char} (h : TokensText tokens text)
    (hfirst : ∀ t ∈ tokens.head?, t.isLeaf = false) : Ends text := by
  have hblank : ∀ {blank text : List Char}, Blank blank → Ends text → Ends (blank ++ text) := by
    intro blank text hblank htext
    cases blank with
    | nil => exact htext
    | cons c blank =>
      rintro _ ⟨⟩
      exact List.mem_append_left _ (hblank c (List.mem_cons_self ..))
  cases h with
  | nil h => simpa using hblank h (nofun : Ends [])
  | cons h ht =>
    refine hblank h ?_
    cases ht with
    | mark hc =>
      rintro _ ⟨⟩
      exact List.mem_append_right _ (List.mem_map_of_mem hc)
    | word | number | string => cases hfirst _ rfl

namespace Scan

variable {text rest : List Char}

/-- A token is found in front of whatever continues no number. -/
theorem tokens?_token {t : Token} (h : TokenText t text) (hrest : t.isLeaf = true → Ends rest) :
    Scan.between.tokens? (text ++ rest) = (Scan.between.tokens? rest).map (t :: ·) := by
  cases h with
  | mark hc => exact tokens?_mark hc
  | word hword => exact tokens?_word hword
  | number hnumber => exact tokens?_numberText hnumber (hrest rfl)
  | string hstrokes =>
    rw [List.cons_append, List.append_assoc]
    exact tokens?_string hstrokes

/-- The scanner finds the tokens that a text shows. -/
theorem tokens?_of_tokensText {tokens : List Token} (h : TokensText tokens text)
    (hapart : Apart tokens) : Scan.between.tokens? text = some tokens := by
  induction h with
  | nil hblank => simpa [tokens?, finish] using tokens?_blank hblank []
  | @cons blank text rest t tokens hblank ht htokens ih =>
    obtain ⟨hfirst, hapart⟩ := List.isChain_cons.1 hapart
    rw [tokens?_blank hblank, tokens?_token ht, ih hapart]
    · rfl
    · exact fun hleaf => htokens.ends fun t' ht' => hfirst t' ht' hleaf

end Scan

end RoundTrip.Json
