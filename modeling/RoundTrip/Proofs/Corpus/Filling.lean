import Mathlib.Data.List.Induction
import Mathlib.Data.List.Infix
import Mathlib.Data.List.Nodup
import RoundTrip.Corpus

/-!
# Filling in the words of a command

`Recipe.fill` fills in one placeholder after the other, so each pass reads what the passes before it
have put in. `Recipe.fillOnce` fills in all of them at once, from the left, and reads the word
alone. The two differ where a value that was put in becomes part of a later placeholder. A value
without braces can only become the middle of one, so nothing goes wrong if it does not occur in a
later name: then one more pass is one more placeholder for `fillOnce` (`fillOnce_fillOnceFrom`), and
passes one after the other are a single one (`fill_eq_fillOnce`).

Filling in at once is described by two laws: a word without placeholders stays as it is
(`fillOnce_eq_self`), and a placeholder splits a word into two parts that are filled in without
regard to each other or to its value (`fillOnce_append`).
-/

namespace RoundTrip.Recipe

/-- The brace that opens a placeholder. -/
def openBrace : Char := '\x7b'

/-- The brace that closes a placeholder. -/
def closeBrace : Char := '\x7d'

/-- A text has no braces. -/
def Plain (text : List Char) : Prop := openBrace ∉ text ∧ closeBrace ∉ text

instance (text : List Char) : Decidable (Plain text) := by unfold Plain; infer_instance

/-- The first of some placeholders that a word begins with, and its value. -/
def leading? (values : List (List Char × List Char)) (word : List Char) :
    Option (List Char × List Char) :=
  values.find? fun x => x.1.isPrefixOf word

/-- A word with all placeholders filled in at once, without its first `skip` characters, which
belong to a placeholder that was filled in. -/
def fillOnceFrom (values : List (List Char × List Char)) : Nat → List Char → List Char
  | _, [] => []
  | skip + 1, _ :: rest => fillOnceFrom values skip rest
  | 0, c :: rest =>
    match leading? values (c :: rest) with
    | some (sought, value) => value ++ fillOnceFrom values (sought.length - 1) rest
    | none => c :: fillOnceFrom values 0 rest

/-- A word with all placeholders filled in at once, from the left. -/
def fillOnce (values : List (List Char × List Char)) (word : List Char) : List Char :=
  fillOnceFrom values 0 word

/-- Values, each for the placeholder of a name. -/
def slots (fields : List (String × List Char)) : List (List Char × List Char) :=
  fields.map fun f => (placeholder f.1, f.2)

section

variable {values : List (List Char × List Char)} {value word front back inner : List Char}

/-! ## One character at a time -/

theorem fillOnce_cons_of_none {c : Char} {rest : List Char}
    (h : leading? values (c :: rest) = none) :
    fillOnce values (c :: rest) = c :: fillOnce values rest := by
  simp [fillOnce, fillOnceFrom, h]

/-- The characters of a placeholder that was filled in are passed over. -/
theorem fillOnceFrom_length (values : List (List Char × List Char)) (front back : List Char) :
    fillOnceFrom values front.length (front ++ back) = fillOnce values back := by
  induction front with
  | nil => rfl
  | cons c front ih => simpa [fillOnceFrom] using ih

/-- A placeholder at the beginning of a word is filled in. -/
theorem fillOnce_of_leading {c : Char} {rest : List Char}
    (h : leading? values (c :: rest ++ back) = some (c :: rest, value)) :
    fillOnce values (c :: rest ++ back) = value ++ fillOnce values back := by
  rw [List.cons_append] at h ⊢
  simp [fillOnce, fillOnceFrom, h, fillOnceFrom_length]

/-- Replacing all occurrences of a text is filling in a single placeholder. -/
theorem replaceFrom_eq (sought put : List Char) (skip : Nat) (text : List Char) :
    Text.replaceFrom sought put skip text = fillOnceFrom [(sought, put)] skip text := by
  induction text generalizing skip with
  | nil => cases skip <;> rfl
  | cons c rest ih =>
    cases skip with
    | succ skip => exact ih skip
    | zero =>
      by_cases h : sought.isPrefixOf (c :: rest) = true <;>
        simp [Text.replaceFrom, fillOnceFrom, leading?, List.find?, h, ih]

/-! ## Placeholders -/

/-- Placeholders whose names have no braces. -/
def AreHoles (values : List (List Char × List Char)) : Prop :=
  ∀ x ∈ values, ∃ name, x.1 = openBrace :: (name ++ [closeBrace]) ∧ Plain name

theorem leading?_mem {x : List Char × List Char} (h : leading? values word = some x) :
    x ∈ values ∧ x.1 <+: word :=
  ⟨List.mem_of_find?_eq_some h, by simpa using List.find?_some h⟩

theorem leading?_eq_none_iff :
    leading? values word = none ↔ ∀ x ∈ values, ¬ x.1 <+: word := by
  simp [leading?, List.find?_eq_none, List.isPrefixOf_iff_prefix]

/-- No placeholder begins with another character than the brace. -/
theorem leading?_cons_of_ne (hholes : AreHoles values) {c : Char} (hc : c ≠ openBrace)
    (rest : List Char) : leading? values (c :: rest) = none := by
  refine leading?_eq_none_iff.2 fun x hx hprefix => ?_
  obtain ⟨name, hname, -⟩ := hholes x hx
  rw [hname, List.cons_prefix_cons] at hprefix
  exact hc hprefix.1.symm

/-- What stands in front of the first opening brace stays as it is. -/
theorem fillOnce_append_of_notMem (hholes : AreHoles values) (hfront : openBrace ∉ front)
    (back : List Char) : fillOnce values (front ++ back) = front ++ fillOnce values back := by
  induction front with
  | nil => rfl
  | cons c front ih =>
    have hc : c ≠ openBrace := fun h => hfront (h ▸ List.mem_cons_self ..)
    rw [List.cons_append, fillOnce_cons_of_none (leading?_cons_of_ne hholes hc _),
      ih fun h => hfront (List.mem_cons_of_mem _ h), List.cons_append]

/-- What looks like the rest of a placeholder in a word that was filled in is the same in the word
itself, if no value occurs in the name. -/
theorem prefix_of_prefix_fillOnce (hclose : ∀ x ∈ values, closeBrace ∉ x.2)
    (hoccurs : ∀ x ∈ values, ¬ x.2 <:+: inner)
    (h : inner ++ [closeBrace] <+: fillOnce values word) : inner ++ [closeBrace] <+: word := by
  induction word generalizing inner with
  | nil => simp [fillOnce, fillOnceFrom] at h
  | cons c rest ih =>
    cases hleading : leading? values (c :: rest) with
    | some x =>
      -- a value that was put in would hold the closing brace or be a part of the name
      exfalso
      have hx := (leading?_mem hleading).1
      have hput : x.2 <+: fillOnce values (c :: rest) := by
        simp [fillOnce, fillOnceFrom, hleading]
      obtain hlong | hshort := List.prefix_or_prefix_of_prefix h hput
      · exact hclose x hx (hlong.subset (by simp))
      · obtain heq | hname := List.prefix_concat_iff.1 hshort
        · exact hclose x hx (by rw [heq]; simp)
        · exact hoccurs x hx hname.isInfix
    | none =>
      rw [fillOnce_cons_of_none hleading] at h
      cases inner with
      | nil => simpa using h
      | cons d inner =>
        rw [List.cons_append, List.cons_prefix_cons] at h ⊢
        refine ⟨h.1, ih (fun x hx hsub => hoccurs x hx ?_) h.2⟩
        exact hsub.trans (List.suffix_cons d inner).isInfix

/-! ## One pass after another -/

/-- A placeholder that is not among those that are filled in stays as it is, because the rest of it
has no opening brace. -/
theorem fillOnce_hole_append (hholes : AreHoles values) (hinner : Plain inner)
    (h : leading? values (openBrace :: (inner ++ [closeBrace]) ++ back) = none) :
    fillOnce values (openBrace :: (inner ++ [closeBrace]) ++ back) =
      openBrace :: (inner ++ [closeBrace]) ++ fillOnce values back := by
  have htail : openBrace ∉ inner ++ [closeBrace] := by
    rw [List.mem_append, List.mem_singleton]
    exact not_or.2 ⟨hinner.1, by decide⟩
  rw [List.cons_append] at h
  rw [List.cons_append, fillOnce_cons_of_none h, fillOnce_append_of_notMem hholes htail,
    List.cons_append]

/-- Filling in one more placeholder is filling in all of them at once, if no value that was put in
has a brace or occurs in its name. -/
theorem fillOnce_fillOnceFrom (hholes : AreHoles values) (hplain : ∀ x ∈ values, Plain x.2)
    (hinner : Plain inner) (hoccurs : ∀ x ∈ values, ¬ x.2 <:+: inner) (value : List Char)
    (skip : Nat) (word : List Char) :
    let hole := openBrace :: (inner ++ [closeBrace])
    fillOnce [(hole, value)] (fillOnceFrom values skip word) =
      fillOnceFrom (values ++ [(hole, value)]) skip word := by
  intro hole
  have hone : AreHoles [(hole, value)] := by
    intro x hx
    obtain rfl := List.mem_singleton.1 hx
    exact ⟨inner, rfl, hinner⟩
  have hmore : ∀ text, leading? (values ++ [(hole, value)]) text =
      (leading? values text).or (leading? [(hole, value)] text) := fun _ => List.find?_append
  have hthere : ∀ text, leading? [(hole, value)] (hole ++ text) = some (hole, value) :=
    fun text => by simp [leading?]
  have hnot : ∀ text, ¬ hole <+: text → leading? [(hole, value)] text = none :=
    fun text h => leading?_eq_none_iff.2 (by simpa using h)
  induction word generalizing skip with
  | nil => cases skip <;> rfl
  | cons c rest ih =>
    cases skip with
    | succ skip => exact ih skip
    | zero =>
      specialize hmore (c :: rest)
      cases hleading : leading? values (c :: rest) with
      | some x =>
        rw [hleading, Option.some_or] at hmore
        have hput : openBrace ∉ x.2 := (hplain x (leading?_mem hleading).1).1
        simp only [fillOnceFrom, hleading, hmore]
        rw [fillOnce_append_of_notMem hone hput, ih]
      | none =>
        rw [hleading, Option.none_or] at hmore
        rw [← fillOnce, ← fillOnce]
        by_cases hhole : hole <+: c :: rest
        · obtain ⟨back, hback⟩ := hhole
          have hcons : hole ++ back = openBrace :: (inner ++ [closeBrace] ++ back) := rfl
          obtain ⟨rfl, rfl⟩ := List.cons.inj (hback.symm.trans hcons)
          have hrest := ih (inner ++ [closeBrace]).length
          rw [fillOnceFrom_length, fillOnceFrom_length] at hrest
          rw [← hcons] at hleading hmore ⊢
          rw [fillOnce_hole_append hholes hinner hleading, fillOnce_of_leading (hthere _), hrest,
            fillOnce_of_leading (hmore.trans (hthere back))]
        · -- the passes before make no placeholder of what is none
          have hleft : ¬ hole <+: c :: fillOnce values rest := by
            intro h
            rw [List.cons_prefix_cons] at h hhole
            exact hhole ⟨h.1, prefix_of_prefix_fillOnce (fun x hx => (hplain x hx).2) hoccurs h.2⟩
          rw [fillOnce_cons_of_none hleading, fillOnce_cons_of_none (hnot _ hleft),
            fillOnce_cons_of_none (hmore.trans (hnot _ hhole))]
          exact congrArg (c :: ·) (ih 0)

/-- A word without placeholders stays as it is. -/
theorem fillOnce_eq_self (h : ∀ x ∈ values, ¬ x.1 <:+: word) : fillOnce values word = word := by
  induction word with
  | nil => rfl
  | cons c rest ih =>
    have hnone : leading? values (c :: rest) = none :=
      leading?_eq_none_iff.2 fun x hx hprefix => h x hx hprefix.isInfix
    rw [fillOnce_cons_of_none hnone, ih fun x hx hoccurs => h x hx ?_]
    exact hoccurs.trans (List.suffix_cons c rest).isInfix

/-- A value can be filled in before another: it has no braces and does not occur in the name of the
other. -/
def Apart (f g : String × List Char) : Prop := Plain f.2 ∧ ¬ f.2 <:+: g.1.toList

/-- The placeholders of some names. -/
theorem areHoles_slots {fields : List (String × List Char)}
    (hnames : ∀ f ∈ fields, Plain f.1.toList) : AreHoles (slots fields) := by
  intro x hx
  obtain ⟨f, hf, rfl⟩ := List.mem_map.1 hx
  exact ⟨f.1.toList, rfl, hnames f hf⟩

/-- Passes one after the other fill in what a single one fills in. -/
theorem fill_eq_fillOnce {fields : List (String × List Char)}
    (hnames : ∀ f ∈ fields, Plain f.1.toList) (hapart : fields.Pairwise Apart) (word : List Char) :
    fill (slots fields) word = fillOnce (slots fields) word := by
  induction fields using List.reverseRecOn with
  | nil =>
    refine (fillOnce_eq_self fun x hx => ?_).symm
    cases hx
  | append_singleton fields f ih =>
    obtain ⟨hbefore, -, hlast⟩ := List.pairwise_append.1 hapart
    have hnames' : ∀ g ∈ fields, Plain g.1.toList := fun g hg => hnames g (by simp [hg])
    have hvalues : ∀ x ∈ slots fields, Plain x.2 ∧ ¬ x.2 <:+: f.1.toList := by
      intro x hx
      obtain ⟨g, hg, rfl⟩ := List.mem_map.1 hx
      exact hlast g hg f (by simp)
    have hslots : slots (fields ++ [f]) = slots fields ++ [(placeholder f.1, f.2)] :=
      List.map_append
    have hfill := ih hnames' hbefore
    rw [fill] at hfill
    rw [hslots, fill, List.foldl_append, hfill]
    exact (replaceFrom_eq _ _ 0 _).trans (fillOnce_fillOnceFrom (areHoles_slots hnames')
      (fun x hx => (hvalues x hx).1) (hnames f (by simp)) (fun x hx => (hvalues x hx).2) f.2 0 word)

/-! ## What filling in at once does -/

/-- A placeholder that a word begins with stands in front of the next opening brace. -/
theorem prefix_append_cons_iff {hole name : List Char}
    (hhole : hole = openBrace :: (name ++ [closeBrace])) (hname : Plain name) (hfront : front ≠ [])
    (back : List Char) : hole <+: front ++ openBrace :: back ↔ hole <+: front := by
  refine ⟨fun h => ?_, fun h => h.trans (List.prefix_append ..)⟩
  obtain hshort | ⟨back', hlong⟩ :=
    List.prefix_or_prefix_of_prefix h (List.prefix_append front (openBrace :: back))
  · exact hshort
  · cases back' with
    | nil => exact ⟨[], by rw [← hlong]; simp⟩
    | cons c back' =>
      -- behind the beginning the placeholder would go on with another opening brace
      exfalso
      obtain ⟨d, front, rfl⟩ := List.exists_cons_of_ne_nil hfront
      rw [← hlong, List.prefix_append_right_inj, List.cons_prefix_cons] at h
      rw [hhole, List.cons_append] at hlong
      have hmem : openBrace ∈ name ++ [closeBrace] := by
        rw [← (List.cons.inj hlong).2, ← h.1]
        simp
      rw [List.mem_append, List.mem_singleton] at hmem
      exact hmem.elim hname.1 (by decide)

/-- What a word begins with does not depend on what stands behind the next opening brace. -/
theorem leading?_append (hholes : AreHoles values) (hfront : front ≠ []) (back : List Char) :
    leading? values (front ++ openBrace :: back) = leading? values front := by
  have hcongr : ∀ x ∈ values,
      x.1.isPrefixOf (front ++ openBrace :: back) = x.1.isPrefixOf front := by
    intro x hx
    obtain ⟨name, hname, hplain⟩ := hholes x hx
    rw [Bool.eq_iff_iff, List.isPrefixOf_iff_prefix, List.isPrefixOf_iff_prefix]
    exact prefix_append_cons_iff hname hplain hfront back
  induction values with
  | nil => rfl
  | cons x values ih =>
    have hrest := ih (fun y hy => hholes y (List.mem_cons_of_mem _ hy))
      fun y hy => hcongr y (List.mem_cons_of_mem _ hy)
    rw [leading?, leading?] at hrest
    rw [leading?, leading?, List.find?_cons, List.find?_cons, hcongr x (List.mem_cons_self ..),
      hrest]

/-- A placeholder does not begin with another one. -/
theorem hole_eq_of_begins {hole hole' name name' : List Char}
    (hhole : hole = openBrace :: (name ++ [closeBrace]))
    (hhole' : hole' = openBrace :: (name' ++ [closeBrace])) (hname' : Plain name')
    (h : hole <+: hole') : hole = hole' := by
  rw [hhole, hhole', List.cons_prefix_cons] at h
  obtain heq | hname := List.prefix_concat_iff.1 h.2
  · rw [hhole, hhole', heq]
  · exact absurd (hname.subset (by simp)) hname'.2

/-- A word that begins with a placeholder begins with no other. -/
theorem leading?_hole (hholes : AreHoles values)
    (hunique : ∀ x ∈ values, ∀ y ∈ values, x.1 = y.1 → x = y) {x : List Char × List Char}
    (hx : x ∈ values) (back : List Char) : leading? values (x.1 ++ back) = some x := by
  cases hleading : leading? values (x.1 ++ back) with
  | none => exact absurd (List.prefix_append ..) (leading?_eq_none_iff.1 hleading x hx)
  | some y =>
    obtain ⟨hy, hprefix⟩ := leading?_mem hleading
    obtain ⟨name, hname, hplain⟩ := hholes x hx
    obtain ⟨name', hname', hplain'⟩ := hholes y hy
    have heq : x.1 = y.1 := by
      obtain h | h := List.prefix_or_prefix_of_prefix (List.prefix_append x.1 back) hprefix
      · exact hole_eq_of_begins hname hname' hplain' h
      · exact (hole_eq_of_begins hname' hname hplain h).symm
    rw [hunique x hx y hy heq]

/-- A placeholder splits a word into two parts that are filled in on their own, and its value stands
between them. -/
theorem fillOnce_append (hholes : AreHoles values)
    (hunique : ∀ x ∈ values, ∀ y ∈ values, x.1 = y.1 → x = y) {x : List Char × List Char}
    (hx : x ∈ values) (front back : List Char) :
    fillOnce values (front ++ x.1 ++ back) =
      fillOnce values front ++ x.2 ++ fillOnce values back := by
  obtain ⟨name, hname, -⟩ := hholes x hx
  have hhole := leading?_hole hholes hunique hx back
  -- the placeholder at which the scan is stands in the front part
  suffices ∀ skip ≤ front.length, fillOnceFrom values skip (front ++ (x.1 ++ back)) =
      fillOnceFrom values skip front ++ (x.2 ++ fillOnce values back) by
    simpa [fillOnce] using this 0 (Nat.zero_le _)
  induction front with
  | nil =>
    intro skip hskip
    obtain rfl := Nat.le_zero.1 hskip
    rw [hname] at hhole ⊢
    have hx' : x = (openBrace :: (name ++ [closeBrace]), x.2) := by rw [← hname]
    rw [hx'] at hhole
    exact fillOnce_of_leading hhole
  | cons c front ih =>
    rintro (_ | skip) hskip
    · have hleading : leading? values (c :: (front ++ (x.1 ++ back))) =
          leading? values (c :: front) := by
        rw [hname]
        exact leading?_append hholes (List.cons_ne_nil c front) (name ++ [closeBrace] ++ back)
      rw [List.cons_append, fillOnceFrom, hleading, fillOnceFrom]
      cases hfirst : leading? values (c :: front) with
      | none => exact congrArg (c :: ·) (ih 0 (Nat.zero_le _))
      | some y =>
        have hlength := (leading?_mem hfirst).2.length_le
        rw [List.length_cons] at hlength
        simp only [ih (y.1.length - 1) (by omega), List.append_assoc]
    · rw [List.length_cons] at hskip
      exact ih skip (by omega)

end

/-! ## Corpora -/

/-- The name, the target and the generator of a suite can be filled in one after the other: they
have no braces, and none of them occurs in the name of a placeholder that is filled in behind it. -/
structure Inert (name : String) (suite : Suite) : Prop where
  name_plain : Plain name.toList
  target_plain : Plain suite.target.toList
  generator_plain : Plain suite.generator.toList
  name_target : ¬ name.toList <:+: "target".toList
  name_generator : ¬ name.toList <:+: "generator".toList
  name_cacheDir : ¬ name.toList <:+: "cache_dir".toList
  target_generator : ¬ suite.target.toList <:+: "generator".toList
  target_cacheDir : ¬ suite.target.toList <:+: "cache_dir".toList
  generator_cacheDir : ¬ suite.generator.toList <:+: "cache_dir".toList

/-- The names of the placeholders, with the values for a suite. -/
def fields (name : String) (suite : Suite) (dir : Path) : List (String × List Char) :=
  [("suite", name.toList), ("target", suite.target.toList), ("generator", suite.generator.toList),
    ("cache_dir", dir.display.toList)]

/-- The names of the placeholders have no braces. -/
theorem plain_of_mem_fields {name : String} {suite : Suite} {dir : Path} :
    ∀ f ∈ fields name suite dir, Plain f.1.toList := by
  simp only [fields, List.forall_mem_cons]
  refine ⟨?_, ?_, ?_, ?_, fun _ h => nomatch h⟩ <;> decide +kernel

/-- The values for a suite can be filled in one after the other. -/
theorem Inert.pairwise {name : String} {suite : Suite} (h : Inert name suite) (dir : Path) :
    (fields name suite dir).Pairwise Apart := by
  simp only [fields, List.pairwise_cons, List.forall_mem_cons, Apart]
  refine ⟨⟨⟨h.name_plain, h.name_target⟩, ⟨h.name_plain, h.name_generator⟩,
      ⟨h.name_plain, h.name_cacheDir⟩, ?_⟩,
    ⟨⟨h.target_plain, h.target_generator⟩, ⟨h.target_plain, h.target_cacheDir⟩, ?_⟩,
    ⟨⟨h.generator_plain, h.generator_cacheDir⟩, ?_⟩, ?_, .nil⟩ <;> exact fun _ h => nomatch h

/-- No two placeholders are the same. -/
theorem values_unique (name : String) (suite : Suite) (dir : Path) :
    ∀ x ∈ values name suite dir, ∀ y ∈ values name suite dir, x.1 = y.1 → x = y := by
  have hnodup : ((values name suite dir).map Prod.fst).Nodup :=
    (by decide +kernel : ["suite", "target", "generator", "cache_dir"].map placeholder |>.Nodup)
  exact fun x hx y hy h => List.inj_on_of_nodup_map hnodup hx hy h

instance (name : String) (suite : Suite) : Decidable (Inert name suite) :=
  decidable_of_iff (Plain name.toList ∧ Plain suite.target.toList ∧ Plain suite.generator.toList ∧
      ¬ name.toList <:+: "target".toList ∧ ¬ name.toList <:+: "generator".toList ∧
      ¬ name.toList <:+: "cache_dir".toList ∧ ¬ suite.target.toList <:+: "generator".toList ∧
      ¬ suite.target.toList <:+: "cache_dir".toList ∧
      ¬ suite.generator.toList <:+: "cache_dir".toList)
    ⟨fun ⟨h₁, h₂, h₃, h₄, h₅, h₆, h₇, h₈, h₉⟩ => ⟨h₁, h₂, h₃, h₄, h₅, h₆, h₇, h₈, h₉⟩,
      fun ⟨h₁, h₂, h₃, h₄, h₅, h₆, h₇, h₈, h₉⟩ => ⟨h₁, h₂, h₃, h₄, h₅, h₆, h₇, h₈, h₉⟩⟩

/-- The values for each suite of a table can be filled in one after the other. -/
theorem inert_of_mem_suites {g : Generation} {row : String × Suite} (h : row ∈ g.suites) :
    Inert row.1 row.2 := by
  have hall : ∀ g ∈ Generation.all, ∀ row ∈ g.suites, Inert row.1 row.2 := by decide +kernel
  exact hall g (by cases g <;> decide) row h

end RoundTrip.Recipe
