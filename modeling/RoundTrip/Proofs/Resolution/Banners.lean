import Mathlib.Data.List.Basic
import RoundTrip.VersionList

/-!
# The version that a banner names

A banner names a version (`VersionList.Names`) where the word `version`, a blank and the version
stand anywhere in it and no digit follows. `VersionList.mentions` reads the banner once from the
left and goes on behind each occurrence that it finds, so it passes over occurrences that overlap an
earlier one. What two such occurrences share is a border of the sought text: an end of it that is
also a beginning (`Text.mem_afterEach_or_overlaps`).

A version without blanks leaves the sought text with a single one, and a border that held it would
be the whole text. So a border is a beginning of the word `version`, a letter or the blank follows
it, and the earlier occurrence is followed by no digit (`VersionList.noDigit_of_border`): where
one is passed over, another one counts. `mentions_iff` says that nothing is lost, and
`mentionedIn_iff` that the version which is named first in the order of preference is found.
-/

namespace RoundTrip

namespace Text

variable {sought text front back rest border tail : List Char}

/-- A beginning of a text that is also an end of it and not all of it, and what follows it. -/
structure Border (sought border tail : List Char) : Prop where
  begins : sought = border ++ tail
  ends : border <:+ sought
  tail_ne_nil : tail ≠ []

/-- What follows an occurrence that is found follows an occurrence. -/
theorem exists_of_mem_afterEachFrom {skip : Nat} (h : rest ∈ afterEachFrom sought skip text) :
    ∃ front, text = front ++ (sought ++ rest) := by
  induction text generalizing skip with
  | nil => cases skip <;> cases h
  | cons c text ih =>
    cases skip with
    | succ skip =>
      obtain ⟨front, rfl⟩ := ih h
      exact ⟨c :: front, rfl⟩
    | zero =>
      simp only [afterEachFrom] at h
      split at h
      · next hprefix =>
        obtain ⟨behind, hbehind⟩ := List.isPrefixOf_iff_prefix.1 hprefix
        rw [← hbehind, List.drop_left, List.mem_cons] at h
        obtain rfl | h := h
        · exact ⟨[], hbehind.symm⟩
        · obtain ⟨front, rfl⟩ := ih h
          exact ⟨c :: front, rfl⟩
      · obtain ⟨front, rfl⟩ := ih h
        exact ⟨c :: front, rfl⟩

/-- Of two occurrences that overlap, the first is followed by what follows a border in the sought
text. -/
theorem exists_border (hfront : front ≠ []) (hshort : front.length ≤ sought.length)
    (h : sought ++ rest = front ++ (sought ++ back)) :
    ∃ border tail, Border sought border tail ∧ rest = tail ++ back := by
  obtain ⟨border, hborder⟩ : front <+: sought :=
    List.prefix_of_prefix_length_le ⟨_, h.symm⟩ (List.prefix_append ..) hshort
  have hover : border ++ rest = sought ++ back := by
    rw [← List.append_cancel_left_eq front, ← List.append_assoc, hborder, h]
  have hlength : border.length ≤ sought.length := by
    rw [← hborder, List.length_append]
    exact Nat.le_add_left ..
  obtain ⟨tail, htail⟩ : border <+: sought :=
    List.prefix_of_prefix_length_le ⟨_, hover⟩ (List.prefix_append ..) hlength
  refine ⟨border, tail, ⟨htail.symm, ⟨front, hborder⟩, fun hnil => hfront ?_⟩, ?_⟩
  · rw [hnil, List.append_nil] at htail
    rw [htail] at hborder
    exact List.append_left_eq_self.1 hborder
  · rw [← htail, List.append_assoc] at hover
    exact List.append_cancel_left hover

/-- An occurrence behind what is passed over is found, or it overlaps one that is found. -/
theorem mem_afterEachFrom_or_overlaps {skip : Nat} (hne : sought ≠ [])
    (htext : text = front ++ (sought ++ back)) (hskip : skip ≤ front.length) :
    back ∈ afterEachFrom sought skip text ∨
      ∃ border tail, Border sought border tail ∧
        tail ++ back ∈ afterEachFrom sought skip text := by
  induction text generalizing skip front with
  | nil => simp [hne] at htext
  | cons c text ih =>
    cases front with
    | nil =>
      -- the occurrence stands here, and nothing is passed over
      obtain rfl : skip = 0 := Nat.le_zero.1 hskip
      rw [List.nil_append] at htext
      refine .inl ?_
      simp [afterEachFrom, htext, List.isPrefixOf_iff_prefix]
    | cons d front =>
      rw [List.cons_append, List.cons.injEq] at htext
      obtain ⟨rfl, htext⟩ := htext
      cases skip with
      | succ skip => exact ih htext (Nat.le_of_succ_le_succ hskip)
      | zero =>
        simp only [afterEachFrom]
        split
        · next hprefix =>
          obtain ⟨behind, hbehind⟩ := List.isPrefixOf_iff_prefix.1 hprefix
          rw [← hbehind, List.drop_left]
          by_cases hlong : sought.length - 1 ≤ front.length
          · obtain hfound | ⟨border, tail, hborder, hfound⟩ := ih htext hlong
            · exact .inl (List.mem_cons_of_mem _ hfound)
            · exact .inr ⟨border, tail, hborder, List.mem_cons_of_mem _ hfound⟩
          · -- the occurrence that is found here reaches into the other one
            rw [htext, ← List.cons_append] at hbehind
            obtain ⟨border, tail, hborder, rfl⟩ := exists_border (List.cons_ne_nil c front)
              (by rw [List.length_cons]; omega) hbehind
            exact .inr ⟨border, tail, hborder, List.mem_cons_self ..⟩
        · exact ih htext (Nat.zero_le _)

/-- An occurrence is found, or it overlaps one that is found. -/
theorem mem_afterEach_or_overlaps (hne : sought ≠ []) (htext : text = front ++ (sought ++ back)) :
    back ∈ afterEach sought text ∨
      ∃ border tail, Border sought border tail ∧ tail ++ back ∈ afterEach sought text :=
  mem_afterEachFrom_or_overlaps hne htext (Nat.zero_le _)

end Text

namespace VersionList

/-- A text does not begin with a digit. -/
def NoDigit (text : List Char) : Prop := ∀ c ∈ text.head?, c.isDigit = false

/-- A banner names a version: the word `version`, a blank and the version stand somewhere in it, and
no digit follows. -/
def Names (banner version : String) : Prop :=
  ∃ front back, banner = front ++ "version " ++ version ++ back ∧ NoDigit back.toList

/-- What a banner is searched for. -/
def sought (version : String) : List Char := ("version " ++ version).toList

theorem sought_ne_nil (version : String) : sought version ≠ [] := by simp [sought]

/-- The banner of a version names it just if the sought text occurs in it and no digit follows. -/
theorem names_iff {banner version : String} :
    Names banner version ↔
      ∃ front back, banner.toList = front ++ (sought version ++ back) ∧ NoDigit back := by
  constructor
  · rintro ⟨front, back, rfl, hback⟩
    exact ⟨front.toList, back.toList, by simp [sought], hback⟩
  · rintro ⟨front, back, hbanner, hback⟩
    refine ⟨.ofList front, .ofList back, String.toList_injective ?_, by simpa using hback⟩
    simp [hbanner, sought]

/-- A version is mentioned just if no digit follows one of the occurrences that are found. -/
theorem mentions_eq_true_iff {banner version : String} :
    mentions banner version = true ↔
      ∃ rest ∈ Text.afterEach (sought version) banner.toList, NoDigit rest := by
  rw [mentions, ← String.toList_append, List.any_eq_true]
  refine exists_congr fun rest => and_congr_right fun _ => ?_
  cases rest <;> simp [NoDigit]

/-- No digit follows a border of the sought text, because there is only one blank in it. -/
theorem noDigit_of_border {version : String} {border tail : List Char}
    (hversion : ' ' ∉ version.toList) (h : Text.Border (sought version) border tail)
    (back : List Char) : NoDigit (tail ++ back) := by
  have hword : sought version = "version".toList ++ ' ' :: version.toList := by simp [sought]
  obtain ⟨inner, hinner, htail⟩ | ⟨letters, hletters, rfl⟩ :=
    List.append_eq_append_iff.1 (hword.symm.trans h.begins)
  · cases inner with
    | nil =>
      rw [List.nil_append] at htail
      simp [← htail, NoDigit]
    | cons c inner =>
      -- the border ends with the only blank and what follows it, so nothing stands in front of it
      exfalso
      obtain ⟨rfl, hrest⟩ := List.cons.inj htail
      obtain ⟨front, hfront⟩ := h.ends
      have hblank : ' ' ∉ "version".toList := by simp
      rw [hword, hinner, ← List.append_assoc] at hfront
      obtain ⟨-, -, hall⟩ := (List.append_cons_inj_of_notMem hblank hversion).1 hfront.symm
      exact h.tail_ne_nil (List.append_right_eq_self.1 (hrest.symm.trans hall))
  · cases letters with
    | nil => simp [NoDigit]
    | cons c letters =>
      have hdigits : ∀ d ∈ "version".toList, d.isDigit = false := by simp
      have hc : c.isDigit = false := hdigits c (by rw [hletters]; simp)
      simpa [NoDigit] using hc

/-- A banner mentions a version without blanks just if it names it. -/
theorem mentions_iff {banner version : String} (hversion : ' ' ∉ version.toList) :
    mentions banner version = true ↔ Names banner version := by
  rw [mentions_eq_true_iff, names_iff]
  constructor
  · rintro ⟨rest, hrest, hdigit⟩
    obtain ⟨front, hfront⟩ := Text.exists_of_mem_afterEachFrom hrest
    exact ⟨front, rest, hfront, hdigit⟩
  · rintro ⟨front, back, hbanner, hdigit⟩
    obtain hfound | ⟨border, tail, hborder, hfound⟩ :=
      Text.mem_afterEach_or_overlaps (sought_ne_nil version) hbanner
    · exact ⟨back, hfound, hdigit⟩
    · exact ⟨tail ++ back, hfound, noDigit_of_border hversion hborder back⟩

-- A version with a blank may be passed over where it is named.
example : mentions "version 12 version 12 version 1" "12 version 1" = false ∧
    Names "version 12 version 12 version 1" "12 version 1" :=
  ⟨by decide +kernel, "version 12 ", "", by decide +kernel, by simp [NoDigit]⟩

/-- The version that is found for a banner, if no version has a blank. It is the first in the order
of preference that the banner names, wherever it stands in the banner and whatever it overlaps, and
there is none just if the banner names none. -/
theorem mentionedIn_iff (accepted : VersionList) (banner : String)
    (hblank : ∀ version ∈ accepted.versions, ' ' ∉ version.toList) :
    (∀ version, accepted.mentionedIn banner = some version ↔
      Names banner version ∧ ∃ before behind, accepted.versions = before ++ version :: behind ∧
        ∀ other ∈ before, ¬ Names banner other) ∧
    (accepted.mentionedIn banner = none ↔
      ∀ version ∈ accepted.versions, ¬ Names banner version) := by
  constructor
  · intro version
    rw [mentionedIn, List.find?_eq_some_iff_append]
    constructor
    · rintro ⟨hmentions, before, behind, hversions, hbefore⟩
      refine ⟨(mentions_iff (hblank version (by simp [hversions]))).1 hmentions, before, behind,
        hversions, fun other hother hnames => ?_⟩
      have hmentions' := (mentions_iff (hblank other (by simp [hversions, hother]))).2 hnames
      simpa [hmentions'] using hbefore other hother
    · rintro ⟨hnames, before, behind, hversions, hbefore⟩
      refine ⟨(mentions_iff (hblank version (by simp [hversions]))).2 hnames, before, behind,
        hversions, fun other hother => ?_⟩
      have hiff : mentions banner other = true ↔ Names banner other :=
        mentions_iff (hblank other (by simp [hversions, hother]))
      simpa [← hiff] using hbefore other hother
  · rw [mentionedIn, List.find?_eq_none]
    exact forall₂_congr fun version hversion => not_congr (mentions_iff (hblank version hversion))

/-- A version that is preferred stands behind another one, in an occurrence that is passed over. -/
theorem mentionedIn_iff_sample :
    let accepted : VersionList := ⟨["3.9", "4version", "3.8"]⟩
    let banner := "version 3.8, version 4version 4version 9, version 3.91"
    (∀ version ∈ accepted.versions, ' ' ∉ version.toList) ∧
      accepted.mentionedIn banner = some "4version" ∧
      Names banner "4version" ∧ ¬ Names banner "3.9" := by
  intro accepted banner
  have hblank : ∀ version ∈ accepted.versions, ' ' ∉ version.toList := by decide
  have hmentioned : accepted.mentionedIn banner = some "4version" := by decide +kernel
  obtain ⟨hnames, before, behind, hversions, hbefore⟩ :=
    ((mentionedIn_iff accepted banner hblank).1 "4version").1 hmentioned
  refine ⟨hblank, hmentioned, hnames, hbefore "3.9" ?_⟩
  cases before with
  | nil => simp [accepted] at hversions
  | cons other before =>
    rw [(List.cons.inj hversions).1]
    exact List.mem_cons_self ..

end VersionList

end RoundTrip
