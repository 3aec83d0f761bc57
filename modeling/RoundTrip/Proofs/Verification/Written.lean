import Mathlib.Data.List.Induction
import RoundTrip.Proofs.Verification.Craft

/-!
# What an assembler changes

An assembler that writes the binary of an artifact changes what one file holds, and no directory
(`written_sameDirs`, `written_outline_of_ne`). What is found out about an artifact depends on two
contents, that of its text and that of its reference (`judge_eq`), so artifacts take part in each
other's verdicts only where one writes what the other reads. No text is ever written
(`foldl_content?_text`); a reference is written by the one artifact whose binary it is
(`foldl_content?_reference`).
-/

namespace RoundTrip

/-- Trees with the same directories, of which the second has no links. -/
structure FileTree.SameDirs (t t' : FileTree) : Prop where
  cwd : t'.cwd = t.cwd
  dirAt : ∀ place, t'.root.dirAt place = t.root.dirAt place
  linkFree : t'.root.LinkFree

theorem FileTree.SameDirs.trans {t₁ t₂ t₃ : FileTree} (h₁ : t₁.SameDirs t₂)
    (h₂ : t₂.SameDirs t₃) : t₁.SameDirs t₃ where
  cwd := h₂.cwd.trans h₁.cwd
  dirAt place := (h₂.dirAt place).trans (h₁.dirAt place)
  linkFree := h₂.linkFree

/-- An artifact lies where it lies in a tree with the same directories. -/
theorem FileTree.SameDirs.liesIn {t t' : FileTree} (h : t.SameDirs t') {a : Artifact} {dir : Place}
    {stem : String} (ha : a.LiesIn t dir stem) : a.LiesIn t' dir stem :=
  ha.congr h.cwd h.dirAt

/-- A file holds what it holds in a tree with the same directories if its place looks the same. -/
theorem FileTree.SameDirs.content?_eq {t t' : FileTree} (h : t.SameDirs t') (hf : t.root.LinkFree)
    {p : Path} {dir : Place} {name : Name} (hp : t.Lies p dir name)
    (hout : (t'.root.at? (dir ++ [name])).map Node.outline =
      (t.root.at? (dir ++ [name])).map Node.outline) : t'.content? p = t.content? p := by
  rw [(hp.congr h.cwd h.dirAt).content?_eq h.linkFree, hp.content?_eq hf, Node.contentAt_eq,
    Node.contentAt_eq, hout]

namespace Artifact

/-- The place of the binary of an artifact. -/
def binaryPlace (dir : Place) (stem : String) : Place := dir ++ [Utf8.encode (stem ++ binarySuffix)]

end Artifact

namespace Craft

open Artifact FileTree

/-- What is found out about an artifact, given what its text and its reference hold. -/
def opinion (c : Craft) (a : Artifact) (text reference : Option Bytes) : Finding :=
  if c.status text ≠ 0 then .failed (.rejected (c.status text))
  else if reference.isSome then
    .ofEndings (c.ending reference)
      (c.ending (if (refusal? a.binary).isSome then none else some (c.output text)))
  else .failed .referenceMissing

section Step

variable {c : Craft} {t : FileTree} {a : Artifact} {dir : Place} {stem : String}
  (hf : t.root.LinkFree) (ha : a.LiesIn t dir stem)
  (hplace : t.root.dirAt (binaryPlace dir stem) = false)

include hf ha hplace

/-- An assembler that accepts a text puts its binary in its place, unless the path is refused. -/
theorem written_cases :
    c.written t a = t ∧
        (c.status (t.content? a.text) ≠ 0 ∨ (refusal? a.binary).isSome = true) ∨
      c.status (t.content? a.text) = 0 ∧ refusal? a.binary = none ∧
        ∃ mode, c.written t a =
          t.put (binaryPlace dir stem) (.file (c.output (t.content? a.text)) mode) := by
  unfold written
  split
  · next hcode =>
    obtain ⟨r, hr, hw⟩ | ⟨hr, mode, hw⟩ :=
      ha.binary.write_eq hf hplace (c.output (t.content? a.text))
    · exact .inl ⟨by rw [hw]; rfl, .inr (by rw [hr]; rfl)⟩
    · exact .inr ⟨hcode, hr, mode, by rw [hw]; rfl⟩
  · next hcode => exact .inl ⟨rfl, .inl hcode⟩

/-- An assembler makes no directory, removes none, and makes no link. -/
theorem written_sameDirs : t.SameDirs (c.written t a) := by
  have hdir := ha.binary.dirAt
  obtain ⟨hw, -⟩ | ⟨-, -, mode, hw⟩ := written_cases (c := c) hf ha hplace
  · rw [hw]
    exact ⟨rfl, fun _ => rfl, hf⟩
  · rw [hw]
    exact ⟨rfl, fun place => Node.dirAt_put hdir hplace _ mode place, hf.put hdir hplace _ mode⟩

/-- The tree stays well-formed. -/
theorem written_wellFormed (hw : t.root.WellFormed) : (c.written t a).root.WellFormed := by
  obtain ⟨hsame, -⟩ | ⟨-, -, mode, hput⟩ := written_cases (c := c) hf ha hplace
  · rwa [hsame]
  · rw [hput]
    exact hw.put ha.binary.dirAt ha.binary.proper (.leaf rfl)

/-- Another place than that of the binary looks as it did. -/
theorem written_outline_of_ne {place : Place} (hne : place ≠ binaryPlace dir stem) :
    ((c.written t a).root.at? place).map Node.outline = (t.root.at? place).map Node.outline := by
  obtain ⟨hsame, -⟩ | ⟨-, -, mode, hput⟩ := written_cases (c := c) hf ha hplace
  · rw [hsame]
  · rw [hput]
    exact (Node.outline_at?_put_of_dirAt ha.binary.dirAt hplace _ mode place).trans (if_neg hne)

/-- What the binary of an artifact holds behind its assembly. -/
theorem written_content?_binary : (c.written t a).content? a.binary =
    if c.status (t.content? a.text) = 0 then
      if (refusal? a.binary).isSome then none else some (c.output (t.content? a.text))
    else t.content? a.binary := by
  have hsame := written_sameDirs (c := c) hf ha hplace
  have hdir := ha.binary.dirAt
  rw [(ha.binary.congr hsame.cwd hsame.dirAt).content?_eq hsame.linkFree,
    ha.binary.content?_eq hf]
  obtain ⟨hw, hcode | hr⟩ | ⟨hcode, hr, mode, hw⟩ := written_cases (c := c) hf ha hplace
  · rw [if_neg hcode, hw]
  · simp [hr]
  · have hcontent : (c.written t a).root.contentAt (binaryPlace dir stem) =
        some (c.output (t.content? a.text)) := by
      rw [hw]
      exact (Node.contentAt_put hdir hplace _ mode _).trans (if_pos rfl)
    rw [if_pos hcode, hr]
    exact hcontent

/-- What is found out about an artifact depends on what its text and its reference hold. -/
theorem judge_eq : c.judge t a = c.opinion a (t.content? a.text) (t.content? a.reference) := by
  have hsame := written_sameDirs (c := c) hf ha hplace
  have href : (c.written t a).content? a.reference = t.content? a.reference := by
    refine hsame.content?_eq hf ha.reference (written_outline_of_ne hf ha hplace fun h => ?_)
    have hname := (List.cons.inj (List.append_cancel_left h)).1
    exact ne_append_outSuffix stem (reference_eq_binary_iff.1 hname)
  rw [judge, opinion, (hsame.liesIn ha).reference.isFile_eq hsame.linkFree, href,
    written_content?_binary hf ha hplace]
  split
  · rfl
  · next hcode => rw [if_pos (not_not.1 hcode)]

end Step

end Craft

/-! ## Artifacts that are examined one after the other -/

/-- Artifacts that lie in a tree without links in a way that lets each be examined beside the
others: no directory is where a binary would be written, an artifact is known by its place, and one
whose binary is in the place of a reference has it for its binary and comes first. -/
structure FileTree.Lodges (t : FileTree) (artifacts : List Artifact) : Prop where
  linkFree : t.root.LinkFree
  liesIn : ∀ a ∈ artifacts, ∃ dir stem, a.LiesIn t dir stem
  vacant : ∀ dir stem, t.root.dirAt (Artifact.binaryPlace dir stem) = false
  eq_of_liesIn : ∀ {a b}, a ∈ artifacts → b ∈ artifacts → ∀ {dir stem}, a.LiesIn t dir stem →
    b.LiesIn t dir stem → a = b
  binary_eq : ∀ {a b}, a ∈ artifacts → b ∈ artifacts → ∀ {dir stem}, b.LiesIn t dir stem →
    a.LiesIn t dir (stem ++ Artifact.outSuffix) → b.binary = a.reference
  ordered : artifacts.Pairwise fun a b => ∀ dir stem, b.LiesIn t dir stem →
    ¬ a.LiesIn t dir (stem ++ Artifact.outSuffix)

namespace FileTree.Lodges

open Artifact

variable {c : Craft} {t : FileTree} {artifacts front : List Artifact} {a b : Artifact}

/-- Assembling artifacts makes no directory, removes none, and makes no link. -/
theorem foldl_sameDirs (h : t.Lodges artifacts) (hsub : front ⊆ artifacts) :
    t.SameDirs (front.foldl c.written t) := by
  induction front using List.reverseRecOn with
  | nil => exact ⟨rfl, fun _ => rfl, h.linkFree⟩
  | append_singleton front b ih =>
    have hsame := ih fun x hx => hsub (List.mem_append_left _ hx)
    obtain ⟨dir, stem, hb⟩ := h.liesIn b (hsub (by simp))
    rw [List.foldl_append]
    refine hsame.trans (Craft.written_sameDirs hsame.linkFree (hsame.liesIn hb) ?_)
    rw [hsame.dirAt]
    exact h.vacant dir stem

/-- Behind the assembly of some artifacts each of them lies where it lay, and there is still no
directory in the place of its binary. -/
theorem exists_foldl_liesIn (h : t.Lodges artifacts) (hsub : front ⊆ artifacts)
    (hb : b ∈ artifacts) : ∃ dir stem, b.LiesIn t dir stem ∧
      b.LiesIn (front.foldl c.written t) dir stem ∧
      (front.foldl c.written t).root.dirAt (binaryPlace dir stem) = false := by
  have hsame := h.foldl_sameDirs (c := c) hsub
  obtain ⟨dir, stem, hlb⟩ := h.liesIn b hb
  exact ⟨dir, stem, hlb, hsame.liesIn hlb, (hsame.dirAt _).trans (h.vacant dir stem)⟩

/-- Assembling artifacts leaves a tree well-formed. -/
theorem foldl_wellFormed (h : t.Lodges artifacts) (hsub : front ⊆ artifacts)
    (hw : t.root.WellFormed) : (front.foldl c.written t).root.WellFormed := by
  induction front using List.reverseRecOn with
  | nil => exact hw
  | append_singleton front b ih =>
    have hfront : front ⊆ artifacts := fun x hx => hsub (List.mem_append_left _ hx)
    have hmem : b ∈ artifacts := hsub (by simp)
    obtain ⟨dir, stem, -, hlies, hvacant⟩ := h.exists_foldl_liesIn (c := c) hfront hmem
    rw [List.foldl_append]
    exact Craft.written_wellFormed (h.foldl_sameDirs hfront).linkFree hlies hvacant (ih hfront)

/-- Assembling artifacts changes the looks of no place but those of their binaries. -/
theorem foldl_outline_of_ne (h : t.Lodges artifacts) (hsub : front ⊆ artifacts) {place : Place}
    (hne : ∀ b ∈ front, ∀ dir stem, b.LiesIn t dir stem → place ≠ binaryPlace dir stem) :
    ((front.foldl c.written t).root.at? place).map Node.outline =
      (t.root.at? place).map Node.outline := by
  induction front using List.reverseRecOn with
  | nil => rfl
  | append_singleton front b ih =>
    have hfront : front ⊆ artifacts := fun x hx => hsub (List.mem_append_left _ hx)
    have hmem : b ∈ artifacts := hsub (by simp)
    obtain ⟨dir, stem, hb, hlies, hvacant⟩ := h.exists_foldl_liesIn (c := c) hfront hmem
    rw [List.foldl_append, ← ih hfront fun x hx => hne x (List.mem_append_left _ hx)]
    exact Craft.written_outline_of_ne (h.foldl_sameDirs hfront).linkFree hlies hvacant
      (hne b (by simp) dir stem hb)

/-- The place of a text looks as it did. -/
theorem foldl_outline_text (h : t.Lodges artifacts) (hsub : front ⊆ artifacts) (dir : Place)
    (stem : String) :
    ((front.foldl c.written t).root.at? (dir ++ [Utf8.encode (stem ++ textSuffix)])).map
        Node.outline =
      (t.root.at? (dir ++ [Utf8.encode (stem ++ textSuffix)])).map Node.outline := by
  refine h.foldl_outline_of_ne hsub fun b _ dir' stem' _ heq => ?_
  exact text_ne_binary stem stem' (List.cons.inj (List.append_inj' heq rfl).2).1

/-- No text is written. -/
theorem foldl_content?_text (h : t.Lodges artifacts) (hsub : front ⊆ artifacts)
    (ha : a ∈ artifacts) : (front.foldl c.written t).content? a.text = t.content? a.text := by
  obtain ⟨dir, stem, hlies⟩ := h.liesIn a ha
  exact (h.foldl_sameDirs hsub).content?_eq h.linkFree hlies.text
    (h.foldl_outline_text hsub dir stem)

/-- The binary of an artifact is in the place of a reference just if it is the reference. -/
theorem binary_eq_iff (h : t.Lodges artifacts) (ha : a ∈ artifacts) (hb : b ∈ artifacts)
    {dir dir' : Place} {stem stem' : String} (hla : a.LiesIn t dir stem)
    (hlb : b.LiesIn t dir' stem') :
    dir ++ [Utf8.encode (stem ++ referenceSuffix)] = binaryPlace dir' stem' ↔
      b.binary = a.reference := by
  constructor
  · intro heq
    obtain ⟨rfl, hname⟩ := List.append_inj' heq rfl
    obtain rfl := reference_eq_binary_iff.1 (List.cons.inj hname).1
    exact h.binary_eq ha hb hlb hla
  · intro heq
    obtain ⟨rfl, rfl⟩ := hla.binary_eq_reference hlb heq
    rw [binaryPlace, reference_eq_binary_iff.2 rfl]

/-- A reference that is the binary of no artifact is not written. -/
theorem foldl_content?_reference (h : t.Lodges artifacts) (hsub : front ⊆ artifacts)
    (ha : a ∈ artifacts) (hne : ∀ b ∈ front, b.binary ≠ a.reference) :
    (front.foldl c.written t).content? a.reference = t.content? a.reference := by
  obtain ⟨dir, stem, hlies⟩ := h.liesIn a ha
  refine (h.foldl_sameDirs hsub).content?_eq h.linkFree hlies.reference
    (h.foldl_outline_of_ne hsub fun b hb dir' stem' hlb heq => ?_)
  exact hne b hb ((h.binary_eq_iff ha (hsub hb) hlies hlb).1 heq)

/-- The binary of an artifact is written by this artifact alone. -/
theorem foldl_content?_binary (h : t.Lodges artifacts) (hsub : front ⊆ artifacts)
    (hb : b ∈ artifacts) : (front.foldl c.written t).content? b.binary =
      if b ∈ front then (c.written t b).content? b.binary else t.content? b.binary := by
  obtain ⟨dir, stem, hlb⟩ := h.liesIn b hb
  induction front using List.reverseRecOn with
  | nil => rfl
  | append_singleton front x ih =>
    have hfront : front ⊆ artifacts := fun x hx => hsub (List.mem_append_left _ hx)
    have hsame := h.foldl_sameDirs (c := c) hfront
    rw [List.foldl_append, List.foldl_cons, List.foldl_nil]
    by_cases hx : x = b
    · -- what is written again is what was written before
      subst hx
      have hvacant := (hsame.dirAt _).trans (h.vacant dir stem)
      have hmem : x ∈ front ++ [x] := by simp
      have hwritten := Craft.written_content?_binary (c := c) h.linkFree hlb (h.vacant dir stem)
      rw [Craft.written_content?_binary hsame.linkFree (hsame.liesIn hlb) hvacant,
        h.foldl_content?_text hfront hb, ih hfront, hwritten, if_pos hmem]
      by_cases hcode : c.status (t.content? x.text) = 0
      · rw [if_pos hcode, if_pos hcode]
      · rw [if_neg hcode, if_neg hcode, ite_self]
    · have hmem : x ∈ artifacts := hsub (by simp)
      obtain ⟨dir', stem', hlx, hlies, hvacant⟩ := h.exists_foldl_liesIn (c := c) hfront hmem
      have hplace : binaryPlace dir stem ≠ binaryPlace dir' stem' := by
        intro hplace
        obtain ⟨rfl, hname⟩ := List.append_inj' hplace rfl
        obtain rfl := (append_inj (Utf8.encode_injective (List.cons.inj hname).1) rfl).1
        exact hx (h.eq_of_liesIn hmem hb hlx hlb)
      have hstep := Craft.written_sameDirs (c := c) hsame.linkFree hlies hvacant
      have hbinary := hlb.binary.congr hsame.cwd hsame.dirAt
      rw [hstep.content?_eq hsame.linkFree hbinary
        (Craft.written_outline_of_ne hsame.linkFree hlies hvacant hplace), ih hfront]
      simp [Ne.symm hx]

/-- What is found out about an artifact behind others depends on what its reference then holds. -/
theorem judge_foldl_eq (h : t.Lodges artifacts) (hsub : front ⊆ artifacts) (ha : a ∈ artifacts) :
    c.judge (front.foldl c.written t) a =
      c.opinion a (t.content? a.text) ((front.foldl c.written t).content? a.reference) := by
  obtain ⟨dir, stem, -, hlies, hvacant⟩ := h.exists_foldl_liesIn (c := c) hsub ha
  rw [Craft.judge_eq (h.foldl_sameDirs hsub).linkFree hlies hvacant, h.foldl_content?_text hsub ha]

/-- An artifact whose binary is the reference of another comes before it. -/
theorem mem_front_of_binary_eq (h : t.Lodges artifacts) {back : List Artifact}
    (hsplit : artifacts = front ++ a :: back) (hb : b ∈ artifacts)
    (heq : b.binary = a.reference) : b ∈ front := by
  have ha : a ∈ artifacts := by simp [hsplit]
  obtain ⟨dir, stem, hla⟩ := h.liesIn a ha
  obtain ⟨dir', stem', hlb⟩ := h.liesIn b hb
  obtain ⟨rfl, rfl⟩ := hla.binary_eq_reference hlb heq
  have hordered := h.ordered
  rw [hsplit, List.pairwise_append, List.pairwise_cons] at hordered
  rcases List.mem_append.1 (hsplit ▸ hb) with hfront | hback
  · exact hfront
  · rcases List.mem_cons.1 hback with rfl | hback
    · exact absurd (hlb.det hla).2 (ne_append_outSuffix stem')
    · exact absurd hla (hordered.2.1.1 b hback dir stem' hlb)

/-- What is found out about an artifact behind others is what is found out behind the one that
writes its reference, and what is found out alone if there is none whose text is accepted. -/
theorem judge_foldl (h : t.Lodges artifacts) {back : List Artifact}
    (hsplit : artifacts = front ++ a :: back) :
    (∀ b ∈ artifacts, b.binary = a.reference →
        c.judge (front.foldl c.written t) a = c.judge (c.written t b) a) ∧
      ((∀ b ∈ artifacts, b.binary = a.reference → c.status (t.content? b.text) ≠ 0) →
        c.judge (front.foldl c.written t) a = c.judge t a) := by
  have ha : a ∈ artifacts := by simp [hsplit]
  have hsub : front ⊆ artifacts := by simp [hsplit]
  have hbehind : ∀ b ∈ artifacts, b.binary = a.reference →
      c.judge (front.foldl c.written t) a = c.judge (c.written t b) a := by
    intro b hb heq
    have hone : [b] ⊆ artifacts := by simpa using hb
    have hmem := h.mem_front_of_binary_eq hsplit hb heq
    have hjudge := h.judge_foldl_eq (c := c) hone ha
    rw [List.foldl_cons, List.foldl_nil] at hjudge
    rw [h.judge_foldl_eq hsub ha, hjudge, ← heq, h.foldl_content?_binary hsub hb, if_pos hmem]
  refine ⟨hbehind, fun hrejected => ?_⟩
  by_cases hwriter : ∃ b ∈ artifacts, b.binary = a.reference
  · obtain ⟨b, hb, heq⟩ := hwriter
    rw [hbehind b hb heq, Craft.written, if_neg (hrejected b hb heq)]
  · have hne : ∀ b ∈ front, b.binary ≠ a.reference := fun b hb heq => hwriter ⟨b, hsub hb, heq⟩
    have hnone := h.judge_foldl_eq (c := c) (List.nil_subset artifacts) ha
    rw [List.foldl_nil] at hnone
    rw [h.judge_foldl_eq hsub ha, h.foldl_content?_reference hsub ha hne, hnone]

end FileTree.Lodges

end RoundTrip
