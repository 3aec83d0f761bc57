import Mathlib.Data.List.DropRight
import RoundTrip.Proofs.Files.Pieces

/-!
# The last name of a path

A path has a name if its last component is one, whatever slashes and points stand behind it
(`Path.getLast?_components_iff`). The directory that the name stands in is written without the
slashes and points at its end: where the components start, and then pieces of which the last means
something (`Path.Tidy`). A tidy directory and a name are joined without a loss (`Tidy.join`), and
what is joined is cut at the same places (`Tidy.body_ofBody`). So another name in place of the last
one leaves the directory as it is, byte for byte (`parent?_withFileName`), and a path that has a
name is its directory with the name behind it (`components_of_parent?`).
-/

namespace RoundTrip.Path

/-- A piece that means an entry of a directory. -/
structure IsName (name : Bytes) : Prop where
  ne_nil : name ≠ []
  ne_dot : name ≠ dot
  ne_dotDot : name ≠ dotDot
  slash_notMem : slash ∉ name

/-- A name with other bytes in place of its last ones is a name if they are long enough. -/
theorem IsName.append {front back other : Bytes} (h : IsName (front ++ back))
    (hother : 3 ≤ other.length) (hslash : slash ∉ other) : IsName (front ++ other) where
  ne_nil he := by simp_all
  ne_dot he := by
    have := congrArg List.length he
    simp only [dot, List.length_append, List.length_cons, List.length_nil] at this
    omega
  ne_dotDot he := by
    have := congrArg List.length he
    simp only [dotDot, List.length_append, List.length_cons, List.length_nil] at this
    omega
  slash_notMem hmem := by
    obtain hmem | hmem := List.mem_append.1 hmem
    · exact h.slash_notMem (List.mem_append_left _ hmem)
    · exact hslash hmem

/-- A path ends in a name, but for empty pieces and points. -/
def EndsIn (p : Path) (name : Bytes) : Prop :=
  ∃ front back, cut p.bytes = front ++ name :: back ∧ ∀ piece ∈ back, piece = [] ∨ piece = dot

theorem isTrivial_iff {piece : Bytes} : isTrivial piece = true ↔ piece = [] ∨ piece = dot := by
  simp [isTrivial]

theorem IsName.isTrivial_eq_false {name : Bytes} (h : IsName name) : isTrivial name = false := by
  simp [isTrivial, h.ne_nil, h.ne_dot]

/-! ## The last component -/

/-- The last of the pieces that lead somewhere. -/
theorem getLast?_solidOf_iff {pieces : List Bytes} {name : Bytes} :
    (solidOf pieces).getLast? = some name ↔ isTrivial name = false ∧
      ∃ front back, pieces = front ++ name :: back ∧ ∀ q ∈ back, isTrivial q = true := by
  rw [solidOf, ← List.head?_reverse, ← List.filter_reverse, List.head?_filter,
    List.find?_eq_some_iff_append]
  refine and_congr (by simp) ?_
  constructor
  · rintro ⟨back, front, h, hback⟩
    refine ⟨front.reverse, back.reverse, ?_, by simpa using hback⟩
    simpa using congrArg List.reverse h
  · rintro ⟨front, back, rfl, hback⟩
    exact ⟨back.reverse, front.reverse, by simp, by simpa using hback⟩

/-- The pieces in front of the body of a path lead nowhere. -/
theorem solid_eq (p : Path) : p.solid = solidOf p.body.2 := by
  rw [solid, body]
  split
  · next h => rw [h]
  · next h => rw [h]; rfl
  · next h => rw [h]; rfl
  · next h =>
    rw [h]
    split
    · next hdot => rw [hdot]; rfl
    · rfl

/-- The component that a path starts with. -/
def Origin.components : Origin → List Component
  | .root => [.root]
  | .here => [.here]
  | .bare => []

/-- The components of a path: where it starts, and the pieces that lead somewhere. -/
theorem components_eq (p : Path) :
    p.components = p.body.1.components ++ (solidOf p.body.2).map .ofPiece := by
  rw [components]
  cases p.body.1 <;> rfl

/-- The last component of a path is a name just if the last piece that leads somewhere is. -/
theorem getLast?_components (p : Path) (name : Bytes) :
    p.components.getLast? = some (.name name) ↔ p.solid.getLast? = some name ∧ name ≠ dotDot := by
  rw [components_eq, solid_eq]
  obtain hnil | ⟨front, last, hlast⟩ := (solidOf p.body.2).eq_nil_or_concat'
  · rw [hnil]
    cases p.body.1 <;> simp [Origin.components]
  · rw [hlast, List.map_append, ← List.append_assoc, List.map_singleton, List.getLast?_concat,
      List.getLast?_concat, Option.some.injEq, Option.some.injEq, Component.ofPiece]
    split
    · next h =>
      rw [h]
      exact ⟨fun he => (nomatch he), fun he => absurd he.1.symm he.2⟩
    · next h =>
      rw [Component.name.injEq]
      exact ⟨fun he => ⟨he, he ▸ h⟩, And.left⟩

/-- A path has the name that is its last component. -/
theorem fileName?_eq_some_iff {p : Path} {name : Bytes} :
    p.fileName? = some name ↔ p.components.getLast? = some (.name name) := by
  rw [fileName?]
  split
  · next h => simp [h]
  · next h =>
    constructor
    · intro he
      cases he
    · intro he
      exact absurd he (h name)

/-- The last component of a path is a name just if the path ends in it and it is neither empty nor a
point or two. -/
theorem getLast?_components_iff (p : Path) (name : Bytes) :
    p.components.getLast? = some (.name name) ↔ p.EndsIn name ∧ IsName name := by
  rw [getLast?_components, solid, getLast?_solidOf_iff]
  simp only [isTrivial_iff]
  constructor
  · rintro ⟨⟨htrivial, front, back, hcut, hback⟩, hup⟩
    have hne : ¬ (name = [] ∨ name = dot) := fun h => by simp [isTrivial_iff.2 h] at htrivial
    refine ⟨⟨front, back, hcut, hback⟩, ?_⟩
    exact
      { ne_nil := fun h => hne (.inl h)
        ne_dot := fun h => hne (.inr h)
        ne_dotDot := hup
        slash_notMem := slash_notMem_of_mem_cut (by rw [hcut]; simp) }
  · rintro ⟨⟨front, back, hcut, hback⟩, hname⟩
    exact ⟨⟨hname.isTrivial_eq_false, front, back, hcut, hback⟩, hname.ne_dotDot⟩

/-! ## Tidy directories -/

/-- A start and pieces as the parent of a path has them: no piece holds a slash, the last one means
something, and so does the first one if nothing stands in front of it. -/
structure Tidy (origin : Origin) (pieces : List Bytes) : Prop where
  slash_notMem : ∀ q ∈ pieces, slash ∉ q
  trimmed : dropTrivial pieces = pieces
  first : origin = .bare → ∀ q ∈ pieces.head?, isTrivial q = false

/-- Pieces that are dropped at the end are not dropped again. -/
theorem dropTrivial_dropTrivial (pieces : List Bytes) :
    dropTrivial (dropTrivial pieces) = dropTrivial pieces :=
  List.rdropWhile_idempotent isTrivial pieces

/-- Behind the last piece that means something, all are dropped. -/
theorem dropTrivial_append {front back : List Bytes} {last : Bytes} (h : isTrivial last = false)
    (hback : ∀ q ∈ back, isTrivial q = true) :
    dropTrivial (front ++ last :: back) = front ++ [last] := by
  have hdrop : back.reverse.dropWhile isTrivial = [] := by
    simpa [List.dropWhile_eq_nil_iff] using hback
  simp [dropTrivial, List.dropWhile_append, hdrop, h]

variable {p : Path} {origin : Origin} {pieces front : List Bytes} {name other last : Bytes}

/-- The first of some pieces stays the first one if some at the end are dropped. -/
theorem Tidy.of_isPrefix (hslash : ∀ q ∈ pieces, slash ∉ q)
    (hfirst : origin = .bare → ∀ q ∈ pieces.head?, isTrivial q = false) (h : front <+: pieces) :
    Tidy origin (dropTrivial front) where
  slash_notMem q hq := hslash q (h.subset ((dropTrivial_isPrefix front).subset hq))
  trimmed := dropTrivial_dropTrivial front
  first ho q hq := by
    obtain ⟨rest, hrest⟩ := (dropTrivial_isPrefix front).trans h
    obtain ⟨qs, hqs⟩ := List.head?_eq_some_iff.1 (Option.mem_def.1 hq)
    refine hfirst ho q ?_
    simp [← hrest, hqs]

/-- No piece behind the start of a path holds a slash. -/
theorem slash_notMem_of_mem_body (p : Path) : ∀ q ∈ p.body.2, slash ∉ q := by
  intro q hq
  have hmem : q ∈ cut p.bytes → slash ∉ q := slash_notMem_of_mem_cut
  refine hmem ?_
  rw [body] at hq
  split at hq
  · cases hq
  · cases hq
  · next h => rw [h]; exact List.mem_cons_of_mem _ hq
  · next h =>
    rw [h]
    split at hq
    · exact List.mem_cons_of_mem _ hq
    · exact hq

/-- A path that starts with neither the root nor a point starts with a piece that means
something. -/
theorem first_body (p : Path) : p.body.1 = .bare → ∀ q ∈ p.body.2.head?, isTrivial q = false := by
  rw [body]
  split
  · simp
  · simp
  · simp
  · next piece pieces _ hne _ =>
    split
    · simp
    · next hdot =>
      intro _ q hq
      obtain rfl := Option.some.inj hq
      refine Bool.eq_false_iff.2 fun htrivial => ?_
      obtain rfl | rfl := isTrivial_iff.1 htrivial
      · exact hne rfl
      · exact hdot rfl

/-- A name behind a tidy directory is tidy again. -/
theorem Tidy.concat (h : Tidy origin pieces) (hname : IsName name) :
    Tidy origin (pieces ++ [name]) where
  slash_notMem q hq := by
    obtain hq | hq := List.mem_append.1 hq
    · exact h.slash_notMem q hq
    · exact List.mem_singleton.1 hq ▸ hname.slash_notMem
  trimmed := dropTrivial_concat hname.isTrivial_eq_false
  first ho q hq := by
    cases pieces with
    | nil => exact Option.some.inj hq ▸ hname.isTrivial_eq_false
    | cons q' qs => exact h.first ho q hq

/-- A tidy path is cut where it was put together. -/
theorem Tidy.body_ofBody (h : Tidy origin pieces) (hne : pieces ≠ []) :
    (ofBody origin pieces).body = (origin, pieces) := by
  have hcut := cut_glue hne h.slash_notMem
  obtain ⟨q, qs, rfl⟩ := List.exists_cons_of_ne_nil hne
  cases origin with
  | root => simp [ofBody, body, cut, hcut]
  | here =>
    have hdot : cut dot = [dot] := rfl
    have hdir : cut (ofBody .here (q :: qs)).bytes = dot :: q :: qs := by
      simp [ofBody, cut_append_slash, hdot, hcut]
    rw [body, hdir]
    rfl
  | bare =>
    have hq := h.first rfl q rfl
    have hne : q ≠ [] := fun hnil => by simp [isTrivial, hnil] at hq
    have hdot : q ≠ dot := fun hdot => by simp [isTrivial, hdot] at hq
    obtain ⟨b, bs, rfl⟩ := List.exists_cons_of_ne_nil hne
    simp [ofBody, body, hcut, hdot]

/-- What is written of tidy pieces does not end in a slash. -/
theorem Tidy.getLast?_glue (h : Tidy origin pieces) (hne : pieces ≠ []) :
    ∃ b, (glue pieces).getLast? = some b ∧ b ≠ slash := by
  obtain ⟨front, last, rfl⟩ := pieces.eq_nil_or_concat'.resolve_left hne
  have htrimmed : List.rdropWhile isTrivial (front ++ [last]) = front ++ [last] := h.trimmed
  have htrivial : isTrivial last = false := by
    simpa using List.rdropWhile_eq_self_iff.1 htrimmed (by simp)
  have hlast : last ≠ [] := fun hnil => by simp [isTrivial, hnil] at htrivial
  obtain ⟨bytes, hglue⟩ := glue_concat front last
  obtain ⟨bs, b, rfl⟩ := last.eq_nil_or_concat'.resolve_left hlast
  refine ⟨b, by rw [hglue, ← List.append_assoc, List.getLast?_concat], fun hb => ?_⟩
  exact h.slash_notMem (bs ++ [b]) (by simp) (by simp [hb])

/-- What is written of pieces and a name. -/
theorem glue_append_name (hne : pieces ≠ []) (name : Bytes) :
    glue (pieces ++ [name]) = glue pieces ++ slash :: name := by
  induction pieces with
  | nil => exact absurd rfl hne
  | cons q qs ih =>
    cases qs with
    | nil => rfl
    | cons r rs =>
      have hrest := ih (by simp)
      simp only [List.cons_append] at hrest
      simp [glue, hrest]

/-- A tidy directory and a name are joined piece by piece. -/
theorem Tidy.join (h : Tidy origin pieces) (hname : IsName name) :
    (ofBody origin pieces).join ⟨name⟩ = ofBody origin (pieces ++ [name]) := by
  have habs : (⟨name⟩ : Path).isAbsolute = false := by
    have hfirst : ∀ q ∈ [name].head?, q ≠ [] ∧ slash ∉ q := by
      intro q hq
      obtain rfl := Option.some.inj hq
      exact ⟨hname.ne_nil, hname.slash_notMem⟩
    exact isAbsolute_glue hfirst
  rw [Path.join, if_neg (by simp [habs])]
  by_cases hne : pieces = []
  · subst hne
    cases origin <;> simp [ofBody, glue, dot, slash]
  · obtain ⟨b, hb, hslash⟩ := h.getLast?_glue hne
    have hglue := glue_append_name hne name
    obtain ⟨q, qs, rfl⟩ := List.exists_cons_of_ne_nil hne
    cases origin <;> simp_all [ofBody, List.getLast?_append, List.getLast?_cons]

/-! ## Another name in the same directory -/

/-- The parent of a path is what stands in front of the last piece that means something. -/
theorem parent?_eq (h : dropTrivial p.body.2 = front ++ [last]) :
    p.parent? = some (ofBody p.body.1 (dropTrivial front)) := by
  rw [parent?, h]
  cases p.body.1 <;> cases front <;> simp [List.dropLast_cons_of_ne_nil]

/-- A path that has a name has a tidy directory, which is its parent. -/
theorem exists_tidy (h : p.fileName? = some name) :
    ∃ pieces, Tidy p.body.1 pieces ∧ p.parent? = some (ofBody p.body.1 pieces) ∧
      p.solid = solidOf pieces ++ [name] := by
  obtain ⟨hlast, -⟩ := (getLast?_components p name).1 (fileName?_eq_some_iff.1 h)
  rw [solid_eq] at hlast
  obtain ⟨htrivial, front, back, hbody, hback⟩ := getLast?_solidOf_iff.1 hlast
  have hdrop : dropTrivial p.body.2 = front ++ [name] := by
    rw [hbody, dropTrivial_append htrivial hback]
  have hslash := slash_notMem_of_mem_body p
  have htidy : Tidy p.body.1 (dropTrivial front) :=
    .of_isPrefix hslash (first_body p) ⟨name :: back, hbody.symm⟩
  refine ⟨dropTrivial front, htidy, parent?_eq hdrop, ?_⟩
  rw [solid_eq, ← solidOf_dropTrivial, hdrop, solidOf_append, solidOf_dropTrivial]
  simp [solidOf, htrivial]

/-- The components of a tidy path. -/
theorem Tidy.components_ofBody (h : Tidy origin pieces) :
    (ofBody origin pieces).components = origin.components ++ (solidOf pieces).map .ofPiece := by
  by_cases hne : pieces = []
  · subst hne
    cases origin <;> rfl
  · rw [components_eq, h.body_ofBody hne]

/-- A name behind a tidy directory is the last one of the path, and the directory is its parent. -/
theorem Tidy.ofBody_concat (h : Tidy origin pieces) (hname : IsName name) :
    (ofBody origin (pieces ++ [name])).fileName? = some name ∧
      (ofBody origin (pieces ++ [name])).parent? = some (ofBody origin pieces) := by
  have hbody := (h.concat hname).body_ofBody (by simp)
  constructor
  · rw [fileName?_eq_some_iff, getLast?_components, solid_eq, hbody, solidOf_append]
    refine ⟨?_, hname.ne_dotDot⟩
    simp [solidOf, hname.isTrivial_eq_false]
  · have hdrop : dropTrivial (ofBody origin (pieces ++ [name])).body.2 = pieces ++ [name] := by
      rw [hbody, (h.concat hname).trimmed]
    rw [parent?_eq hdrop, hbody, h.trimmed]

/-- Another name in place of the last one stands behind the same directory. -/
theorem exists_withFileName_eq (h : p.fileName? = some name) :
    ∃ pieces, Tidy p.body.1 pieces ∧ p.parent? = some (ofBody p.body.1 pieces) ∧
      ∀ {other}, IsName other → p.withFileName other = ofBody p.body.1 (pieces ++ [other]) := by
  obtain ⟨pieces, htidy, hparent, -⟩ := exists_tidy h
  refine ⟨pieces, htidy, hparent, fun ho => ?_⟩
  rw [withFileName, h, hparent]
  exact htidy.join ho

/-- A path with another name has that name. -/
theorem fileName?_withFileName (h : p.fileName? = some name) (ho : IsName other) :
    (p.withFileName other).fileName? = some other := by
  obtain ⟨pieces, htidy, -, heq⟩ := exists_withFileName_eq h
  rw [heq ho]
  exact (htidy.ofBody_concat ho).1

/-- A path with another name has the same parent. -/
theorem parent?_withFileName (h : p.fileName? = some name) (ho : IsName other) :
    (p.withFileName other).parent? = p.parent? := by
  obtain ⟨pieces, htidy, hparent, heq⟩ := exists_withFileName_eq h
  rw [heq ho, hparent]
  exact (htidy.ofBody_concat ho).2

/-- The components of a path that has a name are those of its parent and the name. -/
theorem components_of_parent? {dir : Path} (h : p.fileName? = some name)
    (hdir : p.parent? = some dir) : p.components = dir.components ++ [.name name] := by
  obtain ⟨pieces, htidy, hparent, hsolid⟩ := exists_tidy h
  obtain ⟨-, hup⟩ := (getLast?_components p name).1 (fileName?_eq_some_iff.1 h)
  have hname : Component.ofPiece name = .name name := if_neg hup
  obtain rfl := Option.some.inj (hparent.symm.trans hdir)
  rw [htidy.components_ofBody, components_eq, ← solid_eq, hsolid, List.map_append,
    List.append_assoc, List.map_singleton, hname]

end RoundTrip.Path
