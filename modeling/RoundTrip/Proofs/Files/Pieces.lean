import RoundTrip.Proofs.Files.Places

/-!
# The pieces of a path

A path is followed by its pieces, and those that are empty or a point lead nowhere
(`Path.solid`). Joining a directory and a name, and putting another name in place of the last
component, are read off the pieces: `cut_join` and `cut_withFileName` say that both paths end in
the name, behind pieces that lead where those of the directory lead.
-/

namespace RoundTrip.Path

/-! ## Cutting -/

/-- No piece holds a slash. -/
theorem slash_notMem_of_mem_cut {bytes piece : Bytes} (h : piece ∈ cut bytes) : slash ∉ piece := by
  induction bytes generalizing piece with
  | nil => simp_all [cut]
  | cons b rest ih =>
    simp only [cut] at h
    split at h
    · rcases List.mem_cons.1 h with rfl | h
      · simp
      · exact ih h
    · next hb =>
      cases hc : cut rest with
      | nil => exact absurd hc (cut_ne_nil rest)
      | cons q qs =>
        rw [hc] at h ih
        rcases List.mem_cons.1 h with rfl | h
        · simpa [eq_comm, hb] using ih (List.mem_cons_self ..)
        · exact ih (List.mem_cons_of_mem _ h)

/-- What holds no slash is one piece. -/
theorem cut_of_slash_notMem {bytes : Bytes} (h : slash ∉ bytes) : cut bytes = [bytes] := by
  induction bytes with
  | nil => rfl
  | cons b rest ih =>
    simp only [List.mem_cons, not_or] at h
    rw [cut, if_neg (Ne.symm h.1), ih h.2]

/-- A slash separates the pieces before it from those behind it. -/
theorem cut_append_slash (front back : Bytes) :
    cut (front ++ slash :: back) = cut front ++ cut back := by
  induction front with
  | nil => simp [cut]
  | cons b front ih =>
    simp only [List.cons_append, cut]
    split
    · rw [ih, List.cons_append]
    · rw [ih]
      cases hc : cut front with
      | nil => exact absurd hc (cut_ne_nil front)
      | cons q qs => rfl

/-- Pieces without slashes are got back from what is written with slashes between them. -/
theorem cut_glue {pieces : List Bytes} (hne : pieces ≠ []) (hs : ∀ q ∈ pieces, slash ∉ q) :
    cut (glue pieces) = pieces := by
  induction pieces with
  | nil => exact absurd rfl hne
  | cons q qs ih =>
    have hq := hs q (List.mem_cons_self ..)
    cases qs with
    | nil => exact cut_of_slash_notMem hq
    | cons r rs =>
      rw [glue, cut_append_slash, cut_of_slash_notMem hq,
        ih (by simp) fun x hx => hs x (List.mem_cons_of_mem _ hx)]
      · rfl
      · simp

/-- What is written ends in its last piece. -/
theorem glue_concat (pieces : List Bytes) (last : Bytes) :
    ∃ front, glue (pieces ++ [last]) = front ++ last := by
  induction pieces with
  | nil => exact ⟨[], rfl⟩
  | cons q qs ih =>
    obtain ⟨front, h⟩ := ih
    refine ⟨q ++ slash :: front, ?_⟩
    have hne : qs ++ [last] ≠ [] := by simp
    rw [List.cons_append, glue, h]
    · simp
    · exact hne

/-! ## Pieces that lead somewhere -/

/-- The pieces that lead somewhere. -/
def solidOf (pieces : List Bytes) : List Bytes := pieces.filter (!isTrivial ·)

/-- The pieces of a path that lead somewhere. -/
def solid (p : Path) : List Bytes := solidOf (cut p.bytes)

theorem solidOf_append (front back : List Bytes) :
    solidOf (front ++ back) = solidOf front ++ solidOf back := List.filter_append ..

/-- A proper name leads somewhere. -/
theorem isTrivial_eq_false {name : Name} (h : name.IsProper) : isTrivial name = false := by
  simp [isTrivial, h.ne_nil, h.ne_dot]

/-- The pieces of a path that ends in a proper name. -/
theorem solid_eq_concat {p : Path} {pre : List Bytes} {name : Name} (hn : name.IsProper)
    (h : cut p.bytes = pre ++ [name]) : p.solid = solidOf pre ++ [name] := by
  simp [solid, solidOf, h, isTrivial_eq_false hn]

/-- Slashes at the end lead nowhere. -/
theorem solid_append_slashes (bytes : Bytes) (n : Nat) :
    (⟨bytes ++ List.replicate n slash⟩ : Path).solid = (⟨bytes⟩ : Path).solid := by
  have hcut (n : Nat) : solidOf (cut (List.replicate n slash)) = [] := by
    induction n with
    | zero => rfl
    | succ n ih => rwa [List.replicate_succ, cut, if_pos rfl]
  cases n with
  | zero => rw [List.replicate_zero, List.append_nil]
  | succ n =>
    rw [List.replicate_succ, solid, cut_append_slash, solidOf_append, hcut, List.append_nil, solid]

/-- Pieces at the end that mean nothing lead nowhere. -/
theorem solidOf_dropTrivial (pieces : List Bytes) :
    solidOf (dropTrivial pieces) = solidOf pieces := by
  have h (l : List Bytes) : solidOf (l.dropWhile isTrivial) = solidOf l := by
    induction l with
    | nil => rfl
    | cons q l ih =>
      by_cases hq : isTrivial q = true
      · simpa [hq, solidOf] using ih
      · simp [hq]
  rw [dropTrivial, solidOf, List.filter_reverse, ← solidOf, h, solidOf, List.filter_reverse,
    List.reverse_reverse, solidOf]

/-- The pieces without those at the end that mean nothing come first. -/
theorem dropTrivial_isPrefix (pieces : List Bytes) : dropTrivial pieces <+: pieces := by
  rw [dropTrivial, ← List.reverse_suffix, List.reverse_reverse]
  exact List.dropWhile_suffix _

/-- A piece at the end that means something stays. -/
theorem dropTrivial_concat {pieces : List Bytes} {last : Bytes} (h : isTrivial last = false) :
    dropTrivial (pieces ++ [last]) = pieces ++ [last] := by
  simp [dropTrivial, h]

/-! ## Absolute paths -/

/-- A path is absolute just if its first piece is empty and not its only one. -/
theorem isAbsolute_iff {p : Path} :
    p.isAbsolute = true ↔ ∃ q pieces, cut p.bytes = [] :: q :: pieces := by
  obtain ⟨bytes⟩ := p
  cases bytes with
  | nil => simp [isAbsolute, cut]
  | cons b rest =>
    simp only [isAbsolute, List.head?_cons, cut]
    cases hc : cut rest with
    | nil => exact absurd hc (cut_ne_nil rest)
    | cons q qs => by_cases hb : b = slash <;> simp [hb]

/-! ## Joining -/

/-- A proper name is no absolute path. -/
theorem isAbsolute_name {name : Name} (hn : name.IsProper) :
    (⟨name⟩ : Path).isAbsolute = false := by
  rw [← Bool.not_eq_true, isAbsolute_iff]
  simp [cut_of_slash_notMem hn.slash_notMem]

/-- The path of an entry ends in its name, behind pieces that lead where the directory is. -/
theorem cut_join (dir : Path) : ∃ pre, solidOf pre = dir.solid ∧
    ∀ {name : Name}, name.IsProper → cut (dir.join ⟨name⟩).bytes = pre ++ [name] := by
  cases hlast : dir.bytes.getLast? with
  | none =>
    refine ⟨[], by rw [solid, List.getLast?_eq_none_iff.1 hlast]; rfl, fun hn => ?_⟩
    rw [join, if_neg (by simp [isAbsolute_name hn]), hlast]
    exact cut_of_slash_notMem hn.slash_notMem
  | some b =>
    by_cases hb : b = slash
    · obtain ⟨front, hfront⟩ := List.getLast?_eq_some_iff.1 hlast
      refine ⟨cut front, ?_, fun hn => ?_⟩
      · simp [solid, hb, hfront, cut_append_slash, cut, solidOf, isTrivial]
      · rw [join, if_neg (by simp [isAbsolute_name hn]), hlast]
        simp [hb, hfront, cut_append_slash, cut_of_slash_notMem hn.slash_notMem]
    · refine ⟨cut dir.bytes, rfl, fun hn => ?_⟩
      rw [join, if_neg (by simp [isAbsolute_name hn]), hlast]
      simp [hb, cut_append_slash, cut_of_slash_notMem hn.slash_notMem]

/-- The path of an entry is absolute just if that of the directory is. -/
theorem isAbsolute_join (dir : Path) {name : Name} (hn : name.IsProper) :
    (dir.join ⟨name⟩).isAbsolute = dir.isAbsolute := by
  have habs := isAbsolute_name hn
  rw [join, if_neg (by simp [habs])]
  obtain ⟨bytes⟩ := dir
  cases bytes with
  | nil => exact habs
  | cons b rest =>
    cases hlast : (b :: rest).getLast? with
    | none => simp at hlast
    | some c => simp [isAbsolute]

/-! ## Other names in the same directory -/

/-- Where the components of a path start, and the pieces behind that, for the pieces in front of its
last one. -/
def start : List Bytes → Origin × List Bytes
  | [] => (.bare, [])
  | [] :: pieces => (.root, pieces)
  | q :: pieces => if q = dot then (.here, pieces) else (.bare, q :: pieces)

/-- The path of the directory of a path, given the pieces in front of its last one. -/
def front (pre : List Bytes) : Path := ofBody (start pre).1 (dropTrivial (start pre).2)

variable {p : Path} {pre : List Bytes} {name : Name}

/-- The body of a path that ends in a name. -/
theorem body_eq (hn : name.IsProper) (h : cut p.bytes = pre ++ [name]) :
    p.body = ((start pre).1, (start pre).2 ++ [name]) := by
  rw [body, h]
  match pre with
  | [] =>
    obtain ⟨b, bs, rfl⟩ := List.exists_cons_of_ne_nil hn.ne_nil
    simp [start, hn.ne_dot]
  | [] :: pieces =>
    cases pieces <;> rfl
  | (b :: bs) :: pieces =>
    simp only [start, List.cons_append]
    split <;> rfl

/-- A path that ends in a proper name has that name. -/
theorem fileName?_eq (hn : name.IsProper) (h : cut p.bytes = pre ++ [name]) :
    p.fileName? = some name := by
  have hpiece : Component.ofPiece name = .name name := if_neg hn.ne_dotDot
  have hlast : p.components.getLast? = some (.name name) := by
    rw [components, body_eq hn h]
    cases (start pre).1 <;>
      simp [isTrivial_eq_false hn, hpiece, List.getLast?_cons]
  rw [fileName?, hlast]

/-- Another name takes the place of the last one. -/
theorem withFileName_eq (hn : name.IsProper) (h : cut p.bytes = pre ++ [name]) (other : Name) :
    p.withFileName other = (front pre).join ⟨other⟩ := by
  have hparent : p.parent? = some (front pre) := by
    rw [parent?, body_eq hn h, dropTrivial_concat (isTrivial_eq_false hn), front]
    cases (start pre).1 <;> cases (start pre).2 <;> simp [List.dropLast_cons_of_ne_nil]
  rw [withFileName, fileName?_eq hn h, hparent]
  rfl

/-- No piece in front of the last one holds a slash. -/
theorem slash_notMem_of_mem_pre (h : cut p.bytes = pre ++ [name]) : ∀ q ∈ pre, slash ∉ q := by
  intro q hq
  have hmem : q ∈ cut p.bytes := h ▸ List.mem_append_left _ hq
  exact slash_notMem_of_mem_cut hmem

/-- No piece behind the start of a path holds a slash. -/
theorem slash_notMem_of_mem_start (hpre : ∀ q ∈ pre, slash ∉ q) :
    ∀ q ∈ dropTrivial (start pre).2, slash ∉ q := by
  have hsub : ∀ q ∈ (start pre).2, q ∈ pre := by
    match pre with
    | [] => simp [start]
    | [] :: pieces => exact fun q hq => List.mem_cons_of_mem _ hq
    | (b :: bs) :: pieces =>
      intro q hq
      simp only [start] at hq
      split at hq
      · exact List.mem_cons_of_mem _ hq
      · exact hq
  exact fun q hq => hpre q (hsub q ((dropTrivial_isPrefix _).subset hq))

/-- What is written of pieces leads where they lead. -/
theorem solid_glue {pieces : List Bytes} (hs : ∀ q ∈ pieces, slash ∉ q) :
    solidOf (cut (glue pieces)) = solidOf pieces := by
  cases pieces with
  | nil => rfl
  | cons q qs => rw [cut_glue (by simp) hs]

/-- The pieces of a start and what is behind it. -/
theorem solid_ofBody (origin : Origin) {pieces : List Bytes} (hs : ∀ q ∈ pieces, slash ∉ q) :
    (ofBody origin pieces).solid = solidOf pieces := by
  have hdot : cut dot = [dot] := rfl
  cases origin with
  | root =>
    have hcut : cut (slash :: glue pieces) = [] :: cut (glue pieces) := by simp [cut]
    rw [ofBody, solid, hcut, ← solid_glue hs]
    rfl
  | bare => exact solid_glue hs
  | here =>
    cases pieces with
    | nil => rfl
    | cons q qs =>
      rw [ofBody, solid, cut_append_slash, solidOf_append, solid_glue hs, hdot]
      · rfl
      · simp

/-- The directory of a path leads where the pieces in front of the last one lead. -/
theorem solid_front (hpre : ∀ q ∈ pre, slash ∉ q) : (front pre).solid = solidOf pre := by
  rw [front, solid_ofBody _ (slash_notMem_of_mem_start hpre), solidOf_dropTrivial]
  match pre with
  | [] => rfl
  | [] :: pieces => rfl
  | (b :: bs) :: pieces =>
    simp only [start]
    split
    · next h => rw [h]; rfl
    · rfl

/-- What is written of pieces of which the first is a name is no absolute path. -/
theorem isAbsolute_glue {pieces : List Bytes} (h : ∀ q ∈ pieces.head?, q ≠ [] ∧ slash ∉ q) :
    (⟨glue pieces⟩ : Path).isAbsolute = false := by
  cases pieces with
  | nil => rfl
  | cons q qs =>
    obtain ⟨hne, hs⟩ := h q rfl
    obtain ⟨b, bs, rfl⟩ := List.exists_cons_of_ne_nil hne
    have hb : b ≠ slash := fun hb => hs (by simp [hb])
    cases qs <;> simp [glue, isAbsolute, hb]

/-- The directory of a path is absolute just if the path is. -/
theorem isAbsolute_front (hn : name.IsProper) (h : cut p.bytes = pre ++ [name]) :
    (front pre).isAbsolute = p.isAbsolute := by
  have hs := slash_notMem_of_mem_pre h
  rw [Bool.eq_iff_iff, isAbsolute_iff (p := p), h, front]
  rcases pre with _ | ⟨_ | ⟨b, bs⟩, pieces⟩
  · simp [start, dropTrivial, ofBody, glue, isAbsolute, hn.ne_nil]
  · cases pieces <;> simp [start, ofBody, isAbsolute]
  · by_cases hdot : b :: bs = dot
    · -- a path that begins with a point
      simp only [start, hdot, if_true]
      cases dropTrivial pieces <;> simp [ofBody, isAbsolute, dot, slash]
    · -- a path whose first piece is a name, which stays the first one
      simp only [start, hdot, if_false, ofBody]
      rw [isAbsolute_glue]
      · simp
      · intro q hq
        obtain ⟨rest, hrest⟩ := dropTrivial_isPrefix ((b :: bs) :: pieces)
        obtain ⟨qs, hqs⟩ := List.head?_eq_some_iff.1 (Option.mem_def.1 hq)
        rw [hqs, List.cons_append] at hrest
        obtain rfl := (List.cons.inj hrest).1
        exact ⟨by simp, hs _ (by simp)⟩

/-- A path with another name ends in that name, behind pieces that lead to the same directory. -/
theorem cut_withFileName (hn : name.IsProper) (h : cut p.bytes = pre ++ [name]) {other : Name}
    (ho : other.IsProper) :
    ∃ pre', cut (p.withFileName other).bytes = pre' ++ [other] ∧ solidOf pre' = solidOf pre := by
  obtain ⟨pre', hsolid, hcut⟩ := cut_join (front pre)
  rw [withFileName_eq hn h]
  exact ⟨pre', hcut ho, hsolid.trans (solid_front (slash_notMem_of_mem_pre h))⟩

/-- A path with another name is absolute just if the path is. -/
theorem isAbsolute_withFileName (hn : name.IsProper) (h : cut p.bytes = pre ++ [name])
    {other : Name} (ho : other.IsProper) : (p.withFileName other).isAbsolute = p.isAbsolute := by
  rw [withFileName_eq hn h, isAbsolute_join _ ho, isAbsolute_front hn h]

end RoundTrip.Path
