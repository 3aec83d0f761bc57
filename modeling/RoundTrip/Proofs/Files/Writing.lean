import RoundTrip.Files.Content
import RoundTrip.Proofs.Files.Listing

/-!
# What is written is read

A path that is written to leads to a file, to a vacant place or to the null device, through links or
not (`land_of_landToWrite`). Behind the writing the place holds the file and all other places look
as they did, so the same path leads to the file now: on the way there is nothing that changed
(`walk_changed`, `land_changed`). So a file that was written holds what was written
(`read_write`), unless it is the null device, which holds nothing.
-/

namespace RoundTrip

namespace Node

/-- A tree in which a place that held no directory holds another node and all other places look as
they did. -/
structure Changed (root root' : Node) (place : Place) (new : Node) : Prop where
  before : ∀ n, root.at? place = some n → n.isFile = true
  here : root'.at? place = some new
  elsewhere : ∀ other, other ≠ place → (root'.at? other).map outline = (root.at? other).map outline

/-- A directory at another place is there as before. -/
theorem Changed.exists_dir {root root' new : Node} {place other : Place}
    (h : root.Changed root' place new) (hother : other ≠ place) {entries : List (Name × Node)}
    (hn : root.at? other = some (.dir entries)) :
    ∃ entries', root'.at? other = some (.dir entries') := by
  have hsame := h.elsewhere other hother
  rw [hn, Option.map_some, Option.map_eq_some_iff] at hsame
  obtain ⟨n', hn', hout⟩ := hsame
  cases n' with
  | dir entries' => exact ⟨entries', hn'⟩
  | file | link | null => cases hout

/-- Putting a file in a directory, where there is no node but a file. -/
theorem Changed.put (new : Node) {root : Node} {dir : Place} {entries : List (Name × Node)}
    {name : Name} (h : root.at? dir = some (.dir entries))
    (hfile : ∀ n, root.at? (dir ++ [name]) = some n → n.isFile = true) (hnew : new.isFile = true) :
    root.Changed (Node.put new (dir ++ [name]) root) (dir ++ [name]) new := by
  have hnone : new.entries = [] := by
    cases new with
    | dir => cases hnew
    | file | link | null => rfl
  have hput := outline_at?_put_bare hnone h fun n hn => by
    have hn := hfile n hn
    cases n with
    | dir => cases hn
    | file | link | null => rfl
  refine ⟨hfile, ?_, fun other hother => by rw [hput, if_neg hother]⟩
  have hplace := hput (dir ++ [name])
  rw [if_pos rfl, Option.map_eq_some_iff] at hplace
  obtain ⟨n, hn, hout⟩ := hplace
  obtain ⟨_, _, rfl, -⟩ | ⟨-, rfl⟩ := outline_eq_cases hout
  · cases hnew
  · exact hn

/-- Putting a file at a vacant place. -/
theorem Changed.put_vacant (new : Node) {root : Node} {dir : Place} {entries : List (Name × Node)}
    {name : Name} (h : root.at? dir = some (.dir entries)) (hname : entries.lookup name = none)
    (hnew : new.isFile = true) :
    root.Changed (Node.put new (dir ++ [name]) root) (dir ++ [name]) new := by
  refine .put new h (fun n hn => ?_) hnew
  rw [at?_concat h, hname] at hn
  cases hn

/-- Putting a file in the place of another. -/
theorem Changed.put_file (new : Node) {root : Node} {place : Place} {content : Bytes} {mode : Nat}
    (h : root.at? place = some (.file content mode)) (hnew : new.isFile = true) :
    root.Changed (Node.put new place root) place new := by
  obtain rfl | ⟨dir, name, hplace⟩ := place.eq_nil_or_concat
  · -- the tree is the file
    obtain rfl : root = .file content mode := Option.some.inj h
    refine ⟨fun n hn => Option.some.inj hn ▸ rfl, rfl, fun other hother => ?_⟩
    obtain ⟨name, below, rfl⟩ := List.exists_cons_of_ne_nil hother
    cases new with
    | dir => cases hnew
    | file | link | null => rfl
  · rw [List.concat_eq_append] at hplace
    subst hplace
    obtain ⟨m, hm, hentry⟩ := Option.bind_eq_some_iff.1 ((at?_append root dir [name]).symm.trans h)
    obtain ⟨entries, rfl⟩ := exists_entries hentry
    exact .put new hm (fun n hn => Option.some.inj (hn.symm.trans h) ▸ rfl) hnew

end Node

namespace FileTree

/-- What can be written to has no slash at its end. -/
theorem slashed_eq_false {root : Node} {links : Nat} {slashed : Bool} {here : Place}
    {pieces : List Bytes} {l : Landing}
    (h : landToWrite root links slashed here pieces = .ok l) : slashed = false := by
  cases slashed with
  | false => rfl
  | true =>
    rw [landToWrite.eq_def] at h
    dsimp only at h
    rw [if_pos rfl] at h
    cases hl : land root true links here (pieces.dropLast.dropLast ++ [Path.dot]) <;>
      rw [hl] at h <;> cases h

/-- What can be written to is where the path leads. -/
theorem land_of_landToWrite {root : Node} {links : Nat} {slashed : Bool} {here : Place}
    {pieces : List Bytes} {l : Landing}
    (h : landToWrite root links slashed here pieces = .ok l) :
    land root true links here pieces = .ok l := by
  obtain rfl := slashed_eq_false h
  induction links generalizing here pieces with
  | zero =>
    rw [landToWrite.eq_def] at h
    dsimp only at h
    rw [if_neg Bool.false_ne_true] at h
    cases hw : walk root true here pieces with
    | landed l' =>
      rw [hw] at h
      exact land_of_landed (hw.trans (congrArg Walk.landed (Except.ok.inj h)))
    | refused | linked => rw [hw] at h; cases h
  | succ links ih =>
    rw [landToWrite.eq_def] at h
    dsimp only at h
    rw [if_neg Bool.false_ne_true] at h
    cases hw : walk root true here pieces with
    | landed l' =>
      rw [hw] at h
      exact land_of_landed (hw.trans (congrArg Walk.landed (Except.ok.inj h)))
    | refused => rw [hw] at h; cases h
    | linked dir target rest =>
      rw [hw] at h
      dsimp only at h
      split at h
      · cases h
      · next htarget =>
        rw [land_of_linked hw htarget]
        exact ih (slashed_eq_false h ▸ h)

/-- The place that a path leads to, vacant or not. -/
def Landing.place : Landing → Place
  | .found place _ => place
  | .vacant dir name => dir ++ [name]

/-- A walk behind the change of a place: it leads to what the place holds now where it led to the
place, and it meets the link that it met. -/
structure Walk.Follows (place : Place) (new : Node) (w w' : Walk) : Prop where
  landed : ∀ l, w = .landed l → l.place = place → w' = .landed (.found place new)
  linked : ∀ dir target rest, w = .linked dir target rest → w' = .linked dir target rest

namespace Walk.Follows

variable {place : Place} {new : Node}

/-- Nothing is asked where the walk could not go on. -/
theorem refused (e : Errno) (w' : Walk) : Follows place new (.refused e) w' where
  landed l hl := by cases hl
  linked dir target rest hl := by cases hl

/-- A walk that led somewhere leads to the place now, if it led to the place. -/
theorem of_landed {l : Landing} {w' : Walk}
    (h : l.place = place → w' = .landed (.found place new)) :
    Follows place new (.landed l) w' where
  landed l hl hplace := by
    cases hl
    exact h hplace
  linked dir target rest hl := by cases hl

/-- A walk that met a link meets it. -/
theorem of_linked (dir : Place) (target : Path) (rest : List Bytes) :
    Follows place new (.linked dir target rest) (.linked dir target rest) where
  landed l hl := by cases hl
  linked dir target rest hl := hl

end Walk.Follows

section
variable {root root' new : Node} {place : Place} (h : root.Changed root' place new)
  (hnew : new.isFile = true)

include h hnew

/-- A walk to the place leads to what it holds now, and a walk to a link meets the link. -/
theorem walk_changed (here : Place) (pieces : List Bytes) :
    (walk root true here pieces).Follows place new (walk root' true here pieces) := by
  induction pieces generalizing here with
  | nil =>
    rw [walk_nil, walk_nil]
    split
    · refine .of_landed fun hplace => ?_
      obtain rfl : here = place := hplace
      rw [h.here]
    · exact .refused ..
  | cons piece rest ih =>
    rw [walk, walk]
    cases hn : root.at? here with
    | none => exact .refused ..
    | some n =>
    cases n with
    | file | link | null => exact .refused ..
    | dir entries =>
      have hne : here ≠ place := by
        rintro rfl
        cases h.before _ hn
      obtain ⟨entries', hn'⟩ := h.exists_dir hne hn
      rw [hn']
      dsimp only
      split
      · exact ih here
      split
      · exact ih here.dropLast
      split
      · exact .refused ..
      rw [← Node.at?_concat hn, ← Node.at?_concat hn']
      by_cases hplace : here ++ [piece] = place
      · subst hplace
        rw [h.here]
        obtain ⟨content, mode, rfl⟩ : ∃ content mode, new = .file content mode := by
          cases new with
          | file content mode => exact ⟨content, mode, rfl⟩
          | dir | link | null => cases hnew
        dsimp only
        cases hm : root.at? (here ++ [piece]) with
        | none =>
          cases rest with
          | nil => exact .of_landed fun _ => by rw [walk_nil, h.here]
          | cons => exact .refused ..
        | some m =>
          have hfile := h.before m hm
          cases m with
          | file => exact ih (here ++ [piece])
          | dir | link | null => cases hfile
      · have hsame := h.elsewhere _ hplace
        cases hm : root.at? (here ++ [piece]) with
        | none =>
          rw [hm, Option.map_none, Option.map_eq_none_iff] at hsame
          rw [hsame]
          dsimp only
          split
          · exact .of_landed fun hplace' => absurd hplace' hplace
          · exact .refused ..
        | some m =>
          rw [hm, Option.map_some, Option.map_eq_some_iff] at hsame
          obtain ⟨m', hm', hout⟩ := hsame
          rw [hm']
          obtain ⟨_, _, rfl, rfl⟩ | ⟨hdir, rfl⟩ := Node.outline_eq_cases hout
          · exact ih (here ++ [piece])
          · cases m' with
            | dir => cases hdir
            | link target =>
              dsimp only
              rw [Bool.not_true, Bool.and_false]
              exact .of_linked ..
            | file | null => exact ih (here ++ [piece])

/-- The same holds with links in between. -/
theorem land_changed {links : Nat} {here : Place} {pieces : List Bytes} {l : Landing}
    (hl : land root true links here pieces = .ok l) (hplace : l.place = place) :
    land root' true links here pieces = .ok (.found place new) := by
  induction links generalizing here pieces with
  | zero =>
    obtain hw | ⟨_, _, _, _, _, hlinks, _⟩ := land_cases hl
    · exact land_of_landed ((walk_changed h hnew here pieces).landed l hw hplace)
    · cases hlinks
  | succ links ih =>
    obtain hw | ⟨_, _, _, _, hw, hlinks, htarget, hl⟩ := land_cases hl
    · exact land_of_landed ((walk_changed h hnew here pieces).landed l hw hplace)
    · obtain rfl := Nat.succ.inj hlinks
      rw [land_of_linked ((walk_changed h hnew here pieces).linked _ _ _ hw) htarget]
      exact ih hl

end

/-- What is written to a file is read from it, unless it is the null device. -/
theorem read_write {t t' : FileTree} {p : Path} {content : Bytes} (h : t.write p content = .ok t') :
    t'.node p = .ok .null ∨ t'.read p = .ok content := by
  rw [write, update, updateAs] at h
  split at h
  · cases h
  next hr =>
  dsimp only at h
  split at h
  · next place old mode hland =>
    obtain rfl := Except.ok.inj h
    have hland := land_of_landToWrite hland
    have hchanged := Node.Changed.put_file (.file content mode) (land_found hland) rfl
    refine .inr ?_
    rw [read, node_of_land (t := t.put place _) hr (land_changed hchanged rfl hland rfl)]
  · next hland =>
    obtain rfl := Except.ok.inj h
    exact .inl (node_of_land hr (land_of_landToWrite hland))
  · cases h
  · next dir name hland =>
    obtain rfl := Except.ok.inj h
    have hland := land_of_landToWrite hland
    obtain ⟨entries, hentries, hname⟩ := land_vacant hland
    have hchanged := Node.Changed.put_vacant (.file content Node.plainMode) hentries hname rfl
    refine .inr ?_
    rw [read, node_of_land (t := t.put (dir ++ [name]) _) hr
      (land_changed hchanged rfl hland rfl)]
  · cases h

end FileTree

end RoundTrip
