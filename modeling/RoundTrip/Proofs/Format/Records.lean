import Mathlib.Data.List.Nodup
import RoundTrip.Format.Findings
import RoundTrip.Proofs.Json.Documents
import RoundTrip.Proofs.Json.Numbers

/-!
# Forms that are read back

`Faithful` is what it means for the form of a value to be a good one: there is a form unless a path
in the value is no text, the text of the form is read as the form, and the form is read as the
value. `Faithful.readsBack` takes the three together. The lemmas here are about what forms are made
of: records, whose fields are found again by their names (`fields?_record`), choices with a tag, of
which the other fields have to be plain (`tagged?_record`), and lists, where what holds of the items
holds of the list (`Faithful.bindList`).
-/

namespace RoundTrip.Json

/-! ## Regular documents -/

/-- A record is regular just if the values of its fields are. -/
@[simp] theorem isRegular_record (members : List (String × Json)) :
    (record members).isRegular = members.all (·.2.isRegular) := by
  rw [record, isRegular]
  induction members with
  | nil => rfl
  | cons member members ih =>
    rw [List.map_cons, areMembersRegular, ih, List.all_cons]
    rfl

/-- A list is regular just if its items are. -/
theorem isRegular_list (items : List Json) :
    (Json.list items).isRegular = items.all isRegular := by
  rw [isRegular]
  induction items with
  | nil => rfl
  | cons item items ih => rw [areRegular, ih, List.all_cons]

/-- A list of texts is regular. -/
@[simp] theorem isRegular_texts (items : List String) : (texts items).isRegular = true := by
  rw [texts, isRegular_list, List.all_map]
  exact List.all_eq_true.2 fun _ _ => rfl

/-! ## Records -/

/-- Where the names are different, a member is found by its name. -/
theorem lookup_of_mem {members : List (String × Json)} (hnodup : (members.map Prod.fst).Nodup)
    {m : String × Json} (h : m ∈ members) : members.lookup m.1 = some m.2 := by
  obtain ⟨front, back, rfl⟩ := List.mem_iff_append.1 h
  refine List.lookup_eq_some_iff.2 ⟨front, back, rfl, fun other hother => ?_⟩
  rw [List.map_append, List.map_cons, List.nodup_append] at hnodup
  simpa using fun he => hnodup.2.2 other.1 (List.mem_map_of_mem hother) m.1 (by simp) he.symm

/-- The fields of a record of which none is there twice are what is found under their names. -/
theorem fields?_of_unique (complete : Completeness) {members : List (String × Json)}
    {names : List String}
    (h : ∀ name ∈ names, (members.filter (·.1 == name)).length ≤ 1) :
    (record members).fields? complete names = some (names.map (members.lookup ·)) := by
  have hnames : names? (members.map fun m => (some m.1, m.2)) = some members := by
    rw [names?, List.mapM_map]
    exact List.mapM_pure.trans (congrArg some (List.map_id members))
  rw [record, fields?, hnames]
  exact if_pos (List.all_eq_true.2 fun name hname => decide_eq_true (h name hname))

/-- The fields of a record are found again by their names. -/
theorem fields?_record (complete : Completeness) (members : List (String × Json))
    (h : (members.map Prod.fst).Nodup) :
    (record members).fields? complete (members.map Prod.fst) =
      some (members.map fun m => some m.2) := by
  have hunique : ∀ name, (members.filter (·.1 == name)).length ≤ 1 := by
    intro name
    have hcount := List.nodup_iff_count_le_one.1 h name
    rwa [List.count, List.countP_map, List.countP_eq_length_filter] at hcount
  rw [fields?_of_unique complete fun name _ => hunique name, List.map_map]
  exact congrArg some (List.map_congr_left fun m hm => lookup_of_mem h hm)

/-- A choice with a tag is read back as its name and its other fields. -/
theorem tagged?_record (tag name : String) (opened : Nat) (members : List (String × Json))
    (htag : tag ∉ members.map Prod.fst)
    (hplain : areMembersPlain (depthLimit - opened - 1)
      (members.map fun m => (some m.1, m.2)) = true) :
    (record ((tag, .str name) :: members)).tagged? tag opened = some (name, record members) := by
  have hne : ∀ m ∈ members.map fun m : String × Json => (some m.1, m.2), m.1 ≠ some tag := by
    intro m hm heq
    obtain ⟨member, hmember, rfl⟩ := List.mem_map.1 hm
    exact htag (Option.some.inj heq ▸ List.mem_map_of_mem hmember)
  have hothers : (members.map fun m => (some m.1, m.2)).filter (·.1 != some tag) =
      members.map fun m => (some m.1, m.2) :=
    List.filter_eq_self.2 fun m hm => bne_iff_ne.2 (hne m hm)
  have htagged : (members.map fun m => (some m.1, m.2)).filter (·.1 == some tag) = [] :=
    List.filter_eq_nil_iff.2 fun m hm => mt beq_iff_eq.1 (hne m hm)
  rw [record, tagged?]
  simp only [List.map_cons, List.filter_cons, bne_self_eq_false, beq_self_eq_true, hothers,
    htagged, if_true]
  exact if_pos hplain

/-! ## Lists -/

/-- A list of texts is read back. -/
@[simp] theorem texts?_texts (items : List String) : (texts items).texts? = some items := by
  rw [texts?, texts, listOf?, list?, Option.bind_some, List.mapM_map]
  exact List.mapM_pure.trans (congrArg some (List.map_id items))

/-! ## Leaves -/

/-- A 32-bit integer is read back. -/
@[simp] theorem int32?_int32Json (n : Int32) : (int32Json n).int32? = some n := by
  have hread : (int32Json n).int32? =
      if -2147483648 ≤ n.toInt ∧ n.toInt ≤ 2147483647 then some (Int32.ofInt n.toInt) else none :=
    rfl
  rw [hread, if_pos ⟨n.le_toInt, Int.lt_add_one_iff.1 n.toInt_lt⟩, Int32.ofInt_toInt]

/-- A 32-bit integer is finite. -/
@[simp] theorem isPlain_int32Json (room : Nat) (n : Int32) : (int32Json n).isPlain room = true := by
  have hlow := n.le_toInt
  have hhigh := n.toInt_lt
  exact isFinite_toDigits (by omega)

/-- An integer that is a count is read as one. -/
theorem count?_of_int? {j : Json} {n : Int} (hj : j.int? = some n)
    (h : 0 ≤ n ∧ n < 18446744073709551616) : j.count? = some n.toNat := by
  rw [count?, hj]
  exact if_pos h

/-- A count is read back. -/
theorem count?_countJson {n : Nat} (h : n < 2 ^ 64) : (countJson n).count? = some n := by
  rw [count?_of_int? (n := n) rfl (by omega), Int.toNat_natCast]

/-- A 64-bit integer is read back. -/
@[simp] theorem uint64?_countJson (n : UInt64) : (countJson n.toNat).uint64? = some n := by
  rw [uint64?, count?_countJson n.toNat_lt, Option.map_some, UInt64.ofNat_toNat]

/-! ## Faithful forms -/

/-- The form of a value with some paths is a good one. -/
structure Faithful {α : Type} (form : Option Json) (paths : List Path) (read : Json → Option α)
    (x : α) : Prop where
  /-- There is a form unless a path is no text. -/
  isSome_iff : form.isSome = true ↔ ∀ p ∈ paths, p.text?.isSome = true
  /-- The form is read back from its text. -/
  isRegular : ∀ j, form = some j → j.isRegular = true
  /-- The value is read back from its form. -/
  read_eq : ∀ j, form = some j → read j = some x

section
variable {α : Type} {form : Option Json} {paths : List Path} {read : Json → Option α} {x : α}

/-- There is no form just if a path is no text. -/
theorem Faithful.eq_none_iff (h : Faithful form paths read x) :
    form = none ↔ ∃ p ∈ paths, p.text? = none := by
  have hsome := not_congr h.isSome_iff
  simpa using hsome

/-- The value is read back from the text of its form, in both layouts. -/
theorem Faithful.ofText?_toText (h : Faithful form paths read x) {j : Json} (hj : form = some j)
    (layout : Layout) : (ofText? (j.toText layout)).bind read = some x := by
  rw [Json.ofText?_toText layout (h.isRegular j hj), Option.bind_some, h.read_eq j hj]

/-- There is a form, and the value is read back from its text in both layouts. -/
def ReadsBack {α : Type} (form : Option Json) (read : Json → Option α) (x : α) : Prop :=
  ∃ j, form = some j ∧ ∀ layout, (ofText? (j.toText layout)).bind read = some x

/-- A value whose paths are texts is read back. -/
theorem Faithful.readsBack (h : Faithful form paths read x)
    (hpaths : ∀ p ∈ paths, p.text?.isSome = true) : ReadsBack form read x := by
  obtain ⟨j, hj⟩ := Option.isSome_iff_exists.1 (h.isSome_iff.2 hpaths)
  exact ⟨j, hj, h.ofText?_toText hj⟩

/-- A value without paths has a form. -/
theorem Faithful.intro {j : Json} (hregular : j.isRegular = true) (hread : read j = some x) :
    Faithful (some j) [] read x where
  isSome_iff := by simp
  isRegular _ hj := Option.some.inj hj ▸ hregular
  read_eq _ hj := Option.some.inj hj ▸ hread

end

/-- The form of a path is its text. -/
theorem faithful_path (p : Path) : Faithful p.toJson? [p] Path.ofJson? p where
  isSome_iff := by simp [Path.toJson?]
  isRegular j hj := by
    obtain ⟨text, -, rfl⟩ := Option.map_eq_some_iff.1 hj
    rfl
  read_eq j hj := by
    obtain ⟨text, htext, rfl⟩ := Option.map_eq_some_iff.1 hj
    exact congrArg some (Path.ofText_of_text? htext)

section
variable {α β : Type} {read : Json → Option α} {read' : Json → Option β} {y : β}
  {paths' : List Path}

/-- A form that is made of a faithful form, and of what else the value has. -/
theorem Faithful.bind {form : Option Json} {paths : List Path} {x : α}
    (h : Faithful form paths read x) {rest : Json → Option Json}
    (hrest : ∀ j, j.isRegular = true → read j = some x → Faithful (rest j) paths' read' y) :
    Faithful (form.bind rest) (paths ++ paths') read' y := by
  cases form with
  | none =>
    have hpaths : ¬ ∀ p ∈ paths, p.text?.isSome = true :=
      mt h.isSome_iff.2 Bool.false_ne_true
    refine ⟨⟨fun hsome => ?_, fun hall => absurd (fun p hp => ?_) hpaths⟩, fun j hj => ?_,
      fun j hj => ?_⟩
    · cases hsome
    · exact hall p (List.mem_append_left _ hp)
    · cases hj
    · cases hj
  | some j =>
    obtain ⟨hsome, hregular, hread⟩ := hrest j (h.isRegular j rfl) (h.read_eq j rfl)
    refine ⟨?_, hregular, hread⟩
    rw [Option.bind_some, hsome, List.forall_mem_append]
    exact (and_iff_right (h.isSome_iff.1 rfl)).symm

/-- A form that is made of forms for the items of a list, from each of which something is read, and
of what else the value has. -/
theorem Faithful.bindMap {γ : Type} {value : γ → α} {write : γ → Option Json}
    {paths : γ → List Path} {xs : List γ}
    (h : ∀ x ∈ xs, Faithful (write x) (paths x) read (value x)) {rest : List Json → Option Json}
    (hrest : ∀ items, (Json.list items).isRegular = true →
      (Json.list items).listOf? read = some (xs.map value) → Faithful (rest items) paths' read' y) :
    Faithful ((xs.mapM write).bind rest) (xs.flatMap paths ++ paths') read' y := by
  induction xs generalizing rest with
  | nil => exact hrest [] rfl rfl
  | cons x xs ih =>
    obtain ⟨hx, hxs⟩ := List.forall_mem_cons.1 h
    have hform : ((x :: xs).mapM write).bind rest =
        (write x).bind fun item => (xs.mapM write).bind fun items => rest (item :: items) := by
      rw [List.mapM_cons]
      cases write x with
      | none => rfl
      | some item => cases xs.mapM write <;> rfl
    rw [hform, List.flatMap_cons, List.append_assoc]
    refine hx.bind fun item hitem hread => ih hxs fun items hitems hreads => hrest _ ?_ ?_
    · rw [isRegular_list] at hitems ⊢
      rw [List.all_cons, hitem, hitems]
      rfl
    · rw [listOf?, list?, Option.bind_some] at hreads ⊢
      rw [List.mapM_cons, hread, hreads]
      rfl

/-- A form that is made of the faithful forms of the items of a list, and of what else the value
has. -/
theorem Faithful.bindList {write : α → Option Json} {paths : α → List Path} {xs : List α}
    (h : ∀ x ∈ xs, Faithful (write x) (paths x) read x) {rest : List Json → Option Json}
    (hrest : ∀ items, (Json.list items).isRegular = true →
      (Json.list items).listOf? read = some xs → Faithful (rest items) paths' read' y) :
    Faithful ((xs.mapM write).bind rest) (xs.flatMap paths ++ paths') read' y :=
  Faithful.bindMap h fun items hitems hread => hrest items hitems (by rwa [List.map_id'] at hread)

end

end RoundTrip.Json
