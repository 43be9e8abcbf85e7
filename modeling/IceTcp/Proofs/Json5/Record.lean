import IceTcp.Proofs.Json5.Entries
import Mathlib.Data.List.Forall2
import Mathlib.Data.List.Perm.Subperm

/-!
# Ways to write a record down

A record may be written in many ways that read the same: its entries in any order, others among
them, a field left out or given what it would be without, all fields as an array. What is needed of
the record is little: that its fields are independent, that none is set to begin with, and that
objects and arrays are completed alike.

Main results:

* `RecordReader.read_object_perm`, `read_object_insert`: the order of entries, and other entries.
* `RecordReader.read_object_omit`, `read_object_add`: entries that make no difference to a field.
* `RecordReader.read_array_of_standsFor`: the array of all fields.
* `RecordReader.exists_set_of_read_object`, `exists_set_of_read_array`: a field may be written
  otherwise.
* `RecordReader.count_le_one`: what is read has no field twice.
-/

namespace IceTcp.Json5

/-! ## Lists -/

theorem readList_array_eq_ok_iff {α : Type} {item : Reader α} {items : List Json5} {contents : List α} :
    readList item (.array items) = .ok contents ↔
      List.Forall₂ (fun value content => item value = .ok content) items contents := by
  rw [readList]
  induction items generalizing contents with
  | nil =>
    rw [List.mapM_nil, List.forall₂_nil_left_iff]
    exact ⟨fun h => by cases h; rfl, fun h => by rw [h]; rfl⟩
  | cons value items ih =>
    simp only [List.mapM_cons, List.forall₂_cons_left_iff, bind_eq_ok_iff, ih]
    constructor
    · rintro ⟨content, hread, rest, hrest, hcontents⟩
      cases hcontents
      exact ⟨content, rest, hread, hrest, rfl⟩
    · rintro ⟨content, rest, hread, hrest, rfl⟩
      exact ⟨content, hread, rest, hrest, rfl⟩

theorem exists_read_item {α : Type} {item : Reader α} {value : Json5} {before after : List Json5}
    {contents : List α} (h : readList item (.array (before ++ value :: after)) = .ok contents) :
    ∃ content, item value = .ok content ∧ ∀ value', item value' = .ok content →
      readList item (.array (before ++ value' :: after)) = .ok contents := by
  simp only [readList, List.mapM_append, List.mapM_cons, bind_eq_ok_iff] at h ⊢
  obtain ⟨front, hfront, back, ⟨content, hread, hback⟩, hcontents⟩ := h
  exact ⟨content, hread, fun value' hread' => ⟨front, hfront, back, ⟨content, hread', hback⟩, hcontents⟩⟩

/-! ## Records -/

/-- A way to read values as records. -/
structure RecordReader (α : Type) where
  /-- A record of which some fields have been read. -/
  Draft : Type
  name : String
  fields : List (RecordField Draft)
  blank : Draft
  finish : Layout → Draft → Except ReadError α
  independent : Independent fields
  isSet_blank : ∀ field ∈ fields, field.isSet blank = false
  finish_array_eq_ok_iff : ∀ {draft : Draft} {result : α},
    finish .array draft = .ok result ↔ finish .object draft = .ok result

namespace RecordReader

variable {α : Type}

/-- Reads a value. -/
def read (reader : RecordReader α) : Reader α :=
  readRecord reader.name reader.fields reader.blank reader.finish

/-- The names of the fields in the order of their declaration. -/
def names (reader : RecordReader α) : List String := reader.fields.map RecordField.name

/-- The items of an array, each with the name of its field. -/
def named (reader : RecordReader α) (items : List Json5) : List (Json5Text × Json5) :=
  (reader.names.map some).zip items

/-- A value that a field takes for what it would be without. -/
def Fills (reader : RecordReader α) (name : String) (value : Json5) : Prop :=
  ∃ field ∈ reader.fields, field.name = name ∧ ∀ draft, field.isSet draft = false →
    ∃ draft', field.set value draft = .ok draft' ∧
      ∀ layout, reader.finish layout draft' = reader.finish layout draft

variable {reader : RecordReader α} {result : α} {name : String} {value : Json5}
  {entries entries' front back : List (Json5Text × Json5)} {items before after : List Json5}

/-! ## Objects -/

theorem read_object_eq_ok_iff :
    reader.read (.object entries) = .ok result ↔
      ∃ draft, readEntries reader.fields reader.blank entries = .ok draft ∧
        reader.finish .object draft = .ok result := bind_eq_ok_iff

/-- The entries may stand in another order. -/
theorem read_object_perm (hperm : entries.Perm entries')
    (h : reader.read (.object entries) = .ok result) : reader.read (.object entries') = .ok result := by
  obtain ⟨draft, hread, hfinish⟩ := read_object_eq_ok_iff.mp h
  exact read_object_eq_ok_iff.mpr ⟨draft, readEntries_perm reader.independent hperm hread, hfinish⟩

theorem read_object_middle_eq_ok_iff {entry : Json5Text × Json5} :
    reader.read (.object (front ++ entry :: back)) = .ok result ↔
      ∃ draft draft', readEntries reader.fields reader.blank (front ++ back) = .ok draft ∧
        Taken reader.fields draft entry draft' ∧ reader.finish .object draft' = .ok result := by
  simp only [read_object_eq_ok_iff, readEntries_middle_eq_ok_iff reader.independent]
  constructor
  · rintro ⟨draft', ⟨draft, hread, htaken⟩, hfinish⟩
    exact ⟨draft, draft', hread, htaken, hfinish⟩
  · rintro ⟨draft, draft', hread, htaken, hfinish⟩
    exact ⟨draft', ⟨draft, hread, htaken⟩, hfinish⟩

/-- Another entry may stand anywhere, if it can be converted. -/
theorem read_object_insert (hname : name ∉ reader.names) (hvalue : value.check = .ok ())
    (h : reader.read (.object (front ++ back)) = .ok result) :
    reader.read (.object (front ++ (some name, value) :: back)) = .ok result := by
  obtain ⟨draft, hread, hfinish⟩ := read_object_eq_ok_iff.mp h
  exact read_object_middle_eq_ok_iff.mpr ⟨draft, draft, hread, .other hname hvalue, hfinish⟩

/-- No field occurs twice in what is read. -/
theorem count_le_one (h : reader.read (.object entries) = .ok result) (hname : name ∈ reader.names) :
    (entries.map Prod.fst).count (some name) ≤ 1 := by
  obtain ⟨draft, hread, -⟩ := read_object_eq_ok_iff.mp h
  obtain ⟨field, hfield, rfl⟩ := List.mem_map.mp hname
  have hcount := toNat_isSet_readEntries reader.independent hread hfield
  have := Bool.toNat_le (field.isSet draft)
  omega

theorem isSet_of_notMem {field : RecordField reader.Draft} {draft : reader.Draft}
    (hfield : field ∈ reader.fields) (hread : readEntries reader.fields reader.blank entries = .ok draft)
    (hnotMem : some field.name ∉ entries.map Prod.fst) : field.isSet draft = false := by
  have hcount := toNat_isSet_readEntries reader.independent hread hfield
  rw [reader.isSet_blank field hfield, List.count_eq_zero.mpr hnotMem] at hcount
  exact Bool.toNat_eq_zero.mp hcount

/-! ## Fields that are left out -/

theorem fills_kept {β : Type} {get : reader.Draft → Option β} {put : β → reader.Draft → reader.Draft}
    {read : Reader β} {content : β} (hfield : .kept name get put read ∈ reader.fields)
    (hread : read value = .ok content) (hfinish : ∀ layout draft, get draft = none →
      reader.finish layout (put content draft) = reader.finish layout draft) :
    reader.Fills name value :=
  ⟨.kept name get put read, hfield, rfl, fun draft hnew =>
    ⟨put content draft, set_kept_eq_ok_iff.mpr ⟨content, hread, rfl⟩, fun layout =>
      hfinish layout draft (Option.isSome_eq_false_iff.mp hnew |> Option.isNone_iff_eq_none.mp)⟩⟩

/-- An entry that makes no difference to its field may be left out. -/
theorem read_object_omit (hfills : reader.Fills name value)
    (h : reader.read (.object (front ++ (some name, value) :: back)) = .ok result) :
    reader.read (.object (front ++ back)) = .ok result := by
  obtain ⟨field, hfield, rfl, hfills⟩ := hfills
  obtain ⟨draft, draft', hread, htaken, hfinish⟩ := read_object_middle_eq_ok_iff.mp h
  obtain ⟨hnew, hset⟩ := (taken_field_iff reader.independent hfield).mp htaken
  obtain ⟨draft'', hset', hsame⟩ := hfills draft hnew
  obtain rfl : draft' = draft'' := by simpa [hset] using hset'
  exact read_object_eq_ok_iff.mpr ⟨draft, hread, by rw [← hsame]; exact hfinish⟩

/-- An entry that makes no difference to its field may be added, unless there is one already. -/
theorem read_object_add (hfills : reader.Fills name value)
    (hnotMem : some name ∉ (front ++ back).map Prod.fst)
    (h : reader.read (.object (front ++ back)) = .ok result) :
    reader.read (.object (front ++ (some name, value) :: back)) = .ok result := by
  obtain ⟨field, hfield, rfl, hfills⟩ := hfills
  obtain ⟨draft, hread, hfinish⟩ := read_object_eq_ok_iff.mp h
  have hnew := isSet_of_notMem hfield hread hnotMem
  obtain ⟨draft', hset, hsame⟩ := hfills draft hnew
  exact read_object_middle_eq_ok_iff.mpr
    ⟨draft, draft', hread, .field hfield hnew hset, by rw [hsame]; exact hfinish⟩

/-! ## Arrays -/

theorem read_array_eq_ok_iff :
    reader.read (.array items) = .ok result ↔
      reader.read (.object (reader.named items)) = .ok result := by
  have hnamed : reader.named items = (reader.fields.map fun field => some field.name).zip items := by
    rw [named, names, List.map_map]
    rfl
  rw [read_object_eq_ok_iff, hnamed, ← readItems_eq_readEntries reader.independent
    (List.Sublist.refl _) reader.isSet_blank items]
  exact bind_eq_ok_iff.trans (exists_congr fun draft => and_congr_right fun _ =>
    reader.finish_array_eq_ok_iff)

/-- What stands for a field in the array of all fields of an object: what the object says, or for a
field that it leaves out, what makes no difference. -/
def StandsFor (reader : RecordReader α) (entries : List (Json5Text × Json5)) (name : String)
    (item : Json5) : Prop :=
  (some name, item) ∈ entries ∨ some name ∉ entries.map Prod.fst ∧ reader.Fills name item

/-- What an object leaves out can be added, one field after the other. -/
theorem exists_read_object_of_standsFor (wanted : List (String × Json5))
    (hnodup : (wanted.map Prod.fst).Nodup) (h : reader.read (.object entries) = .ok result)
    (hwanted : ∀ pair ∈ wanted, reader.StandsFor entries pair.1 pair.2) :
    ∃ full, reader.read (.object full) = .ok result ∧ entries ⊆ full ∧
      ∀ pair ∈ wanted, (some pair.1, pair.2) ∈ full := by
  induction wanted generalizing entries with
  | nil => exact ⟨entries, h, List.Subset.refl entries, fun _ hpair => absurd hpair List.not_mem_nil⟩
  | cons pair wanted ih =>
    obtain ⟨name, item⟩ := pair
    obtain ⟨hname, hnodup⟩ := List.nodup_cons.mp hnodup
    rcases hwanted (name, item) List.mem_cons_self with hmem | ⟨hnotMem, hfills⟩
    · obtain ⟨full, hfull, hsubset, hall⟩ :=
        ih hnodup h fun pair hpair => hwanted pair (List.mem_cons_of_mem _ hpair)
      exact ⟨full, hfull, hsubset, List.forall_mem_cons.mpr ⟨hsubset hmem, hall⟩⟩
    · have hadded : reader.read (.object ([] ++ (some name, item) :: entries)) = .ok result :=
        read_object_add hfills hnotMem h
      obtain ⟨full, hfull, hsubset, hall⟩ := ih hnodup hadded fun pair hpair => by
        -- The names of the others differ from the one that has been added.
        have hne : pair.1 ≠ name := by
          rintro rfl
          exact hname (List.mem_map.mpr ⟨pair, hpair, rfl⟩)
        rcases hwanted pair (List.mem_cons_of_mem _ hpair) with hmem | ⟨hnotMem, hfills⟩
        · exact .inl (List.mem_cons_of_mem _ hmem)
        · refine .inr ⟨?_, hfills⟩
          simpa [hne] using hnotMem
      obtain ⟨hmem, hsubset⟩ := List.cons_subset.mp hsubset
      exact ⟨full, hfull, hsubset, List.forall_mem_cons.mpr ⟨hmem, hall⟩⟩

theorem fst_named (hlength : reader.names.length = items.length) :
    (reader.named items).map Prod.fst = reader.names.map some :=
  List.map_fst_zip (by rw [List.length_map]; exact Nat.le_of_eq hlength)

/-- An object in which all fields stand says no more than they do. -/
theorem read_array_of_subset (hlength : reader.names.length = items.length)
    (h : reader.read (.object entries) = .ok result) (hsubset : reader.named items ⊆ entries) :
    reader.read (.array items) = .ok result := by
  have hnodup : ((reader.named items).map Prod.fst).Nodup := by
    rw [fst_named hlength]
    exact reader.independent.nodup.map fun _ _ heq => Option.some.inj heq
  -- All fields in front, and behind them what is no field, since none occurs twice.
  obtain ⟨fields, hfields, hsublist⟩ := List.subperm_of_subset (.of_map Prod.fst hnodup) hsubset
  obtain ⟨rest, hrest⟩ := hsublist.exists_perm_append
  have hread := read_object_perm (hrest.trans (hfields.append_right rest)) h
  have hother : ∀ field ∈ reader.fields, some field.name ∉ rest.map Prod.fst := by
    intro field hfield hmem
    have hname : field.name ∈ reader.names := List.mem_map_of_mem hfield
    have hcount := count_le_one hread hname
    have hfront : 0 < ((reader.named items).map Prod.fst).count (some field.name) := by
      rw [fst_named hlength]
      exact List.count_pos_iff.mpr (List.mem_map_of_mem hname)
    have hback := List.count_pos_iff.mpr hmem
    rw [List.map_append, List.count_append] at hcount
    omega
  obtain ⟨draft', hread, hfinish⟩ := read_object_eq_ok_iff.mp hread
  obtain ⟨draft, hread, hrest⟩ := readEntries_append_eq_ok_iff.mp hread
  obtain rfl := eq_of_readEntries_other reader.independent hrest hother
  exact read_array_eq_ok_iff.mpr (read_object_eq_ok_iff.mpr ⟨_, hread, hfinish⟩)

/-- An object may be replaced by the array of all its fields. -/
theorem read_array_of_standsFor (h : reader.read (.object entries) = .ok result)
    (hitems : List.Forall₂ (reader.StandsFor entries) reader.names items) :
    reader.read (.array items) = .ok result := by
  obtain ⟨hlength, hzip⟩ := List.forall₂_iff_zip.mp hitems
  have hnodup : ((reader.names.zip items).map Prod.fst).Nodup := by
    rw [List.map_fst_zip (Nat.le_of_eq hlength)]
    exact reader.independent.nodup
  obtain ⟨full, hfull, -, hall⟩ :=
    exists_read_object_of_standsFor (reader.names.zip items) hnodup h fun pair hpair => hzip hpair
  refine read_array_of_subset hlength hfull fun entry hentry => ?_
  rw [named, List.zip_map_left] at hentry
  obtain ⟨pair, hpair, rfl⟩ := List.mem_map.mp hentry
  exact hall pair hpair

/-! ## Values of fields -/

/-- The value of a field in an object is read, and any value that is read alike may take its
place. -/
theorem exists_set_of_read_object {field : RecordField reader.Draft} (hfield : field ∈ reader.fields)
    (h : reader.read (.object (front ++ (some field.name, value) :: back)) = .ok result) :
    ∃ draft draft', field.set value draft = .ok draft' ∧ reader.finish .object draft' = .ok result ∧
      ∀ value', field.set value' draft = .ok draft' →
        reader.read (.object (front ++ (some field.name, value') :: back)) = .ok result := by
  obtain ⟨draft, draft', hread, htaken, hfinish⟩ := read_object_middle_eq_ok_iff.mp h
  obtain ⟨hnew, hset⟩ := (taken_field_iff reader.independent hfield).mp htaken
  exact ⟨draft, draft', hset, hfinish, fun value' hset' =>
    read_object_middle_eq_ok_iff.mpr ⟨draft, draft', hread, .field hfield hnew hset', hfinish⟩⟩

theorem zip_middle {β γ : Type} {keys : List β} {key : β} {front : List γ}
    (h : keys[front.length]? = some key) (item : γ) (back : List γ) :
    keys.zip (front ++ item :: back) =
      (keys.take front.length).zip front ++ (key, item) :: (keys.drop (front.length + 1)).zip back := by
  induction front generalizing keys with
  | nil =>
    cases keys with
    | nil => cases h
    | cons _ keys =>
      cases h
      rfl
  | cons first front ih =>
    cases keys with
    | nil => cases h
    | cons _ keys => exact congrArg _ (ih h)

theorem getElem?_of_names {field : RecordField reader.Draft} (hfield : field ∈ reader.fields)
    {index : Nat} (h : reader.names[index]? = some field.name) : reader.fields[index]? = some field := by
  rw [names, List.getElem?_map, Option.map_eq_some_iff] at h
  obtain ⟨other, hother, hname⟩ := h
  rw [hother, reader.independent.eq_of_name_eq (List.mem_of_getElem? hother) hfield hname]

/-- An item of an array is read as its field, and any value that is read alike may take its
place. -/
theorem exists_set_of_read_array {field : RecordField reader.Draft}
    (hfield : reader.fields[before.length]? = some field)
    (h : reader.read (.array (before ++ value :: after)) = .ok result) :
    ∃ draft draft', field.set value draft = .ok draft' ∧ reader.finish .object draft' = .ok result ∧
      ∀ value', field.set value' draft = .ok draft' →
        reader.read (.array (before ++ value' :: after)) = .ok result := by
  have hname : (reader.names.map some)[before.length]? = some (some field.name) := by
    simp [names, hfield]
  simp only [read_array_eq_ok_iff, named, zip_middle hname] at h ⊢
  exact exists_set_of_read_object (List.mem_of_getElem? hfield) h

end RecordReader

end IceTcp.Json5
