import IceTcp.Json5.Reader
import Mathlib.Data.List.Nodup

/-!
# Entries of an object, in any order

An object is read entry by entry, and each entry meets what those in front of it have left. Where
the fields of a record are independent of one another, it does not matter which comes first: fields
that are set one after the other may be set the other way round, and an entry that is no field
leaves everything as it is.

Main results:

* `apart_kept`: fields that are kept in places of their own do not touch each other.
* `readEntry_eq_ok_iff`: the two ways in which an entry is taken.
* `toNat_isSet_readEntries`: a field has been read as often as an entry had its name, at most once.
* `readEntries_perm`: the order of the entries plays no part.
-/

namespace IceTcp.Json5

/-! ## Steps that may fail -/

theorem bind_eq_ok_iff {ε α β : Type} {first : Except ε α} {next : α → Except ε β} {result : β} :
    (first >>= next) = .ok result ↔ ∃ middle, first = .ok middle ∧ next middle = .ok result := by
  cases first <;> simp [bind, Except.bind]

theorem mapError_eq_ok_iff {ε ε' α : Type} {first : Except ε α} {f : ε → ε'} {result : α} :
    first.mapError f = .ok result ↔ first = .ok result := by
  cases first <;> simp [Except.mapError]

theorem convertText_eq_ok_iff {key : Json5Text} {name : String} :
    convertText key = .ok name ↔ key = some name := by
  cases key <;> simp [convertText]

/-! ## Fields -/

variable {σ β γ : Type}

/-- A field that a draft keeps as a value that may be missing: where it is kept, and as what it is
read. -/
def RecordField.kept (name : String) (get : σ → Option β) (put : β → σ → σ) (read : Reader β) :
    RecordField σ where
  name
  isSet := fun draft => (get draft).isSome
  set := fun value draft => do return put (← read value) draft

theorem set_kept_eq_ok_iff {name : String} {get : σ → Option β} {put : β → σ → σ} {read : Reader β}
    {value : Json5} {draft draft' : σ} :
    (RecordField.kept name get put read).set value draft = .ok draft' ↔
      ∃ content, read value = .ok content ∧ put content draft = draft' := by
  simp only [RecordField.kept, bind_eq_ok_iff, pure, Except.pure, Except.ok.injEq]

theorem exists_read_of_set_kept {name : String} {get : σ → Option β} {put : β → σ → σ} {read : Reader β}
    {value : Json5} {draft draft' : σ}
    (h : (RecordField.kept name get put read).set value draft = .ok draft') :
    ∃ content, read value = .ok content ∧ ∀ value', read value' = .ok content →
      (RecordField.kept name get put read).set value' draft = .ok draft' := by
  obtain ⟨content, hread, hput⟩ := set_kept_eq_ok_iff.mp h
  exact ⟨content, hread, fun value' hread' => set_kept_eq_ok_iff.mpr ⟨content, hread', hput⟩⟩

/-- One field does not get in the way of another: setting the other does not count as setting it,
and it may as well be set second. -/
structure Apart (field other : RecordField σ) : Prop where
  name_ne : field.name ≠ other.name
  isSet_set : ∀ {value : Json5} {draft draft' : σ}, other.set value draft = .ok draft' →
    field.isSet draft' = field.isSet draft
  set_set : ∀ {value value' : Json5} {draft middle draft' : σ}, field.set value draft = .ok middle →
    other.set value' middle = .ok draft' →
    ∃ middle', other.set value' draft = .ok middle' ∧ field.set value middle' = .ok draft'

/-- A field can tell that it has been set. -/
def Noted (field : RecordField σ) : Prop :=
  ∀ ⦃value : Json5⦄ ⦃draft draft' : σ⦄, field.set value draft = .ok draft' → field.isSet draft' = true

/-- Fields of which each can tell that it has been set, and none gets in the way of another. -/
structure Independent (fields : List (RecordField σ)) : Prop where
  pairwise : fields.Pairwise fun field other => Apart field other ∧ Apart other field
  noted : ∀ field ∈ fields, Noted field

theorem noted_kept {name : String} {get : σ → Option β} {put : β → σ → σ} {read : Reader β}
    (hget : ∀ content draft, get (put content draft) = some content) :
    Noted (.kept name get put read) := by
  intro value draft draft' hset
  obtain ⟨content, -, rfl⟩ := set_kept_eq_ok_iff.mp hset
  exact congrArg Option.isSome (hget content draft)

theorem apart_kept_of_get {name name' : String} {get : σ → Option β} {put : β → σ → σ}
    {read : Reader β} {get' : σ → Option γ} {put' : γ → σ → σ} {read' : Reader γ} (hname : name ≠ name')
    (hget : ∀ content draft, get (put' content draft) = get draft)
    (hput : ∀ content content' draft,
      put content (put' content' draft) = put' content' (put content draft)) :
    Apart (.kept name get put read) (.kept name' get' put' read') where
  name_ne := hname
  isSet_set := by
    intro value draft draft' hset
    obtain ⟨content, -, rfl⟩ := set_kept_eq_ok_iff.mp hset
    exact congrArg Option.isSome (hget content draft)
  set_set := by
    intro value value' draft middle draft' hset hset'
    obtain ⟨content, hread, rfl⟩ := set_kept_eq_ok_iff.mp hset
    obtain ⟨content', hread', rfl⟩ := set_kept_eq_ok_iff.mp hset'
    exact ⟨put' content' draft, set_kept_eq_ok_iff.mpr ⟨content', hread', rfl⟩,
      set_kept_eq_ok_iff.mpr ⟨content, hread, hput content content' draft⟩⟩

/-- Fields that are kept in different places are apart. -/
theorem apart_kept {name name' : String} {get : σ → Option β} {put : β → σ → σ} {read : Reader β}
    {get' : σ → Option γ} {put' : γ → σ → σ} {read' : Reader γ} (hname : name ≠ name')
    (hget : ∀ content draft, get (put' content draft) = get draft)
    (hget' : ∀ content draft, get' (put content draft) = get' draft)
    (hput : ∀ content content' draft,
      put content (put' content' draft) = put' content' (put content draft)) :
    Apart (.kept name get put read) (.kept name' get' put' read') ∧
      Apart (.kept name' get' put' read') (.kept name get put read) :=
  ⟨apart_kept_of_get hname hget hput,
    apart_kept_of_get hname.symm hget' fun content' content draft => (hput content content' draft).symm⟩

namespace Independent

variable {fields : List (RecordField σ)}

theorem singleton {field : RecordField σ} (hnoted : Noted field) : Independent [field] :=
  ⟨List.pairwise_singleton _ _, List.forall_mem_singleton.mpr hnoted⟩

theorem cons {field : RecordField σ} (h : Independent fields) (hnoted : Noted field)
    (hapart : ∀ other ∈ fields, Apart field other ∧ Apart other field) : Independent (field :: fields) :=
  ⟨List.pairwise_cons.mpr ⟨hapart, h.pairwise⟩, List.forall_mem_cons.mpr ⟨hnoted, h.noted⟩⟩

theorem pair {name name' : String} {get : σ → Option β} {put : β → σ → σ} {read : Reader β}
    {get' : σ → Option γ} {put' : γ → σ → σ} {read' : Reader γ} (hname : name ≠ name')
    (hself : ∀ content draft, get (put content draft) = some content)
    (hself' : ∀ content draft, get' (put' content draft) = some content)
    (hget : ∀ content draft, get (put' content draft) = get draft)
    (hget' : ∀ content draft, get' (put content draft) = get' draft)
    (hput : ∀ content content' draft,
      put content (put' content' draft) = put' content' (put content draft)) :
    Independent [.kept name get put read, .kept name' get' put' read'] :=
  (singleton (noted_kept hself')).cons (noted_kept hself)
    (List.forall_mem_singleton.mpr (apart_kept hname hget hget' hput))

theorem apart (h : Independent fields) {field other : RecordField σ} (hfield : field ∈ fields)
    (hother : other ∈ fields) (hne : field.name ≠ other.name) : Apart field other :=
  List.Pairwise.forall_of_forall_of_flip
    (R := fun field other => field.name ≠ other.name → Apart field other)
    (fun _ _ hne => absurd rfl hne) (h.pairwise.imp fun hapart _ => hapart.1)
    (h.pairwise.imp fun hapart _ => hapart.2) hfield hother hne

theorem nodup (h : Independent fields) : (fields.map RecordField.name).Nodup :=
  List.Pairwise.map _ (fun _ _ hapart => hapart.1.name_ne) h.pairwise

theorem eq_of_name_eq (h : Independent fields) {field other : RecordField σ} (hfield : field ∈ fields)
    (hother : other ∈ fields) (hname : field.name = other.name) : field = other :=
  List.inj_on_of_nodup_map h.nodup hfield hother hname

theorem find?_eq_some_iff (h : Independent fields) {name : String} {field : RecordField σ} :
    fields.find? (·.name = name) = some field ↔ field ∈ fields ∧ field.name = name := by
  constructor
  · intro hfind
    exact ⟨List.mem_of_find?_eq_some hfind, by simpa using List.find?_some hfind⟩
  · rintro ⟨hfield, rfl⟩
    have hfound : (fields.find? (·.name = field.name)).isSome :=
      List.find?_isSome.mpr ⟨field, hfield, decide_eq_true rfl⟩
    obtain ⟨other, hfind⟩ := Option.isSome_iff_exists.mp hfound
    have hname : other.name = field.name := by simpa using List.find?_some hfind
    rw [hfind, h.eq_of_name_eq (List.mem_of_find?_eq_some hfind) hfield hname]

end Independent

theorem find?_name_eq_none_iff {fields : List (RecordField σ)} {name : String} :
    fields.find? (·.name = name) = none ↔ name ∉ fields.map RecordField.name := by
  simp [List.find?_eq_none]

/-! ## One entry -/

/-- How an entry is taken. -/
inductive Taken (fields : List (RecordField σ)) (draft : σ) : Json5Text × Json5 → σ → Prop
  /-- As a field that has not been read yet. -/
  | field {field : RecordField σ} {value : Json5} {draft' : σ} (hfield : field ∈ fields)
    (hnew : field.isSet draft = false) (hset : field.set value draft = .ok draft') :
    Taken fields draft (some field.name, value) draft'
  /-- As something else, which is only checked. -/
  | other {name : String} {value : Json5} (hname : name ∉ fields.map RecordField.name)
    (hcheck : value.check = .ok ()) : Taken fields draft (some name, value) draft

variable {fields : List (RecordField σ)} {draft draft' draft'' : σ} {entry entry' : Json5Text × Json5}
  {entries entries' : List (Json5Text × Json5)}

theorem readEntry_eq_ok_iff (h : Independent fields) :
    readEntry fields draft entry = .ok draft' ↔ Taken fields draft entry draft' := by
  obtain ⟨key, value⟩ := entry
  simp only [readEntry, bind_eq_ok_iff, mapError_eq_ok_iff, convertText_eq_ok_iff]
  constructor
  · rintro ⟨name, rfl, hread⟩
    cases hfind : fields.find? (·.name = name) with
    | none =>
      simp only [hfind, bind_eq_ok_iff, mapError_eq_ok_iff] at hread
      obtain ⟨checked, hcheck, hdraft⟩ := hread
      cases hdraft
      exact .other (find?_name_eq_none_iff.mp hfind) hcheck
    | some field =>
      obtain ⟨hfield, rfl⟩ := h.find?_eq_some_iff.mp hfind
      cases hnew : field.isSet draft with
      | true => simp [hfind, hnew] at hread
      | false => exact .field hfield hnew (by simpa [hfind, hnew] using hread)
  · intro htaken
    cases htaken with
    | @field field _ _ hfield hnew hset =>
      exact ⟨field.name, rfl, by simpa [h.find?_eq_some_iff.mpr ⟨hfield, rfl⟩, hnew] using hset⟩
    | @other name _ hname hcheck =>
      refine ⟨name, rfl, ?_⟩
      simp only [find?_name_eq_none_iff.mpr hname, bind_eq_ok_iff, mapError_eq_ok_iff]
      exact ⟨(), hcheck, rfl⟩

theorem taken_field_iff (h : Independent fields) {field : RecordField σ} (hfield : field ∈ fields)
    {value : Json5} :
    Taken fields draft (some field.name, value) draft' ↔
      field.isSet draft = false ∧ field.set value draft = .ok draft' := by
  constructor
  · intro htaken
    generalize hentry : (some field.name, value) = entry at htaken
    cases htaken with
    | @field other _ _ hother hnew hset =>
      obtain ⟨hname, rfl⟩ : field.name = other.name ∧ value = _ := by simpa using hentry
      obtain rfl := h.eq_of_name_eq hfield hother hname
      exact ⟨hnew, hset⟩
    | other hname _ =>
      obtain ⟨rfl, -⟩ : field.name = _ ∧ value = _ := by simpa using hentry
      exact absurd (List.mem_map_of_mem hfield) hname
  · exact fun ⟨hnew, hset⟩ => .field hfield hnew hset

/-- Once an entry has the name of a field, the field has been read, and only then. -/
theorem Taken.toNat_isSet (h : Independent fields) (htaken : Taken fields draft entry draft')
    {field : RecordField σ} (hfield : field ∈ fields) :
    (field.isSet draft').toNat =
      (field.isSet draft).toNat + if entry.1 = some field.name then 1 else 0 := by
  cases htaken with
  | @field other _ _ hother hnew hset =>
    by_cases hname : field.name = other.name
    · obtain rfl := h.eq_of_name_eq hfield hother hname
      simp [h.noted field hfield hset, hnew]
    · simp [(h.apart hfield hother hname).isSet_set hset, Ne.symm hname]
  | @other name _ hname _ =>
    have hne : name ≠ field.name := fun heq => hname (heq ▸ List.mem_map_of_mem hfield)
    simp [hne]

/-- Two entries that are taken one after the other may be taken the other way round. -/
theorem Taken.swap (h : Independent fields) (hfirst : Taken fields draft entry draft')
    (hsecond : Taken fields draft' entry' draft'') :
    ∃ middle, Taken fields draft entry' middle ∧ Taken fields middle entry draft'' := by
  cases hfirst with
  | @field field value _ hfield hnew hset =>
    cases hsecond with
    | @field other value' _ hother hnew' hset' =>
      have hname : field.name ≠ other.name := by
        intro heq
        obtain rfl := h.eq_of_name_eq hfield hother heq
        rw [h.noted field hfield hset] at hnew'
        cases hnew'
      have hapart := h.apart hfield hother hname
      obtain ⟨middle, hfirst, hsecond⟩ := hapart.set_set hset hset'
      refine ⟨middle, .field hother ?_ hfirst, .field hfield ?_ hsecond⟩
      · rw [← (h.apart hother hfield hname.symm).isSet_set hset]
        exact hnew'
      · rw [hapart.isSet_set hfirst]
        exact hnew
    | other hname hcheck => exact ⟨draft, .other hname hcheck, .field hfield hnew hset⟩
  | other hname hcheck => exact ⟨draft'', hsecond, .other hname hcheck⟩

/-! ## All entries -/

theorem readEntries_cons_eq_ok_iff (h : Independent fields) :
    readEntries fields draft (entry :: entries) = .ok draft' ↔
      ∃ middle, Taken fields draft entry middle ∧ readEntries fields middle entries = .ok draft' := by
  rw [readEntries_cons, bind_eq_ok_iff]
  simp only [readEntry_eq_ok_iff h]

theorem readEntries_append_eq_ok_iff :
    readEntries fields draft (entries ++ entries') = .ok draft' ↔
      ∃ middle, readEntries fields draft entries = .ok middle ∧
        readEntries fields middle entries' = .ok draft' := by
  rw [readEntries_append, bind_eq_ok_iff]

theorem readEntries_singleton_eq_ok_iff (h : Independent fields) :
    readEntries fields draft [entry] = .ok draft' ↔ Taken fields draft entry draft' := by
  rw [readEntries_cons_eq_ok_iff h]
  constructor
  · rintro ⟨middle, htaken, hrest⟩
    cases hrest
    exact htaken
  · exact fun htaken => ⟨draft', htaken, rfl⟩

/-- The order of the entries plays no part. -/
theorem readEntries_perm (h : Independent fields) (hperm : entries.Perm entries')
    (hread : readEntries fields draft entries = .ok draft') :
    readEntries fields draft entries' = .ok draft' := by
  induction hperm generalizing draft with
  | nil => exact hread
  | cons entry _ ih =>
    obtain ⟨middle, htaken, hrest⟩ := (readEntries_cons_eq_ok_iff h).mp hread
    exact (readEntries_cons_eq_ok_iff h).mpr ⟨middle, htaken, ih hrest⟩
  | swap entry entry' entries =>
    obtain ⟨first, hfirst, hread⟩ := (readEntries_cons_eq_ok_iff h).mp hread
    obtain ⟨second, hsecond, hrest⟩ := (readEntries_cons_eq_ok_iff h).mp hread
    obtain ⟨middle, htaken, htaken'⟩ := hfirst.swap h hsecond
    exact (readEntries_cons_eq_ok_iff h).mpr
      ⟨middle, htaken, (readEntries_cons_eq_ok_iff h).mpr ⟨second, htaken', hrest⟩⟩
  | trans _ _ ih ih' => exact ih' (ih hread)

theorem readEntries_middle_eq_ok_iff (h : Independent fields) :
    readEntries fields draft (entries ++ entry :: entries') = .ok draft' ↔
      ∃ middle, readEntries fields draft (entries ++ entries') = .ok middle ∧
        Taken fields middle entry draft' := by
  have hperm : (entries ++ entry :: entries').Perm (entries ++ entries' ++ [entry]) :=
    List.perm_middle.trans (List.perm_append_singleton entry _).symm
  simp only [← readEntries_singleton_eq_ok_iff h]
  rw [← readEntries_append_eq_ok_iff]
  exact ⟨readEntries_perm h hperm, readEntries_perm h hperm.symm⟩

/-- A field has been read as often as entries have its name. -/
theorem toNat_isSet_readEntries (h : Independent fields)
    (hread : readEntries fields draft entries = .ok draft') {field : RecordField σ}
    (hfield : field ∈ fields) :
    (field.isSet draft').toNat =
      (field.isSet draft).toNat + (entries.map Prod.fst).count (some field.name) := by
  induction entries generalizing draft with
  | nil =>
    cases hread
    rfl
  | cons entry entries ih =>
    obtain ⟨middle, htaken, hrest⟩ := (readEntries_cons_eq_ok_iff h).mp hread
    rw [ih hrest, htaken.toNat_isSet h hfield, List.map_cons, List.count_cons]
    simp only [beq_iff_eq]
    omega

theorem eq_of_readEntries_other (h : Independent fields)
    (hread : readEntries fields draft entries = .ok draft')
    (hother : ∀ field ∈ fields, some field.name ∉ entries.map Prod.fst) : draft' = draft := by
  induction entries generalizing draft with
  | nil =>
    cases hread
    rfl
  | cons entry entries ih =>
    obtain ⟨middle, htaken, hrest⟩ := (readEntries_cons_eq_ok_iff h).mp hread
    have hrest' : draft' = middle :=
      ih hrest fun field hfield hmem => hother field hfield (List.mem_cons_of_mem _ hmem)
    cases htaken with
    | field hfield _ _ => exact absurd List.mem_cons_self (hother _ hfield)
    | other _ _ => exact hrest'

/-! ## Items -/

theorem readEntry_of_new (h : Independent fields) {field : RecordField σ} (hfield : field ∈ fields)
    (hnew : field.isSet draft = false) (value : Json5) :
    readEntry fields draft (some field.name, value) = field.set value draft := by
  have hfind : fields.find? (·.name = field.name) = some field :=
    h.find?_eq_some_iff.mpr ⟨hfield, rfl⟩
  simp only [readEntry, convertText, Except.mapError, bind, Except.bind, hfind, hnew,
    Bool.false_eq_true, if_false]

theorem readItems_eq_readEntries (h : Independent fields) {rest : List (RecordField σ)}
    (hrest : rest.Sublist fields) (hnew : ∀ field ∈ rest, field.isSet draft = false)
    (items : List Json5) :
    readItems rest items draft =
      readEntries fields draft ((rest.map fun field => some field.name).zip items) := by
  induction rest generalizing draft items with
  | nil => rfl
  | cons field rest ih =>
    cases items with
    | nil => rfl
    | cons item items =>
      have hapart : ∀ other ∈ rest, Apart field other ∧ Apart other field :=
        (List.pairwise_cons.mp (h.pairwise.sublist hrest)).1
      rw [readItems_cons, List.map_cons, List.zip_cons_cons, readEntries_cons,
        readEntry_of_new h (hrest.subset List.mem_cons_self) (hnew field List.mem_cons_self)]
      cases hset : field.set item draft with
      | error error => rfl
      | ok draft' =>
        refine ih ((List.sublist_cons_self field rest).trans hrest) (fun other hother => ?_) items
        rw [(hapart other hother).2.isSet_set hset]
        exact hnew other (List.mem_cons_of_mem field hother)

end IceTcp.Json5
