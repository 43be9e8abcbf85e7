import IceTcp.Config
import IceTcp.Proofs.Json5.Record

/-!
# The records of a configuration

A configuration is a record of records: five kinds of them, one inside another. Each keeps its
fields in places of their own, so each is read by a `RecordReader`, and what holds of those holds of
all five. A record may stand at any depth, as the value of an entry, as an item of an array, or in
the list of the interfaces.

Main results:

* `IsDefault.fills`: a value that is read as the default makes no difference to a field.
* `isDefault_empty`: a group of settings that sets nothing is read as the default.
* `Within.exists_read`: a record at any depth is read, and may be replaced by one that is read
  alike.
-/

namespace IceTcp

open Json5

variable (leaves : Leaves)

/-! ## Readers of the records -/

namespace InterfaceDraft

def listenField : RecordField InterfaceDraft :=
  .kept "listen" listen (fun endpoint draft => { draft with listen := some endpoint }) leaves.endpoint

def idleTimeoutField : RecordField InterfaceDraft :=
  .kept "idle-timeout" idleTimeout (fun seconds draft => { draft with idleTimeout := some seconds })
    (leaves.count (UInt32.size - 1))

theorem fields_eq : fields leaves = [listenField leaves, idleTimeoutField leaves] := rfl

def reader : RecordReader Interface where
  Draft := InterfaceDraft
  name := "Interface"
  fields := fields leaves
  blank := ⟨none, none⟩
  finish := finish
  independent := by
    rw [fields_eq]
    exact .pair (by decide) (fun _ _ => rfl) (fun _ _ => rfl) (fun _ _ => rfl) (fun _ _ => rfl)
      fun _ _ _ => rfl
  isSet_blank := by simp [fields]
  finish_array_eq_ok_iff := by
    rintro ⟨_ | listen, idleTimeout⟩ interface <;> simp [finish]

end InterfaceDraft

namespace ServerDraft

def interfacesField : RecordField ServerDraft :=
  .kept "interfaces" interfaces (fun list draft => { draft with interfaces := some list })
    (readList leaves.interface)

def maxBufferSizeField : RecordField ServerDraft :=
  .kept "max-buffer-size" maxBufferSize (fun size draft => { draft with maxBufferSize := some size })
    (leaves.count (UInt64.size - 1))

theorem fields_eq : fields leaves = [interfacesField leaves, maxBufferSizeField leaves] := rfl

def reader : RecordReader ServerSettings where
  Draft := ServerDraft
  name := "Server"
  fields := fields leaves
  blank := ⟨none, none⟩
  finish := finish
  independent := by
    rw [fields_eq]
    exact .pair (by decide) (fun _ _ => rfl) (fun _ _ => rfl) (fun _ _ => rfl) (fun _ _ => rfl)
      fun _ _ _ => rfl
  isSet_blank := by simp [fields]
  finish_array_eq_ok_iff := Iff.rfl

end ServerDraft

namespace DetectionDraft

def thresholdField : RecordField DetectionDraft :=
  .kept "fallback-threshold" threshold (fun size draft => { draft with threshold := some size })
    (leaves.count (UInt64.size - 1))

def fallbackField : RecordField DetectionDraft :=
  .kept "fallback" fallback (fun choice draft => { draft with fallback := some choice })
    leaves.fallback

theorem fields_eq : fields leaves = [thresholdField leaves, fallbackField leaves] := rfl

def reader : RecordReader DetectionSettings where
  Draft := DetectionDraft
  name := "Demux"
  fields := fields leaves
  blank := ⟨none, none⟩
  finish := finish
  independent := by
    rw [fields_eq]
    exact .pair (by decide) (fun _ _ => rfl) (fun _ _ => rfl) (fun _ _ => rfl) (fun _ _ => rfl)
      fun _ _ _ => rfl
  isSet_blank := by simp [fields]
  finish_array_eq_ok_iff := Iff.rfl

end DetectionDraft

namespace LogDraft

def levelField : RecordField LogDraft :=
  .kept "level" level (fun choice _ => ⟨some choice⟩) leaves.level

theorem fields_eq : fields leaves = [levelField leaves] := rfl

def reader : RecordReader LogSettings where
  Draft := LogDraft
  name := "Log"
  fields := fields leaves
  blank := ⟨none⟩
  finish := finish
  independent := by
    rw [fields_eq]
    exact .singleton (noted_kept fun _ _ => rfl)
  isSet_blank := by simp [fields]
  finish_array_eq_ok_iff := Iff.rfl

end LogDraft

namespace ConfigDraft

def serverField : RecordField ConfigDraft :=
  .kept "server" server (fun settings draft => { draft with server := some settings })
    leaves.server

def detectionField : RecordField ConfigDraft :=
  .kept "demux" detection (fun settings draft => { draft with detection := some settings })
    leaves.detection

def logField : RecordField ConfigDraft :=
  .kept "log" log (fun settings draft => { draft with log := some settings }) leaves.log

theorem fields_eq : fields leaves = [serverField leaves, detectionField leaves, logField leaves] := rfl

def reader : RecordReader Config where
  Draft := ConfigDraft
  name := "Config"
  fields := fields leaves
  blank := ⟨none, none, none⟩
  finish := finish
  independent := by
    rw [fields_eq]
    refine .cons (.pair (by decide) (fun _ _ => rfl) (fun _ _ => rfl) (fun _ _ => rfl)
      (fun _ _ => rfl) fun _ _ _ => rfl) (noted_kept fun _ _ => rfl) (List.forall_mem_cons.mpr ⟨?_, ?_⟩)
    · exact apart_kept (by decide) (fun _ _ => rfl) (fun _ _ => rfl) fun _ _ _ => rfl
    · exact List.forall_mem_singleton.mpr
        (apart_kept (by decide) (fun _ _ => rfl) (fun _ _ => rfl) fun _ _ _ => rfl)
  isSet_blank := by simp [fields]
  finish_array_eq_ok_iff := Iff.rfl

end ConfigDraft

/-! ## All five -/

/-- A record that is part of a configuration, or the whole. -/
inductive Part where
  | config
  | server
  | detection
  | log
  | interface

namespace Part

/-- What a record is read as. -/
def Content : Part → Type
  | .config => Config
  | .server => ServerSettings
  | .detection => DetectionSettings
  | .log => LogSettings
  | .interface => Interface

/-- Reads a record. -/
def read : (part : Part) → Reader part.Content
  | .config => leaves.config
  | .server => leaves.server
  | .detection => leaves.detection
  | .log => leaves.log
  | .interface => leaves.interface

/-- The names of the fields of a record in the order of their declaration. -/
def names : Part → List String
  | .config => ["server", "demux", "log"]
  | .server => ["interfaces", "max-buffer-size"]
  | .detection => ["fallback-threshold", "fallback"]
  | .log => ["level"]
  | .interface => ["listen", "idle-timeout"]

def reader : (part : Part) → RecordReader part.Content
  | .config => ConfigDraft.reader leaves
  | .server => ServerDraft.reader leaves
  | .detection => DetectionDraft.reader leaves
  | .log => LogDraft.reader leaves
  | .interface => InterfaceDraft.reader leaves

theorem read_reader (part : Part) : (part.reader leaves).read = part.read leaves := by
  cases part <;> rfl

theorem names_reader (part : Part) : (part.reader leaves).names = part.names := by
  cases part <;> rfl

end Part

/-! ## Defaults -/

/-- The entry of a record with this name and value equals its default: the value is read as what the
field is when it is left out. The endpoint of an interface has no default. -/
inductive IsDefault : Part → String → Json5 → Prop
  | server {value : Json5} (h : leaves.server value = .ok .standard) :
    IsDefault .config "server" value
  | detection {value : Json5} (h : leaves.detection value = .ok .standard) :
    IsDefault .config "demux" value
  | log {value : Json5} (h : leaves.log value = .ok .standard) : IsDefault .config "log" value
  | interfaces {value : Json5} (h : readList leaves.interface value = .ok []) :
    IsDefault .server "interfaces" value
  | maxBufferSize {value : Json5}
    (h : leaves.count (UInt64.size - 1) value = .ok ServerSettings.standardMaxBufferSize) :
    IsDefault .server "max-buffer-size" value
  | threshold {value : Json5} (h : leaves.count (UInt64.size - 1) value = .ok minimumThreshold) :
    IsDefault .detection "fallback-threshold" value
  | fallback {value : Json5} (h : leaves.fallback value = .ok .direct) :
    IsDefault .detection "fallback" value
  | level {value : Json5} (h : leaves.level value = .ok .info) :
    IsDefault .log "level" value
  | idleTimeout {value : Json5}
    (h : leaves.count (UInt32.size - 1) value = .ok Interface.standardIdleTimeout) :
    IsDefault .interface "idle-timeout" value

/-- A value that is read as the default makes no difference to the field. -/
theorem IsDefault.fills {part : Part} {name : String} {value : Json5}
    (h : IsDefault leaves part name value) : (part.reader leaves).Fills name value := by
  cases h with
  | server h =>
    exact RecordReader.fills_kept (.head _ : ConfigDraft.serverField leaves ∈ ConfigDraft.fields leaves) h
      fun _ ⟨_, _, _⟩ hnew => by cases hnew; rfl
  | detection h =>
    exact RecordReader.fills_kept
      (.tail _ (.head _) : ConfigDraft.detectionField leaves ∈ ConfigDraft.fields leaves) h
      fun _ ⟨_, _, _⟩ hnew => by cases hnew; rfl
  | log h =>
    exact RecordReader.fills_kept
      (.tail _ (.tail _ (.head _)) : ConfigDraft.logField leaves ∈ ConfigDraft.fields leaves) h
      fun _ ⟨_, _, _⟩ hnew => by cases hnew; rfl
  | interfaces h =>
    exact RecordReader.fills_kept (.head _ : ServerDraft.interfacesField leaves ∈ ServerDraft.fields leaves) h
      fun _ ⟨_, _⟩ hnew => by cases hnew; rfl
  | maxBufferSize h =>
    exact RecordReader.fills_kept
      (.tail _ (.head _) : ServerDraft.maxBufferSizeField leaves ∈ ServerDraft.fields leaves) h
      fun _ ⟨_, _⟩ hnew => by cases hnew; rfl
  | threshold h =>
    exact RecordReader.fills_kept (.head _ : DetectionDraft.thresholdField leaves ∈ DetectionDraft.fields leaves) h
      fun _ ⟨_, _⟩ hnew => by cases hnew; rfl
  | fallback h =>
    exact RecordReader.fills_kept
      (.tail _ (.head _) : DetectionDraft.fallbackField leaves ∈ DetectionDraft.fields leaves) h
      fun _ ⟨_, _⟩ hnew => by cases hnew; rfl
  | level h =>
    exact RecordReader.fills_kept (.head _ : LogDraft.levelField leaves ∈ LogDraft.fields leaves) h
      fun _ ⟨_⟩ hnew => by cases hnew; rfl
  | idleTimeout h =>
    exact RecordReader.fills_kept
      (.tail _ (.head _) : InterfaceDraft.idleTimeoutField leaves ∈ InterfaceDraft.fields leaves) h
      fun layout ⟨listen, _⟩ hnew => by cases hnew; cases listen <;> cases layout <;> rfl

/-- A group of settings that sets nothing is read as what it is when it is left out itself. -/
theorem isDefault_empty {name : String} (h : name ∈ Part.config.names) :
    IsDefault leaves .config name (.object []) ∧ IsDefault leaves .config name (.array []) := by
  simp only [Part.names, List.mem_cons, List.not_mem_nil, or_false] at h
  rcases h with rfl | rfl | rfl
  · exact ⟨.server rfl, .server rfl⟩
  · exact ⟨.detection rfl, .detection rfl⟩
  · exact ⟨.log rfl, .log rfl⟩

/-! ## Places -/

/-- Where a record stands in the value of a field of another: it is the value, or one of a list. -/
inductive Inner : Part → String → Part → (Json5 → Json5) → Prop
  | server : Inner .config "server" .server fun value => value
  | detection : Inner .config "demux" .detection fun value => value
  | log : Inner .config "log" .log fun value => value
  | interface (before after : List Json5) :
    Inner .server "interfaces" .interface fun value => .array (before ++ value :: after)

/-- Where a record stands in another, at any depth. -/
inductive Within : Part → Part → (Json5 → Json5) → Prop
  /-- Every record stands in itself. -/
  | here {part : Part} : Within part part fun value => value
  /-- In the value of an entry. -/
  | entry {whole middle part : Part} {name : String} {hole context : Json5 → Json5}
    (front back : List (Json5Text × Json5)) (hinner : Inner whole name middle hole)
    (hwithin : Within middle part context) :
    Within whole part fun value => .object (front ++ (some name, hole (context value)) :: back)
  /-- In an item of an array, which is read as the field in its place. -/
  | item {whole middle part : Part} {name : String} {hole context : Json5 → Json5}
    (before after : List Json5) (hname : whole.names[before.length]? = some name)
    (hinner : Inner whole name middle hole) (hwithin : Within middle part context) :
    Within whole part fun value => .array (before ++ hole (context value) :: after)

/-- How deep a record of a kind stands at most. -/
def Part.depth : Part → Nat
  | .config => 0
  | .server | .detection | .log => 1
  | .interface => 2

theorem Inner.depth_lt {whole part : Part} {name : String} {hole : Json5 → Json5}
    (h : Inner whole name part hole) : whole.depth < part.depth := by
  cases h <;> decide

theorem Within.depth_le {whole part : Part} {context : Json5 → Json5} (h : Within whole part context) :
    whole.depth ≤ part.depth := by
  induction h with
  | here => exact Nat.le_refl _
  | entry _ _ hinner _ ih | item _ _ _ hinner _ ih =>
    exact Nat.le_trans (Nat.le_of_lt hinner.depth_lt) ih

/-- A record stands in one that is as deep only if it is that record. -/
theorem Within.eq_of_depth_le {whole part : Part} {context : Json5 → Json5}
    (h : Within whole part context) (hdepth : part.depth ≤ whole.depth) :
    part = whole ∧ context = fun value => value := by
  cases h with
  | here => exact ⟨rfl, rfl⟩
  | entry _ _ hinner hwithin | item _ _ _ hinner hwithin =>
    have := hinner.depth_lt
    have := hwithin.depth_le
    omega

/-- When a field is read, a record in its value is read too, and may be replaced by one that is read
alike. -/
theorem Inner.exists_field {whole part : Part} {name : String} {hole : Json5 → Json5}
    (h : Inner whole name part hole) :
    ∃ field ∈ (whole.reader leaves).fields, field.name = name ∧
      ∀ {value : Json5} {draft draft' : (whole.reader leaves).Draft},
        field.set (hole value) draft = .ok draft' →
        ∃ content, part.read leaves value = .ok content ∧ ∀ value', part.read leaves value' = .ok content →
          field.set (hole value') draft = .ok draft' := by
  cases h with
  | server =>
    exact ⟨ConfigDraft.serverField leaves, .head _, rfl, exists_read_of_set_kept⟩
  | detection =>
    exact ⟨ConfigDraft.detectionField leaves, .tail _ (.head _), rfl, exists_read_of_set_kept⟩
  | log =>
    exact ⟨ConfigDraft.logField leaves, .tail _ (.tail _ (.head _)), rfl, exists_read_of_set_kept⟩
  | interface before after =>
    refine ⟨ServerDraft.interfacesField leaves, .head _, rfl, fun hset => ?_⟩
    obtain ⟨list, hlist, hput⟩ := exists_read_of_set_kept hset
    obtain ⟨interface, hread, hreplace⟩ := exists_read_item hlist
    exact ⟨interface, hread, fun value' hread' => hput _ (hreplace value' hread')⟩

theorem Inner.exists_field_within {whole middle part : Part} {name : String}
    {hole context : Json5 → Json5} {value : Json5} (h : Inner whole name middle hole)
    (hcontext : ∀ {content : middle.Content}, middle.read leaves (context value) = .ok content →
      ∃ inner, part.read leaves value = .ok inner ∧ ∀ value', part.read leaves value' = .ok inner →
        middle.read leaves (context value') = .ok content) :
    ∃ field ∈ (whole.reader leaves).fields, field.name = name ∧
      ∀ {draft draft' : (whole.reader leaves).Draft}, field.set (hole (context value)) draft = .ok draft' →
        ∃ inner, part.read leaves value = .ok inner ∧ ∀ value', part.read leaves value' = .ok inner →
          field.set (hole (context value')) draft = .ok draft' := by
  obtain ⟨field, hfield, hname, hread⟩ := h.exists_field leaves
  refine ⟨field, hfield, hname, fun hset => ?_⟩
  obtain ⟨content, hcontent, hreplace⟩ := hread hset
  obtain ⟨inner, hinner, hreplaceInner⟩ := hcontext hcontent
  exact ⟨inner, hinner, fun value' hread' => hreplace _ (hreplaceInner value' hread')⟩

/-- When a value is read, a record in it is read too, and may be replaced by one that is read
alike. -/
theorem Within.exists_read {whole part : Part} {context : Json5 → Json5}
    (h : Within whole part context) {value : Json5} {content : whole.Content}
    (hread : whole.read leaves (context value) = .ok content) :
    ∃ inner, part.read leaves value = .ok inner ∧ ∀ value', part.read leaves value' = .ok inner →
      whole.read leaves (context value') = .ok content := by
  -- Each record around the part hands the hypothesis on through the field that holds it.
  induction h with
  | here => exact ⟨content, hread, fun _ hread' => hread'⟩
  | @entry whole _ _ _ _ _ front back hinner _ ih =>
    simp only [← whole.read_reader leaves] at hread ⊢
    obtain ⟨field, hfield, rfl, hset⟩ := hinner.exists_field_within leaves ih
    obtain ⟨draft, draft', hvalue, -, hreplace⟩ :=
      RecordReader.exists_set_of_read_object hfield hread
    obtain ⟨inner, hinner, hreplaceInner⟩ := hset hvalue
    exact ⟨inner, hinner, fun value' hread' => hreplace _ (hreplaceInner value' hread')⟩
  | @item whole _ _ _ _ _ before after hname hinner _ ih =>
    simp only [← whole.read_reader leaves] at hread ⊢
    rw [← whole.names_reader leaves] at hname
    obtain ⟨field, hfield, rfl, hset⟩ := hinner.exists_field_within leaves ih
    obtain ⟨draft, draft', hvalue, -, hreplace⟩ :=
      RecordReader.exists_set_of_read_array (RecordReader.getElem?_of_names hfield hname) hread
    obtain ⟨inner, hinner, hreplaceInner⟩ := hset hvalue
    exact ⟨inner, hinner, fun value' hread' => hreplace _ (hreplaceInner value' hread')⟩

end IceTcp
