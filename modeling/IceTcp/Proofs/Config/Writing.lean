import IceTcp.Proofs.Config.Part

/-!
# How a configuration is written down

A configuration does not depend on the way in which its records are written: in what order the
entries of an object stand, which others there are among them, whether a setting is left out or
given its default, and whether the record is an object or the array of all its fields. The order of
the interfaces is part of the configuration, and no object has a field twice.

Main results:

* `Respelling.read`: a record may be written otherwise.
* `Rewriting.read`: so may every record of a configuration, one after the other.
* `Lists.forall₂_interfaces`: the interfaces of a server are read in order.
* `Config.ofJson5_of_rewriting`: all of it.
-/

namespace IceTcp

open Json5

variable {leaves : Leaves}

/-! ## One record -/

/-- What stands for a field in the array of all fields of an object: what the object says, or a
default where it says nothing. -/
def Part.StandsFor (leaves : Leaves) (part : Part) (entries : List (Json5Text × Json5))
    (name : String) (item : Json5) : Prop :=
  (some name, item) ∈ entries ∨
    some name ∉ entries.map Prod.fst ∧ IsDefault leaves part name item

/-- A way to write a record otherwise. -/
inductive Respelling (leaves : Leaves) (part : Part) : Json5 → Json5 → Prop
  /-- The entries stand in another order. -/
  | permute {entries entries' : List (Json5Text × Json5)} (h : entries.Perm entries') :
    Respelling leaves part (.object entries) (.object entries')
  /-- An entry is inserted that is no field, with a value that can be converted. -/
  | insert {front back : List (Json5Text × Json5)} {name : String} {value : Json5}
    (hname : name ∉ part.names) (hvalue : value.check = .ok ()) :
    Respelling leaves part (.object (front ++ back)) (.object (front ++ (some name, value) :: back))
  /-- An entry that equals its default is left out. -/
  | leaveOut {front back : List (Json5Text × Json5)} {name : String} {value : Json5}
    (h : IsDefault leaves part name value) :
    Respelling leaves part (.object (front ++ (some name, value) :: back)) (.object (front ++ back))
  /-- An entry that equals its default is added for a field that has none. -/
  | add {front back : List (Json5Text × Json5)} {name : String} {value : Json5}
    (h : IsDefault leaves part name value) (hnotMem : some name ∉ (front ++ back).map Prod.fst) :
    Respelling leaves part (.object (front ++ back)) (.object (front ++ (some name, value) :: back))
  /-- The object is replaced by the array of all its fields in the order of their declaration. -/
  | array {entries : List (Json5Text × Json5)} {items : List Json5}
    (h : List.Forall₂ (part.StandsFor leaves entries) part.names items) :
    Respelling leaves part (.object entries) (.array items)

/-- A record that is written otherwise is read as the same. -/
theorem Respelling.read {part : Part} {value value' : Json5}
    (h : Respelling leaves part value value') {content : part.Content}
    (hread : part.read leaves value = .ok content) : part.read leaves value' = .ok content := by
  rw [← part.read_reader leaves] at hread ⊢
  cases h with
  | permute hperm => exact RecordReader.read_object_perm hperm hread
  | insert hname hvalue =>
    rw [← part.names_reader leaves] at hname
    exact RecordReader.read_object_insert hname hvalue hread
  | leaveOut hdefault => exact RecordReader.read_object_omit hdefault.fills hread
  | add hdefault hnotMem => exact RecordReader.read_object_add hdefault.fills hnotMem hread
  | array hitems =>
    rw [← part.names_reader leaves] at hitems
    exact RecordReader.read_array_of_standsFor hread
      (hitems.imp fun _ _ hitem => hitem.imp_right fun ⟨hnotMem, hdefault⟩ => ⟨hnotMem, hdefault.fills⟩)

theorem read_ne_of_count {part : Part} {entries : List (Json5Text × Json5)} {name : String}
    (hname : name ∈ part.names) (hcount : 1 < (entries.map Prod.fst).count (some name))
    (content : part.Content) : part.read leaves (.object entries) ≠ .ok content := by
  intro hread
  rw [← part.read_reader leaves] at hread
  rw [← part.names_reader leaves] at hname
  exact absurd (RecordReader.count_le_one hread hname) (Nat.not_le.mpr hcount)

/-! ## Records at any depth -/

/-- Ways to write a configuration otherwise: one record after the other is, whatever its depth. -/
inductive Rewriting (leaves : Leaves) (value : Json5) : Json5 → Prop
  | refl : Rewriting leaves value value
  | step {part : Part} {context : Json5 → Json5} {old new : Json5}
    (h : Rewriting leaves value (context old)) (hwithin : Within .config part context)
    (hrespelling : Respelling leaves part old new) : Rewriting leaves value (context new)

/-- A configuration that is written otherwise is read as the same. -/
theorem Rewriting.read {value value' : Json5} (h : Rewriting leaves value value') {config : Config}
    (hread : leaves.config value = .ok config) : leaves.config value' = .ok config := by
  induction h with
  | refl => exact hread
  | step _ hwithin hrespelling ih =>
    obtain ⟨content, hcontent, hreplace⟩ := hwithin.exists_read leaves ih
    exact hreplace _ (hrespelling.read hcontent)

theorem Within.config_ne_of_count {part : Part} {context : Json5 → Json5}
    (h : Within .config part context) {entries : List (Json5Text × Json5)} {name : String}
    (hname : name ∈ part.names) (hcount : 1 < (entries.map Prod.fst).count (some name))
    (config : Config) : leaves.config (context (.object entries)) ≠ .ok config := by
  intro hread
  obtain ⟨content, hcontent, -⟩ := h.exists_read leaves hread
  exact read_ne_of_count hname hcount content hcontent

/-! ## The interfaces -/

/-- A server that is written with these interfaces. -/
inductive Lists (items : List Json5) : Json5 → Prop
  | entry (front back : List (Json5Text × Json5)) :
    Lists items (.object (front ++ (some "interfaces", .array items) :: back))
  | item (after : List Json5) : Lists items (.array (.array items :: after))

theorem interfaces_of_set {draft draft' : ServerDraft} {items : List Json5} {settings : ServerSettings}
    (hset : (ServerDraft.interfacesField leaves).set (.array items) draft = .ok draft')
    (hfinish : ServerDraft.finish .object draft' = .ok settings) :
    List.Forall₂ (fun item interface => leaves.interface item = .ok interface) items
      settings.interfaces := by
  obtain ⟨list, hlist, rfl⟩ := set_kept_eq_ok_iff.mp hset
  cases hfinish
  exact readList_array_eq_ok_iff.mp hlist

/-- The interfaces of a server are those that are listed, in their order. -/
theorem Lists.forall₂_interfaces {items : List Json5} {value : Json5} (h : Lists items value)
    {settings : ServerSettings} (hread : leaves.server value = .ok settings) :
    List.Forall₂ (fun item interface => leaves.interface item = .ok interface) items
      settings.interfaces := by
  change (ServerDraft.reader leaves).read value = .ok settings at hread
  cases h with
  | entry front back =>
    have hfield : ServerDraft.interfacesField leaves ∈ (ServerDraft.reader leaves).fields := .head _
    obtain ⟨draft, draft', hset, hfinish, -⟩ :=
      RecordReader.exists_set_of_read_object hfield hread
    exact interfaces_of_set hset hfinish
  | item after =>
    have hfield : (ServerDraft.reader leaves).fields[([] : List Json5).length]? =
        some (ServerDraft.interfacesField leaves) := rfl
    obtain ⟨draft, draft', hset, hfinish, -⟩ :=
      RecordReader.exists_set_of_read_array hfield hread
    exact interfaces_of_set hset hfinish

theorem server_of_set {draft draft' : ConfigDraft} {value : Json5} {config : Config}
    (hset : (ConfigDraft.serverField leaves).set value draft = .ok draft')
    (hfinish : ConfigDraft.finish .object draft' = .ok config) :
    leaves.server value = .ok config.server := by
  obtain ⟨settings, hsettings, rfl⟩ := set_kept_eq_ok_iff.mp hset
  cases hfinish
  exact hsettings

theorem Within.read_server {context : Json5 → Json5} (h : Within .config .server context)
    {value : Json5} {config : Config} (hread : leaves.config (context value) = .ok config) :
    leaves.server value = .ok config.server := by
  change (ConfigDraft.reader leaves).read (context value) = .ok config at hread
  have hfield : ConfigDraft.serverField leaves ∈ (ConfigDraft.reader leaves).fields := .head _
  cases h with
  | entry front back hinner hwithin =>
    obtain ⟨rfl, rfl⟩ := hwithin.eq_of_depth_le hinner.depth_lt
    cases hinner
    obtain ⟨draft, draft', hset, hfinish, -⟩ :=
      RecordReader.exists_set_of_read_object hfield hread
    exact server_of_set hset hfinish
  | item before after hname hinner hwithin =>
    obtain ⟨rfl, rfl⟩ := hwithin.eq_of_depth_le hinner.depth_lt
    cases hinner
    obtain ⟨draft, draft', hset, hfinish, -⟩ :=
      RecordReader.exists_set_of_read_array (RecordReader.getElem?_of_names hfield hname) hread
    exact server_of_set hset hfinish

/-! ## The whole -/

namespace Config

theorem parseWith_eq_ok_iff {parser : String → Option Json5} {reader : Reader Config} {text : String}
    {value : Json5} (htext : parser text = some value) {config : Config} :
    parseWith parser reader text = .ok config ↔ reader value = .ok config := by
  rw [parseWith, htext]
  exact mapError_eq_ok_iff

/-- A configuration does not depend on how it is written down, whatever its single settings look
like and however texts are parsed. Wherever records of a value that is read are written otherwise,
the configuration stays the same. A group of settings that sets nothing equals its default. The
interfaces are read in their order. A value with an object that has a field twice is no
configuration, and neither is a text of it. -/
theorem ofJson5_of_rewriting (leaves : Leaves) (parser : String → Option Json5) :
    (∀ {value value' : Json5} {config : Config}, Rewriting leaves value value' →
        leaves.config value = .ok config →
        leaves.config value' = .ok config ∧
          ∀ text, parser text = some value' → parseWith parser leaves.config text = .ok config) ∧
      (∀ name ∈ Part.config.names,
        IsDefault leaves .config name (.object []) ∧ IsDefault leaves .config name (.array [])) ∧
      (∀ {context : Json5 → Json5} {server : Json5} {items : List Json5} {config : Config},
        Within .config .server context → Lists items server →
        leaves.config (context server) = .ok config →
        List.Forall₂ (fun item interface => leaves.interface item = .ok interface) items
          config.server.interfaces) ∧
      ∀ {part : Part} {context : Json5 → Json5} {entries : List (Json5Text × Json5)} {name : String},
        Within .config part context → name ∈ part.names →
        1 < (entries.map Prod.fst).count (some name) →
        ∀ config, leaves.config (context (.object entries)) ≠ .ok config ∧
          ∀ text, parser text = some (context (.object entries)) →
            parseWith parser leaves.config text ≠ .ok config := by
  refine ⟨?_, fun _ => isDefault_empty leaves, fun hwithin hlists hread =>
    hlists.forall₂_interfaces (hwithin.read_server hread), ?_⟩
  · intro value value' config hrewriting hread
    have hread' := hrewriting.read hread
    exact ⟨hread', fun text htext => (parseWith_eq_ok_iff htext).mpr hread'⟩
  · intro part context entries name hwithin hname hcount config
    have hne : leaves.config (context (.object entries)) ≠ .ok config :=
      hwithin.config_ne_of_count hname hcount config
    exact ⟨hne, fun text htext hparse => hne ((parseWith_eq_ok_iff htext).mp hparse)⟩

/-- In a text an interface may be written as an array, with the idle timeout that it has by
default. -/
theorem ofJson5_of_rewriting_array :
    let config := { standard with server.interfaces := [⟨.v4 ⟨127, 0, 0, 1⟩ 3478, 20⟩] }
    parse "\x7b server: \x7b interfaces: [\x7b listen: '127.0.0.1:3478' \x7d] \x7d \x7d" = .ok config ∧
      parse "\x7b server: \x7b interfaces: [['127.0.0.1:3478', 20]] \x7d \x7d" = .ok config := by
  intro config
  let twenty : Numeral := ⟨none, .decimal ['2', '0'] none none⟩
  let whole (interface : Json5) : Json5 :=
    .object [(some "server", .object [(some "interfaces", .array [interface])])]
  have hwithin : Within .config .interface whole :=
    .entry [] [] .server (.entry [] [] (.interface [] []) .here)
  have hrespelling : Respelling .standard .interface
      (.object [(some "listen", .string (some "127.0.0.1:3478"))])
      (.array [.string (some "127.0.0.1:3478"), .number twenty]) :=
    .array (.cons (.inl (.head _)) (.cons (.inr ⟨by decide, .idleTimeout (by decide +kernel)⟩) .nil))
  have hread := (ofJson5_of_rewriting .standard Json5.parse?).1 (.step .refl hwithin hrespelling)
    (by decide +kernel : Leaves.standard.config _ = .ok config)
  have htext : Json5.parse? "\x7b server: \x7b interfaces: [['127.0.0.1:3478', 20]] \x7d \x7d" =
      some (whole (.array [.string (some "127.0.0.1:3478"), .number twenty])) :=
    (parse?_eq_some_iff _ _).mpr
      ⟨[.openBrace, .word (some "server") false, .colon, .openBrace, .word (some "interfaces") false,
        .colon, .openBracket, .openBracket, .string (some "127.0.0.1:3478"), .comma, .number twenty,
        .closeBracket, .closeBracket, .closeBrace, .closeBrace], by decide +kernel, rfl⟩
  exact ⟨by decide +kernel, hread.2 _ htext⟩

-- A group that says nothing may be left out, but it cannot stand twice.
example : parse "{ log: {} }" = .ok standard ∧
    parse "{ log: {}, log: {} }" = .error (.unfit (.duplicateField "log")) := by decide +kernel

end Config

end IceTcp
