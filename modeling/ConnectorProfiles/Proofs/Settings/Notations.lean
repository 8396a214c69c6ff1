import ConnectorProfiles.Proofs.Document.Data
import ConnectorProfiles.Proofs.Settings.Loading
import ConnectorProfiles.Proofs.Settings.Schema

/-!
# Settings in two notations

A configuration may be written as TOML and as JSON. When both texts write the same data, whatever
the order of the keys, both are decoded as the same configuration or neither is, so they keep or
break the same rules. Only in a record that is written as an array with too many items would the
notations differ: there TOML passes over the surplus, and JSON does not.
-/

namespace ConnectorProfiles

open Document

/-! ### Values that write data -/

/-- The JSON value writes the data; its keys may stand in any order. -/
inductive Json.Writes : Json → Data → Prop
  | string (value : String) : Writes (.string value) (.string value)
  | bool (value : Bool) : Writes (.bool value) (.bool value)
  | integer (value : Int) : Writes (.number (.integer value)) (.integer value)
  | real (value : Decimal.Binary64) : Writes (.number (.real value)) (.real value)
  | array {items : List Json} {data : List Data} (each : List.Forall₂ Writes items data) :
      Writes (.array items) (.array data)
  | object {members : List (String × Json)} {entries : List (String × Data)}
      -- `Keyed Writes members entries`, which cannot be named before `Writes` is defined
      (keys : (members.map (·.1)).Perm (entries.map (·.1)))
      (each : ∀ {key value data}, (key, value) ∈ members → (key, data) ∈ entries →
        Writes value data) :
      Writes (.object members) (.table entries)

/-- An object writes the table under whose keys its members write. -/
theorem Json.Writes.of_keyed {members : List (String × Json)} {entries : List (String × Data)}
    (h : Keyed Writes members entries) : (Json.object members).Writes (.table entries) :=
  .object h.keys h.each

/-- The document of a JSON value holds the data that the value writes. -/
theorem Json.Writes.holds {value : Json} {data : Data} (h : value.Writes data) :
    value.toDocument.Holds data := by
  induction data generalizing value with
  | array data ih =>
    cases h with
    | array each =>
      rw [toDocument_array]
      exact .sequence rfl (List.forall₂_map_left_iff.mpr (forall₂_imp_of_mem each
        fun item hitem _ h ↦ ih item hitem h))
  | table entries ih =>
    cases h with
    | object keys each =>
      rw [toDocument_object]
      have hkeyed : Keyed (fun (value : Json) data ↦ value.toDocument.Holds data) _ entries :=
        ⟨keys, fun hvalue hdata ↦ ih _ hdata (each hvalue hdata)⟩
      exact .mapping rfl hkeyed.map_left.keys hkeyed.map_left.each
  | string | bool | integer | real =>
    cases h
    constructor

namespace Toml

/-- The TOML value writes the data; its keys may stand in any order. -/
inductive Value.Writes : Value → Data → Prop
  | string (value : String) : Writes (.string value) (.string value)
  | bool (value : Bool) : Writes (.bool value) (.bool value)
  | integer (value : Int) : Writes (.integer (some value)) (.integer value)
  | real (value : Decimal.Binary64) : Writes (.real (some (.finite value))) (.real value)
  | array {items : List Value} {data : List Data} (each : List.Forall₂ Writes items data) :
      Writes (.array items) (.array data)
  | tables {last : Value} {before : List Value} {data : List Data}
      (each : List.Forall₂ Writes (before.reverse ++ [last]) data) :
      Writes (.tables last before) (.array data)
  | table {origin : Origin} {members : List (String × Value)} {entries : List (String × Data)}
      (keys : (members.map (·.1)).Perm (entries.map (·.1)))
      (each : ∀ {key value data}, (key, value) ∈ members → (key, data) ∈ entries →
        Writes value data) :
      Writes (.table origin members) (.table entries)

/-- A table writes the table under whose keys its entries write. -/
theorem Value.Writes.of_keyed {origin : Origin} {members : List (String × Value)}
    {entries : List (String × Data)} (h : Keyed Writes members entries) :
    (Value.table origin members).Writes (.table entries) :=
  .table h.keys h.each

/-- Items become documents one by one. -/
theorem documents_eq_map (items : List Value) : documents items = items.map Value.toDocument := by
  induction items with
  | nil => rfl
  | cons item rest ih => rw [documents, ih, List.map_cons]

/-- Entries become members one by one and keep their keys. -/
theorem members_eq_map (entries : Entries) :
    members entries = entries.map fun entry ↦ (entry.1, entry.2.toDocument) := by
  induction entries with
  | nil => rfl
  | cons entry rest ih => rw [members, ih, List.map_cons, member]

/-- The document of a TOML value holds the distinct data that the value writes. -/
theorem Value.Writes.holds {value : Value} {data : Data} (h : value.Writes data)
    (hdistinct : data.Distinct) : value.toDocument.Holds data := by
  induction data generalizing value with
  | array data ih =>
    have heach {items : List Value} (each : List.Forall₂ Writes items data) :
        List.Forall₂ Holds (items.map toDocument) data :=
      List.forall₂_map_left_iff.mpr (forall₂_imp_of_mem each fun item hitem _ h ↦
        ih item hitem h (hdistinct.item hitem))
    cases h with
    | array each =>
      rw [toDocument, documents_eq_map]
      exact .sequence rfl (heach each)
    | tables each =>
      have hitems := heach each
      rw [List.map_append, List.map_reverse] at hitems
      rw [toDocument, documents_eq_map]
      exact .sequence rfl hitems
  | table entries ih =>
    cases h with
    | @table _ found _ keys each =>
      have hkeyed : Keyed (fun (value : Value) data ↦ value.toDocument.Holds data) found entries :=
        ⟨keys, fun hvalue hdata ↦ ih _ hdata (each hvalue hdata) (hdistinct.entry hdata)⟩
      have hmembers := hkeyed.map_left
      have hperm := NameMap.perm_entries_ofList
        (hmembers.keys.nodup_iff.mpr hdistinct.nodup_keys)
      rw [toDocument, members_eq_map]
      exact .mapping rfl (hmembers.perm_left hperm).keys (hmembers.perm_left hperm).each
  | string | bool | integer | real =>
    cases h
    constructor

end Toml

/-! ### Settings that are determined by data -/

/-- Data determine the address that is read. -/
theorem Url.determines_read (data : Data) : data.Determines read := by
  intro document other hdocument hother u h
  cases hdocument with
  | string value =>
    cases hother
    exact h
  | _ => cases h

namespace ParticipantSettings

/-- Data determine the connector's own ids. -/
theorem determines_read {data : Data} (hdistinct : data.Distinct)
    (hfit : ∀ items, data = .array items → items.length ≤ shape.names.length) :
    data.Determines read := by
  have hnames : shape.names.Nodup := by decide
  refine RecordShape.determines hnames rfl (fun _ _ ↦ read_eq_ok_iff) hfit ?_
  rintro p values others hvalues hothers ⟨hid, hprotocols⟩
  have hkeys := hdistinct.nodup_forRecord hnames
  refine ⟨hid.of_holds hkeys hvalues hothers fun data _ ↦ data.determines_text,
    hprotocols.of_holds hkeys hvalues hothers fun data hdata ↦ ?_⟩
  exact Data.determines_mapOf (hdistinct.of_mem_forRecord hdata)
    fun _ _ entry _ ↦ entry.2.determines_text

end ParticipantSettings

namespace ProfileSettings

/-- Data determine a profile. -/
theorem determines_read {data : Data} (hdistinct : data.Distinct)
    (hfit : ∀ items, data = .array items → items.length ≤ shape.names.length) :
    data.Determines read := by
  have hnames : shape.names.Nodup := by decide
  refine RecordShape.determines hnames rfl (fun _ _ ↦ read_eq_ok_iff) hfit ?_
  rintro p values others hvalues hothers ⟨hname, hversion, hpath, hbinding, hwebhook, hextractor⟩
  have hkeys := hdistinct.nodup_forRecord hnames
  have htext (field : Field String) (hread : field.read = text) {part : String}
      (h : field.Gives values part) : field.Gives others part :=
    h.of_holds hkeys hvalues hothers fun data _ ↦ hread ▸ data.determines_text
  exact ⟨htext _ rfl hname, htext _ rfl hversion, htext _ rfl hpath, htext _ rfl hbinding,
    hwebhook.of_holds hkeys hvalues hothers fun data _ ↦ Url.determines_read data,
    hextractor.of_holds hkeys hvalues hothers fun data _ ↦ data.determines_text.optional⟩

end ProfileSettings

namespace Config

/-- No array that stands for a record has more items than the record has fields: neither one for the
connector's own ids, nor one for a profile of a tier. -/
structure Fits (entries : List (String × Data)) : Prop where
  participant : ∀ items, ("participant", .array items) ∈ entries →
    items.length ≤ ParticipantSettings.shape.names.length
  profiles : ∀ tier ∈ ["default_profiles", "profiles"], ∀ profiles,
    (tier, .array profiles) ∈ entries → ∀ items, .array items ∈ profiles →
      items.length ≤ ProfileSettings.shape.names.length

/-- Data determine a configuration. -/
theorem determines_read {entries : List (String × Data)} (hdistinct : (Data.table entries).Distinct)
    (hfit : Fits entries) : (Data.table entries).Determines read := by
  have hnames : shape.names.Nodup := by decide
  refine RecordShape.determines hnames rfl (fun _ _ ↦ read_eq_ok_iff) nofun ?_
  rintro c values others hvalues hothers ⟨hextractor, hparticipant, hdefault, hstandard⟩
  have hkeys := hdistinct.nodup_keys
  have hprofiles (tier : String) (htier : tier ∈ ["default_profiles", "profiles"]) (data : Data)
      (hdata : (tier, data) ∈ entries) : data.Determines (listOf ProfileSettings.read) := by
    refine Data.determines_listOf ?_
    rintro profiles rfl profile hprofile
    refine ProfileSettings.determines_read ((hdistinct.entry hdata).item hprofile) ?_
    rintro items rfl
    exact hfit.profiles tier htier profiles hdata items hprofile
  refine ⟨hextractor.of_holds hkeys hvalues hothers fun data _ ↦ data.determines_text,
    hparticipant.of_holds hkeys hvalues hothers fun data hdata ↦ ?_,
    hdefault.of_holds hkeys hvalues hothers (hprofiles _ (by decide)),
    hstandard.of_holds hkeys hvalues hothers (hprofiles _ (by decide))⟩
  refine ParticipantSettings.determines_read (hdistinct.entry hdata) ?_
  rintro items rfl
  exact hfit.participant items hdata

end Config

/-! ### Texts that write data -/

/-- The JSON text writes the data: it is scanned as a value that does, and nothing else follows. -/
def JsonText.Writes (text : String) (data : Data) : Prop :=
  ∃ value : Json, scan text = ⟨value.toDocument, false⟩ ∧ value.Writes data

/-- A JSON text with a value writes what the value does. -/
theorem JsonText.writes_of_parse {text : String} {value : Json} {data : Data}
    (h : parse text = .ok value) (hvalue : value.Writes data) : Writes text data := by
  refine ⟨value, ?_, hvalue⟩
  rw [← scan_root_of_parse h, ← (decode_eq_ok_iff.mp h).2]

/-- The TOML text writes the data: its table does. -/
def Toml.Writes (text : String) (data : Data) : Prop :=
  ∃ entries, parse? text = some entries ∧ (Value.table .header entries).Writes data

namespace Config

/-- Two texts of different notations come to the same: both yield a configuration, both break the
same rule, or both are not decoded. -/
inductive Agree (toml : Except ConfigFault Config) (json : Read Config) : Prop
  | accepted {c : Config} (fromToml : toml = .ok c) (fromJson : json = .ok c)
      (valid : c.validate = .ok ())
  | refused {c : Config} {violation : Violation} (fromToml : toml = .error (.invalid violation))
      (fromJson : json = .ok c) (invalid : c.validate = .error violation)
  | undecoded {fault other : Fault} (fromToml : toml = .error (.ofFault inlineOrigin fault))
      (fromJson : json = .error other)

/-- A TOML text and a JSON text that write the same data come to the same as configurations. -/
theorem notations_agree {entries : List (String × Data)} {tomlText jsonText : String}
    (hdistinct : (Data.table entries).Distinct) (hfit : Fits entries)
    (htoml : Toml.Writes tomlText (.table entries))
    (hjson : JsonText.Writes jsonText (.table entries)) :
    Agree (ofToml tomlText) (ofJson jsonText) := by
  obtain ⟨table, hparse, hwrites⟩ := htoml
  obtain ⟨value, hscan, hvalue⟩ := hjson
  have hdecode : Toml.decode read tomlText = read (Toml.Value.table .header table).toDocument := by
    rw [Toml.decode, hparse]
  have hread : ofJson jsonText = read value.toDocument := by
    rw [ofJson, JsonText.decode, hscan]
    cases read value.toDocument <;> rfl
  have hdetermines := determines_read hdistinct hfit
  have htable := hwrites.holds hdistinct
  rw [hread]
  cases hresult : read value.toDocument with
  | ok c =>
    have hc := hdecode.trans (hdetermines _ _ hvalue.holds htable c hresult)
    cases hvalid : c.validate with
    | ok _ => exact .accepted (parse_eq_ok_iff.mpr ⟨hc, hvalid⟩) rfl hvalid
    | error violation => exact .refused (parse_eq_invalid_iff.mpr ⟨c, hc, hvalid⟩) rfl hvalid
  | error other =>
    cases hfault : read (Toml.Value.table .header table).toDocument with
    | ok c =>
      rw [hdetermines _ _ htable hvalue.holds c hfault] at hresult
      cases hresult
    | error fault => exact .undecoded (parse_eq_ofFault_iff.mpr (hdecode.trans hfault)) rfl

/-- No profile, and the connector's own ids as an array without its last item. -/
def sampleData : List (String × Data) :=
  [("profiles", .array []), ("participant", .array [.string "did:web:a"])]

/-- The sample data as a TOML text. -/
def sampleToml : String := "profiles = []\nparticipant = [\"did:web:a\"]\n"

/-- The sample data as a JSON text, with the keys in the other order. -/
def sampleJson : String := "\x7b\"participant\":[\"did:web:a\"],\"profiles\":[]\x7d"

/-- The two sample texts come to the same. -/
theorem sample_notations_agree : (Data.table sampleData).Distinct ∧ Fits sampleData ∧
    Toml.Writes sampleToml (.table sampleData) ∧ JsonText.Writes sampleJson (.table sampleData) ∧
    Agree (ofToml sampleToml) (ofJson sampleJson) := by
  have hdistinct : (Data.table sampleData).Distinct := by
    refine .table (by decide) ?_
    simp only [sampleData, List.forall_mem_cons]
    exact ⟨.array (List.forall_mem_nil _), .array (List.forall_mem_singleton.mpr (.string _)),
      List.forall_mem_nil _⟩
  have hfit : Fits sampleData := by
    refine ⟨fun items hitems ↦ ?_, fun tier _ profiles hprofiles items hitems ↦ ?_⟩
    · obtain rfl : items = [.string "did:web:a"] := by simpa [sampleData] using hitems
      decide
    · obtain ⟨-, rfl⟩ | ⟨-, rfl⟩ : tier = "profiles" ∧ profiles = [] ∨
          tier = "participant" ∧ profiles = [.string "did:web:a"] := by
        simpa [sampleData] using hprofiles
      · cases hitems
      · simp at hitems
  have htoml : Toml.Writes sampleToml (.table sampleData) := by
    have hparse : Toml.parse? sampleToml = some [("profiles", .array []),
        ("participant", .array [.string "did:web:a"])] := by with_unfolding_all rfl
    refine ⟨_, hparse, .of_keyed ?_⟩
    exact (Keyed.nil.cons (lacks_nil _) (.array (.cons (.string _) .nil))).cons (by simp [Lacks])
      (.array .nil)
  have hjson : JsonText.Writes sampleJson (.table sampleData) := by
    have hparse : JsonText.parse sampleJson = .ok (.object [("participant", .array
      [.string "did:web:a"]), ("profiles", .array [])]) := by decide +kernel
    refine JsonText.writes_of_parse hparse (.of_keyed ?_)
    exact ((Keyed.nil.cons (lacks_nil _) (.array (.cons (.string _) .nil))).cons (by simp [Lacks])
      (.array .nil)).perm_left (.swap ..)
  exact ⟨hdistinct, hfit, htoml, hjson, notations_agree hdistinct hfit htoml hjson⟩

end Config

end ConnectorProfiles
