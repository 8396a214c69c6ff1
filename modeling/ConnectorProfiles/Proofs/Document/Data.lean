import ConnectorProfiles.Proofs.Document.Records

/-!
# Data and the documents that hold them

The data of a document are what it says when the order of keys and the notation do not matter.
Readers of texts, lists, maps and records see nothing else: from two documents that hold the same
data they read the same, if no key repeats and no record is given more items than it has fields.
-/

namespace ConnectorProfiles

variable {α β γ : Type}

/-- Data: tables, arrays and plain values. -/
inductive Data where
  | string (value : String)
  | bool (value : Bool)
  | integer (value : Int)
  | real (value : Decimal.Binary64)
  | array (items : List Data)
  | table (entries : List (String × Data))

/-- Both lists have the same keys, in any order, and parts of the same key are related. -/
structure Keyed (R : α → β → Prop) (members : List (String × α)) (entries : List (String × β)) :
    Prop where
  keys : (members.map (·.1)).Perm (entries.map (·.1))
  each : ∀ {key a b}, (key, a) ∈ members → (key, b) ∈ entries → R a b

/-! ### Parts under the same keys -/

namespace Keyed

variable {R : α → β → Prop} {members : List (String × α)} {entries : List (String × β)}

/-- Nothing stands under the same keys as nothing. -/
theorem nil : Keyed R [] [] := ⟨.refl _, by simp⟩

/-- A part of a key has a related part. -/
theorem exists_right (h : Keyed R members entries) {key : String} {a : α}
    (ha : (key, a) ∈ members) : ∃ b, (key, b) ∈ entries ∧ R a b := by
  obtain ⟨⟨_, b⟩, hb, rfl⟩ := List.mem_map.mp (h.keys.mem_iff.mp (List.mem_map_of_mem ha))
  exact ⟨b, hb, h.each ha hb⟩

/-- A part of a key is related to a part. -/
theorem exists_left (h : Keyed R members entries) {key : String} {b : β}
    (hb : (key, b) ∈ entries) : ∃ a, (key, a) ∈ members ∧ R a b := by
  obtain ⟨⟨_, a⟩, ha, rfl⟩ := List.mem_map.mp (h.keys.mem_iff.mpr (List.mem_map_of_mem hb))
  exact ⟨a, ha, h.each ha hb⟩

/-- The same keys are missing on both sides. -/
theorem lacks_iff (h : Keyed R members entries) {key : String} :
    Lacks members key ↔ Lacks entries key := by
  constructor
  · rintro hlacks ⟨_, b⟩ hb rfl
    obtain ⟨a, ha, -⟩ := h.exists_left hb
    exact hlacks _ ha rfl
  · rintro hlacks ⟨_, a⟩ ha rfl
    obtain ⟨b, hb, -⟩ := h.exists_right ha
    exact hlacks _ hb rfl

/-- A new key may be added on both sides, with parts that are related. -/
theorem cons {key : String} {a : α} {b : β} (h : Keyed R members entries)
    (hkey : Lacks entries key) (hab : R a b) :
    Keyed R ((key, a) :: members) ((key, b) :: entries) := by
  refine ⟨h.keys.cons key, fun {other a' b'} hleft hright ↦ ?_⟩
  rcases List.mem_cons.mp hleft with heq | ha
  · obtain ⟨rfl, rfl⟩ := Prod.mk.inj heq
    rcases List.mem_cons.mp hright with heq | hb
    · obtain ⟨-, rfl⟩ := Prod.mk.inj heq
      exact hab
    · exact absurd rfl (hkey _ hb)
  · rcases List.mem_cons.mp hright with heq | hb
    · obtain ⟨rfl, -⟩ := Prod.mk.inj heq
      exact absurd rfl (h.lacks_iff.mpr hkey _ ha)
    · exact h.each ha hb

/-- The order of the keys on the left does not matter. -/
theorem perm_left {others : List (String × α)} (h : Keyed R members entries)
    (hperm : others.Perm members) : Keyed R others entries :=
  ⟨(hperm.map _).trans h.keys, fun ha hb ↦ h.each (hperm.mem_iff.mp ha) hb⟩

/-- The order of the keys on the right does not matter. -/
theorem perm_right {others : List (String × β)} (h : Keyed R members entries)
    (hperm : others.Perm entries) : Keyed R members others :=
  ⟨h.keys.trans (hperm.map _).symm, fun ha hb ↦ h.each ha (hperm.mem_iff.mp hb)⟩

/-- A part that is determined by its key stands on every right side of the same left side. -/
theorem mem_of_mem {others : List (String × β)} (h : Keyed R members entries)
    (h' : Keyed R members others) (hunique : ∀ {a b c}, R a b → R a c → b = c) {key : String}
    {b : β} (hb : (key, b) ∈ entries) : (key, b) ∈ others := by
  obtain ⟨a, ha, hab⟩ := h.exists_left hb
  obtain ⟨c, hc, hac⟩ := h'.exists_right ha
  rwa [hunique hab hac]

/-- Parts that are related in order are related under their keys, if no key repeats. -/
theorem of_forall₂ (hkeys : (members.map (·.1)).Nodup)
    (h : List.Forall₂ (fun member entry ↦ ∃ b, R member.2 b ∧ (member.1, b) = entry)
      members entries) : Keyed R members entries := by
  induction h with
  | nil => exact nil
  | @cons member entry members entries hentry _ ih =>
    obtain ⟨b, hb, rfl⟩ := hentry
    obtain ⟨hkey, hkeys⟩ := List.nodup_cons.mp hkeys
    refine (ih hkeys).cons ((ih hkeys).lacks_iff.mp ?_) hb
    rintro other hother heq
    exact hkey (List.mem_map.mpr ⟨other, hother, heq⟩)

/-- Parts that are images are related when what they are images of is. -/
theorem map_left {f : γ → α} {members : List (String × γ)}
    (h : Keyed (fun c b ↦ R (f c) b) members entries) :
    Keyed R (members.map fun member ↦ (member.1, f member.2)) entries := by
  refine ⟨?_, fun ha hb ↦ ?_⟩
  · rw [List.map_map]
    exact h.keys
  · obtain ⟨⟨_, c⟩, hc, heq⟩ := List.mem_map.mp ha
    obtain ⟨rfl, rfl⟩ := Prod.mk.inj heq
    exact h.each hc hb

/-- Values by position stand under the same names when they are related in order. -/
theorem zip {names : List String} (hnames : names.Nodup) {as : List α} {bs : List β}
    (h : List.Forall₂ R as bs) : Keyed R (names.zip as) (names.zip bs) := by
  induction names generalizing as bs with
  | nil => exact nil
  | cons name names ih =>
    obtain ⟨hname, hnames⟩ := List.nodup_cons.mp hnames
    cases h with
    | nil => exact nil
    | @cons a b as bs hab hrest =>
      exact (ih hnames hrest).cons (lacks_zip_of_not_mem hname) hab

end Keyed

namespace Data

/-- Induction over data that reaches every item and every entry. -/
@[elab_as_elim, induction_eliminator]
theorem tree_induction {P : Data → Prop} (string : ∀ value, P (.string value))
    (bool : ∀ value, P (.bool value)) (integer : ∀ value, P (.integer value))
    (real : ∀ value, P (.real value)) (array : ∀ items, (∀ item ∈ items, P item) → P (.array items))
    (table : ∀ entries, (∀ entry ∈ entries, P entry.2) → P (.table entries))
    (data : Data) : P data := by
  refine @Data.rec P (fun items ↦ ∀ item ∈ items, P item)
    (fun entries ↦ ∀ entry ∈ entries, P entry.2) (fun entry ↦ P entry.2)
    string bool integer real array table ?_ ?_ ?_ ?_ ?_ data
  · simp
  · intro item items hitem hitems
    exact List.forall_mem_cons.mpr ⟨hitem, hitems⟩
  · simp
  · intro entry entries hentry hentries
    exact List.forall_mem_cons.mpr ⟨hentry, hentries⟩
  · intro key data hdata
    exact hdata

/-- No table has a key twice. -/
inductive Distinct : Data → Prop
  | string (value : String) : Distinct (.string value)
  | bool (value : Bool) : Distinct (.bool value)
  | integer (value : Int) : Distinct (.integer value)
  | real (value : Decimal.Binary64) : Distinct (.real value)
  | array {items : List Data} (each : ∀ item ∈ items, Distinct item) : Distinct (.array items)
  | table {entries : List (String × Data)} (keys : (entries.map (·.1)).Nodup)
      (each : ∀ entry ∈ entries, Distinct entry.2) : Distinct (.table entries)

/-- The items of distinct data are distinct. -/
theorem Distinct.item {items : List Data} (h : (Data.array items).Distinct) {item : Data}
    (hitem : item ∈ items) : item.Distinct := by
  cases h with
  | array each => exact each item hitem

/-- The entries of distinct data are distinct. -/
theorem Distinct.entry {entries : List (String × Data)} (h : (Data.table entries).Distinct)
    {entry : String × Data} (hentry : entry ∈ entries) : entry.2.Distinct := by
  cases h with
  | table keys each => exact each entry hentry

/-- The keys of a distinct table are distinct. -/
theorem Distinct.nodup_keys {entries : List (String × Data)} (h : (Data.table entries).Distinct) :
    (entries.map (·.1)).Nodup := by
  cases h with
  | table keys each => exact keys

end Data

namespace Document

/-- The document holds the data: it is closed, and its keys may stand in any order. -/
inductive Holds : Document → Data → Prop
  | string (value : String) : Holds (.string value) (.string value)
  | bool (value : Bool) : Holds (.bool value) (.bool value)
  | integer (value : Int) : Holds (.integer value) (.integer value)
  | real (value : Decimal.Binary64) : Holds (.real (.finite value)) (.real value)
  | sequence {items : List Document} {ending : Ending} {data : List Data}
      (closed : ending.check = .ok ()) (each : List.Forall₂ Holds items data) :
      Holds (.sequence items ending) (.array data)
  | mapping {members : List (String × Document)} {ending : Ending}
      {entries : List (String × Data)} (closed : ending.check = .ok ())
      -- `Keyed Holds members entries`, which cannot be named before `Holds` is defined
      (keys : (members.map (·.1)).Perm (entries.map (·.1)))
      (each : ∀ {key document data}, (key, document) ∈ members → (key, data) ∈ entries →
        Holds document data) :
      Holds (.mapping members ending) (.table entries)

end Document

open Document

/-- The data determine what is read: from all documents that hold them the same. -/
def Data.Determines (data : Data) (read : Document → Read α) : Prop :=
  ∀ document other, document.Holds data → other.Holds data →
    ∀ a, read document = .ok a → read other = .ok a

namespace Data

variable {data : Data} {read : Document → Read α}

/-! ### Texts, lists and maps -/

/-- Data determine the text that is read. -/
theorem determines_text (data : Data) : data.Determines text := by
  intro document other hdocument hother a h
  cases hdocument with
  | string value =>
    cases hother
    exact h
  | _ => cases h

/-- Data are never null. -/
theorem Determines.optional (h : data.Determines read) : data.Determines (optional read) := by
  have hread {document : Document} (hdocument : document.Holds data) :
      document.optional read = some <$> read document := by
    cases hdocument <;> rfl
  intro document other hdocument hother a
  rw [hread hdocument, hread hother, map_eq_ok_iff, map_eq_ok_iff]
  rintro ⟨part, hpart, rfl⟩
  exact ⟨part, h document other hdocument hother part hpart, rfl⟩

/-- From documents of the same items the same is read one by one. -/
private theorem forall₂_read_of_holds {data : List Data} {items others : List Document}
    {parts : List α} (h : ∀ item ∈ data, item.Determines read)
    (hitems : List.Forall₂ Holds items data) (hothers : List.Forall₂ Holds others data)
    (hparts : List.Forall₂ (fun item part ↦ read item = .ok part) items parts) :
    List.Forall₂ (fun item part ↦ read item = .ok part) others parts := by
  induction hitems generalizing others parts with
  | nil =>
    cases hothers
    cases hparts
    exact .nil
  | cons hitem _ ih =>
    cases hothers with
    | cons hother hothers =>
      cases hparts with
      | cons hpart hparts =>
        obtain ⟨hfirst, hrest⟩ := List.forall_mem_cons.mp h
        exact .cons (hfirst _ _ hitem hother _ hpart) (ih hrest hothers hparts)

/-- Items determine the list that is read. -/
theorem determines_listOf
    (h : ∀ items, data = .array items → ∀ item ∈ items, item.Determines read) :
    data.Determines (listOf read) := by
  intro document other hdocument hother parts
  cases hdocument with
  | sequence closed each =>
    cases hother with
    | sequence closed' each' =>
      simp only [listOf, bind_eq_ok_iff, mapM_eq_ok_iff, pure_eq_ok_iff]
      rintro ⟨parts, hparts, -, -, rfl⟩
      exact ⟨parts, forall₂_read_of_holds (h _ rfl) each each' hparts, (), closed', rfl⟩
  | _ => nofun

/-- A map is read from members whose keys do not repeat exactly when it has their keys, and under
each what is read from the member. -/
theorem mapOf_mapping_eq_ok_iff {members : List (String × Document)} {ending : Ending}
    (hkeys : (members.map (·.1)).Nodup) {m : NameMap α} :
    (mapping members ending).mapOf read = .ok m ↔ ending.check = .ok () ∧
      Keyed (fun document part ↦ read document = .ok part) members m.entries := by
  simp only [mapOf, bind_eq_ok_iff, pure_eq_ok_iff, mapM_eq_ok_iff]
  constructor
  · rintro ⟨entries, hentries, ⟨⟩, hclosed, rfl⟩
    have hkeyed : Keyed (fun document part ↦ read document = .ok part) members entries :=
      .of_forall₂ hkeys hentries
    have hperm := NameMap.perm_entries_ofList (hkeyed.keys.nodup_iff.mp hkeys)
    exact ⟨hclosed, hkeyed.perm_right hperm⟩
  · rintro ⟨hclosed, hm⟩
    have heach : ∀ member ∈ members, ∃ entry : String × α, ∃ part,
        read member.2 = .ok part ∧ (member.1, part) = entry := by
      intro member hmember
      obtain ⟨part, -, hpart⟩ := hm.exists_right hmember
      exact ⟨_, part, hpart, rfl⟩
    obtain ⟨entries, hentries⟩ := exists_forall₂_iff.mpr heach
    refine ⟨entries, hentries, (), hclosed, ?_⟩
    have hkeyed : Keyed (fun document part ↦ read document = .ok part) members entries :=
      .of_forall₂ hkeys hentries
    have hunique {document : Document} {a b : α} (ha : read document = .ok a)
        (hb : read document = .ok b) : a = b := Except.ok.inj (ha.symm.trans hb)
    have hnodup := hkeyed.keys.nodup_iff.mp hkeys
    ext name part
    rw [NameMap.get?_ofList_eq_some_iff, ← once_iff_last hnodup, once_iff_mem hnodup,
      ← NameMap.mem_entries_iff]
    exact ⟨hkeyed.mem_of_mem hm hunique, hm.mem_of_mem hkeyed hunique⟩

/-- Entries determine the map that is read. -/
theorem determines_mapOf (hdistinct : data.Distinct)
    (h : ∀ entries, data = .table entries → ∀ entry ∈ entries, entry.2.Determines read) :
    data.Determines (mapOf read) := by
  intro document other hdocument hother m
  cases hdocument with
  | mapping closed keys each =>
    cases hother with
    | mapping closed' keys' each' =>
      have hnodup := hdistinct.nodup_keys
      rw [mapOf_mapping_eq_ok_iff (keys.nodup_iff.mpr hnodup),
        mapOf_mapping_eq_ok_iff (keys'.nodup_iff.mpr hnodup)]
      rintro ⟨-, hm⟩
      refine ⟨closed', keys'.trans (keys.symm.trans hm.keys), fun hother hpart ↦ ?_⟩
      obtain ⟨document, hdocument, hread⟩ := hm.exists_left hpart
      obtain ⟨data, hdata, hholds⟩ := Keyed.exists_right ⟨keys, each⟩ hdocument
      exact h _ rfl _ hdata _ _ hholds (each' hother hdata) _ hread
  | _ => nofun

/-! ### Records -/

/-- The data that stand under the names of the fields of a record. -/
def forRecord (shape : RecordShape) : Data → List (String × Data)
  | .array items => shape.names.zip items
  | .table entries => entries
  | _ => []

variable {shape : RecordShape}

/-- Distinct data stand under each name once. -/
theorem Distinct.nodup_forRecord (hnames : shape.names.Nodup) (h : data.Distinct) :
    ((data.forRecord shape).map (·.1)).Nodup := by
  cases h with
  | array each => exact nodup_zip hnames
  | table keys each => exact keys
  | _ => exact List.nodup_nil

/-- Distinct data have distinct data under every name. -/
theorem Distinct.of_mem_forRecord (h : data.Distinct) {entry : String × Data}
    (hentry : entry ∈ data.forRecord shape) : entry.2.Distinct := by
  cases h with
  | array each => exact each _ (List.of_mem_zip hentry).2
  | table keys each => exact each _ hentry
  | _ => cases hentry

end Data

namespace RecordShape

/-- The values that a record takes from a document of some data, and those that it takes from
another document of the data, hold the same data under the same names. -/
theorem Lists.exists_of_holds {shape : RecordShape} {data : Data} {document other : Document}
    {values : List (String × Document)} (hnames : shape.names.Nodup)
    (hrefuses : shape.refusesUnknown = true)
    (hfit : ∀ items, data = .array items → items.length ≤ shape.names.length)
    (hdocument : document.Holds data) (hother : other.Holds data)
    (hlists : shape.Lists document values) (hadmits : shape.Admits values) :
    Keyed Holds values (data.forRecord shape) ∧ ∃ others, shape.Lists other others ∧
      shape.Admits others ∧ Keyed Holds others (data.forRecord shape) := by
  cases hlists with
  | mapping closed =>
    cases hdocument with
    | mapping _ keys each =>
      cases hother with
      | @mapping others _ _ closed' keys' each' =>
        have hvalues : Keyed Holds values _ := ⟨keys, each⟩
        have hothers : Keyed Holds others _ := ⟨keys', each'⟩
        refine ⟨hvalues, others, .mapping closed', ?_, hothers⟩
        -- An unknown name of the other document is one of this document, which refuses it.
        rintro ⟨name, value⟩ hmember hunknown
        obtain ⟨data, hdata, -⟩ := hothers.exists_right hmember
        obtain ⟨given, hgiven, -⟩ := hvalues.exists_left hdata
        have hadmitted := (hadmits _ hgiven hunknown).1
        rw [hrefuses] at hadmitted
        cases hadmitted
  | sequence closed fit =>
    cases hdocument with
    | sequence _ each =>
      cases hother with
      | @sequence others _ _ closed' each' =>
        refine ⟨.zip hnames each, _, .sequence closed' (.inl ?_), shape.admits_zip others,
          .zip hnames each'⟩
        have hlength := hfit _ rfl
        rw [names, List.length_map] at hlength
        rwa [each'.length_eq]

end RecordShape

/-- A field whose part the data determine has the same part from all values that hold the data. -/
theorem Field.Gives.of_holds {field : Field α} {values others : List (String × Document)}
    {entries : List (String × Data)} {part : α} (hkeys : (entries.map (·.1)).Nodup)
    (hvalues : Keyed Holds values entries) (hothers : Keyed Holds others entries)
    (hread : ∀ data, (field.name, data) ∈ entries → data.Determines field.read)
    (h : field.Gives values part) : field.Gives others part := by
  rcases h with ⟨hlacks, hdefault⟩ | ⟨value, honce, hpart⟩
  · exact .inl ⟨hothers.lacks_iff.mpr (hvalues.lacks_iff.mp hlacks), hdefault⟩
  · obtain ⟨data, hdata, hvalue⟩ := hvalues.exists_right honce.last.mem
    obtain ⟨other, hmem, hother⟩ := hothers.exists_left hdata
    have honce := (once_iff_mem (hothers.keys.nodup_iff.mpr hkeys)).mpr hmem
    exact .inr ⟨other, honce, hread data hdata _ _ hvalue hother _ hpart⟩

/-- Data determine a record that refuses further members, if they determine what its fields are
given and if no array in its place has too many items. -/
theorem RecordShape.determines {shape : RecordShape} {read : Document → Read α} {data : Data}
    {Gives : α → List (String × Document) → Prop} (hnames : shape.names.Nodup)
    (hrefuses : shape.refusesUnknown = true)
    (hread : ∀ document a, read document = .ok a ↔
      ∃ values, shape.Lists document values ∧ shape.Admits values ∧ Gives a values)
    (hfit : ∀ items, data = .array items → items.length ≤ shape.names.length)
    (hgives : ∀ a values others, Keyed Holds values (data.forRecord shape) →
      Keyed Holds others (data.forRecord shape) → Gives a values → Gives a others) :
    data.Determines read := by
  intro document other hdocument hother a
  rw [hread, hread]
  rintro ⟨values, hlists, hadmits, hgiven⟩
  obtain ⟨hvalues, others, hlists', hadmits', hothers⟩ :=
    hlists.exists_of_holds hnames hrefuses hfit hdocument hother hadmits
  exact ⟨others, hlists', hadmits', hgives a values others hvalues hothers hgiven⟩

end ConnectorProfiles
