import ConnectorProfiles.Json.Basic
import ConnectorProfiles.Proofs.Elementwise
import ConnectorProfiles.Proofs.NameMap.LastWins

/-!
# Canonical JSON values

What a JSON value says when the last value of a repeated key counts is given twice: as the relation
`Json.Settled`, key by key, and as the function `Json.canonical`. Both agree, and a canonical value
stays as it is.
-/

namespace ConnectorProfiles.Json

/-- Induction over a value that reaches every item and every member. -/
@[elab_as_elim, induction_eliminator]
theorem tree_induction {P : Json → Prop} (null : P .null) (bool : ∀ value, P (.bool value))
    (number : ∀ value, P (.number value)) (string : ∀ value, P (.string value))
    (array : ∀ items, (∀ item ∈ items, P item) → P (.array items))
    (object : ∀ members, (∀ member ∈ members, P member.2) → P (.object members))
    (value : Json) : P value := by
  refine @Json.rec P (fun items ↦ ∀ item ∈ items, P item)
    (fun members ↦ ∀ member ∈ members, P member.2) (fun member ↦ P member.2)
    null bool number string array object ?_ ?_ ?_ ?_ ?_ value
  · simp
  · intro item items hitem hitems
    exact List.forall_mem_cons.mpr ⟨hitem, hitems⟩
  · simp
  · intro member members hmember hmembers
    exact List.forall_mem_cons.mpr ⟨hmember, hmembers⟩
  · intro key value hvalue
    exact hvalue

/-- Induction over a value that reaches every item of nested arrays but no member. -/
theorem array_induction {P : Json → Prop}
    (array : ∀ items, (∀ item ∈ items, P item) → P (.array items))
    (other : ∀ value, (∀ items, value ≠ .array items) → P value) (value : Json) : P value := by
  induction value with
  | array items ih => exact array items ih
  | null | bool | number | string | object => exact other _ nofun

/-- A value says the same as another one in which no key repeats: items agree in order, and under
each key stands what the last value of that key says. -/
inductive Settled : Json → Json → Prop
  | null : Settled .null .null
  | bool (value : Bool) : Settled (.bool value) (.bool value)
  | number (value : Number) : Settled (.number value) (.number value)
  | string (value : String) : Settled (.string value) (.string value)
  | array {items found : List Json} (each : List.Forall₂ Settled items found) :
      Settled (.array items) (.array found)
  | object {members entries : List (String × Json)} (ascending : Ascending entries)
      (keys : ∀ key, Lacks members key ↔ Lacks entries key)
      (values : ∀ key value found, Last members key value → (key, found) ∈ entries →
        Settled value found) :
      Settled (.object members) (.object entries)

/-! ### Canonical forms of items and members -/

/-- Items become canonical one by one. -/
theorem canonicalItems_eq_map (items : List Json) : canonicalItems items = items.map canonical := by
  induction items with
  | nil => rfl
  | cons item rest ih => rw [canonicalItems, ih, List.map_cons]

/-- Members become canonical one by one and keep their keys. -/
theorem canonicalMembers_eq_map (members : List (String × Json)) :
    canonicalMembers members = members.map fun member ↦ (member.1, member.2.canonical) := by
  induction members with
  | nil => rfl
  | cons member rest ih => rw [canonicalMembers, ih, List.map_cons, canonicalMember]

/-- The canonical form of an array is the array of canonical items. -/
@[simp] theorem canonical_array (items : List Json) :
    (Json.array items).canonical = .array (items.map canonical) := by
  rw [canonical, canonicalItems_eq_map]

/-- Canonical members have the same keys. -/
theorem lacks_canonicalMembers_iff {members : List (String × Json)} {key : String} :
    Lacks (canonicalMembers members) key ↔ Lacks members key := by
  rw [canonicalMembers_eq_map, lacks_map_iff]

/-- The last member of a key has the canonical form of the last value. -/
theorem last_canonicalMembers_iff {members : List (String × Json)} {key : String} {found : Json} :
    Last (canonicalMembers members) key found ↔
      ∃ value, Last members key value ∧ found = value.canonical := by
  rw [canonicalMembers_eq_map, last_map_iff]

/-- Under a key of the canonical form stands the canonical form of the last value. -/
theorem mem_canonical_object_iff {members : List (String × Json)} {key : String} {found : Json} :
    (key, found) ∈ (NameMap.ofList (canonicalMembers members)).entries ↔
      ∃ value, Last members key value ∧ found = value.canonical := by
  rw [NameMap.mem_entries_iff, NameMap.get?_ofList_eq_some_iff, last_canonicalMembers_iff]

/-- The canonical form lacks the keys that the value lacks. -/
theorem lacks_canonical_object_iff {members : List (String × Json)} {key : String} :
    Lacks (NameMap.ofList (canonicalMembers members)).entries key ↔ Lacks members key := by
  rw [← NameMap.get?_eq_none_iff, NameMap.get?_ofList_eq_none_iff, lacks_canonicalMembers_iff]

/-! ### The canonical form of a value -/

/-- Entries of a map whose values are canonical are canonical members already. -/
theorem canonical_object_entries {m : NameMap Json}
    (h : ∀ entry ∈ m.entries, entry.2.canonical = entry.2) :
    (Json.object m.entries).canonical = .object m.entries := by
  have hmap : canonicalMembers m.entries = m.entries := by
    rw [canonicalMembers_eq_map]
    conv_rhs => rw [← List.map_id m.entries]
    apply List.map_congr_left
    intro entry hentry
    rw [h entry hentry, id]
  rw [canonical, hmap, NameMap.ofList_entries]

/-- A canonical value stays as it is. -/
@[simp] theorem canonical_canonical (value : Json) :
    value.canonical.canonical = value.canonical := by
  induction value with
  | null | bool | number | string => rfl
  | array items ih =>
    rw [canonical_array, canonical_array, List.map_map]
    congr 1
    exact List.map_congr_left ih
  | object members ih =>
    rw [canonical]
    apply canonical_object_entries
    rintro ⟨key, found⟩ hentry
    obtain ⟨value, hlast, rfl⟩ := mem_canonical_object_iff.mp hentry
    exact ih (key, value) hlast.mem

/-- A map is the canonical form of members once it has their keys and, under each, the canonical
form of the last value. -/
theorem eq_ofList_canonicalMembers {members : List (String × Json)} {m : NameMap Json}
    (keys : ∀ key, Lacks members key ↔ Lacks m.entries key)
    (values : ∀ key value found, Last members key value → (key, found) ∈ m.entries →
      found = value.canonical) : m = NameMap.ofList (canonicalMembers members) := by
  ext key found
  rw [← NameMap.mem_entries_iff, ← NameMap.mem_entries_iff, mem_canonical_object_iff]
  constructor
  · intro hfound
    rcases lacks_or_last members key with hlacks | ⟨value, hlast⟩
    · exact absurd rfl ((keys key).mp hlacks _ hfound)
    · exact ⟨value, hlast, values key value found hlast hfound⟩
  · rintro ⟨value, hlast, rfl⟩
    rcases lacks_or_last m.entries key with hlacks | ⟨other, hother⟩
    · exact absurd ((keys key).mpr hlacks) hlast.not_lacks
    · rw [← values key value other hlast hother.mem]
      exact hother.mem

/-- What a value says has exactly one canonical form. -/
theorem settled_iff {value found : Json} : Settled value found ↔ found = value.canonical := by
  induction value generalizing found with
  | null => exact ⟨fun h ↦ by cases h; rfl, fun h ↦ h ▸ .null⟩
  | bool value => exact ⟨fun h ↦ by cases h; rfl, fun h ↦ h ▸ .bool value⟩
  | number value => exact ⟨fun h ↦ by cases h; rfl, fun h ↦ h ▸ .number value⟩
  | string value => exact ⟨fun h ↦ by cases h; rfl, fun h ↦ h ▸ .string value⟩
  | array items ih =>
    have heach {found : List Json} :
        List.Forall₂ Settled items found ↔ found = items.map canonical :=
      forall₂_iff_eq_map fun item hitem _ ↦ ih item hitem
    rw [canonical_array]
    constructor
    · intro h
      cases h with
      | array each => rw [heach.mp each]
    · rintro rfl
      exact .array (heach.mpr rfl)
  | object members ih =>
    rw [canonical]
    constructor
    · intro h
      cases h with
      | @object _ entries ascending keys values =>
        have hm := eq_ofList_canonicalMembers (m := ⟨entries, ascending⟩) keys
          fun key value found hlast hfound ↦
            (ih (key, value) hlast.mem).mp (values key value found hlast hfound)
        rw [← hm]
    · rintro rfl
      refine .object (NameMap.ascending _) (fun key ↦ lacks_canonical_object_iff.symm) ?_
      intro key value found hlast hfound
      obtain ⟨other, hother, rfl⟩ := mem_canonical_object_iff.mp hfound
      rw [hlast.unique hother]
      exact (ih (key, other) hother.mem).mpr rfl

end ConnectorProfiles.Json
