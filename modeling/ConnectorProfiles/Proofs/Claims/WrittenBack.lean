import ConnectorProfiles.Proofs.Claims.RoundTrip

/-!
# Claims that are decoded, written and decoded again

Decoding forgets which of several shapes a claim had, and writing chooses one of them. Decoded
claims come back from their JSON form exactly when they are canonical, name by name. They are, for
one, when no object repeats a key and no credential in a list is written as an array: then every
shape that is written has an equally telling shape in the text it came from.
-/

namespace ConnectorProfiles

namespace Json

/-! ### Values without repeated keys -/

/-- No object in the value repeats a key. -/
inductive Distinct : Json → Prop
  | null : Distinct .null
  | bool (value : Bool) : Distinct (.bool value)
  | number (value : Number) : Distinct (.number value)
  | string (value : String) : Distinct (.string value)
  | array {items : List Json} (each : ∀ item ∈ items, Distinct item) : Distinct (.array items)
  | object {members : List (String × Json)} (keys : (members.map (·.1)).Nodup)
      (each : ∀ member ∈ members, Distinct member.2) : Distinct (.object members)

/-- Where no key repeats, the members of the canonical form are the canonical members. -/
theorem exists_once_of_canonical {members : List (String × Json)}
    (hkeys : (members.map (·.1)).Nodup) {key : String} {found : Json}
    (h : Once (NameMap.ofList (canonicalMembers members)).entries key found) :
    ∃ value, Once members key value ∧ found = value.canonical := by
  obtain ⟨value, hlast, hfound⟩ := mem_canonical_object_iff.mp h.last.mem
  exact ⟨value, (once_iff_last hkeys).mpr hlast, hfound⟩

/-- A part that the canonical form denotes is denoted by the members already. -/
theorem exists_denotesOptionalPart_of_canonical {α : Type} {Part : Json → α → Prop} {missing : α}
    {members : List (String × Json)} (hkeys : (members.map (·.1)).Nodup) {key : String} {part : α}
    (h : DenotesOptionalPart Part missing
      (NameMap.ofList (canonicalMembers members)).entries key part)
    (hpart : ∀ value part, Part value.canonical part → ∃ found, Part value found) :
    ∃ found, DenotesOptionalPart Part missing members key found := by
  rcases h with ⟨hlacks, -⟩ | ⟨found, honce, h⟩
  · exact ⟨missing, .inl ⟨lacks_canonical_object_iff.mp hlacks, rfl⟩⟩
  · obtain ⟨value, hvalue, rfl⟩ := exists_once_of_canonical hkeys honce
    obtain ⟨part, hpart⟩ := hpart value part h
    exact ⟨part, .inr ⟨value, hvalue, hpart⟩⟩

/-- Items that the image of a value denotes are denoted by the value, if this holds of each item and
the image of an array is the array of the images. -/
theorem exists_denotesOneOrMany_of_image {α : Type} {Item : Json → α → Prop} {f : Json → Json}
    {value : Json}
    (harray : ∀ images, f value = .array images → ∃ items, value = .array items ∧
      images = items.map f)
    (hlone : ∀ item, Item (f value) item → ∃ found, Item value found)
    (hitems : ∀ items, value = .array items → ∀ v ∈ items, ∀ item, Item (f v) item →
      ∃ found, Item v found) {items : List α} (h : DenotesOneOrMany Item (f value) items) :
    ∃ found, DenotesOneOrMany Item value found := by
  generalize himage : f value = image at h
  cases h with
  | one h =>
    subst himage
    obtain ⟨found, hfound⟩ := hlone _ h
    exact ⟨[found], .one hfound⟩
  | many h =>
    obtain ⟨values, rfl, rfl⟩ := harray _ himage
    have heach : ∀ v ∈ values, ∃ item, Item (f v) item := by
      rw [← exists_forall₂_iff]
      exact ⟨items, List.forall₂_map_left_iff.mp h⟩
    have hfound : ∀ v ∈ values, ∃ found, Item v found := fun v hv ↦ by
      obtain ⟨item, hitem⟩ := heach v hv
      exact hitems values rfl v hv item hitem
    obtain ⟨found, hfound⟩ := exists_forall₂_iff.mpr hfound
    exact ⟨found, .many hfound⟩

/-! ### What the canonical form denotes -/

private theorem denotesOptionalText_of_canonical {value : Json} {text : Option String}
    (h : DenotesOptionalText value.canonical text) : DenotesOptionalText value text := by
  cases value with
  | null | string => exact h
  | _ => cases h

private theorem denotesText_of_canonical {value : Json} {text : String}
    (h : DenotesText value.canonical text) : DenotesText value text := by
  cases value with
  | string => exact h
  | _ => cases h

private theorem canonical_eq_array {value : Json} {images : List Json}
    (h : value.canonical = .array images) :
    ∃ items, value = .array items ∧ images = items.map canonical := by
  cases value with
  | array items =>
    rw [canonical_array, array.injEq] at h
    exact ⟨items, rfl, h.symm⟩
  | _ => cases h

/-- An object denotes a subject as soon as its id is one. -/
theorem exists_denotesSubject_iff {members : List (String × Json)} :
    (∃ s, DenotesSubject (.object members) s) ↔
      ∃ id, DenotesOptionalPart DenotesOptionalText none members "id" id := by
  constructor
  · rintro ⟨s, ⟨hid, -⟩⟩
    exact ⟨s.id, hid⟩
  · rintro ⟨id, hid⟩
    exact ⟨⟨id, _⟩, .object hid fun _ _ ↦ get?_attributes_eq_some_iff⟩

/-- Every credential in object form is a subject as well. -/
theorem DenotesCredential.exists_denotesSubject {members : List (String × Json)} {c : Credential}
    (h : DenotesCredential (.object members) c) : ∃ s, DenotesSubject (.object members) s := by
  cases h with
  | object hid _ _ => exact exists_denotesSubject_iff.mpr ⟨c.id, hid⟩

/-- Where no key repeats, what denotes a subject in canonical form denotes one already. -/
theorem exists_denotesSubject_of_canonical {value : Json} (hvalue : value.Distinct) {s : Subject}
    (h : DenotesSubject value.canonical s) : ∃ found, DenotesSubject value found := by
  cases value with
  | object members =>
    cases hvalue with
    | object hkeys _ =>
      rw [canonical] at h
      cases h with
      | object hid _ =>
        exact exists_denotesSubject_iff.mpr (exists_denotesOptionalPart_of_canonical hkeys hid
          fun _ _ h ↦ ⟨_, denotesOptionalText_of_canonical h⟩)
  | array items =>
    rw [canonical_array] at h
    cases h
  | null | bool | number | string => cases h

private theorem exists_denotesTypes_of_canonical {value : Json} {types : List String}
    (h : DenotesOneOrMany DenotesText value.canonical types) :
    ∃ found, DenotesOneOrMany DenotesText value found :=
  exists_denotesOneOrMany_of_image (fun _ ↦ canonical_eq_array)
    (fun _ h ↦ ⟨_, denotesText_of_canonical h⟩)
    (fun _ _ _ _ _ h ↦ ⟨_, denotesText_of_canonical h⟩) h

private theorem exists_denotesSubjects_of_canonical {value : Json} (hvalue : value.Distinct)
    {subjects : List Subject} (h : DenotesOneOrMany DenotesSubject value.canonical subjects) :
    ∃ found, DenotesOneOrMany DenotesSubject value found := by
  refine exists_denotesOneOrMany_of_image (fun _ ↦ canonical_eq_array)
    (fun _ h ↦ exists_denotesSubject_of_canonical hvalue h) ?_ h
  rintro items rfl v hv _ h
  cases hvalue with
  | array each => exact exists_denotesSubject_of_canonical (each v hv) h

/-- Where no key repeats, an object whose canonical form denotes a credential denotes one. -/
theorem exists_denotesCredential_of_canonical {members : List (String × Json)}
    (hvalue : (Json.object members).Distinct) {c : Credential}
    (h : DenotesCredential (Json.object members).canonical c) :
    ∃ found, DenotesCredential (.object members) found := by
  rw [canonical] at h
  cases hvalue with
  | object hkeys each =>
    cases h with
    | object hid htypes hsubjects =>
      obtain ⟨found, honce, hsubjects⟩ := hsubjects
      obtain ⟨value, hvalue, rfl⟩ := exists_once_of_canonical hkeys honce
      obtain ⟨subjects, hsubjects⟩ :=
        exists_denotesSubjects_of_canonical (each _ hvalue.last.mem) hsubjects
      obtain ⟨id, hid⟩ := exists_denotesOptionalPart_of_canonical hkeys hid
        fun _ _ h ↦ ⟨_, denotesOptionalText_of_canonical h⟩
      obtain ⟨types, htypes⟩ := exists_denotesOptionalPart_of_canonical hkeys htypes
        fun _ _ h ↦ exists_denotesTypes_of_canonical h
      exact ⟨⟨id, types, subjects⟩, .object hid htypes ⟨value, hvalue, hsubjects⟩⟩

/-! ### Values as they are written again -/

/-- The value that is written for the claim that a value denotes. -/
def writtenBack (value : Json) : Json := (Claim.ofJson value).toJson

/-- A credential is written as an object; otherwise an array as the array of its items, and any
other value in canonical form. -/
theorem writtenBack_cases (value : Json) :
    (∃ c, DenotesCredential value c ∧ value.writtenBack = c.toJson) ∨
    (∃ items, value = .array items ∧ value.writtenBack = .array (items.map writtenBack)) ∨
    ((∀ items, value ≠ .array items) ∧ value.writtenBack = value.canonical) := by
  rcases ofJson_cases value with ⟨c, hc, h⟩ | ⟨items, rfl, -, h⟩ | ⟨hscalar, -, h⟩
  · refine .inl ⟨c, hc, ?_⟩
    rw [writtenBack, h, Claim.toJson]
  · refine .inr (.inl ⟨items, rfl, ?_⟩)
    rw [writtenBack, h, Claim.toJson, Claim.entriesToJson_eq_map, List.map_map]
    rfl
  · refine .inr (.inr ⟨hscalar, ?_⟩)
    rw [writtenBack, h, Claim.toJson]

/-- What neither objects nor arrays are, and what no value becomes in canonical form, no value
becomes when it is written again. -/
private theorem of_writtenBack {P : Json → Prop} (hobject : ∀ members, ¬ P (.object members))
    (harray : ∀ items, ¬ P (.array items))
    (hcanonical : ∀ value : Json, P value.canonical → P value) {value : Json}
    (h : P value.writtenBack) : P value := by
  rcases writtenBack_cases value with ⟨c, -, hwritten⟩ | ⟨items, -, hwritten⟩ | ⟨-, hwritten⟩
  · rw [hwritten, Credential.toJson] at h
    exact absurd h (hobject _)
  · rw [hwritten] at h
    exact absurd h (harray _)
  · rw [hwritten] at h
    exact hcanonical value h

private theorem denotesOptionalText_of_writtenBack {value : Json} {text : Option String}
    (h : DenotesOptionalText value.writtenBack text) : DenotesOptionalText value text :=
  of_writtenBack (P := fun value ↦ DenotesOptionalText value text) nofun nofun
    (fun _ ↦ denotesOptionalText_of_canonical) h

private theorem denotesText_of_writtenBack {value : Json} {text : String}
    (h : DenotesText value.writtenBack text) : DenotesText value text :=
  of_writtenBack (P := fun value ↦ DenotesText value text) nofun nofun
    (fun _ ↦ denotesText_of_canonical) h

private theorem writtenBack_eq_array {value : Json} {images : List Json}
    (h : value.writtenBack = .array images) :
    ∃ items, value = .array items ∧ images = items.map writtenBack := by
  rcases writtenBack_cases value with ⟨c, -, hwritten⟩ | ⟨items, rfl, hwritten⟩ | ⟨hvalue, hwritten⟩
  · rw [hwritten, Credential.toJson] at h
    cases h
  · rw [hwritten, array.injEq] at h
    exact ⟨items, rfl, h.symm⟩
  · rw [hwritten] at h
    obtain ⟨items, rfl, -⟩ := canonical_eq_array h
    exact absurd rfl (hvalue items)

/-! ### Orderly values -/

/-- No object repeats a key, and no list has a credential in array form as an item. -/
inductive Orderly : Json → Prop
  | list {items : List Json} (each : ∀ item ∈ items, Orderly item)
      (inner : ∀ values c, .array values ∈ items → ¬ DenotesCredential (.array values) c) :
      Orderly (.array items)
  | other {value : Json} (scalar : ∀ items, value ≠ .array items) (distinct : value.Distinct) :
      Orderly value

/-- An orderly value that is written as a subject is one, unless it is a credential in array
form. -/
theorem exists_denotesSubject_of_writtenBack {value : Json} (hvalue : value.Orderly)
    (harray : ∀ values c, value = .array values → ¬ DenotesCredential (.array values) c)
    {s : Subject} (h : DenotesSubject value.writtenBack s) :
    ∃ found, DenotesSubject value found := by
  rcases writtenBack_cases value with ⟨c, hc, -⟩ | ⟨items, -, hwritten⟩ | ⟨hscalar, hwritten⟩
  · cases value with
    | object members => exact hc.exists_denotesSubject
    | array values => exact absurd hc (harray values c rfl)
    | null | bool | number | string => cases hc
  · rw [hwritten] at h
    cases h
  · rw [hwritten] at h
    cases hvalue with
    | list => exact absurd rfl (hscalar _)
    | other _ distinct => exact exists_denotesSubject_of_canonical distinct h

/-- An orderly array whose items are written as the parts of a credential has these parts. -/
theorem exists_denotesCredential_of_writtenBack {items : List Json} (hitems : (array items).Orderly)
    {c : Credential} (h : DenotesCredential (.array (items.map writtenBack)) c) :
    ∃ found, DenotesCredential (.array items) found := by
  have ⟨each, inner⟩ : (∀ item ∈ items, Orderly item) ∧
      ∀ values c, .array values ∈ items → ¬ DenotesCredential (.array values) c := by
    cases hitems with
    | list each inner => exact ⟨each, inner⟩
    | other scalar _ => exact absurd rfl (scalar items)
  generalize himages : items.map writtenBack = images at h
  cases h with
  | array hid htypes hsubjects =>
    obtain ⟨id, _, rfl, rfl, hrest⟩ := List.map_eq_cons_iff.mp himages
    obtain ⟨types, _, rfl, rfl, hlast⟩ := List.map_eq_cons_iff.mp hrest
    obtain ⟨subjects, _, rfl, rfl, hnil⟩ := List.map_eq_cons_iff.mp hlast
    obtain rfl := List.map_eq_nil_iff.mp hnil
    obtain ⟨foundTypes, htypes⟩ := exists_denotesOneOrMany_of_image (fun _ ↦ writtenBack_eq_array)
      (fun _ h ↦ ⟨_, denotesText_of_writtenBack h⟩)
      (fun _ _ _ _ _ h ↦ ⟨_, denotesText_of_writtenBack h⟩) htypes
    have ⟨foundSubjects, hsubjects⟩ : ∃ found, DenotesOneOrMany DenotesSubject subjects found := by
      have hsubject : subjects ∈ [id, types, subjects] := by simp
      refine exists_denotesOneOrMany_of_image (fun _ ↦ writtenBack_eq_array) ?_ ?_ hsubjects
      · intro s h
        refine exists_denotesSubject_of_writtenBack (each _ hsubject) ?_ h
        rintro values c rfl
        exact inner values c hsubject
      · rintro values rfl v hv s h
        cases each _ hsubject with
        | list each inner =>
          refine exists_denotesSubject_of_writtenBack (each v hv) ?_ h
          rintro values c rfl
          exact inner values c hv
        | other scalar _ => exact absurd rfl (scalar values)
    exact ⟨⟨_, foundTypes, foundSubjects⟩,
      .array (denotesOptionalText_of_writtenBack hid) htypes hsubjects⟩

end Json

namespace Claim

open Json

/-- A credential that is decoded is canonical. -/
theorem canonical_of_denotesCredential {value : Json} {c : Credential}
    (h : DenotesCredential value c) : Canonical (.credential c) := by
  refine .credential fun s hs ↦ ?_
  obtain ⟨v, hv⟩ := h.exists_denotesSubject_of_mem hs
  exact hv.get?_id

/-- A credential that is decoded can be built. -/
theorem built_of_denotesCredential {value : Json} {c : Credential}
    (h : DenotesCredential value c) : Built (.credential c) := by
  refine .credential fun s hs ↦ ?_
  obtain ⟨v, hv⟩ := h.exists_denotesSubject_of_mem hs
  exact Subject.built_iff.mpr fun _ _ ↦ hv.canonical_attribute

/-- Every claim that is decoded can be built. -/
theorem built_ofJson (value : Json) : (ofJson value).Built := by
  induction value using array_induction with
  | array items ih =>
    rcases ofJson_cases (.array items) with ⟨c, hc, h⟩ | ⟨_, ⟨⟩, -, h⟩ | ⟨hscalar, -, -⟩
    · rw [h]
      exact built_of_denotesCredential hc
    · rw [h]
      exact .list (List.forall_mem_map.mpr ih)
    · exact absurd rfl (hscalar items)
  | other value hvalue =>
    rcases ofJson_cases value with ⟨c, hc, h⟩ | ⟨items, rfl, -, -⟩ | ⟨-, -, h⟩
    · rw [h]
      exact built_of_denotesCredential hc
    · exact absurd rfl (hvalue items)
    · rw [h]
      exact .plain value

/-- The claim that an orderly value denotes is canonical. -/
theorem canonical_ofJson {value : Json} (hvalue : value.Orderly) : (ofJson value).Canonical := by
  induction hvalue with
  | @list items each inner ih =>
    rcases ofJson_cases (.array items) with ⟨c, hc, h⟩ | ⟨_, ⟨⟩, hother, h⟩ | ⟨hscalar, -, -⟩
    · rw [h]
      exact canonical_of_denotesCredential hc
    · rw [h]
      refine .list (List.forall_mem_map.mpr ih) fun c hc ↦ ?_
      rw [List.map_map] at hc
      -- What is written as the parts of a credential had these parts before.
      obtain ⟨found, hfound⟩ := exists_denotesCredential_of_writtenBack (.list each inner) hc
      exact hother found hfound
    · exact absurd rfl (hscalar items)
  | @other value scalar distinct =>
    rcases ofJson_cases value with ⟨c, hc, h⟩ | ⟨items, rfl, -, -⟩ | ⟨-, hother, h⟩
    · rw [h]
      exact canonical_of_denotesCredential hc
    · exact absurd rfl (scalar items)
    · rw [h]
      refine .json (fun images himages ↦ ?_) fun c hc ↦ ?_
      · obtain ⟨items, rfl, -⟩ := canonical_eq_array himages
        exact scalar items rfl
      · cases value with
        | object members =>
          obtain ⟨found, hfound⟩ := exists_denotesCredential_of_canonical distinct hc
          exact hother found hfound
        | array items => exact scalar items rfl
        | null | bool | number | string => cases hc

end Claim

end ConnectorProfiles
