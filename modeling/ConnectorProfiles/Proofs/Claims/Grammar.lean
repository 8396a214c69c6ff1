import ConnectorProfiles.Claims.Classify
import ConnectorProfiles.Proofs.Json.Canonical

/-!
# The grammar of claims

What a JSON value denotes as a subject, as a credential and as a claim, stated as rules over the raw
value with its repeated keys. Recognition follows the rules: it finds exactly the subject or
credential that a value denotes, and every value denotes exactly one claim.
-/

namespace ConnectorProfiles

namespace Json

/-- Null denotes no text, a string denotes its text. -/
inductive DenotesOptionalText : Json → Option String → Prop
  | null : DenotesOptionalText .null none
  | string (text : String) : DenotesOptionalText (.string text) (some text)

/-- A string denotes its text. -/
inductive DenotesText : Json → String → Prop
  | string (text : String) : DenotesText (.string text) text

/-- A lone item denotes a list of one, an array of items denotes the list of them. -/
inductive DenotesOneOrMany {α : Type} (Item : Json → α → Prop) : Json → List α → Prop
  | one {value : Json} {item : α} (h : Item value item) : DenotesOneOrMany Item value [item]
  | many {values : List Json} {items : List α} (h : List.Forall₂ Item values items) :
      DenotesOneOrMany Item (.array values) items

/-- The part under a key that may be missing but not repeated. -/
def DenotesOptionalPart {α : Type} (Part : Json → α → Prop) (missing : α)
    (members : List (String × Json)) (key : String) (part : α) : Prop :=
  (Lacks members key ∧ part = missing) ∨ ∃ value, Once members key value ∧ Part value part

/-- The part under a key that is neither missing nor repeated. -/
def DenotesPart {α : Type} (Part : Json → α → Prop) (members : List (String × Json))
    (key : String) (part : α) : Prop :=
  ∃ value, Once members key value ∧ Part value part

/-- An object with at most one id denotes a subject; all its other keys are attributes. -/
inductive DenotesSubject : Json → Subject → Prop
  | object {members : List (String × Json)} {s : Subject}
      (id : DenotesOptionalPart DenotesOptionalText none members "id" s.id)
      (attributes : ∀ key found, s.attributes.get? key = some found ↔
        key ≠ "id" ∧ ∃ value, Last members key value ∧ Settled value found) :
      DenotesSubject (.object members) s

/-- An object with the parts of a credential denotes it, and so does the array of the parts. -/
inductive DenotesCredential : Json → Credential → Prop
  | object {members : List (String × Json)} {c : Credential}
      (id : DenotesOptionalPart DenotesOptionalText none members "id" c.id)
      (types : DenotesOptionalPart (DenotesOneOrMany DenotesText) [] members "type" c.types)
      (subjects : DenotesPart (DenotesOneOrMany DenotesSubject) members "credentialSubject"
        c.subjects) :
      DenotesCredential (.object members) c
  | array {id types subjects : Json} {c : Credential} (hid : DenotesOptionalText id c.id)
      (htypes : DenotesOneOrMany DenotesText types c.types)
      (hsubjects : DenotesOneOrMany DenotesSubject subjects c.subjects) :
      DenotesCredential (.array [id, types, subjects]) c

/-- A value denotes the credential that it is; otherwise an array denotes the list of what its
items denote, and any other value itself. -/
inductive DenotesClaim : Json → Claim → Prop
  | credential {value : Json} {c : Credential} (h : DenotesCredential value c) :
      DenotesClaim value (.credential c)
  | list {items : List Json} {entries : List Claim}
      (other : ∀ c, ¬ DenotesCredential (.array items) c)
      (each : List.Forall₂ DenotesClaim items entries) :
      DenotesClaim (.array items) (.list entries)
  | plain {value found : Json} (other : ∀ c, ¬ DenotesCredential value c)
      (scalar : ∀ items, value ≠ .array items) (h : Settled value found) :
      DenotesClaim value (.json found)

/-! ### Parts -/

/-- An optional text is recognised exactly where a value denotes it. -/
theorem optionalString?_eq_some_iff {value : Json} {text : Option String} :
    value.optionalString? = some text ↔ DenotesOptionalText value text := by
  constructor
  · intro h
    cases value with
    | null =>
      rw [← Option.some.inj h]
      exact .null
    | string given =>
      rw [← Option.some.inj h]
      exact .string given
    | _ => cases h
  · rintro (_ | _)
    · rfl
    · rfl

/-- A text is recognised exactly where a value denotes it. -/
theorem string?_eq_some_iff {value : Json} {text : String} :
    value.string? = some text ↔ DenotesText value text := by
  constructor
  · intro h
    cases value with
    | string given =>
      rw [← Option.some.inj h]
      exact .string given
    | _ => cases h
  · rintro ⟨⟩
    rfl

/-- One or many items are recognised where no array is an item itself. -/
theorem oneOrMany?_eq_some_iff {α : Type} {item? : Json → Option α} {Item : Json → α → Prop}
    (hitem : ∀ value item, item? value = some item ↔ Item value item)
    (harray : ∀ values, item? (.array values) = none) {value : Json} {items : List α} :
    value.oneOrMany? item? = some items ↔ DenotesOneOrMany Item value items := by
  have hmany (values : List Json) :
      values.mapM item? = some items ↔ List.Forall₂ Item values items := by
    rw [mapM_eq_some_iff]
    simp only [hitem]
  constructor
  · intro h
    unfold oneOrMany? at h
    cases hvalue : item? value with
    | some item =>
      rw [hvalue] at h
      rw [← Option.some.inj h]
      exact .one ((hitem value item).mp hvalue)
    | none =>
      rw [hvalue] at h
      cases value with
      | array values => exact .many ((hmany values).mp h)
      | _ => cases h
  · intro h
    unfold oneOrMany?
    cases h with
    | one h => rw [(hitem _ _).mpr h]
    | many h =>
      rw [harray]
      exact (hmany _).mpr h

private theorem valuesOf_eq_nil_iff {members : List (String × Json)} {key : String} :
    valuesOf key members = [] ↔ Lacks members key := by
  simp [valuesOf, Lacks]

private theorem valuesOf_eq_singleton_iff {members : List (String × Json)} {key : String}
    {value : Json} : valuesOf key members = [value] ↔ Once members key value := by
  rw [valuesOf, List.map_eq_singleton_iff]
  simp only [List.filter_eq_cons_iff, List.filter_eq_nil_iff, beq_iff_eq]
  constructor
  · rintro ⟨⟨key, value⟩, ⟨before, after, rfl, hbefore, rfl, hafter⟩, rfl⟩
    exact ⟨before, after, rfl, hbefore, hafter⟩
  · rintro ⟨before, after, rfl, hbefore, hafter⟩
    exact ⟨(key, value), ⟨before, after, rfl, hbefore, rfl, hafter⟩, rfl⟩

/-- A value is found under a key that occurs once, or stands for the key that does not occur. -/
theorem part?_eq_some_iff {missing : Option Json} {members : List (String × Json)} {key : String}
    {value : Json} : part? missing members key = some value ↔
      (Lacks members key ∧ missing = some value) ∨ Once members key value := by
  rw [part?, ← valuesOf_eq_nil_iff, ← valuesOf_eq_singleton_iff]
  cases valuesOf key members with
  | nil => simp
  | cons found rest =>
    cases rest with
    | nil => simp
    | cons other rest => simp

/-- A part that may be missing is read from the value found, given what stands for a missing one. -/
theorem exists_part?_iff {α : Type} {Part : Json → α → Prop} {blank : Json} {missing : α}
    (hblank : ∀ part, Part blank part ↔ part = missing) {members : List (String × Json)}
    {key : String} {part : α} :
    (∃ value, part? (some blank) members key = some value ∧ Part value part) ↔
      DenotesOptionalPart Part missing members key part := by
  simp only [part?_eq_some_iff, Option.some.injEq]
  constructor
  · rintro ⟨value, ⟨hlacks, rfl⟩ | honce, hpart⟩
    · exact .inl ⟨hlacks, (hblank part).mp hpart⟩
    · exact .inr ⟨value, honce, hpart⟩
  · rintro (⟨hlacks, hpart⟩ | ⟨value, honce, hpart⟩)
    · exact ⟨blank, .inl ⟨hlacks, rfl⟩, (hblank part).mpr hpart⟩
    · exact ⟨value, .inr honce, hpart⟩

private theorem denotesOptionalText_null_iff {text : Option String} :
    DenotesOptionalText .null text ↔ text = none :=
  ⟨fun h ↦ by cases h; rfl, fun h ↦ h ▸ .null⟩

/-! ### Subjects and credentials -/

/-- The attributes of a subject are the last values under all keys but its id. -/
theorem get?_attributes_eq_some_iff {members : List (String × Json)} {key : String}
    {found : Json} :
    (NameMap.ofList ((members.filter (·.1 != "id")).map fun member ↦
      (member.1, member.2.canonical))).get? key = some found ↔
      key ≠ "id" ∧ ∃ value, Last members key value ∧ Settled value found := by
  rw [NameMap.get?_ofList_eq_some_iff, last_map_iff]
  simp only [last_filter_iff, settled_iff]
  constructor
  · rintro ⟨value, ⟨hkey, hlast⟩, hfound⟩
    exact ⟨hkey, value, hlast, hfound⟩
  · rintro ⟨hkey, value, hlast, hfound⟩
    exact ⟨value, ⟨hkey, hlast⟩, hfound⟩

/-- A subject is recognised exactly where a value denotes it. -/
theorem subject_ofJson?_eq_some_iff {value : Json} {s : Subject} :
    Subject.ofJson? value = some s ↔ DenotesSubject value s := by
  cases value with
  | object members =>
    simp only [Subject.ofJson?, bind, Option.bind_eq_some_iff, optionalString?_eq_some_iff, pure,
      Option.some.injEq]
    constructor
    · rintro ⟨value, hvalue, id, hid, rfl⟩
      refine .object ?_ fun key found ↦ get?_attributes_eq_some_iff
      exact (exists_part?_iff fun _ ↦ denotesOptionalText_null_iff).mp ⟨value, hvalue, hid⟩
    · rintro (⟨hid, hattributes⟩)
      obtain ⟨value, hvalue, hid⟩ :=
        (exists_part?_iff fun _ ↦ denotesOptionalText_null_iff).mpr hid
      refine ⟨value, hvalue, s.id, hid, ?_⟩
      congr 1
      ext key found
      rw [get?_attributes_eq_some_iff, hattributes]
  | null | bool | number | string | array =>
    constructor
    · intro h
      cases h
    · intro h
      cases h

/-- A credential is put together exactly where all of its parts are denoted. -/
theorem ofParts?_eq_some_iff {id types subjects : Json} {c : Credential} :
    Credential.ofParts? id types subjects = some c ↔ DenotesOptionalText id c.id ∧
      DenotesOneOrMany DenotesText types c.types ∧
      DenotesOneOrMany DenotesSubject subjects c.subjects := by
  have htypes (found : List String) :
      types.oneOrMany? string? = some found ↔ DenotesOneOrMany DenotesText types found :=
    oneOrMany?_eq_some_iff (fun _ _ ↦ string?_eq_some_iff) fun _ ↦ rfl
  have hsubjects (found : List Subject) : subjects.oneOrMany? Subject.ofJson? = some found ↔
      DenotesOneOrMany DenotesSubject subjects found :=
    oneOrMany?_eq_some_iff (fun _ _ ↦ subject_ofJson?_eq_some_iff) fun _ ↦ rfl
  simp only [Credential.ofParts?, bind, Option.bind_eq_some_iff, pure, Option.some.injEq,
    optionalString?_eq_some_iff, htypes, hsubjects]
  constructor
  · rintro ⟨_, hid, _, htypes, _, hsubjects, rfl⟩
    exact ⟨hid, htypes, hsubjects⟩
  · rintro ⟨hid, htypes, hsubjects⟩
    exact ⟨c.id, hid, c.types, htypes, c.subjects, hsubjects, rfl⟩

/-- An absent list of types is written as the empty array. -/
theorem denotesOneOrMany_nil_iff {types : List String} :
    DenotesOneOrMany DenotesText (.array []) types ↔ types = [] := by
  constructor
  · intro h
    cases h with
    | one h => cases h
    | many h => exact List.forall₂_nil_left_iff.mp h
  · rintro rfl
    exact .many .nil

/-- A credential is recognised exactly where a value denotes it. -/
theorem credential_ofJson?_eq_some_iff {value : Json} {c : Credential} :
    Credential.ofJson? value = some c ↔ DenotesCredential value c := by
  constructor
  · intro h
    unfold Credential.ofJson? at h
    split at h
    · next members =>
      simp only [bind, Option.bind_eq_some_iff, ofParts?_eq_some_iff] at h
      obtain ⟨id, hfoundId, types, hfoundTypes, subjects, hfound, hid, htypes, hsubjects⟩ := h
      refine .object ?_ ?_ ⟨subjects, ?_, hsubjects⟩
      · exact (exists_part?_iff fun _ ↦ denotesOptionalText_null_iff).mp ⟨id, hfoundId, hid⟩
      · exact (exists_part?_iff fun _ ↦ denotesOneOrMany_nil_iff).mp ⟨types, hfoundTypes, htypes⟩
      · rw [part?_eq_some_iff] at hfound
        exact hfound.resolve_left fun hnone ↦ by simp at hnone
    · obtain ⟨hid, htypes, hsubjects⟩ := ofParts?_eq_some_iff.mp h
      exact .array hid htypes hsubjects
    · cases h
  · intro h
    cases h with
    | object hid htypes hsubjects =>
      obtain ⟨id, hfoundId, hid⟩ :=
        (exists_part?_iff fun _ ↦ denotesOptionalText_null_iff).mpr hid
      obtain ⟨types, hfoundTypes, htypes⟩ :=
        (exists_part?_iff fun _ ↦ denotesOneOrMany_nil_iff).mpr htypes
      obtain ⟨subjects, honce, hsubjects⟩ := hsubjects
      simp only [Credential.ofJson?, bind, Option.bind_eq_some_iff, ofParts?_eq_some_iff]
      exact ⟨id, hfoundId, types, hfoundTypes, subjects, part?_eq_some_iff.mpr (.inr honce),
        hid, htypes, hsubjects⟩
    | array hid htypes hsubjects => exact ofParts?_eq_some_iff.mpr ⟨hid, htypes, hsubjects⟩

/-- No attribute of a subject has the name of the id. -/
theorem DenotesSubject.get?_id {value : Json} {s : Subject} (h : DenotesSubject value s) :
    s.attributes.get? "id" = none := by
  cases h with
  | object _ attributes =>
    rw [Option.eq_none_iff_forall_ne_some]
    intro found hfound
    exact ((attributes "id" found).mp hfound).1 rfl

/-- The attributes of a subject are canonical. -/
theorem DenotesSubject.canonical_attribute {value : Json} {s : Subject} (h : DenotesSubject value s)
    {key : String} {found : Json} (hfound : s.attributes.get? key = some found) :
    found.canonical = found := by
  cases h with
  | object _ attributes =>
    obtain ⟨-, given, -, hsettled⟩ := (attributes key found).mp hfound
    rw [settled_iff.mp hsettled, canonical_canonical]

/-- Each of one or many items is denoted by some value. -/
theorem DenotesOneOrMany.exists_of_mem {α : Type} {Item : Json → α → Prop} {value : Json}
    {items : List α} (h : DenotesOneOrMany Item value items) {item : α} (hitem : item ∈ items) :
    ∃ v, Item v item := by
  cases h with
  | one h =>
    rw [List.mem_singleton.mp hitem]
    exact ⟨value, h⟩
  | many h =>
    induction h with
    | nil => cases hitem
    | cons h _ ih =>
      rcases List.mem_cons.mp hitem with rfl | hitem
      · exact ⟨_, h⟩
      · exact ih hitem

/-- Each subject of a credential is denoted by some value. -/
theorem DenotesCredential.exists_denotesSubject_of_mem {value : Json} {c : Credential}
    (h : DenotesCredential value c) {s : Subject} (hs : s ∈ c.subjects) :
    ∃ v, DenotesSubject v s := by
  cases h with
  | object _ _ hsubjects =>
    obtain ⟨_, -, hsubjects⟩ := hsubjects
    exact hsubjects.exists_of_mem hs
  | array _ _ hsubjects => exact hsubjects.exists_of_mem hs

/-- No credential is recognised exactly where a value denotes none. -/
theorem credential_ofJson?_eq_none_iff {value : Json} :
    Credential.ofJson? value = none ↔ ∀ c, ¬ DenotesCredential value c := by
  rw [Option.eq_none_iff_forall_ne_some]
  simp only [ne_eq, credential_ofJson?_eq_some_iff]

/-! ### Claims -/

private theorem entriesOfJson_eq_map (items : List Json) :
    Claim.entriesOfJson items = items.map Claim.ofJson := by
  induction items with
  | nil => rfl
  | cons item rest ih => rw [Claim.entriesOfJson, ih, List.map_cons]

/-- A value that denotes a credential is recognised as that credential. -/
theorem ofJson_of_denotesCredential {value : Json} {c : Credential}
    (h : DenotesCredential value c) : Claim.ofJson value = .credential c := by
  rw [← credential_ofJson?_eq_some_iff] at h
  cases value with
  | object members => simp only [Claim.ofJson, h]
  | array items => rw [Claim.ofJson, h]
  | null | bool | number | string => cases h

/-- Any other array is recognised as the list of what is recognised in its items. -/
theorem ofJson_array_of_not_credential {items : List Json}
    (h : ∀ c, ¬ DenotesCredential (.array items) c) :
    Claim.ofJson (.array items) = .list (items.map Claim.ofJson) := by
  rw [← credential_ofJson?_eq_none_iff] at h
  rw [Claim.ofJson, h, entriesOfJson_eq_map]

/-- Any other value is recognised as plain JSON in canonical form. -/
theorem ofJson_plain_of_not_credential {value : Json} (hscalar : ∀ items, value ≠ .array items)
    (h : ∀ c, ¬ DenotesCredential value c) : Claim.ofJson value = .json value.canonical := by
  rw [← credential_ofJson?_eq_none_iff] at h
  cases value with
  | object members => simp only [Claim.ofJson, h, Claim.plain]
  | array items => exact absurd rfl (hscalar items)
  | null | bool | number | string => rfl

/-- A value is recognised as the credential that it denotes; otherwise an array as the list of what
is recognised in its items, and any other value as plain JSON. -/
theorem ofJson_cases (value : Json) :
    (∃ c, DenotesCredential value c ∧ Claim.ofJson value = .credential c) ∨
    (∃ items, value = .array items ∧ (∀ c, ¬ DenotesCredential (.array items) c) ∧
      Claim.ofJson value = .list (items.map Claim.ofJson)) ∨
    ((∀ items, value ≠ .array items) ∧ (∀ c, ¬ DenotesCredential value c) ∧
      Claim.ofJson value = .json value.canonical) := by
  by_cases hcredential : ∃ c, DenotesCredential value c
  · obtain ⟨c, hc⟩ := hcredential
    exact .inl ⟨c, hc, ofJson_of_denotesCredential hc⟩
  · have hother := not_exists.mp hcredential
    by_cases harray : ∃ items, value = .array items
    · obtain ⟨items, rfl⟩ := harray
      exact .inr (.inl ⟨items, rfl, hother, ofJson_array_of_not_credential hother⟩)
    · have hscalar := not_exists.mp harray
      exact .inr (.inr ⟨hscalar, hother, ofJson_plain_of_not_credential hscalar hother⟩)

/-- Every value denotes exactly one claim, the one that is recognised in it. -/
theorem denotesClaim_iff {value : Json} {claim : Claim} :
    DenotesClaim value claim ↔ claim = Claim.ofJson value := by
  induction value using array_induction generalizing claim with
  | array items ih =>
    have heach {entries : List Claim} :
        List.Forall₂ DenotesClaim items entries ↔ entries = items.map Claim.ofJson :=
      forall₂_iff_eq_map fun item hitem _ ↦ ih item hitem
    constructor
    · intro h
      cases h with
      | credential h => rw [ofJson_of_denotesCredential h]
      | list other each => rw [ofJson_array_of_not_credential other, heach.mp each]
      | plain _ scalar _ => exact absurd rfl (scalar items)
    · rintro rfl
      rcases ofJson_cases (.array items) with ⟨c, hc, h⟩ | ⟨_, ⟨⟩, hother, h⟩ | ⟨hscalar, -, -⟩
      · rw [h]
        exact .credential hc
      · rw [h]
        exact .list hother (heach.mpr rfl)
      · exact absurd rfl (hscalar items)
  | other value hvalue =>
    constructor
    · intro h
      cases h with
      | credential h => rw [ofJson_of_denotesCredential h]
      | list other each => exact absurd rfl (hvalue _)
      | plain other _ h => rw [ofJson_plain_of_not_credential hvalue other, settled_iff.mp h]
    · rintro rfl
      rcases ofJson_cases value with ⟨c, hc, h⟩ | ⟨items, rfl, -, -⟩ | ⟨hscalar, hother, h⟩
      · rw [h]
        exact .credential hc
      · exact absurd rfl (hvalue items)
      · rw [h]
        exact .plain hother hscalar (settled_iff.mpr rfl)

end Json

end ConnectorProfiles
