import ConnectorProfiles.Extractor.Basic

/-!
# The first subject with an id

The usual extractor goes through entries in order, and through the subjects of each one that is a
credential. `FirstId` and `NoId` say by positions which id comes first and when there is none; they
are stated for any notion of what makes an entry a credential.
-/

namespace ConnectorProfiles.Extractor

variable {α : Type}

/-- No credential among the entries has a subject with an id. -/
def NoId (IsCredential : α → Credential → Prop) (entries : List α) : Prop :=
  ∀ entry ∈ entries, ∀ c, IsCredential entry c → ∀ s ∈ c.subjects, s.id = none

/-- The id belongs to a subject of a credential among the entries, and neither an earlier subject of
that credential nor any credential before it has an id. -/
def FirstId (IsCredential : α → Credential → Prop) (entries : List α) (id : String) : Prop :=
  ∃ before entry after c earlier s later, entries = before ++ entry :: after ∧
    IsCredential entry c ∧ c.subjects = earlier ++ s :: later ∧ s.id = some id ∧
    (∀ other ∈ earlier, other.id = none) ∧ NoId IsCredential before

/-- What an extractor has to find in the entries: the first id, or nothing where there is no id. -/
def IsFirstId (IsCredential : α → Credential → Prop) (entries : List α) : Option String → Prop
  | some id => FirstId IsCredential entries id
  | none => NoId IsCredential entries

/-! ### Entry by entry -/

section Entries

variable {IsCredential : α → Credential → Prop} {entry : α} {entries : List α} {id : String}

/-- Without entries there is no id. -/
theorem noId_nil : NoId IsCredential [] := by
  simp [NoId]

/-- No entry has an id when the first has none and no later one does. -/
theorem noId_cons_iff : NoId IsCredential (entry :: entries) ↔
    (∀ c, IsCredential entry c → ∀ s ∈ c.subjects, s.id = none) ∧ NoId IsCredential entries :=
  List.forall_mem_cons

private theorem not_firstId_nil : ¬ FirstId IsCredential [] id := by
  rintro ⟨before, entry, after, c, earlier, s, later, h, -⟩
  simp at h

/-- The first id stands in the first entry, or that entry has none and it stands later. -/
theorem firstId_cons_iff : FirstId IsCredential (entry :: entries) id ↔
    (∃ c, IsCredential entry c ∧ c.subjects.findSome? (·.id) = some id) ∨
      ((∀ c, IsCredential entry c → ∀ s ∈ c.subjects, s.id = none) ∧
        FirstId IsCredential entries id) := by
  simp only [List.findSome?_eq_some_iff]
  constructor
  · rintro ⟨before, found, after, c, earlier, s, later, h, hc, hsubjects, hid, hearlier, hbefore⟩
    cases before with
    | nil =>
      obtain ⟨rfl, rfl⟩ := List.cons.inj h
      exact .inl ⟨c, hc, earlier, s, later, hsubjects, hid, hearlier⟩
    | cons first before =>
      obtain ⟨rfl, rfl⟩ := List.cons.inj h
      obtain ⟨hfirst, hbefore⟩ := noId_cons_iff.mp hbefore
      exact .inr ⟨hfirst, before, found, after, c, earlier, s, later, rfl, hc, hsubjects, hid,
        hearlier, hbefore⟩
  · rintro (⟨c, hc, earlier, s, later, hsubjects, hid, hearlier⟩ | ⟨hfirst, h⟩)
    · exact ⟨[], entry, entries, c, earlier, s, later, rfl, hc, hsubjects, hid, hearlier, noId_nil⟩
    · obtain ⟨before, found, after, c, earlier, s, later, rfl, hc, hsubjects, hid, hearlier,
        hbefore⟩ := h
      exact ⟨entry :: before, found, after, c, earlier, s, later, rfl, hc, hsubjects, hid, hearlier,
        noId_cons_iff.mpr ⟨hfirst, hbefore⟩⟩

/-- What makes an entry a credential may be told from where the entry came from. -/
theorem isFirstId_map_iff {β : Type} {f : β → α} {Comes : β → Credential → Prop}
    (h : ∀ b c, IsCredential (f b) c ↔ Comes b c) {origins : List β} {found : Option String} :
    IsFirstId IsCredential (origins.map f) found ↔ IsFirstId Comes origins found := by
  cases found with
  | none =>
    simp only [IsFirstId, NoId, List.forall_mem_map, h]
  | some id =>
    simp only [IsFirstId]
    induction origins with
    | nil => simp [not_firstId_nil]
    | cons origin origins ih =>
      rw [List.map_cons, firstId_cons_iff, firstId_cons_iff, ih]
      simp only [h]

end Entries

/-! ### What the extractor finds -/

/-- A claim is a credential in itself, not by what it could be read as. -/
def IsCredentialClaim (claim : Claim) (c : Credential) : Prop := claim = .credential c

/-- A first credential is looked through before all later entries. -/
theorem firstSubjectId_credential_cons (c : Credential) (entries : List Claim) :
    firstSubjectId (.credential c :: entries) =
      (c.subjects.findSome? (·.id)).or (firstSubjectId entries) := by
  simp [firstSubjectId, Claim.credential?, List.findSome?_append]

/-- A first entry that is no credential is passed over. -/
theorem firstSubjectId_cons_of_not_credential {claim : Claim} (h : claim.credential? = none)
    (entries : List Claim) : firstSubjectId (claim :: entries) = firstSubjectId entries := by
  simp [firstSubjectId, h]

private theorem isCredentialClaim_credential_iff {c d : Credential} :
    IsCredentialClaim (.credential c) d ↔ c = d := by
  rw [IsCredentialClaim, Claim.credential.injEq]

private theorem not_isCredentialClaim {claim : Claim} (h : claim.credential? = none)
    (c : Credential) : ¬ IsCredentialClaim claim c := by
  rintro rfl
  cases h

/-- The extractor finds exactly the first id in the order of entries and of subjects. -/
theorem firstSubjectId_eq_some_iff {entries : List Claim} {id : String} :
    firstSubjectId entries = some id ↔ FirstId IsCredentialClaim entries id := by
  induction entries with
  | nil => simp [firstSubjectId, not_firstId_nil]
  | cons claim entries ih =>
    rw [firstId_cons_iff, ← ih]
    cases hclaim : claim.credential? with
    | none =>
      rw [firstSubjectId_cons_of_not_credential hclaim]
      simp [not_isCredentialClaim hclaim]
    | some c =>
      cases claim with
      | credential =>
        obtain rfl := Option.some.inj hclaim
        rw [firstSubjectId_credential_cons, Option.or_eq_some_iff, List.findSome?_eq_none_iff]
        simp only [isCredentialClaim_credential_iff, exists_eq_left', forall_eq']
      | _ => cases hclaim

/-- The extractor finds nothing exactly when no credential has a subject with an id. -/
theorem firstSubjectId_eq_none_iff {entries : List Claim} :
    firstSubjectId entries = none ↔ NoId IsCredentialClaim entries := by
  induction entries with
  | nil => simp [firstSubjectId, noId_nil]
  | cons claim entries ih =>
    rw [noId_cons_iff, ← ih]
    cases hclaim : claim.credential? with
    | none =>
      rw [firstSubjectId_cons_of_not_credential hclaim]
      simp [not_isCredentialClaim hclaim]
    | some c =>
      cases claim with
      | credential =>
        obtain rfl := Option.some.inj hclaim
        rw [firstSubjectId_credential_cons, Option.or_eq_none_iff, List.findSome?_eq_none_iff]
        simp only [isCredentialClaim_credential_iff, forall_eq']
      | _ => cases hclaim

/-- The extractor finds the first id, or nothing where there is none. -/
theorem isFirstId_iff {entries : List Claim} {found : Option String} :
    IsFirstId IsCredentialClaim entries found ↔ firstSubjectId entries = found := by
  cases found with
  | none => exact firstSubjectId_eq_none_iff.symm
  | some id => exact firstSubjectId_eq_some_iff.symm

end ConnectorProfiles.Extractor
