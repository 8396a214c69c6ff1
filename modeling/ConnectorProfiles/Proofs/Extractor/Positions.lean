import ConnectorProfiles.Proofs.Extractor.FirstSubject

/-!
# The selected id by its position

An id has a position in a list of claims: the number of an entry that is a credential, and the
number of a subject in that credential. The usual extractor selects the id at the first position, by
entries and then by subjects. What has no position is not looked at: ids in nested lists, in plain
JSON and in attributes, the ids of credentials themselves, and claims of other names.
-/

namespace ConnectorProfiles.Extractor

/-- Entry `i` is a credential, and its subject `j` has the id. -/
def IdAt (entries : List Claim) (i j : Nat) (id : String) : Prop :=
  ∃ c s, entries[i]? = some (.credential c) ∧ c.subjects[j]? = some s ∧ s.id = some id

/-- No id is at an earlier position: in an entry before `i`, or in entry `i` before subject `j`. -/
def NoIdBefore (entries : List Claim) (i j : Nat) : Prop :=
  ∀ k l, k < i ∨ (k = i ∧ l < j) → ∀ id, ¬ IdAt entries k l id

/-- The credentials of both lists have the same ids in their subjects, one credential after the
other. Everything else may differ, and what is no credential may be missing. -/
inductive SameIds : List Claim → List Claim → Prop
  | nil : SameIds [] []
  | credential {c d : Credential} {as bs : List Claim}
      (ids : c.subjects.map (·.id) = d.subjects.map (·.id)) (rest : SameIds as bs) :
      SameIds (.credential c :: as) (.credential d :: bs)
  | left {claim : Claim} {as bs : List Claim} (other : ∀ c, claim ≠ .credential c)
      (rest : SameIds as bs) : SameIds (claim :: as) bs
  | right {claim : Claim} {as bs : List Claim} (other : ∀ c, claim ≠ .credential c)
      (rest : SameIds as bs) : SameIds as (claim :: bs)

/-- Both hold lists with the same ids under the name, or neither holds a list there. -/
inductive AlikeUnder (name : String) (a b : Claims) : Prop
  | list {as bs : List Claim} (left : a.get? name = some (.list as))
      (right : b.get? name = some (.list bs)) (ids : SameIds as bs)
  | other (left : ∀ entries, a.get? name ≠ some (.list entries))
      (right : ∀ entries, b.get? name ≠ some (.list entries))

/-! ### Positions -/

section Positions

variable {α : Type} {as before after : List α} {a : α} {i : Nat}

/-- An element at a position splits its list there. -/
private theorem exists_split_of_getElem? (h : as[i]? = some a) :
    ∃ before after, as = before ++ a :: after ∧ before.length = i := by
  obtain ⟨hi, rfl⟩ := List.getElem?_eq_some_iff.mp h
  refine ⟨as.take i, as.drop (i + 1), ?_, ?_⟩
  · rw [List.getElem_cons_drop, List.take_append_drop]
  · rw [List.length_take]
    omega

/-- Where a list is split, the first element of the second part stands. -/
private theorem getElem?_split : (before ++ a :: after)[before.length]? = some a := by
  simp

/-- An element at a position before the split is in the first part. -/
private theorem mem_of_getElem?_split {other : α} (hi : i < before.length)
    (h : (before ++ after)[i]? = some other) : other ∈ before := by
  rw [List.getElem?_append_left hi] at h
  exact List.mem_of_getElem? h

end Positions

section Entries

variable {entries : List Claim} {id : String}

/-- There is no id in a list exactly when no position has one. -/
theorem noId_iff_forall_not_idAt :
    NoId IsCredentialClaim entries ↔ ∀ i j id, ¬ IdAt entries i j id := by
  constructor
  · rintro h i j id ⟨c, s, hentry, hs, hid⟩
    have hnone := h _ (List.mem_of_getElem? hentry) c rfl s (List.mem_of_getElem? hs)
    rw [hnone] at hid
    cases hid
  · rintro h entry hentry c rfl s hs
    obtain ⟨i, hi⟩ := List.mem_iff_getElem?.mp hentry
    obtain ⟨j, hj⟩ := List.mem_iff_getElem?.mp hs
    rw [Option.eq_none_iff_forall_ne_some]
    exact fun id hid ↦ h i j id ⟨c, s, hi, hj, hid⟩

/-- The first id of a list is the one before whose position there is none. -/
theorem firstId_iff_exists_idAt : FirstId IsCredentialClaim entries id ↔
    ∃ i j, IdAt entries i j id ∧ NoIdBefore entries i j := by
  constructor
  · rintro ⟨before, _, after, c, earlier, s, later, rfl, rfl, hsubjects, hid, hearlier, hbefore⟩
    refine ⟨before.length, earlier.length, ⟨c, s, getElem?_split, ?_, hid⟩, ?_⟩
    · rw [hsubjects]
      exact getElem?_split
    · rintro k l (hk | ⟨rfl, hl⟩) other ⟨d, t, hentry, ht, hother⟩
      · have hnone := hbefore _ (mem_of_getElem?_split hk hentry) d rfl t (List.mem_of_getElem? ht)
        rw [hnone] at hother
        cases hother
      · have hsame := getElem?_split.symm.trans hentry
        obtain rfl : c = d := Claim.credential.inj (Option.some.inj hsame)
        rw [hsubjects] at ht
        rw [hearlier t (mem_of_getElem?_split hl ht)] at hother
        cases hother
  · rintro ⟨i, j, ⟨c, s, hentry, hs, hid⟩, hnone⟩
    obtain ⟨before, after, rfl, rfl⟩ := exists_split_of_getElem? hentry
    obtain ⟨earlier, later, hsubjects, rfl⟩ := exists_split_of_getElem? hs
    refine ⟨before, _, after, c, earlier, s, later, rfl, rfl, hsubjects, hid, ?_, ?_⟩
    · intro t ht
      obtain ⟨l, hl⟩ := List.mem_iff_getElem?.mp ht
      have hlt : l < earlier.length := (List.getElem?_eq_some_iff.mp hl).1
      rw [Option.eq_none_iff_forall_ne_some]
      intro other hother
      refine hnone before.length l (.inr ⟨rfl, hlt⟩) other ⟨c, t, hentry, ?_, hother⟩
      rw [hsubjects, List.getElem?_append_left hlt, hl]
    · rw [noId_iff_forall_not_idAt]
      rintro k l other ⟨d, t, hk, ht, hother⟩
      have hlt : k < before.length := (List.getElem?_eq_some_iff.mp hk).1
      refine hnone k l (.inl hlt) other ⟨d, t, ?_, ht, hother⟩
      rw [List.getElem?_append_left hlt, hk]

end Entries

/-! ### What is selected -/

private theorem credential?_of_ne {claim : Claim} (h : ∀ c, claim ≠ .credential c) :
    claim.credential? = none := by
  cases claim with
  | credential c => exact absurd rfl (h c)
  | list | json => rfl

/-- The first id in a credential depends on the ids of its subjects only. -/
private theorem findSome?_id_eq (subjects : List Subject) :
    subjects.findSome? (·.id) = (subjects.map (·.id)).findSome? id := by
  rw [List.findSome?_map]
  rfl

/-- Lists with the same ids in their credentials have the same first id. -/
theorem SameIds.firstSubjectId_eq {as bs : List Claim} (h : SameIds as bs) :
    firstSubjectId as = firstSubjectId bs := by
  induction h with
  | nil => rfl
  | credential ids _ ih =>
    rw [firstSubjectId_credential_cons, firstSubjectId_credential_cons, findSome?_id_eq, ids,
      ← findSome?_id_eq, ih]
  | left other _ ih => rw [firstSubjectId_cons_of_not_credential (credential?_of_ne other), ih]
  | right other _ ih => rw [firstSubjectId_cons_of_not_credential (credential?_of_ne other), ih]

section Claims

variable {claims : Claims} {name : String}

/-- Under a name that holds a list, the extractor goes through the list. -/
theorem credentialSubject_of_get? {entries : List Claim}
    (h : claims.get? name = some (.list entries)) :
    credentialSubject name claims = firstSubjectId entries := by
  rw [credentialSubject, Claims.list?, h]
  rfl

/-- Under a name that holds no list, the extractor finds nothing. -/
theorem credentialSubject_of_not_list (h : ∀ entries, claims.get? name ≠ some (.list entries)) :
    credentialSubject name claims = none := by
  have hlist : claims.list? name = none := by
    rw [Claims.list?]
    split
    · next entries hentries => exact absurd hentries (h entries)
    · rfl
  rw [credentialSubject, hlist]
  rfl

/-- The extractor finds an id exactly when its name holds a list with that id at a position before
which there is none. -/
theorem credentialSubject_eq_some_iff {id : String} : credentialSubject name claims = some id ↔
    ∃ entries i j, claims.get? name = some (.list entries) ∧ IdAt entries i j id ∧
      NoIdBefore entries i j := by
  constructor
  · intro h
    by_cases hlist : ∃ entries, claims.get? name = some (.list entries)
    · obtain ⟨entries, hentries⟩ := hlist
      rw [credentialSubject_of_get? hentries, firstSubjectId_eq_some_iff,
        firstId_iff_exists_idAt] at h
      obtain ⟨i, j, hat, hbefore⟩ := h
      exact ⟨entries, i, j, hentries, hat, hbefore⟩
    · rw [credentialSubject_of_not_list (not_exists.mp hlist)] at h
      cases h
  · rintro ⟨entries, i, j, hentries, hat, hbefore⟩
    rw [credentialSubject_of_get? hentries, firstSubjectId_eq_some_iff, firstId_iff_exists_idAt]
    exact ⟨i, j, hat, hbefore⟩

/-- The extractor finds nothing exactly when its name holds no claim, or a claim that is no list, or
a list without an id at any position. -/
theorem credentialSubject_eq_none_iff : credentialSubject name claims = none ↔
    claims.get? name = none ∨
      (∃ claim, claims.get? name = some claim ∧ ∀ entries, claim ≠ .list entries) ∨
      ∃ entries, claims.get? name = some (.list entries) ∧ ∀ i j id, ¬ IdAt entries i j id := by
  cases hclaim : claims.get? name with
  | none =>
    refine iff_of_true (credentialSubject_of_not_list fun entries ↦ ?_) (.inl rfl)
    rw [hclaim]
    exact nofun
  | some claim =>
    cases claim with
    | list entries =>
      rw [credentialSubject_of_get? hclaim, firstSubjectId_eq_none_iff,
        noId_iff_forall_not_idAt]
      simp
    | credential | json =>
      refine iff_of_true (credentialSubject_of_not_list fun entries ↦ ?_)
        (.inr (.inl ⟨_, rfl, nofun⟩))
      rw [hclaim]
      exact nofun

end Claims

/-- The extractor over a name selects the id at the first position of the list under that name, and
it finds nothing where there is no list or no id in it. Claims that have the same ids in the
credentials of that list are the same to it, whatever else they hold. -/
theorem credentialSubject_selects_first (name : String) :
    (∀ claims id, credentialSubject name claims = some id ↔
      ∃ entries i j, claims.get? name = some (.list entries) ∧ IdAt entries i j id ∧
        NoIdBefore entries i j) ∧
    (∀ claims, credentialSubject name claims = none ↔
      claims.get? name = none ∨
        (∃ claim, claims.get? name = some claim ∧ ∀ entries, claim ≠ .list entries) ∨
        ∃ entries, claims.get? name = some (.list entries) ∧ ∀ i j id, ¬ IdAt entries i j id) ∧
    ∀ a b, AlikeUnder name a b → credentialSubject name a = credentialSubject name b := by
  refine ⟨fun _ _ ↦ credentialSubject_eq_some_iff, fun _ ↦ credentialSubject_eq_none_iff, ?_⟩
  rintro a b (⟨left, right, ids⟩ | ⟨left, right⟩)
  · rw [credentialSubject_of_get? left, credentialSubject_of_get? right, ids.firstSubjectId_eq]
  · rw [credentialSubject_of_not_list left, credentialSubject_of_not_list right]

/-- An anonymous subject and the subject did:b. -/
def bareEntries : List Claim := [.credential ⟨none, [], [.anonymous, .withId "did:b"]⟩]

/-- The same subjects, with the id did:a wherever it is not looked at: in a nested list, on the
credential itself and in an attribute of the anonymous subject. -/
def mixedEntries : List Claim :=
  [.list [.credential ⟨none, [], [.withId "did:a"]⟩],
    .credential ⟨some "did:a", ["Membership"],
      [Subject.anonymous.withAttribute "id" (.string "did:a"), .withId "did:b"]⟩]

/-- The bare list under the usual name. -/
def bareClaims : Claims := Claims.empty.insert "vc" (.list bareEntries)

/-- The mixed list under the usual name, and the id did:a under another. -/
def mixedClaims : Claims :=
  (Claims.empty.insert "vc" (.list mixedEntries)).insert "sub" (.plain (.string "did:a"))

/-- An id that stands elsewhere than in a subject of a listed credential does not matter. -/
theorem id_elsewhere_is_not_selected : AlikeUnder "vc" mixedClaims bareClaims ∧
    credentialSubject "vc" mixedClaims = credentialSubject "vc" bareClaims ∧
    credentialSubject "vc" bareClaims = some "did:b" := by
  have hmixed : mixedClaims.get? "vc" = some (.list mixedEntries) := by decide +kernel
  have hbare : bareClaims.get? "vc" = some (.list bareEntries) := by decide +kernel
  have halike : AlikeUnder "vc" mixedClaims bareClaims :=
    .list hmixed hbare (.left nofun (.credential rfl .nil))
  have hselects := credentialSubject_selects_first "vc"
  exact ⟨halike, hselects.2.2 _ _ halike, by decide +kernel⟩

end ConnectorProfiles.Extractor
