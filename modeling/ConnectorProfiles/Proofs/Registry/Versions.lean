import ConnectorProfiles.Proofs.Registry.History
import Mathlib.Data.List.Nodup

/-!
# Advertised versions

A registry advertises the versions of its active profiles, each once and in the order in which they
are first seen. One more active profile adds its version at the end or changes nothing. What is
found under a protocol is advertised, and where no two active profiles share a name, all that is
advertised is found under some protocol.
-/

namespace ConnectorProfiles.Registry

/-! ### The order of first sight -/

/-- A list of versions in the order of first sight: it holds those that were seen, each once, and
one before another exactly when it was seen first. -/
structure FirstSeen (listed seen : List ProtocolVersion) : Prop where
  nodup : listed.Nodup
  mem_iff : ∀ version, version ∈ listed ↔ version ∈ seen
  idxOf_lt_iff : ∀ u ∈ listed, ∀ v ∈ listed,
    listed.idxOf u < listed.idxOf v ↔ seen.idxOf u < seen.idxOf v

/-- Before anything was seen, nothing is listed. -/
theorem firstSeen_nil : FirstSeen [] [] where
  nodup := List.nodup_nil
  mem_iff _ := Iff.rfl
  idxOf_lt_iff _ _ _ _ := Iff.rfl

/-- What comes after a list does not change which of two of its versions comes first. -/
theorem idxOf_append_lt_iff {seen later : List ProtocolVersion} {u v : ProtocolVersion}
    (hu : u ∈ seen) (hv : v ∈ seen) :
    (seen ++ later).idxOf u < (seen ++ later).idxOf v ↔ seen.idxOf u < seen.idxOf v := by
  rw [List.idxOf_append_of_mem hu, List.idxOf_append_of_mem hv]

/-- A version that a list lacks comes after all that it holds. -/
theorem idxOf_concat_lt_iff {seen : List ProtocolVersion} {u v version : ProtocolVersion}
    (hu : u ∈ seen ++ [version]) (hv : v ∈ seen ++ [version]) (hversion : version ∉ seen) :
    (seen ++ [version]).idxOf u < (seen ++ [version]).idxOf v ↔
      u ∈ seen ∧ (v ∈ seen → seen.idxOf u < seen.idxOf v) := by
  have hlast : (seen ++ [version]).idxOf version = seen.length := by
    rw [List.idxOf_append_of_notMem hversion, List.idxOf_cons_self, Nat.add_zero]
  rw [List.mem_append, List.mem_singleton] at hu hv
  rcases hu with hu | rfl
  · have hlt := List.idxOf_lt_length_of_mem hu
    rcases hv with hv | rfl
    · rw [idxOf_append_lt_iff hu hv]
      simp only [hu, hv, true_and, true_implies]
    · rw [List.idxOf_append_of_mem hu, hlast]
      simp only [hu, hversion, hlt, false_implies, and_self]
  · rcases hv with hv | rfl
    · have hlt := List.idxOf_lt_length_of_mem hv
      rw [List.idxOf_append_of_mem hv, hlast]
      simp only [hversion, false_and, iff_false]
      omega
    · simp only [hversion, false_and, Nat.lt_irrefl]

/-- Seeing one more version keeps the order of first sight. -/
theorem FirstSeen.advertise {listed seen : List ProtocolVersion} (h : FirstSeen listed seen)
    (version : ProtocolVersion) :
    FirstSeen (Registry.advertise listed version) (seen ++ [version]) := by
  unfold Registry.advertise
  split
  · next hlisted =>
    have hseen := (h.mem_iff version).mp hlisted
    refine ⟨h.nodup, ?_, ?_⟩
    · intro v
      rw [h.mem_iff, List.mem_append, List.mem_singleton, or_iff_left_of_imp]
      rintro rfl
      exact hseen
    · intro u hu v hv
      rw [h.idxOf_lt_iff u hu v hv,
        idxOf_append_lt_iff ((h.mem_iff u).mp hu) ((h.mem_iff v).mp hv)]
  · next hlisted =>
    have hseen : version ∉ seen := fun hseen ↦ hlisted ((h.mem_iff version).mpr hseen)
    have hmem (v : ProtocolVersion) : v ∈ listed ++ [version] ↔ v ∈ seen ++ [version] := by
      rw [List.mem_append, List.mem_append, h.mem_iff]
    refine ⟨?_, hmem, ?_⟩
    · rw [← List.concat_eq_append]
      exact h.nodup.concat hlisted
    · intro u hu v hv
      rw [idxOf_concat_lt_iff hu hv hlisted,
        idxOf_concat_lt_iff ((hmem u).mp hu) ((hmem v).mp hv) hseen, ← h.mem_iff, ← h.mem_iff]
      -- Both sides ask for the order of `u` and `v` only where both were listed before.
      exact and_congr_right fun hu ↦ forall_congr' fun hv ↦ h.idxOf_lt_iff u hu v hv

/-- Seeing more versions one by one keeps the order of first sight. -/
theorem FirstSeen.foldl_advertise {listed seen : List ProtocolVersion} (h : FirstSeen listed seen)
    (later : List ProtocolVersion) :
    FirstSeen (later.foldl Registry.advertise listed) (seen ++ later) := by
  induction later generalizing listed seen with
  | nil =>
    rw [List.append_nil]
    exact h
  | cons version later ih =>
    rw [List.foldl_cons, List.append_cons]
    exact ih (h.advertise version)

/-- A registry lists the versions of its active profiles in the order of first sight. -/
theorem firstSeen_versions (r : Registry) :
    FirstSeen r.versions.toList (r.active.map (·.protocolVersion)) :=
  firstSeen_nil.foldl_advertise _

/-! ### One more active profile -/

/-- A call adds a profile to the tier that is looked at: to the default tier as long as no profile
is standard, and to the standard tier once it is not empty or nothing at all was registered. -/
def Extends (r : Registry) (c : Call) (profile : Profile) : Prop :=
  c.default? = some profile ∧ r.standards = [] ∨
    c.standard? = some profile ∧ (r.standards = [] → r.defaults = [])

/-- A call that extends the active tier leaves what was active before and adds its profile. -/
theorem Extends.active_call {r : Registry} {c : Call} {profile : Profile}
    (h : r.Extends c profile) : (r.call c).value.active = r.active ++ [profile] := by
  rw [active_eq, active_eq, value_call]
  rcases h with ⟨hdefault, hstandards⟩ | ⟨hstandard, hfirst⟩
  · simp [hdefault, Call.standard?_of_default? hdefault, hstandards]
  · by_cases hstandards : r.standards = []
    · simp [hstandard, hstandards, hfirst hstandards]
    · simp [hstandard, hstandards]

/-- One more version is seen: nothing changes where it was listed before, and otherwise it is put at
the end. -/
def Adds (version : ProtocolVersion) (before after : ProtocolVersions) : Prop :=
  version ∈ before.toList ∧ after = before ∨
    version ∉ before.toList ∧ after.toList = before.toList ++ [version]

/-- One more active profile adds its version to those that are advertised. -/
theorem adds_versions {r later : Registry} {profile : Profile}
    (h : later.active = r.active ++ [profile]) :
    Adds profile.protocolVersion r.versions later.versions := by
  have hversions : later.versions = ⟨advertise r.versions.toList profile.protocolVersion⟩ := by
    rw [versions, versions, h, List.map_append, List.foldl_append]
    rfl
  rw [hversions, advertise]
  split
  · next hlisted => exact .inl ⟨hlisted, rfl⟩
  · next hlisted => exact .inr ⟨hlisted, rfl⟩

/-! ### Versions and look-ups -/

/-- What a registry advertises: the versions of the active profiles, each once, in the order of the
first active profiles with them; all that are found under protocols, and nothing else where no two
active profiles share a name. -/
structure Advertises (r : Registry) : Prop where
  nodup : r.versions.toList.Nodup
  mem_iff : ∀ version, version ∈ r.versions.toList ↔
    ∃ profile ∈ r.active, profile.protocolVersion = version
  order : ∀ u ∈ r.versions.toList, ∀ v ∈ r.versions.toList,
    r.versions.toList.idxOf u < r.versions.toList.idxOf v ↔
      r.active.findIdx (·.protocolVersion == u) < r.active.findIdx (·.protocolVersion == v)
  found : ∀ protocol version, r.version? protocol = some version → version ∈ r.versions.toList
  distinct : (r.active.map (·.name)).Nodup → ∀ version ∈ r.versions.toList,
    ∃ protocol, r.version? protocol = some version

/-- A version is advertised exactly when an active profile has it. -/
theorem mem_versions_iff (r : Registry) (version : ProtocolVersion) :
    version ∈ r.versions.toList ↔ ∃ profile ∈ r.active, profile.protocolVersion = version := by
  rw [r.firstSeen_versions.mem_iff, List.mem_map]

/-- Where no two active profiles share a name, each is found under its own. -/
theorem find?_name {r : Registry} (h : (r.active.map (·.name)).Nodup) {profile : Profile}
    (hprofile : profile ∈ r.active) : r.find? profile.name = some profile := by
  cases hfind : r.find? profile.name with
  | none =>
    rw [find?, List.find?_eq_none] at hfind
    exact absurd (beq_self_eq_true profile.name) (hfind profile hprofile)
  | some found =>
    rw [find?] at hfind
    have hname := List.find?_some hfind
    have hmem := List.mem_of_find?_eq_some hfind
    rw [List.inj_on_of_nodup_map h hmem hprofile (beq_iff_eq.mp hname)]

/-- Every registry advertises the versions of its active profiles. -/
theorem advertises (r : Registry) : r.Advertises where
  nodup := r.firstSeen_versions.nodup
  mem_iff := r.mem_versions_iff
  order u hu v hv := by
    rw [r.firstSeen_versions.idxOf_lt_iff u hu v hv, List.idxOf, List.idxOf, List.findIdx_map,
      List.findIdx_map]
    rfl
  found protocol version h := by
    rw [version?, Option.map_eq_some_iff] at h
    obtain ⟨profile, hfind, hversion⟩ := h
    exact (r.mem_versions_iff version).mpr ⟨profile, List.mem_of_find?_eq_some hfind, hversion⟩
  distinct hnames version hversion := by
    obtain ⟨profile, hprofile, rfl⟩ := (r.mem_versions_iff version).mp hversion
    exact ⟨profile.name, by rw [version?, find?_name hnames hprofile, Option.map_some]⟩

/-- Every registry that was new and then called advertises the versions of its active profiles, and
a further call that extends the active tier adds the version of its profile. -/
theorem versions_in_order_of_first_sight (fallback : Extractor) (calls : List Call) :
    (ofCalls fallback calls).Advertises ∧
    ∀ c profile, (ofCalls fallback calls).Extends c profile →
      (ofCalls fallback (calls ++ [c])).active = (ofCalls fallback calls).active ++ [profile] ∧
      Adds profile.protocolVersion (ofCalls fallback calls).versions
        (ofCalls fallback (calls ++ [c])).versions := by
  refine ⟨advertises _, ?_⟩
  intro c profile hextends
  rw [ofCalls_concat]
  exact ⟨hextends.active_call, adds_versions hextends.active_call⟩

/-- A profile of the old version under a third name. -/
def legacyProfile : Profile := { oldProfile with name := "dsp:legacy" }

/-- A second profile of a version is active and found, and changes nothing in what is advertised. -/
theorem second_profile_of_a_version :
    (ofCalls (Extractor.credentialSubject "vc") [.registerDefault oldProfile,
      .registerDefault currentProfile]).Extends (.registerDefault legacyProfile) legacyProfile ∧
    (ofCalls (Extractor.credentialSubject "vc") [.registerDefault oldProfile,
      .registerDefault currentProfile, .registerDefault legacyProfile]).versions.toList =
        [oldProfile.protocolVersion, currentProfile.protocolVersion] := by
  obtain ⟨-, hextended⟩ := versions_in_order_of_first_sight (Extractor.credentialSubject "vc")
    [.registerDefault oldProfile, .registerDefault currentProfile]
  have hextends : (ofCalls (Extractor.credentialSubject "vc") [.registerDefault oldProfile,
      .registerDefault currentProfile]).Extends (.registerDefault legacyProfile) legacyProfile :=
    .inl ⟨rfl, rfl⟩
  refine ⟨hextends, ?_⟩
  obtain ⟨-, ⟨-, hsame⟩ | ⟨hfresh, -⟩⟩ := hextended _ _ hextends
  · exact congrArg ProtocolVersions.toList hsame
  · exact absurd (List.mem_cons_self) hfresh

end ConnectorProfiles.Registry
