import ConnectorProfiles.Proofs.Extractor.Changes
import ConnectorProfiles.Registry
import Mathlib.Data.List.Basic

/-!
# History of a registry

The calls on a new registry decide all it answers: each tier holds the profiles given to it, in the
order of the calls, and the extractors are those of the changes among the calls. Once one call gave
a profile to the standard tier, the calls that give profiles to the default tier make no difference
to any answer, wherever they stand.
-/

namespace ConnectorProfiles.Registry

/-- A call that changes a registry. -/
inductive Call where
  | registerDefault (profile : Profile)
  | register (profile : Profile)
  | registerWith (profile : Profile) (extractor : Extractor)
  | replaceFallback (extractor : Extractor)

namespace Call

/-- The profile that a call gives to the default tier. -/
def default? : Call → Option Profile
  | .registerDefault profile => some profile
  | .register _ | .registerWith .. | .replaceFallback _ => none

/-- The profile that a call gives to the standard tier. -/
def standard? : Call → Option Profile
  | .register profile | .registerWith profile _ => some profile
  | .registerDefault _ | .replaceFallback _ => none

/-- The change that a call makes to the extractors. -/
def change? : Call → Option Extractor.Change
  | .registerWith profile extractor => some (.install profile.name extractor)
  | .replaceFallback extractor => some (.replaceFallback extractor)
  | .registerDefault _ | .register _ => none

/-- Whether a call gives a profile to the default tier. -/
def isDefault (c : Call) : Bool := c.default?.isSome

/-- A call that gives a profile to the default tier gives none to the standard tier. -/
theorem standard?_of_default? {c : Call} {profile : Profile} (h : c.default? = some profile) :
    c.standard? = none := by
  cases c with
  | registerDefault => rfl
  | _ => cases h

end Call

/-- Carries out a call. -/
def call (r : Registry) : Call → Logged Registry
  | .registerDefault profile => r.registerDefault profile
  | .register profile => r.register profile
  | .registerWith profile extractor => r.registerWith profile extractor
  | .replaceFallback extractor => r.replaceFallback extractor

/-- Carries out calls in order. -/
def run (r : Registry) (calls : List Call) : Logged Registry := calls.foldlM call r

/-- What calls make of a new registry. -/
def ofCalls (fallback : Extractor) (calls : List Call) : Registry :=
  ((new fallback).run calls).value

/-- Calls after others start from the registry that those left. -/
theorem run_append (r : Registry) (calls later : List Call) :
    r.run (calls ++ later) = r.run calls >>= fun left ↦ left.run later :=
  List.foldlM_append

/-- A last call is carried out on the registry that the others left. -/
theorem ofCalls_concat (fallback : Extractor) (calls : List Call) (c : Call) :
    ofCalls fallback (calls ++ [c]) = ((ofCalls fallback calls).call c).value := by
  rw [ofCalls, run_append, Logged.value_bind]
  rfl

/-- A profile for the standard tier is added at the end, whether or not it hides the other tier. -/
theorem value_register (r : Registry) (profile : Profile) :
    (r.register profile).value = { r with standards := r.standards ++ [profile] } := by
  rw [register]
  split <;> rfl

/-- A call adds its profile to its tier and makes its change to the extractors. -/
theorem value_call (r : Registry) (c : Call) : (r.call c).value =
    ⟨r.defaults ++ c.default?.toList, r.standards ++ c.standard?.toList,
      r.extractors.changeAll c.change?.toList⟩ := by
  cases c with
  | registerDefault profile => simp [call, registerDefault, Call.default?, Call.standard?,
      Call.change?]
  | register profile => simp [call, value_register, Call.default?, Call.standard?, Call.change?]
  | registerWith profile extractor => simp [call, registerWith, value_register, Call.default?,
      Call.standard?, Call.change?, Extractor.Table.change]
  | replaceFallback extractor => simp [call, replaceFallback, Call.default?, Call.standard?,
      Call.change?, Extractor.Table.change]

/-- Calls add their profiles to the tiers in order and make their changes to the extractors. -/
theorem value_run (r : Registry) (calls : List Call) : (r.run calls).value =
    ⟨r.defaults ++ calls.filterMap Call.default?, r.standards ++ calls.filterMap Call.standard?,
      r.extractors.changeAll (calls.filterMap Call.change?)⟩ := by
  rw [run, Logged.value_foldlM]
  induction calls generalizing r with
  | nil => simp
  | cons c calls ih =>
    rw [List.foldl_cons, ih, value_call]
    simp only [List.filterMap_eq_flatMap_toList, List.flatMap_cons, List.append_assoc,
      Extractor.Table.changeAll_append]

/-- A new registry holds what the calls since gave to the tiers and changed in the extractors. -/
theorem ofCalls_eq (fallback : Extractor) (calls : List Call) : ofCalls fallback calls =
    ⟨calls.filterMap Call.default?, calls.filterMap Call.standard?,
      (Extractor.Table.new fallback).changeAll (calls.filterMap Call.change?)⟩ :=
  value_run (new fallback) calls

/-! ### Answers -/

/-- The first of the profiles that has the name. -/
def FirstNamed (profiles : List Profile) (name : String) (profile : Profile) : Prop :=
  ∃ before after, profiles = before ++ profile :: after ∧ profile.name = name ∧
    ∀ other ∈ before, other.name ≠ name

/-- What a registry answers about a protocol from profiles: the webhook and the version of the first
one with its name, and neither exactly where none has it. -/
inductive AnswersFrom (r : Registry) (profiles : List Profile) (protocol : String) : Prop
  | found {profile : Profile} (hfirst : FirstNamed profiles protocol profile)
      (hwebhook : r.webhook? protocol = some profile.webhook)
      (hversion : r.version? protocol = some profile.protocolVersion)
  | missing (hnone : ∀ profile ∈ profiles, profile.name ≠ protocol)
      (hwebhook : r.webhook? protocol = none) (hversion : r.version? protocol = none)

/-- A registry answers about every protocol from its active profiles. -/
theorem answersFrom_active (r : Registry) (protocol : String) :
    r.AnswersFrom r.active protocol := by
  cases hfind : r.find? protocol with
  | none =>
    refine .missing (fun profile hprofile hname ↦ ?_) ?_ ?_
    · rw [find?, List.find?_eq_none] at hfind
      exact hfind profile hprofile (beq_iff_eq.mpr hname)
    · rw [webhook?, hfind, Option.map_none]
    · rw [version?, hfind, Option.map_none]
  | some profile =>
    have hfirst : FirstNamed r.active protocol profile := by
      rw [find?, List.find?_eq_some_iff_append] at hfind
      obtain ⟨hname, before, after, hactive, hbefore⟩ := hfind
      refine ⟨before, after, hactive, beq_iff_eq.mp hname, fun other hother heq ↦ ?_⟩
      simpa [heq] using hbefore other hother
    refine .found hfirst ?_ ?_
    · rw [webhook?, hfind, Option.map_some]
    · rw [version?, hfind, Option.map_some]

/-- The standard tier is active as soon as it holds a profile. -/
theorem active_eq (r : Registry) :
    r.active = if r.standards = [] then r.defaults else r.standards := by
  simp only [active, List.isEmpty_iff]

/-- A registry records calls when each tier holds the profiles given to it, in order, and answers
about protocols come from the standard tier or, where that is empty, from the default tier. -/
structure Records (r : Registry) (calls : List Call) : Prop where
  defaults : r.defaults = calls.filterMap Call.default?
  standards : r.standards = calls.filterMap Call.standard?
  active : r.active = if r.standards = [] then r.defaults else r.standards
  answers : ∀ protocol, r.AnswersFrom r.active protocol

/-- A new registry records the calls since. -/
theorem records_ofCalls (fallback : Extractor) (calls : List Call) :
    (ofCalls fallback calls).Records calls where
  defaults := by rw [ofCalls_eq]
  standards := by rw [ofCalls_eq]
  active := active_eq _
  answers := answersFrom_active _

/-! ### Calls for the hidden tier -/

/-- Two registries give the same answers. -/
structure AnswersLike (r other : Registry) : Prop where
  active : r.active = other.active
  versions : r.versions = other.versions
  webhook? : ∀ protocol, r.webhook? protocol = other.webhook? protocol
  version? : ∀ protocol, r.version? protocol = other.version? protocol
  extractor : ∀ protocol, r.extractor protocol = other.extractor protocol

/-- Registries with the same active profiles and the same extractors give the same answers. -/
theorem answersLike_of_eq {r other : Registry} (hactive : r.active = other.active)
    (hextractors : r.extractors = other.extractors) : r.AnswersLike other where
  active := hactive
  versions := by rw [versions, versions, hactive]
  webhook? protocol := by rw [webhook?, webhook?, find?, find?, hactive]
  version? protocol := by rw [version?, version?, find?, find?, hactive]
  extractor protocol := by rw [extractor, extractor, hextractors]

/-- Runs that differ in calls for the default tier only, wherever these stand. -/
def SameButDefaults (calls other : List Call) : Prop :=
  calls.filter (!·.isDefault) = other.filter (!·.isDefault)

private theorem filterMap_filter_isDefault {α : Type} {f : Call → Option α}
    (hf : ∀ profile, f (.registerDefault profile) = none) (calls : List Call) :
    (calls.filter (!·.isDefault)).filterMap f = calls.filterMap f := by
  rw [List.filterMap_filter]
  apply List.filterMap_congr
  intro c _
  cases c with
  | registerDefault profile => exact (hf profile).symm
  | _ => rfl

/-- What calls for the default tier do not give is the same in runs that differ in these only. -/
theorem SameButDefaults.filterMap_eq {calls other : List Call} (h : SameButDefaults calls other)
    {α : Type} {f : Call → Option α} (hf : ∀ profile, f (.registerDefault profile) = none) :
    calls.filterMap f = other.filterMap f := by
  rw [← filterMap_filter_isDefault hf calls, h, filterMap_filter_isDefault hf other]

/-- A new registry records the calls since, and once one of them gave a profile to the standard
tier, the calls for the default tier make no difference to any answer. -/
theorem answers_fixed_by_history (fallback : Extractor) :
    (∀ calls, (ofCalls fallback calls).Records calls) ∧
    ∀ calls other, SameButDefaults calls other → (∃ c ∈ calls, c.standard?.isSome) →
      (ofCalls fallback calls).AnswersLike (ofCalls fallback other) := by
  refine ⟨records_ofCalls fallback, fun calls other h ⟨c, hc, hstandard⟩ ↦ ?_⟩
  have hstandards : calls.filterMap Call.standard? = other.filterMap Call.standard? :=
    h.filterMap_eq fun _ ↦ rfl
  have hchanges : calls.filterMap Call.change? = other.filterMap Call.change? :=
    h.filterMap_eq fun _ ↦ rfl
  have hne : calls.filterMap Call.standard? ≠ [] := by
    rw [ne_eq, List.filterMap_eq_nil_iff]
    intro hnone
    rw [hnone c hc] at hstandard
    cases hstandard
  apply answersLike_of_eq
  · rw [active_eq, active_eq, ofCalls_eq, ofCalls_eq, ← hstandards, if_neg hne, if_neg hne]
  · rw [ofCalls_eq, ofCalls_eq, hchanges]

/-- A profile of the current version. -/
def currentProfile : Profile :=
  ⟨"dsp:2025-1", ⟨"2025-1", "/2025/1", "HTTPS"⟩,
    ⟨"https", some ⟨"", none, .name "provider.example", none⟩, .segments ["dsp"], none, none⟩⟩

/-- A profile of an old version under another name. -/
def oldProfile : Profile := ⟨"dsp", ⟨"v0.8", "/", "HTTPS"⟩, currentProfile.webhook⟩

/-- A profile given to the default tier before and after a standard one is not found. -/
theorem old_profile_is_hidden :
    SameButDefaults [.registerDefault oldProfile, .register currentProfile,
      .registerDefault oldProfile] [.register currentProfile] ∧
    (ofCalls (Extractor.credentialSubject "vc") [.registerDefault oldProfile,
      .register currentProfile, .registerDefault oldProfile]).webhook? "dsp" = none := by
  have hsame : SameButDefaults [.registerDefault oldProfile, .register currentProfile,
      .registerDefault oldProfile] [.register currentProfile] := rfl
  have hlike := (answers_fixed_by_history (Extractor.credentialSubject "vc")).2 _ _ hsame
    ⟨.register currentProfile, by simp, rfl⟩
  refine ⟨hsame, ?_⟩
  rw [hlike.webhook?]
  rfl

end ConnectorProfiles.Registry
