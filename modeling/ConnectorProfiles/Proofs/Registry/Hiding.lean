import ConnectorProfiles.Proofs.Registry.History

/-!
# How default profiles are hidden

Each call on a registry reports one debugging event. The first call that gives a profile to the
standard tier reports, before that, the number of default profiles that it hides, if there are any;
no other call ever does, wherever default profiles are registered later. From that call on a
protocol that only default profiles have is not found until a standard profile takes its name.
-/

namespace ConnectorProfiles.Registry

/-! ### What calls report -/

/-- The event that a call reports whatever was registered before. -/
def Call.event : Call → Event
  | .registerDefault profile => .defaultProfile profile.name profile.protocolVersion.version
  | .register profile | .registerWith profile _ =>
    .standardProfile profile.name profile.protocolVersion.version
  | .replaceFallback _ => .registryFallback

/-- The number of default profiles that the next standard profile hides. -/
def exposed (r : Registry) : Nat := if r.standards = [] then r.defaults.length else 0

/-- What the name of a standard profile is reported with before all else: the number of default
profiles that it hides, unless there are none. -/
def hidingEvents (name : String) (count : Nat) : List Event :=
  if count = 0 then [] else [.defaultsHidden name count]

/-- Hidden profiles are reported with their number, which is not zero. -/
theorem mem_hidingEvents_iff {name : String} {count : Nat} {event : Event} :
    event ∈ hidingEvents name count ↔ count ≠ 0 ∧ event = .defaultsHidden name count := by
  unfold hidingEvents
  by_cases hcount : count = 0
  · simp [hcount]
  · simp [hcount]

/-- Once a profile is standard, no default profile is left to hide. -/
theorem exposed_of_standards_ne_nil {r : Registry} (h : r.standards ≠ []) : r.exposed = 0 :=
  if_neg h

/-- A standard profile is reported after the number of those that it hides. -/
theorem events_register (r : Registry) (profile : Profile) : (r.register profile).events =
    hidingEvents profile.name r.exposed ++
      [.standardProfile profile.name profile.protocolVersion.version] := by
  unfold register exposed hidingEvents
  by_cases hstandards : r.standards = []
  · by_cases hdefaults : r.defaults = []
    · simp [hstandards, hdefaults]
    · simp [hstandards, hdefaults]
  · simp [hstandards]

section FirstStandard

variable {calls before after later : List Call} {c : Call} {profile : Profile}

/-- As long as no profile is standard, all default profiles are left to hide. -/
theorem exposed_ofCalls (fallback : Extractor) (h : ∀ c ∈ before, c.standard? = none) :
    (ofCalls fallback before).exposed = (before.filterMap Call.default?).length := by
  have hstandards : before.filterMap Call.standard? = [] := List.filterMap_eq_nil_iff.mpr h
  rw [exposed, ofCalls_eq, hstandards, if_pos rfl]

end FirstStandard

/-! ### Runs with questions in between -/

/-- A step of a run: a call, or a question, which is anything that a registry has an answer to. -/
inductive Step : Type 1 where
  | call (c : Call)
  | ask {α : Type} (question : Registry → α)

/-- Takes a step; a question is answered and the registry goes on as it was. -/
def step (r : Registry) : Step → Logged Registry
  | .call c => r.call c
  | .ask question => do
    let _ := question r
    return r

/-- Takes steps in order. -/
def runSteps (r : Registry) (steps : List Step) : Logged Registry := steps.foldlM step r

end ConnectorProfiles.Registry
