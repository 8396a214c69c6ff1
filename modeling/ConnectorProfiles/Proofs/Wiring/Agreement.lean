import ConnectorProfiles.Proofs.Wiring.Calls

/-!
# Agreement of registry and dispatch

The registry and the dispatch of a wiring keep their extractors in tables of their own. Both tables
are equal when the wiring comes from a configuration, and stay equal as long as both are given the
same changes. While they are equal, the dispatch answers with the ids that the extractors of the
registry find.
-/

namespace ConnectorProfiles

/-- The dispatch answers with what the extractor finds that the registry has for the protocol. -/
def Agree (registry : Registry) (dispatch : Dispatch) : Prop :=
  ∀ claims protocol, Dispatch.Answers protocol (registry.extractor protocol claims)
    (dispatch.extractId claims protocol).value

/-- With equal tables, registry and dispatch agree. -/
theorem agree_of_extractors_eq {registry : Registry} {dispatch : Dispatch}
    (h : registry.extractors = dispatch.extractors) : Agree registry dispatch := by
  intro claims protocol
  rw [Registry.extractor, h]
  exact dispatch.answers_extractId claims protocol

namespace Wiring

/-- A call that changes one of the components. -/
inductive Call where
  | registry (call : Registry.Call)
  | dispatch (change : Extractor.Change)
  | participant (protocol id : String)

namespace Call

/-- The change that a call makes to the extractors of the registry. -/
def registryChange? : Call → Option Extractor.Change
  | .registry call => call.change?
  | .dispatch _ | .participant .. => none

/-- The change that a call makes to the extractors of the dispatch. -/
def dispatchChange? : Call → Option Extractor.Change
  | .dispatch change => some change
  | .registry _ | .participant .. => none

end Call

/-- Carries out a call. -/
def call (w : Wiring) : Call → Logged Wiring
  | .registry call => do return { w with registry := ← w.registry.call call }
  | .dispatch change => do return { w with dispatch := ← w.dispatch.change change }
  | .participant protocol id => do
    return { w with participants := ← w.participants.register protocol id }

/-- Carries out calls in order. -/
def run (w : Wiring) (calls : List Call) : Logged Wiring := calls.foldlM call w

/-- The registry and the dispatch are given the same changes in the same order, whatever other calls
stand before, between or after them. -/
def Paired (calls : List Call) : Prop :=
  calls.filterMap Call.registryChange? = calls.filterMap Call.dispatchChange?

/-- A call makes its change to the extractors of the registry. -/
theorem registry_extractors_call (w : Wiring) (c : Call) : (w.call c).value.registry.extractors =
    w.registry.extractors.changeAll c.registryChange?.toList := by
  cases c with
  | registry call => simp [Wiring.call, Registry.value_call, Call.registryChange?]
  | dispatch | participant => rfl

/-- A call makes its change to the extractors of the dispatch. -/
theorem dispatch_extractors_call (w : Wiring) (c : Call) : (w.call c).value.dispatch.extractors =
    w.dispatch.extractors.changeAll c.dispatchChange?.toList := by
  cases c with
  | dispatch change => simp [Wiring.call, Dispatch.value_change, Call.dispatchChange?]
  | registry | participant => rfl

/-- Calls make their changes to the extractors of the registry and to those of the dispatch. -/
theorem extractors_run (w : Wiring) (calls : List Call) :
    (w.run calls).value.registry.extractors =
      w.registry.extractors.changeAll (calls.filterMap Call.registryChange?) ∧
    (w.run calls).value.dispatch.extractors =
      w.dispatch.extractors.changeAll (calls.filterMap Call.dispatchChange?) := by
  rw [run, Logged.value_foldlM]
  induction calls generalizing w with
  | nil => exact ⟨rfl, rfl⟩
  | cons c calls ih =>
    obtain ⟨hregistry, hdispatch⟩ := ih (w.call c).value
    rw [List.foldl_cons, hregistry, hdispatch, registry_extractors_call, dispatch_extractors_call]
    simp only [List.filterMap_eq_flatMap_toList, List.flatMap_cons,
      Extractor.Table.changeAll_append, and_self]

/-- Paired calls keep equal tables equal. -/
theorem extractors_eq_run {w : Wiring} (h : w.registry.extractors = w.dispatch.extractors)
    {calls : List Call} (hpaired : Paired calls) :
    (w.run calls).value.registry.extractors = (w.run calls).value.dispatch.extractors := by
  obtain ⟨hregistry, hdispatch⟩ := extractors_run w calls
  rw [hregistry, hdispatch, h, hpaired]

/-- A wiring from a configuration has equal tables. -/
theorem extractors_eq_of_ofConfig {config : Config} {catalog : Extractor.Catalog} {w : Wiring}
    (h : (ofConfig config catalog).value = .ok w) :
    w.registry.extractors = w.dispatch.extractors := by
  obtain ⟨-, -, rfl⟩ := value_ofConfig_eq_ok_iff.mp h
  rw [declared_registry, declared_dispatch, Registry.ofCalls_eq, Dispatch.ofChanges_eq]

/-- After any paired calls on a wiring from a configuration, the registry and the dispatch agree,
and they still agree once registration is closed. -/
theorem paired_components_agree {config : Config} {catalog : Extractor.Catalog} {w : Wiring}
    (h : (ofConfig config catalog).value = .ok w) {calls : List Call} (hpaired : Paired calls) :
    Agree (w.run calls).value.registry (w.run calls).value.dispatch ∧
      Agree (w.run calls).value.freeze.value.registry
        (w.run calls).value.freeze.value.dispatch := by
  have heq := extractors_eq_run (extractors_eq_of_ofConfig h) hpaired
  exact ⟨agree_of_extractors_eq heq, agree_of_extractors_eq heq⟩

/-- Paired calls with others between them: a protocol is given an extractor that finds a blank text,
and all others one that finds an id. -/
def sampleCalls : List Call :=
  [.registry (.registerDefault Registry.oldProfile),
    .registry (.registerWith Registry.currentProfile fun _ ↦ some " "),
    .participant "dsp" "BPNL000000000002",
    .dispatch (.install "dsp:2025-1" fun _ ↦ some " "),
    .registry (.register Registry.oldProfile),
    .dispatch (.replaceFallback fun _ ↦ some "did:web:late"),
    .registry (.replaceFallback fun _ ↦ some "did:web:late")]

/-- After the sample calls the dispatch answers with the id that the extractor of the registry
finds, and a blank text that it finds is no answer. -/
theorem blank_text_is_no_answer :
    (ofConfig sampleConfig sampleCatalog).value = .ok (declared sampleConfig sampleCatalog) ∧
    Paired sampleCalls ∧
    ∀ claims,
      (((declared sampleConfig sampleCatalog).run sampleCalls).value.dispatch.extractId claims
        "other").value = .ok "did:web:late" ∧
      (((declared sampleConfig sampleCatalog).run sampleCalls).value.dispatch.extractId claims
        "dsp:2025-1").value = .error (.extractionFailed "dsp:2025-1") := by
  have hpaired : Paired sampleCalls := rfl
  obtain ⟨hagree, -⟩ := paired_components_agree value_ofConfig_sample hpaired
  refine ⟨value_ofConfig_sample, hpaired, fun claims ↦ ⟨?_, ?_⟩⟩
  · exact ((hagree claims "other").ok_iff "did:web:late").mpr ⟨rfl, 'd', by decide, by decide⟩
  · refine (hagree claims "dsp:2025-1").failed ?_
    rintro ⟨id, hfound, c, hc, hspace⟩
    obtain rfl : " " = id := Option.some.inj hfound
    obtain rfl : c = ' ' := by simpa using hc
    exact absurd hspace (by decide)

end Wiring

end ConnectorProfiles
