import ConnectorProfiles.Proofs.Extractor.Resolution

/-!
# Policy of id extraction

What an extraction answers and reports follows from the changes made to the dispatch before it, and
from nothing else: extractions in between leave no trace. The extractor of the protocol's own is
final, even if it finds nothing. Each extraction reports one event, which tells whether there was an
answer and whether the protocol has an extractor of its own.
-/

namespace ConnectorProfiles.Dispatch

/-! ### The event of an extraction -/

/-- The event that is reported with an answer. -/
def answerEvent (protocol : String) (dedicated : Bool) : Except Extractor.Fault String → Event
  | .ok _ => .idExtracted protocol dedicated
  | .error _ => .idMissing protocol dedicated

/-- An extraction reports one event, on the answer that it gives. -/
theorem events_extractId (d : Dispatch) (claims : Claims) (protocol : String) :
    (d.extractId claims protocol).events =
      [answerEvent protocol (d.extractors.hasDedicated protocol)
        (d.extractId claims protocol).value] := by
  unfold extractId
  cases d.extractors.resolve protocol claims with
  | none => rfl
  | some id =>
    by_cases hblank : Text.isBlank id = true
    · simp [hblank, answerEvent]
    · simp [hblank, answerEvent]

/-- An event tells of an answer on a protocol: it is a debugging event where an id was answered and
a warning where none was, and says whether the protocol has an extractor of its own. -/
structure Tells (protocol : String) (dedicated : Prop) (answer : Except Extractor.Fault String)
    (event : Event) : Prop where
  target : event.target = "dataspace-profile::dispatch"
  debug_iff : event.level = .debug ↔ ∃ id, answer = .ok id
  warn_iff : event.level = .warn ↔ ∃ fault, answer = .error fault
  fields : ∃ flag, event.fields = [("protocol", .text protocol), ("dedicated", .flag flag)] ∧
    (flag = true ↔ dedicated)

/-- The event that is reported with an answer tells of it. -/
theorem tells_answerEvent {protocol : String} {flag : Bool} {dedicated : Prop}
    (h : flag = true ↔ dedicated) (answer : Except Extractor.Fault String) :
    Tells protocol dedicated answer (answerEvent protocol flag answer) := by
  cases answer with
  | ok id => exact ⟨rfl, by simp [answerEvent, Event.level], by simp [answerEvent, Event.level],
      flag, rfl, h⟩
  | error fault => exact ⟨rfl, by simp [answerEvent, Event.level],
      by simp [answerEvent, Event.level], flag, rfl, h⟩

/-! ### Runs with extractions in between -/

/-- A use of a dispatch: a change of its extractors or the extraction of an id. -/
inductive Use where
  | change (c : Extractor.Change)
  | extract (claims : Claims) (protocol : String)

/-- The change that a use makes. -/
def Use.change? : Use → Option Extractor.Change
  | .change c => some c
  | .extract .. => none

/-- Uses a dispatch; after an extraction it goes on as it was. -/
def use (d : Dispatch) : Use → Logged Dispatch
  | .change c => d.change c
  | .extract claims protocol => do
    let _ ← d.extractId claims protocol
    return d

/-- Uses a dispatch in several ways in order. -/
def useAll (d : Dispatch) (uses : List Use) : Logged Dispatch := uses.foldlM use d

/-- What uses make of a new dispatch. -/
def ofUses (fallback : Extractor) (uses : List Use) : Dispatch :=
  ((new fallback).useAll uses).value

/-- A use makes its change to the extractors; an extraction makes none. -/
theorem value_use (d : Dispatch) (u : Use) :
    (d.use u).value = ⟨d.extractors.changeAll u.change?.toList⟩ := by
  cases u with
  | change c => exact value_change d c
  | extract claims protocol => rfl

/-- Uses make their changes to the extractors in order. -/
theorem value_useAll (d : Dispatch) (uses : List Use) :
    (d.useAll uses).value = ⟨d.extractors.changeAll (uses.filterMap Use.change?)⟩ := by
  rw [useAll, Logged.value_foldlM]
  induction uses generalizing d with
  | nil => rfl
  | cons u uses ih =>
    rw [List.foldl_cons, ih, value_use]
    simp only [List.filterMap_eq_flatMap_toList, List.flatMap_cons,
      Extractor.Table.changeAll_append]

/-- Extractions among the uses of a new dispatch leave it as its changes made it. -/
theorem ofUses_eq (fallback : Extractor) (uses : List Use) :
    ofUses fallback uses = ofChanges fallback (uses.filterMap Use.change?) := by
  rw [ofUses, value_useAll, ofChanges_eq]
  rfl

/-! ### What an extraction answers and reports -/

/-- The policy of extraction on a protocol, after changes of a dispatch that was new with a first
fallback: the answer is on what the extractor finds that the protocol resolves to; one of its own is
final; and one event tells of the answer. -/
structure Policy (first : Extractor) (changes : List Extractor.Change) (claims : Claims)
    (protocol : String) (outcome : Logged (Except Extractor.Fault String)) : Prop where
  answers : ∃ extractor,
    Extractor.Resolves first (changes.map Extractor.Change.entry) protocol extractor ∧
      Answers protocol (extractor claims) outcome.value
  final : ∀ extractor, protocol ≠ Extractor.Table.defaultKey →
    Last (changes.map Extractor.Change.entry) protocol extractor →
      Answers protocol (extractor claims) outcome.value
  event : ∃ event, outcome.events = [event] ∧
    Tells protocol (protocol ≠ Extractor.Table.defaultKey ∧
      ∃ extractor, Extractor.Change.install protocol extractor ∈ changes) outcome.value event

/-- A dispatch that was new and then changed extracts ids by the policy. -/
theorem policy_ofChanges (first : Extractor) (changes : List Extractor.Change) (claims : Claims)
    (protocol : String) :
    Policy first changes claims protocol ((ofChanges first changes).extractId claims protocol) := by
  have hholds := Extractor.Table.holds_changeAll_new first changes
  have hresolves := hholds.resolves protocol
  rw [ofChanges_eq]
  have hanswers := answers_extractId ⟨(Extractor.Table.new first).changeAll changes⟩ claims protocol
  refine ⟨⟨_, hresolves, hanswers⟩, ?_, _, events_extractId _ claims protocol, ?_⟩
  · intro extractor hkey hlast
    rwa [hresolves.unique (.dedicated hkey hlast)] at hanswers
  · apply tells_answerEvent
    rw [hholds.hasDedicated_iff]
    exact and_congr_right Extractor.not_lacks_entries_iff

/-- Ids are extracted by one policy after every run of uses, and the policy looks at the changes
among them only: an extraction leaves no trace in the dispatch. -/
theorem extraction_follows_policy (first : Extractor) (uses : List Use) :
    ofUses first uses = ofChanges first (uses.filterMap Use.change?) ∧
    ∀ claims protocol, Policy first (uses.filterMap Use.change?) claims protocol
      ((ofUses first uses).extractId claims protocol) := by
  have hchanges := ofUses_eq first uses
  refine ⟨hchanges, ?_⟩
  intro claims protocol
  rw [hchanges]
  exact policy_ofChanges first _ claims protocol

/-- The fallback finds an id, but the blank one that the protocol's own extractor finds is final. -/
example (claims : Claims) : (ofUses (fun _ ↦ some "did:web:other")
    [.extract claims "dsp",
      .change (.install "dsp" fun _ ↦ some "\u3000")]).extractId claims "dsp" =
      ⟨.error (.extractionFailed "dsp"), [.idMissing "dsp" true]⟩ :=
  rfl

end ConnectorProfiles.Dispatch
