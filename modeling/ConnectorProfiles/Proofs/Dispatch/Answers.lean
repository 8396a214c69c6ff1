import ConnectorProfiles.Dispatch
import ConnectorProfiles.Proofs.Extractor.Changes

/-!
# Answers of a dispatch

A dispatch answers with what the extractor of the protocol finds, unless that is nothing or blank;
then the extraction failed for that protocol. Its extractors are those of the changes made to it.
-/

namespace ConnectorProfiles

/-- Some character of the text is not white space. -/
def Text.NotBlank (s : String) : Prop := ∃ c ∈ s.toList, Text.isSpace c = false

namespace Dispatch

/-- The answer on a protocol whose extractor found an id or nothing: the id as it was found, if it
is not blank, and in every other case the failure of the extraction. -/
structure Answers (protocol : String) (found : Option String)
    (answer : Except Extractor.Fault String) : Prop where
  ok_iff : ∀ id, answer = .ok id ↔ found = some id ∧ Text.NotBlank id
  failed : (¬ ∃ id, found = some id ∧ Text.NotBlank id) →
    answer = .error (.extractionFailed protocol)

section ExtractId

variable {d : Dispatch} {claims : Claims} {protocol : String}

/-- An id that is not blank is answered as it was found. -/
theorem extractId_of_notBlank {id : String}
    (hfound : d.extractors.resolve protocol claims = some id) (hid : Text.NotBlank id) :
    (d.extractId claims protocol).value = .ok id := by
  have hblank : Text.isBlank id = false := (Text.isBlank_eq_false_iff id).mpr hid
  simp [extractId, hfound, hblank]

/-- Where no id or a blank one was found, the extraction failed for the protocol asked about. -/
theorem extractId_of_not
    (h : ¬ ∃ id, d.extractors.resolve protocol claims = some id ∧ Text.NotBlank id) :
    (d.extractId claims protocol).value = .error (.extractionFailed protocol) := by
  cases hfound : d.extractors.resolve protocol claims with
  | none => simp [extractId, hfound]
  | some id =>
    have hblank : Text.isBlank id = true := by
      rw [← Bool.not_eq_false, Text.isBlank_eq_false_iff]
      exact fun hid ↦ h ⟨id, hfound, hid⟩
    simp [extractId, hfound, hblank]

/-- A dispatch answers on what the extractor of the protocol finds. -/
theorem answers_extractId (d : Dispatch) (claims : Claims) (protocol : String) :
    Answers protocol (d.extractors.resolve protocol claims)
      (d.extractId claims protocol).value := by
  by_cases h : ∃ id, d.extractors.resolve protocol claims = some id ∧ Text.NotBlank id
  · obtain ⟨id, hfound, hid⟩ := h
    rw [extractId_of_notBlank hfound hid, hfound]
    refine ⟨fun other ↦ ⟨?_, ?_⟩, fun hnot ↦ absurd ⟨id, rfl, hid⟩ hnot⟩
    · rintro ⟨⟩
      exact ⟨rfl, hid⟩
    · rintro ⟨⟨⟩, -⟩
      rfl
  · rw [extractId_of_not h]
    exact ⟨fun id ↦ ⟨nofun, fun hid ↦ absurd ⟨id, hid⟩ h⟩, fun _ ↦ rfl⟩

/-- What is answered and reported on a protocol depends only on the extractor that it resolves to
and on whether that is its own. -/
theorem extractId_congr {other : Dispatch}
    (hresolve : d.extractors.resolve protocol = other.extractors.resolve protocol)
    (hdedicated : d.extractors.hasDedicated protocol = other.extractors.hasDedicated protocol) :
    d.extractId claims protocol = other.extractId claims protocol := by
  rw [extractId, extractId, hresolve, hdedicated]

end ExtractId

/-- Carries out a change. -/
def change (d : Dispatch) : Extractor.Change → Logged Dispatch
  | .install protocol extractor => d.register protocol extractor
  | .replaceFallback extractor => d.replaceFallback extractor

/-- Carries out changes in order. -/
def run (d : Dispatch) (changes : List Extractor.Change) : Logged Dispatch :=
  changes.foldlM change d

/-- What changes make of a new dispatch. -/
def ofChanges (fallback : Extractor) (changes : List Extractor.Change) : Dispatch :=
  ((new fallback).run changes).value

/-- A change of a dispatch is one of its extractors. -/
theorem value_change (d : Dispatch) (c : Extractor.Change) :
    (d.change c).value = ⟨d.extractors.change c⟩ := by
  cases c with
  | install | replaceFallback => rfl

/-- Changes of a dispatch are changes of its extractors. -/
theorem value_run (d : Dispatch) (changes : List Extractor.Change) :
    (d.run changes).value = ⟨d.extractors.changeAll changes⟩ := by
  rw [run, Logged.value_foldlM]
  induction changes generalizing d with
  | nil => rfl
  | cons c changes ih => rw [List.foldl_cons, ih, value_change, Extractor.Table.changeAll_cons]

/-- A new dispatch has the extractors that the changes since made. -/
theorem ofChanges_eq (fallback : Extractor) (changes : List Extractor.Change) :
    ofChanges fallback changes = ⟨(Extractor.Table.new fallback).changeAll changes⟩ :=
  value_run (new fallback) changes

end Dispatch

end ConnectorProfiles
