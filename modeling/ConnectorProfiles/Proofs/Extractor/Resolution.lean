import ConnectorProfiles.Proofs.Dispatch.Answers
import ConnectorProfiles.Proofs.Registry.History

/-!
# Resolution of extractors over runs

One law says which extractor a protocol resolves to, in a table after changes, in a registry after
calls and in a dispatch after changes: the last one given to the protocol or, for the reserved key
and for protocols that were given none, the last one given to all others. So what is given to one
protocol makes no difference to any other.
-/

namespace ConnectorProfiles

namespace Extractor

/-- The law of resolution for a table that was new with a fallback and then changed. -/
structure Table.Follows (t : Table) (first : Extractor) (changes : List Change) : Prop where
  hasDedicated_iff : ∀ key, t.hasDedicated key = true ↔
    key ≠ defaultKey ∧ ∃ extractor, Change.install key extractor ∈ changes
  dedicated : ∀ key, t.hasDedicated key = true →
    Last (changes.map Change.entry) key (t.resolve key)
  others : ∀ key, t.hasDedicated key = false → t.resolve key = t.fallback
  fallback : FallsBack first (changes.map Change.entry) t.fallback

/-- Changes write a key other than the reserved one exactly when one of them installs under it. -/
theorem not_lacks_entries_iff {changes : List Change} {key : String}
    (hkey : key ≠ Table.defaultKey) :
    ¬ Lacks (changes.map Change.entry) key ↔
      ∃ extractor, Change.install key extractor ∈ changes := by
  simp only [Lacks, List.forall_mem_map, not_forall, not_not]
  constructor
  · rintro ⟨c, hc, hwrites⟩
    cases c with
    | install key extractor =>
      obtain rfl := hwrites
      exact ⟨extractor, hc⟩
    | replaceFallback extractor => exact absurd hwrites.symm hkey
  · rintro ⟨extractor, hc⟩
    exact ⟨_, hc, rfl⟩

/-- A table follows the law over every run of changes. -/
theorem follows_changeAll_new (first : Extractor) (changes : List Change) :
    ((Table.new first).changeAll changes).Follows first changes := by
  have hholds := Table.holds_changeAll_new first changes
  refine ⟨fun key ↦ ?_, fun key hdedicated ↦ ?_, fun _ ↦ Table.resolve_of_not_dedicated,
    hholds.fallback⟩
  · rw [hholds.hasDedicated_iff]
    exact and_congr_right not_lacks_entries_iff
  · obtain ⟨hkey, hwritten⟩ := (hholds.hasDedicated_iff key).mp hdedicated
    cases hholds.resolves key with
    | dedicated _ hlast => exact hlast
    | fallback h _ => exact absurd (h.resolve_left hkey) hwritten

/-! ### Changes of one key -/

/-- Runs of changes that differ in changes of one key only, wherever these stand. -/
def SameBut (key : String) (changes other : List Change) : Prop :=
  changes.filter (!·.writes key) = other.filter (!·.writes key)

namespace SameBut

variable {key protocol : String} {changes other : List Change}

/-- Without the key, such runs write the same entries. -/
theorem filter_entries_eq (h : SameBut key changes other) :
    (changes.map Change.entry).filter (·.1 != key) =
      (other.map Change.entry).filter (·.1 != key) := by
  rw [List.filter_map, List.filter_map]
  exact congrArg (List.map Change.entry) h

/-- Changes of a key other than the reserved one do not change what another key resolves to. -/
theorem resolve_eq (h : SameBut key changes other) (hkey : key ≠ Table.defaultKey)
    (hprotocol : protocol ≠ key) (first : Extractor) :
    ((Table.new first).changeAll changes).resolve protocol =
      ((Table.new first).changeAll other).resolve protocol := by
  -- Both tables answer from the entries that are left without the key.
  have hresolves := (Table.holds_changeAll_new first changes).resolves protocol
  rw [← resolves_filter_iff hkey hprotocol, h.filter_entries_eq,
    resolves_filter_iff hkey hprotocol] at hresolves
  exact hresolves.unique ((Table.holds_changeAll_new first other).resolves protocol)

/-- Changes of a key do not change whether another key has an extractor of its own. -/
theorem hasDedicated_eq (h : SameBut key changes other) (hprotocol : protocol ≠ key)
    (first : Extractor) :
    ((Table.new first).changeAll changes).hasDedicated protocol =
      ((Table.new first).changeAll other).hasDedicated protocol := by
  have hlacks (changes : List Change) : Lacks (changes.map Change.entry) protocol ↔
      Lacks ((changes.map Change.entry).filter (·.1 != key)) protocol := by
    rw [lacks_filter_iff, or_iff_right hprotocol]
  rw [Bool.eq_iff_iff, (Table.holds_changeAll_new first changes).hasDedicated_iff,
    (Table.holds_changeAll_new first other).hasDedicated_iff, hlacks changes, hlacks other,
    h.filter_entries_eq]

end SameBut

/-- Tables, registries and dispatches resolve by one law over every run: each table follows it, and
so do the extractors that a registry and a dispatch use. Changes of a key other than the reserved
one make no difference to any other protocol. -/
theorem resolution_follows_changes (first : Extractor) :
    (∀ changes, ((Table.new first).changeAll changes).Follows first changes) ∧
    (∀ calls protocol, Resolves first
      ((calls.filterMap Registry.Call.change?).map Change.entry) protocol
      ((Registry.ofCalls first calls).extractor protocol)) ∧
    (∀ changes protocol, ∃ extractor,
      Resolves first (changes.map Change.entry) protocol extractor ∧
      ∀ claims, Dispatch.Answers protocol (extractor claims)
        ((Dispatch.ofChanges first changes).extractId claims protocol).value) ∧
    ∀ key protocol, key ≠ Table.defaultKey → protocol ≠ key →
      (∀ changes other, SameBut key changes other →
        ((Table.new first).changeAll changes).resolve protocol =
          ((Table.new first).changeAll other).resolve protocol) ∧
      (∀ calls other, SameBut key (calls.filterMap Registry.Call.change?)
          (other.filterMap Registry.Call.change?) →
        (Registry.ofCalls first calls).extractor protocol =
          (Registry.ofCalls first other).extractor protocol) ∧
      ∀ changes other, SameBut key changes other → ∀ claims,
        (Dispatch.ofChanges first changes).extractId claims protocol =
          (Dispatch.ofChanges first other).extractId claims protocol := by
  refine ⟨follows_changeAll_new first, fun calls protocol ↦ ?_, fun changes protocol ↦ ?_,
    fun key protocol hkey hprotocol ↦ ⟨fun changes other h ↦ ?_, fun calls other h ↦ ?_,
      fun changes other h claims ↦ ?_⟩⟩
  · rw [Registry.ofCalls_eq]
    exact (Table.holds_changeAll_new first _).resolves protocol
  · refine ⟨_, (Table.holds_changeAll_new first changes).resolves protocol, fun claims ↦ ?_⟩
    rw [Dispatch.ofChanges_eq]
    exact Dispatch.answers_extractId _ claims protocol
  · exact h.resolve_eq hkey hprotocol first
  · rw [Registry.ofCalls_eq, Registry.ofCalls_eq]
    exact h.resolve_eq hkey hprotocol first
  · rw [Dispatch.ofChanges_eq, Dispatch.ofChanges_eq]
    exact Dispatch.extractId_congr (h.resolve_eq hkey hprotocol first)
      (h.hasDedicated_eq hprotocol first)

/-- Changes of every kind: a protocol is given an extractor before and after all others are given
theirs, once under the reserved key. -/
def sampleChanges : List Change :=
  [.install "dsp" fun _ ↦ some "did:web:first", .replaceFallback fun _ ↦ none,
    .install "default" fun _ ↦ some "did:web:other", .install "dsp" fun _ ↦ some "did:web:last"]

/-- After the sample changes the reserved key has no extractor of its own, and a protocol that was
given none is answered as if the changes of the other protocol had not been made. -/
theorem other_protocol_is_untouched :
    "dsp" ≠ Table.defaultKey ∧ "other" ≠ "dsp" ∧
    SameBut "dsp" sampleChanges
      [.replaceFallback fun _ ↦ none, .install "default" fun _ ↦ some "did:web:other"] ∧
    ((Table.new (credentialSubject "vc")).changeAll sampleChanges).hasDedicated "default" = false ∧
    ∀ claims, ((Dispatch.ofChanges (credentialSubject "vc") sampleChanges).extractId claims
      "other").value = .ok "did:web:other" := by
  obtain ⟨hfollows, -, -, huntouched⟩ := resolution_follows_changes (credentialSubject "vc")
  have hkey : "dsp" ≠ Table.defaultKey := by decide
  have hother : "other" ≠ "dsp" := by decide
  have hsame : SameBut "dsp" sampleChanges
      [.replaceFallback fun _ ↦ none, .install "default" fun _ ↦ some "did:web:other"] := rfl
  obtain ⟨-, -, hdispatch⟩ := huntouched "dsp" "other" hkey hother
  refine ⟨hkey, hother, hsame, ?_, fun claims ↦ ?_⟩
  · rw [← Bool.not_eq_true, (hfollows sampleChanges).hasDedicated_iff]
    exact fun h ↦ h.1 rfl
  · rw [hdispatch _ _ hsame]
    exact Dispatch.extractId_of_notBlank rfl ⟨'d', by decide, by decide⟩

end Extractor

end ConnectorProfiles
