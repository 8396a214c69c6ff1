import ConnectorProfiles.Participants
import ConnectorProfiles.Proofs.Extractor.Changes

/-!
# Registrations of own ids

Under a protocol a connector presents the id that was registered last under exactly this name. Where
none was, it presents the id given at the start, which no registration changes. No name is reserved:
the one that stands for all other protocols in a table of extractors is a name like any other here.
So what ends up registered depends on the order of registrations under each single name only.
-/

namespace ConnectorProfiles

/-- What a filled map holds under a name is told from the entries of that name alone. -/
theorem NameMap.get?_ofList_filter {α : Type} (entries : List (String × α)) (name : String) :
    (ofList (entries.filter (·.1 == name))).get? name = (ofList entries).get? name := by
  induction entries using List.reverseRecOn with
  | nil => rfl
  | append_singleton entries entry ih =>
    rw [List.filter_append, ofList_concat, get?_insert]
    by_cases hname : entry.1 = name
    · have hkept : [entry].filter (·.1 == name) = [entry] := by simp [hname]
      rw [hkept, ofList_concat, get?_insert, if_pos hname, if_pos hname]
    · have homitted : [entry].filter (·.1 == name) = [] := by simp [hname]
      rw [homitted, List.append_nil, if_neg hname, ih]

namespace Participants

/-- Registers ids in order. -/
def registerAll (p : Participants) (calls : List (String × String)) : Logged Participants :=
  calls.foldlM (fun p call ↦ p.register call.1 call.2) p

/-- What registrations make of a connector's ids that were new with a first one. -/
def ofCalls (defaultId : String) (calls : List (String × String)) : Participants :=
  ((new defaultId).registerAll calls).value

/-- A registration writes one entry. -/
theorem value_register (p : Participants) (protocol id : String) :
    (p.register protocol id).value = { p with byProtocol := p.byProtocol.insert protocol id } :=
  rfl

/-- Registrations write their entries in order. -/
theorem value_registerAll (p : Participants) (calls : List (String × String)) :
    (p.registerAll calls).value = { p with
      byProtocol := calls.foldl (fun m entry ↦ m.insert entry.1 entry.2) p.byProtocol } := by
  rw [registerAll, Logged.value_foldlM]
  induction calls generalizing p with
  | nil => rfl
  | cons call calls ih => rw [List.foldl_cons, ih, value_register, List.foldl_cons]

/-- Registrations report one event each. -/
theorem events_registerAll (p : Participants) (calls : List (String × String)) :
    (p.registerAll calls).events = calls.map fun call ↦ .participant call.1 call.2 := by
  unfold registerAll
  induction calls generalizing p with
  | nil => rfl
  | cons call calls ih =>
    rw [List.foldlM_cons, Logged.events_bind, ih, List.map_cons]
    rfl

/-- New ids hold what was registered since. -/
theorem ofCalls_eq (defaultId : String) (calls : List (String × String)) :
    ofCalls defaultId calls = ⟨.ofList calls, defaultId⟩ :=
  value_registerAll (new defaultId) calls

/-- The law of own ids that were new with a first one and had others registered since. -/
structure Follows (p : Participants) (defaultId : String) (calls : List (String × String)) :
    Prop where
  registered : ∀ protocol id, Last calls protocol id → p.resolve protocol = id
  unregistered : ∀ protocol, Lacks calls protocol → p.resolve protocol = defaultId
  fallback : p.defaultId = defaultId

/-- Own ids follow the law over every run of registrations. -/
theorem follows_ofCalls (defaultId : String) (calls : List (String × String)) :
    (ofCalls defaultId calls).Follows defaultId calls := by
  rw [ofCalls_eq]
  refine ⟨?_, ?_, rfl⟩
  · intro protocol id hlast
    rw [resolve, NameMap.get?_ofList_eq_some_iff.mpr hlast, Option.getD_some]
  · intro protocol hlacks
    rw [resolve, NameMap.get?_ofList_eq_none_iff.mpr hlacks, Option.getD_none]

/-! ### The order of registrations -/

/-- Two runs register the same ids in the same order under each protocol, so each is a reordering of
the other that only exchanges registrations under different protocols. -/
def SameOrder (calls other : List (String × String)) : Prop :=
  ∀ protocol, calls.filter (·.1 == protocol) = other.filter (·.1 == protocol)

/-- The id under a protocol depends on the registrations under it alone. -/
theorem resolve_ofCalls_congr {calls other : List (String × String)} {protocol : String}
    (h : calls.filter (·.1 == protocol) = other.filter (·.1 == protocol)) (defaultId : String) :
    (ofCalls defaultId calls).resolve protocol = (ofCalls defaultId other).resolve protocol := by
  rw [ofCalls_eq, ofCalls_eq, resolve, resolve, ← NameMap.get?_ofList_filter calls, h,
    NameMap.get?_ofList_filter]

/-- Own ids do not show the order of registrations under different protocols. -/
theorem SameOrder.ofCalls_eq {calls other : List (String × String)} (h : SameOrder calls other)
    (defaultId : String) : ofCalls defaultId calls = ofCalls defaultId other := by
  have hmap : NameMap.ofList calls = NameMap.ofList other := by
    ext protocol : 1
    rw [← NameMap.get?_ofList_filter calls, h, NameMap.get?_ofList_filter]
  rw [Participants.ofCalls_eq, Participants.ofCalls_eq, hmap]

/-- Own ids follow one law over every run of registrations. A registration, under whatever name and
wherever it stands, makes no difference to other names, while an extractor that is installed under
the reserved key is the one for all protocols without their own. So the order of registrations under
different names makes no difference. -/
theorem ids_follow_registrations (defaultId : String) :
    (∀ calls, (ofCalls defaultId calls).Follows defaultId calls) ∧
    (∀ before name id after protocol, protocol ≠ name →
      (ofCalls defaultId (before ++ (name, id) :: after)).resolve protocol =
        (ofCalls defaultId (before ++ after)).resolve protocol) ∧
    (∀ (t : Extractor.Table) extractor protocol, t.hasDedicated protocol = false →
      (t.install Extractor.Table.defaultKey extractor).resolve protocol = extractor) ∧
    ∀ calls other, SameOrder calls other → ofCalls defaultId calls = ofCalls defaultId other := by
  refine ⟨follows_ofCalls defaultId, ?_, ?_, fun calls other h ↦ h.ofCalls_eq defaultId⟩
  · intro before name id after protocol hprotocol
    apply resolve_ofCalls_congr
    simp [List.filter_append, hprotocol.symm]
  · intro t extractor protocol hothers
    have hinstall : t.install Extractor.Table.defaultKey extractor = t.replaceFallback extractor :=
      if_pos rfl
    rw [hinstall]
    exact Extractor.Table.resolve_of_not_dedicated hothers

/-- Ids under the reserved key of tables of extractors, under the empty name and, twice, under a
third one. -/
def sampleCalls : List (String × String) :=
  [("dsp", "did:web:first"), ("default", "did:web:named"), ("", "did:web:empty"),
    ("dsp", "did:web:last")]

/-- The same registrations, where only those under the third name keep their order. -/
def reorderedCalls : List (String × String) :=
  [("", "did:web:empty"), ("dsp", "did:web:first"), ("dsp", "did:web:last"),
    ("default", "did:web:named")]

/-- The sample registrations keep their order under each name. -/
theorem sameOrder_sampleCalls : SameOrder sampleCalls reorderedCalls := by
  intro protocol
  unfold sampleCalls reorderedCalls
  grind

/-- The sample registrations make the same ids in either order. The reserved key of tables of
extractors has an id of its own, which is not presented under other names. -/
theorem reserved_key_is_a_plain_name :
    SameOrder sampleCalls reorderedCalls ∧
    ofCalls "did:web:own" sampleCalls = ofCalls "did:web:own" reorderedCalls ∧
    Last sampleCalls "default" "did:web:named" ∧
    (ofCalls "did:web:own" sampleCalls).resolve "default" = "did:web:named" ∧
    Lacks sampleCalls "other" ∧
    (ofCalls "did:web:own" sampleCalls).resolve "other" = "did:web:own" ∧
    "dsp" ≠ "default" ∧
    (ofCalls "did:web:own" sampleCalls).resolve "dsp" =
      (ofCalls "did:web:own" (sampleCalls.eraseIdx 1)).resolve "dsp" ∧
    (Extractor.Table.new fun _ ↦ none).hasDedicated "other" = false ∧
    ((Extractor.Table.new fun _ ↦ none).install "default"
      fun _ ↦ some "did:web:found").resolve "other" = fun _ ↦ some "did:web:found" := by
  obtain ⟨hfollows, hother, htable, hreordered⟩ := ids_follow_registrations "did:web:own"
  have hlast : Last sampleCalls "default" "did:web:named" :=
    ⟨[("dsp", "did:web:first")], [("", "did:web:empty"), ("dsp", "did:web:last")], rfl,
      by simp [Lacks]⟩
  have hlacks : Lacks sampleCalls "other" := by simp [Lacks, sampleCalls]
  have hname : "dsp" ≠ "default" := by decide
  have hdedicated : (Extractor.Table.new fun _ ↦ none).hasDedicated "other" = false := rfl
  refine ⟨sameOrder_sampleCalls, hreordered _ _ sameOrder_sampleCalls, hlast,
    (hfollows _).registered _ _ hlast, hlacks, (hfollows _).unregistered _ hlacks, hname, ?_,
    hdedicated, htable _ _ _ hdedicated⟩
  exact hother [("dsp", "did:web:first")] _ _ _ _ hname

end Participants

end ConnectorProfiles
