import ConnectorProfiles.Extractor.Table
import ConnectorProfiles.Proofs.NameMap.LastWins

/-!
# Changes of a table of extractors

Each change of a table writes one entry: the extractor installed under a key, or, where the fallback
is replaced, the extractor under the reserved key. What a key resolves to is told from the entries
written so far and the first fallback alone: the last value of the key itself or, failing that, the
last value of the reserved key or the first fallback.
-/

namespace ConnectorProfiles.Extractor

section Entries

variable {α β : Type} {first value : α} {entries : List (String × α)} {key : String}

/-- The value that keys without one of their own fall back to: the last one written under the
reserved key, or the first fallback where nothing was. -/
def FallsBack (first : α) (entries : List (String × α)) (value : α) : Prop :=
  Last entries Table.defaultKey value ∨ Lacks entries Table.defaultKey ∧ value = first

/-- The value that a key resolves to after entries were written. -/
inductive Resolves (first : α) (entries : List (String × α)) (key : String) (value : α) : Prop
  | dedicated (hkey : key ≠ Table.defaultKey) (h : Last entries key value)
  | fallback (h : key = Table.defaultKey ∨ Lacks entries key)
      (hvalue : FallsBack first entries value)

/-- There is one value to fall back to. -/
theorem FallsBack.unique {other : α} (h : FallsBack first entries value)
    (h' : FallsBack first entries other) : value = other := by
  rcases h with h | ⟨hlacks, rfl⟩
  · rcases h' with h' | ⟨hlacks, -⟩
    · exact h.unique h'
    · exact absurd hlacks h.not_lacks
  · rcases h' with h' | ⟨-, rfl⟩
    · exact absurd hlacks h'.not_lacks
    · rfl

/-- A key resolves to one value. -/
theorem Resolves.unique {other : α} (h : Resolves first entries key value)
    (h' : Resolves first entries key other) : value = other := by
  cases h with
  | dedicated hkey h =>
    cases h' with
    | dedicated _ h' => exact h.unique h'
    | fallback h' _ => exact absurd (h'.resolve_left hkey) h.not_lacks
  | fallback h hvalue =>
    cases h' with
    | dedicated hkey h' => exact absurd (h.resolve_left hkey) h'.not_lacks
    | fallback _ hother => exact hvalue.unique hother

/-- A key resolves to the first fallback or to a value that was written. -/
theorem Resolves.mem (h : Resolves first entries key value) :
    value ∈ first :: entries.map (·.2) := by
  have hlast {name : String} (hname : Last entries name value) :
      value ∈ first :: entries.map (·.2) :=
    List.mem_cons_of_mem _ (List.mem_map_of_mem hname.mem)
  rcases h with ⟨-, h⟩ | ⟨-, h | ⟨-, rfl⟩⟩
  · exact hlast h
  · exact hlast h
  · exact List.mem_cons_self

/-- Changing every value changes the value that is fallen back to likewise. -/
theorem fallsBack_map_iff {f : α → β} {found : β} :
    FallsBack (f first) (entries.map fun entry ↦ (entry.1, f entry.2)) found ↔
      ∃ value, FallsBack first entries value ∧ found = f value := by
  simp only [FallsBack, last_map_iff, lacks_map_iff]
  constructor
  · rintro (⟨value, h, rfl⟩ | ⟨h, rfl⟩)
    · exact ⟨value, .inl h, rfl⟩
    · exact ⟨first, .inr ⟨h, rfl⟩, rfl⟩
  · rintro ⟨value, h | ⟨h, rfl⟩, rfl⟩
    · exact .inl ⟨value, h, rfl⟩
    · exact .inr ⟨h, rfl⟩

/-- Changing every value changes the value that a key resolves to likewise. -/
theorem resolves_map_iff {f : α → β} {found : β} :
    Resolves (f first) (entries.map fun entry ↦ (entry.1, f entry.2)) key found ↔
      ∃ value, Resolves first entries key value ∧ found = f value := by
  constructor
  · rintro (⟨hkey, h⟩ | ⟨h, hfound⟩)
    · obtain ⟨value, hvalue, rfl⟩ := last_map_iff.mp h
      exact ⟨value, .dedicated hkey hvalue, rfl⟩
    · obtain ⟨value, hvalue, rfl⟩ := fallsBack_map_iff.mp hfound
      exact ⟨value, .fallback (h.imp_right lacks_map_iff.mp) hvalue, rfl⟩
  · rintro ⟨value, ⟨hkey, h⟩ | ⟨h, hvalue⟩, rfl⟩
    · exact .dedicated hkey (last_map_iff.mpr ⟨value, h, rfl⟩)
    · exact .fallback (h.imp_right lacks_map_iff.mpr) (fallsBack_map_iff.mpr ⟨value, hvalue, rfl⟩)

/-- Entries of one key other than the reserved one do not matter for what other keys resolve to. -/
theorem resolves_filter_iff {omitted : String} (homitted : omitted ≠ Table.defaultKey)
    (hkey : key ≠ omitted) :
    Resolves first (entries.filter (·.1 != omitted)) key value ↔
      Resolves first entries key value := by
  have hfallsBack : FallsBack first (entries.filter (·.1 != omitted)) value ↔
      FallsBack first entries value := by
    simp only [FallsBack, last_filter_iff, lacks_filter_iff, homitted.symm, ne_eq,
      not_false_eq_true, true_and, false_or]
  constructor
  · rintro (⟨hreserved, h⟩ | ⟨h, hvalue⟩)
    · exact .dedicated hreserved (last_filter_iff.mp h).2
    · refine .fallback (h.imp_right fun h ↦ ?_) (hfallsBack.mp hvalue)
      exact (lacks_filter_iff.mp h).resolve_left hkey
  · rintro (⟨hreserved, h⟩ | ⟨h, hvalue⟩)
    · exact .dedicated hreserved (last_filter_iff.mpr ⟨hkey, h⟩)
    · exact .fallback (h.imp_right fun h ↦ lacks_filter_iff.mpr (.inr h)) (hfallsBack.mpr hvalue)

end Entries

/-! ### Runs of changes -/

/-- A change of a table. -/
inductive Change where
  | install (key : String) (extractor : Extractor)
  | replaceFallback (extractor : Extractor)

/-- The entry that a change writes; to replace the fallback is to write the reserved key. -/
def Change.entry : Change → String × Extractor
  | .install key extractor => (key, extractor)
  | .replaceFallback extractor => (Table.defaultKey, extractor)

/-- Whether a change writes a key. -/
def Change.writes (key : String) (c : Change) : Bool := c.entry.1 == key

namespace Table

/-- Carries out a change. -/
def change (t : Table) : Change → Table
  | .install key extractor => t.install key extractor
  | .replaceFallback extractor => t.replaceFallback extractor

/-- Carries out changes in order. -/
def changeAll (t : Table) (changes : List Change) : Table := changes.foldl change t

/-- Without changes a table stays as it is. -/
@[simp] theorem changeAll_nil (t : Table) : t.changeAll [] = t := rfl

/-- A first change is carried out before the others. -/
@[simp] theorem changeAll_cons (t : Table) (c : Change) (changes : List Change) :
    t.changeAll (c :: changes) = (t.change c).changeAll changes := rfl

/-- Changes after others start from what those made of the table. -/
theorem changeAll_append (t : Table) (changes later : List Change) :
    t.changeAll (changes ++ later) = (t.changeAll changes).changeAll later :=
  List.foldl_append

/-- A key without an extractor of its own resolves to the fallback. -/
theorem resolve_of_not_dedicated {t : Table} {key : String} (h : t.hasDedicated key = false) :
    t.resolve key = t.fallback := by
  rw [hasDedicated, NameMap.contains, Option.isSome_eq_false_iff, Option.isNone_iff_eq_none] at h
  rw [resolve, h, Option.getD_none]

/-- A change replaces the fallback or gives one key an extractor of its own. -/
theorem change_eq (t : Table) (c : Change) : t.change c =
    if c.entry.1 = defaultKey then { t with fallback := c.entry.2 }
    else { t with dedicated := t.dedicated.insert c.entry.1 c.entry.2 } := by
  cases c with
  | install key extractor => rfl
  | replaceFallback extractor => rw [change, Change.entry, if_pos rfl, replaceFallback]

/-- The table holds what entries left of a first fallback: the value to fall back to and, under the
other keys, the value written last. -/
structure Holds (t : Table) (first : Extractor) (entries : List (String × Extractor)) : Prop where
  fallback : FallsBack first entries t.fallback
  dedicated : ∀ key extractor, t.dedicated.get? key = some extractor ↔
    key ≠ defaultKey ∧ Last entries key extractor

/-- A new table holds its fallback. -/
theorem holds_new (first : Extractor) : (new first).Holds first [] where
  fallback := .inr ⟨lacks_nil _, rfl⟩
  dedicated key extractor := by simp [new, not_last_nil]

/-- A change adds its entry to what a table holds. -/
theorem Holds.change {t : Table} {first : Extractor} {entries : List (String × Extractor)}
    (h : t.Holds first entries) (c : Change) : (t.change c).Holds first (entries ++ [c.entry]) := by
  rw [change_eq]
  by_cases hreserved : c.entry.1 = defaultKey
  · -- Only the fallback changes, and no key with an extractor of its own is the reserved one.
    rw [if_pos hreserved]
    refine ⟨.inl (last_concat_iff.mpr (by rw [if_pos hreserved])), fun key extractor ↦ ?_⟩
    rw [h.dedicated, last_concat_iff]
    refine and_congr_right fun hkey ↦ ?_
    rw [if_neg fun heq ↦ hkey (heq.symm.trans hreserved)]
  · rw [if_neg hreserved]
    constructor
    · have hlacks : Lacks [c.entry] defaultKey := by
        rw [lacks_cons_iff]
        exact ⟨hreserved, lacks_nil _⟩
      rw [FallsBack, last_concat_iff, if_neg hreserved, lacks_append_iff, and_iff_left hlacks]
      exact h.fallback
    · intro key extractor
      rw [NameMap.get?_insert, last_concat_iff]
      split
      · next hkey =>
        subst hkey
        rw [Option.some.injEq, and_iff_right hreserved]
      · exact h.dedicated key extractor

/-- After changes a table holds the entries that they wrote, in order. -/
theorem Holds.changeAll {t : Table} {first : Extractor} {entries : List (String × Extractor)}
    (h : t.Holds first entries) (changes : List Change) :
    (t.changeAll changes).Holds first (entries ++ changes.map Change.entry) := by
  induction changes generalizing t entries with
  | nil =>
    rw [changeAll_nil, List.map_nil, List.append_nil]
    exact h
  | cons c changes ih =>
    rw [changeAll_cons, List.map_cons, List.append_cons]
    exact ih (h.change c)

/-- A new table holds the entries of all changes since. -/
theorem holds_changeAll_new (first : Extractor) (changes : List Change) :
    ((new first).changeAll changes).Holds first (changes.map Change.entry) :=
  (holds_new first).changeAll changes

section Holds

variable {t : Table} {first : Extractor} {entries : List (String × Extractor)}

/-- A key has an extractor of its own exactly when it is not reserved and was written. -/
theorem Holds.hasDedicated_iff (h : t.Holds first entries) (key : String) :
    t.hasDedicated key = true ↔ key ≠ defaultKey ∧ ¬ Lacks entries key := by
  rw [hasDedicated, NameMap.contains, Option.isSome_iff_exists]
  simp only [h.dedicated, exists_and_left]
  refine and_congr_right fun _ ↦ ⟨fun ⟨_, hlast⟩ ↦ hlast.not_lacks, fun hlacks ↦ ?_⟩
  exact (lacks_or_last entries key).resolve_left hlacks

/-- A key resolves to what its entries say. -/
theorem Holds.resolves (h : t.Holds first entries) (key : String) :
    Resolves first entries key (t.resolve key) := by
  rw [resolve]
  cases hfound : t.dedicated.get? key with
  | some extractor =>
    obtain ⟨hkey, hlast⟩ := (h.dedicated key extractor).mp hfound
    exact .dedicated hkey hlast
  | none =>
    refine .fallback ?_ h.fallback
    by_cases hkey : key = defaultKey
    · exact .inl hkey
    · refine .inr ((lacks_or_last entries key).resolve_right ?_)
      rintro ⟨extractor, hlast⟩
      rw [(h.dedicated key extractor).mpr ⟨hkey, hlast⟩] at hfound
      cases hfound

end Holds

end Table

end ConnectorProfiles.Extractor
