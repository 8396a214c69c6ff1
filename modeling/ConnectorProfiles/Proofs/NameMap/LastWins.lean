import ConnectorProfiles.NameMap
import Mathlib.Data.List.Induction
import Mathlib.Data.List.Nodup

/-!
# The last entry of a name

Entries stand in the order in which they were written, and a name may stand in several of them. A
map filled from entries holds under each name the value written last, and nothing under any other
name. A map is determined by its look-ups, so filling a map from its own entries gives it back.
-/

namespace ConnectorProfiles

variable {α : Type}

/-- No entry has the name. -/
def Lacks (entries : List (String × α)) (name : String) : Prop :=
  ∀ entry ∈ entries, entry.1 ≠ name

/-- The last entry of the name has the value. -/
def Last (entries : List (String × α)) (name : String) (value : α) : Prop :=
  ∃ before after, entries = before ++ (name, value) :: after ∧ Lacks after name

/-- Exactly one entry has the name, and it has the value. -/
def Once (entries : List (String × α)) (name : String) (value : α) : Prop :=
  ∃ before after, entries = before ++ (name, value) :: after ∧
    Lacks before name ∧ Lacks after name

/-! ### Entries of a name -/

/-- Where there is no entry, no name occurs. -/
theorem lacks_nil (name : String) : Lacks ([] : List (String × α)) name := by
  simp [Lacks]

/-- A name does not occur when neither the first nor a later entry has it. -/
theorem lacks_cons_iff {entry : String × α} {entries : List (String × α)} {name : String} :
    Lacks (entry :: entries) name ↔ entry.1 ≠ name ∧ Lacks entries name := by
  simp [Lacks]

/-- A name does not occur when it occurs neither before nor after. -/
theorem lacks_append_iff {before after : List (String × α)} {name : String} :
    Lacks (before ++ after) name ↔ Lacks before name ∧ Lacks after name := by
  simp only [Lacks, List.mem_append]
  constructor
  · intro h
    exact ⟨fun entry hentry ↦ h entry (.inl hentry), fun entry hentry ↦ h entry (.inr hentry)⟩
  · rintro ⟨hbefore, hafter⟩ entry (hentry | hentry)
    · exact hbefore entry hentry
    · exact hafter entry hentry

/-- A name does not occur exactly where it is not among the names. -/
theorem lacks_iff_not_mem {entries : List (String × α)} {name : String} :
    Lacks entries name ↔ name ∉ entries.map (·.1) := by
  simp only [Lacks, List.mem_map, not_exists, not_and, ne_eq]

/-- Whether a name occurs does not depend on the values. -/
theorem lacks_map_iff {β : Type} {f : α → β} {entries : List (String × α)} {name : String} :
    Lacks (entries.map fun entry ↦ (entry.1, f entry.2)) name ↔ Lacks entries name := by
  simp only [Lacks, List.forall_mem_map]

/-- Changing every value changes the last value of a name likewise. -/
theorem last_map_iff {β : Type} {f : α → β} {entries : List (String × α)} {name : String}
    {found : β} : Last (entries.map fun entry ↦ (entry.1, f entry.2)) name found ↔
      ∃ value, Last entries name value ∧ found = f value := by
  constructor
  · rintro ⟨before, after, h, hafter⟩
    obtain ⟨before, rest, rfl, rfl, hrest⟩ := List.map_eq_append_iff.mp h
    obtain ⟨⟨key, value⟩, after, rfl, hentry, rfl⟩ := List.map_eq_cons_iff.mp hrest
    obtain ⟨rfl, rfl⟩ := Prod.mk.inj hentry
    exact ⟨value, ⟨before, after, rfl, lacks_map_iff.mp hafter⟩, rfl⟩
  · rintro ⟨value, ⟨before, after, rfl, hafter⟩, rfl⟩
    exact ⟨_, _, List.map_append, lacks_map_iff.mpr hafter⟩

/-- The first entry is the only one of its name, or it has another name. -/
theorem once_cons_iff {entry : String × α} {entries : List (String × α)} {name : String}
    {value : α} : Once (entry :: entries) name value ↔
      if entry.1 = name then entry.2 = value ∧ Lacks entries name else Once entries name value := by
  obtain ⟨key, held⟩ := entry
  split
  · next hname =>
    obtain rfl : key = name := hname
    constructor
    · rintro ⟨before, after, h, hbefore, hafter⟩
      cases before with
      | nil =>
        obtain ⟨hentry, rfl⟩ := List.cons.inj h
        exact ⟨(Prod.mk.inj hentry).2, hafter⟩
      | cons first before =>
        obtain ⟨rfl, -⟩ := List.cons.inj h
        exact absurd rfl (lacks_cons_iff.mp hbefore).1
    · rintro ⟨rfl, hlacks⟩
      exact ⟨[], entries, rfl, lacks_nil _, hlacks⟩
  · next hname =>
    constructor
    · rintro ⟨before, after, h, hbefore, hafter⟩
      cases before with
      | nil =>
        obtain ⟨hentry, -⟩ := List.cons.inj h
        exact absurd (Prod.mk.inj hentry).1 hname
      | cons first before =>
        obtain ⟨rfl, rfl⟩ := List.cons.inj h
        exact ⟨before, after, rfl, (lacks_cons_iff.mp hbefore).2, hafter⟩
    · rintro ⟨before, after, rfl, hbefore, hafter⟩
      exact ⟨(key, held) :: before, after, rfl, lacks_cons_iff.mpr ⟨hname, hbefore⟩, hafter⟩

/-- Changing every value changes the only value of a name likewise. -/
theorem once_map_iff {β : Type} {f : α → β} {entries : List (String × α)} {name : String}
    {found : β} : Once (entries.map fun entry ↦ (entry.1, f entry.2)) name found ↔
      ∃ value, Once entries name value ∧ found = f value := by
  induction entries with
  | nil => simp [Once]
  | cons entry entries ih =>
    simp only [List.map_cons, once_cons_iff, lacks_map_iff, ih]
    split
    · simp [eq_comm, and_comm]
    · rfl

/-- The only entry of a name is its last one. -/
theorem Once.last {entries : List (String × α)} {name : String} {value : α}
    (h : Once entries name value) : Last entries name value := by
  obtain ⟨before, after, rfl, -, hafter⟩ := h
  exact ⟨before, after, rfl, hafter⟩

/-- A value under a name that occurs once is the only one. -/
theorem Once.eq_of_mem {entries : List (String × α)} {name : String} {value other : α}
    (h : Once entries name value) (hmem : (name, other) ∈ entries) : other = value := by
  obtain ⟨before, after, rfl, hbefore, hafter⟩ := h
  rcases List.mem_append.mp hmem with hmem | hmem
  · exact absurd rfl (hbefore _ hmem)
  · rcases List.mem_cons.mp hmem with hentry | hmem
    · exact (Prod.mk.inj hentry).2
    · exact absurd rfl (hafter _ hmem)

/-- Where no name repeats, the last entry of a name is its only one. -/
theorem once_iff_last {entries : List (String × α)} (h : (entries.map (·.1)).Nodup) {name : String}
    {value : α} : Once entries name value ↔ Last entries name value := by
  constructor
  · exact Once.last
  · rintro ⟨before, after, rfl, hafter⟩
    refine ⟨before, after, rfl, ?_, hafter⟩
    rw [List.map_append, List.map_cons] at h
    rintro entry hentry rfl
    exact (List.nodup_append.mp h).2.2 entry.1 (List.mem_map_of_mem hentry) entry.1 (by simp) rfl

/-- The value of a last entry is the value of an entry. -/
theorem Last.mem {entries : List (String × α)} {name : String} {value : α}
    (h : Last entries name value) : (name, value) ∈ entries := by
  obtain ⟨before, after, rfl, -⟩ := h
  simp

/-- Where there is no entry, there is no last one. -/
theorem not_last_nil (name : String) (value : α) : ¬ Last [] name value := by
  rintro ⟨before, after, h, -⟩
  simp at h

/-- Entries before that lack a name do not matter for its last entry. -/
theorem last_append_iff_of_lacks {before entries : List (String × α)} {name : String} {value : α}
    (h : Lacks before name) : Last (before ++ entries) name value ↔ Last entries name value := by
  constructor
  · rintro ⟨first, after, heq, hafter⟩
    rcases List.append_eq_append_iff.mp heq with ⟨between, rfl, rfl⟩ | ⟨between, rfl, hrest⟩
    · exact ⟨between, after, rfl, hafter⟩
    · cases between with
      | nil => exact ⟨[], after, by simpa using hrest.symm, hafter⟩
      | cons entry between =>
        obtain ⟨rfl, -⟩ := List.cons.inj hrest
        exact absurd rfl (h (name, value) (by simp))
  · rintro ⟨first, after, rfl, hafter⟩
    exact ⟨before ++ first, after, (List.append_assoc ..).symm, hafter⟩

/-- One more entry is the last of its name and leaves the other names as they are. -/
theorem last_concat_iff {entries : List (String × α)} {entry : String × α} {name : String}
    {value : α} : Last (entries ++ [entry]) name value ↔
      if entry.1 = name then entry.2 = value else Last entries name value := by
  split
  · next hname =>
    constructor
    · rintro ⟨before, after, h, hafter⟩
      rcases List.eq_nil_or_concat after with rfl | ⟨after, other, rfl⟩
      · have hentry := List.append_inj_right' h rfl
        simp only [List.cons.injEq, and_true] at hentry
        rw [hentry]
      · rw [List.concat_eq_append, ← List.cons_append, ← List.append_assoc] at h
        have hother : [entry] = [other] := List.append_inj_right' h rfl
        rw [List.concat_eq_append, lacks_append_iff] at hafter
        simp only [List.cons.injEq, and_true] at hother
        subst hother
        exact absurd hname (hafter.2 entry (by simp))
    · rintro rfl
      subst hname
      exact ⟨entries, [], rfl, lacks_nil _⟩
  · next hname =>
    constructor
    · rintro ⟨before, after, h, hafter⟩
      rcases List.eq_nil_or_concat after with rfl | ⟨after, other, rfl⟩
      · have hentry := List.append_inj_right' h rfl
        simp only [List.cons.injEq, and_true] at hentry
        exact absurd (congrArg Prod.fst hentry) hname
      · rw [List.concat_eq_append, ← List.cons_append, ← List.append_assoc] at h
        have hentries := List.append_inj_left' h rfl
        rw [List.concat_eq_append, lacks_append_iff] at hafter
        exact ⟨before, after, hentries, hafter.1⟩
    · rintro ⟨before, after, rfl, hafter⟩
      refine ⟨before, after ++ [entry], by simp, ?_⟩
      rw [lacks_append_iff, lacks_cons_iff]
      exact ⟨hafter, hname, lacks_nil _⟩

/-- A name does not occur, or it has a last entry. -/
theorem lacks_or_last (entries : List (String × α)) (name : String) :
    Lacks entries name ∨ ∃ value, Last entries name value := by
  induction entries using List.reverseRecOn with
  | nil => exact .inl (lacks_nil name)
  | append_singleton entries entry ih =>
    by_cases hname : entry.1 = name
    · exact .inr ⟨entry.2, last_concat_iff.mpr (by rw [if_pos hname])⟩
    · rcases ih with hlacks | ⟨value, hlast⟩
      · left
        rw [lacks_append_iff, lacks_cons_iff]
        exact ⟨hlacks, hname, lacks_nil name⟩
      · exact .inr ⟨value, last_concat_iff.mpr (by rwa [if_neg hname])⟩

/-- Where no name repeats, every entry is the only one of its name. -/
theorem once_iff_mem {entries : List (String × α)} (h : (entries.map (·.1)).Nodup) {name : String}
    {value : α} : Once entries name value ↔ (name, value) ∈ entries := by
  refine ⟨fun honce ↦ honce.last.mem, fun hmem ↦ ?_⟩
  rcases lacks_or_last entries name with hlacks | ⟨last, hlast⟩
  · exact absurd rfl (hlacks _ hmem)
  · have honce := (once_iff_last h).mpr hlast
    rwa [honce.eq_of_mem hmem]

/-- Leaving out one name leaves the last entries of the other names. -/
theorem last_filter_iff {entries : List (String × α)} {omitted name : String} {value : α} :
    Last (entries.filter (·.1 != omitted)) name value ↔
      name ≠ omitted ∧ Last entries name value := by
  induction entries using List.reverseRecOn with
  | nil => simp [not_last_nil]
  | append_singleton entries entry ih =>
    rw [List.filter_append, last_concat_iff]
    by_cases homitted : entry.1 = omitted
    · have hentry : [entry].filter (·.1 != omitted) = [] := by simp [homitted]
      rw [hentry, List.append_nil, ih]
      constructor
      · rintro ⟨hname, hlast⟩
        have hentry : ¬ entry.1 = name := fun heq ↦ hname (heq.symm.trans homitted)
        rw [if_neg hentry]
        exact ⟨hname, hlast⟩
      · rintro ⟨hname, hlast⟩
        have hentry : ¬ entry.1 = name := fun heq ↦ hname (heq.symm.trans homitted)
        rw [if_neg hentry] at hlast
        exact ⟨hname, hlast⟩
    · have hentry : [entry].filter (·.1 != omitted) = [entry] := by simp [homitted]
      rw [hentry, last_concat_iff]
      split
      · next hname => simp [← hname, homitted]
      · exact ih

/-- Leaving out one name leaves the other names where they occur. -/
theorem lacks_filter_iff {entries : List (String × α)} {omitted name : String} :
    Lacks (entries.filter (·.1 != omitted)) name ↔ name = omitted ∨ Lacks entries name := by
  simp only [Lacks, List.mem_filter, bne_iff_ne, ne_eq, and_imp]
  constructor
  · intro h
    by_cases hname : name = omitted
    · exact .inl hname
    · refine .inr fun entry hentry heq ↦ h entry hentry ?_ heq
      rwa [heq]
  · rintro (rfl | h) entry hentry homitted
    · exact homitted
    · exact h entry hentry

/-- A name with a last entry occurs. -/
theorem Last.not_lacks {entries : List (String × α)} {name : String} {value : α}
    (h : Last entries name value) : ¬ Lacks entries name := fun hlacks ↦
  hlacks _ h.mem rfl

/-- Exactly the names of entries have a last entry. -/
theorem exists_last_iff_mem {entries : List (String × α)} {name : String} :
    (∃ value, Last entries name value) ↔ name ∈ entries.map (·.1) := by
  constructor
  · rintro ⟨value, hlast⟩
    exact List.mem_map_of_mem hlast.mem
  · intro hname
    apply (lacks_or_last entries name).resolve_left
    rwa [lacks_iff_not_mem, not_not]

/-- Nothing is found under a name that does not occur. -/
theorem Lacks.findEntry_eq {entries : List (String × α)} {name : String}
    (h : Lacks entries name) : findEntry name entries = none := by
  induction entries with
  | nil => rfl
  | cons entry entries ih =>
    obtain ⟨hname, hentries⟩ := lacks_cons_iff.mp h
    rw [findEntry, if_neg hname, ih hentries]

/-- The only value of a name is found under it. -/
theorem Once.findEntry_eq {entries : List (String × α)} {name : String} {value : α}
    (h : Once entries name value) : findEntry name entries = some value := by
  induction entries with
  | nil => simp [Once] at h
  | cons entry entries ih =>
    rw [once_cons_iff] at h
    rw [findEntry]
    split
    · next hname =>
      rw [if_pos hname] at h
      rw [h.1]
    · next hname =>
      rw [if_neg hname] at h
      exact ih h

/-- In ascending entries, an entry is what its name finds. -/
theorem mem_iff_findEntry {entries : List (String × α)} (h : Ascending entries) {name : String}
    {value : α} : (name, value) ∈ entries ↔ findEntry name entries = some value := by
  induction entries with
  | nil => simp [findEntry]
  | cons entry rest ih =>
    obtain ⟨hfirst, hrest⟩ := List.pairwise_cons.mp h
    obtain ⟨key, held⟩ := entry
    simp only [List.mem_cons, Prod.mk.injEq, findEntry]
    split
    · next hkey =>
      subst hkey
      constructor
      · rintro (⟨-, rfl⟩ | hmem)
        · rfl
        · exact absurd (hfirst _ hmem) (String.lt_irrefl _)
      · intro hvalue
        exact .inl ⟨rfl, (Option.some.inj hvalue).symm⟩
    · next hkey =>
      rw [ih hrest]
      exact ⟨fun hcase ↦ hcase.resolve_left fun heq ↦ hkey heq.1.symm, .inr⟩

namespace NameMap

/-- The entries of a map are its look-ups. -/
theorem mem_entries_iff {m : NameMap α} {name : String} {value : α} :
    (name, value) ∈ m.entries ↔ m.get? name = some value :=
  mem_iff_findEntry m.ascending

/-- A map has no entry under exactly the names that it lacks. -/
theorem get?_eq_none_iff {m : NameMap α} {name : String} :
    m.get? name = none ↔ Lacks m.entries name := by
  rw [Option.eq_none_iff_forall_ne_some]
  constructor
  · rintro h ⟨key, value⟩ hentry rfl
    exact h value (mem_entries_iff.mp hentry)
  · intro h value hvalue
    exact h _ (mem_entries_iff.mpr hvalue) rfl

/-- No name of a map repeats. -/
theorem nodup_names (m : NameMap α) : (m.entries.map (·.1)).Nodup :=
  m.pairwise_names.imp String.ne_of_lt

/-- No entry of a map repeats. -/
theorem nodup_entries (m : NameMap α) : m.entries.Nodup :=
  List.Nodup.of_map _ m.nodup_names

private theorem entries_eq_of_mem_iff {a b : NameMap α}
    (h : ∀ entry, entry ∈ a.entries ↔ entry ∈ b.entries) : a.entries = b.entries := by
  apply List.Perm.eq_of_pairwise (fun x y _ _ hxy hyx ↦ ?_) a.ascending b.ascending
  · exact (List.perm_ext_iff_of_nodup a.nodup_entries b.nodup_entries).mpr h
  · exact absurd (String.lt_trans hxy hyx) (String.lt_irrefl _)

/-- Maps with equal look-ups are equal. -/
@[ext] theorem ext_get? {a b : NameMap α} (h : ∀ name, a.get? name = b.get? name) : a = b := by
  have hentries : a.entries = b.entries := entries_eq_of_mem_iff fun ⟨name, value⟩ ↦ by
    rw [mem_entries_iff, mem_entries_iff, h name]
  cases a
  cases b
  subst hentries
  rfl

/-- The entry given last is written last. -/
theorem ofList_concat (entries : List (String × α)) (entry : String × α) :
    ofList (entries ++ [entry]) = (ofList entries).insert entry.1 entry.2 := by
  simp [ofList]

/-- A map filled from entries holds the value written last under a name. -/
theorem get?_ofList_eq_some_iff {entries : List (String × α)} {name : String} {value : α} :
    (ofList entries).get? name = some value ↔ Last entries name value := by
  induction entries using List.reverseRecOn with
  | nil => simp [ofList, not_last_nil]
  | append_singleton entries entry ih =>
    rw [ofList_concat, get?_insert, last_concat_iff]
    split
    · rw [Option.some.injEq]
    · exact ih

/-- A map filled from entries holds nothing under the names that they lack. -/
theorem get?_ofList_eq_none_iff {entries : List (String × α)} {name : String} :
    (ofList entries).get? name = none ↔ Lacks entries name := by
  rcases lacks_or_last entries name with hlacks | ⟨value, hlast⟩
  · refine ⟨fun _ ↦ hlacks, fun _ ↦ ?_⟩
    rw [Option.eq_none_iff_forall_ne_some]
    intro value hvalue
    exact (get?_ofList_eq_some_iff.mp hvalue).not_lacks hlacks
  · have hsome := get?_ofList_eq_some_iff.mpr hlast
    simp [hsome, hlast.not_lacks]

/-- Where no name repeats, every entry is the last of its name. -/
theorem last_entries_iff {m : NameMap α} {name : String} {value : α} :
    Last m.entries name value ↔ m.get? name = some value := by
  constructor
  · exact fun h ↦ mem_entries_iff.mp h.mem
  · intro hvalue
    rcases lacks_or_last m.entries name with hlacks | ⟨other, hlast⟩
    · exact absurd rfl (hlacks _ (mem_entries_iff.mpr hvalue))
    · have hother := mem_entries_iff.mp hlast.mem
      rw [hvalue, Option.some.injEq] at hother
      rwa [hother]

/-- Filling a map from the entries of a map gives that map back. -/
theorem ofList_entries (m : NameMap α) : ofList m.entries = m := by
  ext name value
  rw [get?_ofList_eq_some_iff, last_entries_iff]

/-- Where no name repeats, a map is filled with exactly the given entries. -/
theorem perm_entries_ofList {entries : List (String × α)} (h : (entries.map (·.1)).Nodup) :
    (ofList entries).entries.Perm entries := by
  have hentries : entries.Nodup := List.Nodup.of_map _ h
  refine (List.perm_ext_iff_of_nodup (nodup_entries _) hentries).mpr fun ⟨name, value⟩ ↦ ?_
  rw [mem_entries_iff, get?_ofList_eq_some_iff, ← once_iff_last h, once_iff_mem h]

end NameMap

/-- A name has at most one last entry. -/
theorem Last.unique {entries : List (String × α)} {name : String} {value other : α}
    (h : Last entries name value) (h' : Last entries name other) : value = other := by
  rw [← NameMap.get?_ofList_eq_some_iff] at h h'
  rw [h] at h'
  exact Option.some.inj h'

end ConnectorProfiles
