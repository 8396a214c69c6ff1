import ConnectorProfiles.Proofs.NameMap.ByteOrder
import ConnectorProfiles.Proofs.NameMap.LastWins

/-!
# Listings of names

A store that finds its entries by hashes keeps one entry for each name, in an order of its own that
every write may change. Whatever this order, the store finds under a name what was written last, and
its sorted names are those of the map whose entries ascend. So a listing of names tells which names
were written, and neither in which order nor how often.
-/

namespace ConnectorProfiles

variable {α β : Type} {written held : List (String × α)} {listing : List String}

/-- What a store may hold after entries were written to it in order. A write takes the place of the
entry of its name, and the store may then keep its entries in any order. -/
inductive MayHold : (written held : List (String × α)) → Prop
  | empty : MayHold [] []
  | write {written held after : List (String × α)} {entry : String × α} (h : MayHold written held)
      (hafter : after.Perm (entry :: held.filter (·.1 != entry.1))) :
      MayHold (written ++ [entry]) after

/-- The names of the entries that a store holds, sorted by their bytes. -/
structure SortedNames (held : List (String × α)) (listing : List String) : Prop where
  perm : listing.Perm (held.map (·.1))
  sorted : listing.Pairwise fun a b ↦ Text.bytes a ≤ Text.bytes b

namespace NameMap

variable (m : NameMap α)

/-- The names of a map ascend by their bytes. -/
theorem pairwise_bytes_names : m.names.Pairwise fun a b ↦ Text.bytes a < Text.bytes b :=
  m.pairwise_names.imp Text.bytes_lt_bytes_iff.mpr

/-- A map that is filled from entries has their names. -/
theorem mem_names_ofList_iff (name : String) :
    name ∈ (ofList written).names ↔ name ∈ written.map (·.1) := by
  apply not_iff_not.mp
  rw [names, ← lacks_iff_not_mem, ← lacks_iff_not_mem, ← get?_eq_none_iff, get?_ofList_eq_none_iff]

/-! ### What a store holds -/

/-- Writing an entry takes the place of the entry of its name. -/
theorem perm_entries_insert (name : String) (value : α) :
    (m.insert name value).entries.Perm ((name, value) :: m.entries.filter (·.1 != name)) := by
  have hwritten : ((name, value) :: m.entries.filter (·.1 != name)).Nodup := by
    apply List.nodup_cons.mpr
    refine ⟨?_, m.nodup_entries.filter _⟩
    intro hmem
    simp at hmem
  apply (List.perm_ext_iff_of_nodup (nodup_entries _) hwritten).mpr
  intro ⟨key, found⟩
  rw [mem_entries_iff, get?_insert, List.mem_cons, List.mem_filter, mem_entries_iff, bne_iff_ne]
  by_cases hkey : name = key
  · subst key
    simp [eq_comm]
  · simp [hkey, Ne.symm hkey]

/-- A store that holds the entries of a map, in whatever order, finds under a name what the map
does. -/
theorem findEntry_of_perm {m : NameMap α} (h : held.Perm m.entries) (name : String) :
    findEntry name held = m.get? name := by
  cases hfound : m.get? name with
  | none =>
    apply Lacks.findEntry_eq
    intro entry hentry
    exact get?_eq_none_iff.mp hfound entry (h.mem_iff.mp hentry)
  | some value =>
    apply Once.findEntry_eq
    apply (once_iff_mem ((h.map _).nodup_iff.mpr m.nodup_names)).mpr
    exact h.mem_iff.mpr (mem_entries_iff.mpr hfound)

/-- The sorted names of a store that holds the entries of a map are the names of the map. -/
theorem sortedNames_iff_of_perm {m : NameMap α} (h : held.Perm m.entries) :
    SortedNames held listing ↔ listing = m.names := by
  have hnames : (held.map (·.1)).Perm m.names := h.map (·.1)
  have hsorted : m.names.Pairwise fun a b ↦ Text.bytes a ≤ Text.bytes b :=
    m.pairwise_bytes_names.imp List.le_of_lt
  constructor
  · intro hlisting
    apply List.Perm.eq_of_pairwise _ hlisting.sorted hsorted (hlisting.perm.trans hnames)
    intro a b _ _ hab hba
    exact String.le_antisymm (Text.bytes_le_bytes_iff.mp hab) (Text.bytes_le_bytes_iff.mp hba)
  · intro heq
    subst listing
    exact ⟨hnames.symm, hsorted⟩

end NameMap

/-- A store holds the entries of the map that is filled in the same order. -/
theorem MayHold.perm (h : MayHold written held) : held.Perm (NameMap.ofList written).entries := by
  induction h with
  | empty => exact List.Perm.refl _
  | @write written held after entry h hafter ih =>
    rw [NameMap.ofList_concat]
    apply hafter.trans
    apply ((ih.filter _).cons entry).trans
    exact (NameMap.perm_entries_insert ..).symm

/-- A store may hold the entries of that map in every order. -/
theorem mayHold_iff_perm : MayHold written held ↔ held.Perm (NameMap.ofList written).entries := by
  refine ⟨MayHold.perm, ?_⟩
  induction written using List.reverseRecOn generalizing held with
  | nil =>
    intro h
    rw [List.Perm.eq_nil h]
    exact .empty
  | append_singleton written entry ih =>
    intro h
    rw [NameMap.ofList_concat] at h
    exact .write (ih (List.Perm.refl _)) (h.trans (NameMap.perm_entries_insert ..))

/-! ### Listings -/

/-- A listing of the names that entries were written under: they ascend, so each stands once. A
store may hold the entries in any order, and in every order its sorted names are the listing. -/
structure IsListing (written : List (String × α)) (listing : List String) : Prop where
  ascending : listing.Pairwise fun a b ↦ Text.bytes a < Text.bytes b
  mem_iff : ∀ name, name ∈ listing ↔ name ∈ written.map (·.1)
  anyOrder : ∃ entries, ∀ held, MayHold written held ↔ held.Perm entries
  sorted_iff : ∀ held, MayHold written held → ∀ names, SortedNames held names ↔ names = listing

/-- The names of a map are a listing of those that it was filled under. -/
theorem isListing_names_ofList (written : List (String × α)) :
    IsListing written (NameMap.ofList written).names where
  ascending := NameMap.pairwise_bytes_names _
  mem_iff := NameMap.mem_names_ofList_iff
  anyOrder := ⟨_, fun _ ↦ mayHold_iff_perm⟩
  sorted_iff _ h _ := NameMap.sortedNames_iff_of_perm h.perm

/-- Listings of the same names are the same, whatever was written under the names. -/
theorem IsListing.eq_of_same_names {other : List (String × β)} {second : List String}
    (h : IsListing written listing) (h' : IsListing other second)
    (hsame : ∀ name, name ∈ written.map (·.1) ↔ name ∈ other.map (·.1)) : listing = second := by
  have hnodup {names : List String}
      (hnames : names.Pairwise fun a b ↦ Text.bytes a < Text.bytes b) : names.Nodup := by
    apply hnames.imp
    intro a b hlt
    exact String.ne_of_lt (Text.bytes_lt_bytes_iff.mp hlt)
  apply List.Perm.eq_of_pairwise _ h.ascending h'.ascending
  · apply (List.perm_ext_iff_of_nodup (hnodup h.ascending) (hnodup h'.ascending)).mpr
    intro name
    rw [h.mem_iff, h'.mem_iff, hsame]
  · intro a b _ _ hab hba
    exact absurd hba (List.lt_asymm hab)

end ConnectorProfiles
