/-!
# Maps from names, in byte order

A map from texts to values, kept as a list of entries whose names ascend strictly. Texts are
compared by code point, which is also the order of their UTF-8 bytes. So the entries of a map
do not depend on the order in which they were written, and two maps with equal look-ups are equal.
-/

namespace ConnectorProfiles

/-- Writes one entry into an ascending list of entries, replacing the entry of the same name. -/
def insertEntry {α : Type} (name : String) (value : α) :
    List (String × α) → List (String × α)
  | [] => [(name, value)]
  | entry :: rest =>
    if name < entry.1 then (name, value) :: entry :: rest
    else if name = entry.1 then (name, value) :: rest
    else entry :: insertEntry name value rest

/-- What an ascending list of entries holds under a name. -/
def findEntry {α : Type} (name : String) : List (String × α) → Option α
  | [] => none
  | entry :: rest => if entry.1 = name then some entry.2 else findEntry name rest

/-- The names of a list of entries ascend strictly, so each occurs once. -/
def Ascending {α : Type} (entries : List (String × α)) : Prop :=
  entries.Pairwise fun a b ↦ a.1 < b.1

/-- An entry written into a list is the new entry or was there before. -/
theorem mem_insertEntry {α : Type} {name : String} {value : α} {entry : String × α}
    {entries : List (String × α)} (h : entry ∈ insertEntry name value entries) :
    entry = (name, value) ∨ entry ∈ entries := by
  induction entries with
  | nil => simpa [insertEntry] using h
  | cons first rest ih =>
    simp only [insertEntry] at h
    split at h
    · simpa using h
    · split at h
      · rcases List.mem_cons.1 h with h | h
        · exact .inl h
        · exact .inr (List.mem_cons_of_mem _ h)
      · rcases List.mem_cons.1 h with h | h
        · exact .inr (h ▸ List.mem_cons_self)
        · exact (ih h).imp id (List.mem_cons_of_mem _)

/-- Writing keeps the names ascending. -/
theorem ascending_insertEntry {α : Type} (name : String) (value : α)
    {entries : List (String × α)} (h : Ascending entries) :
    Ascending (insertEntry name value entries) := by
  induction entries with
  | nil => simp [insertEntry, Ascending]
  | cons first rest ih =>
    obtain ⟨hfirst, hrest⟩ := List.pairwise_cons.1 h
    simp only [insertEntry]
    split
    · next hlt =>
      refine List.pairwise_cons.2 ⟨fun entry hentry ↦ ?_, h⟩
      rcases List.mem_cons.1 hentry with rfl | hentry
      · exact hlt
      · exact String.lt_trans hlt (hfirst _ hentry)
    · split
      · next heq =>
        subst heq
        exact List.pairwise_cons.2 ⟨hfirst, hrest⟩
      · next hge hne =>
        refine List.pairwise_cons.2 ⟨fun entry hentry ↦ ?_, ih hrest⟩
        rcases mem_insertEntry hentry with rfl | hentry
        · have hle : first.1 ≤ name := String.not_lt.1 hge
          refine Classical.byContradiction fun hnot ↦ hne ?_
          exact String.le_antisymm (String.not_lt.1 hnot) hle
        · exact hfirst _ hentry

/-- A map from names to values; its entries ascend strictly by name. -/
structure NameMap (α : Type) where
  entries : List (String × α)
  ascending : Ascending entries

namespace NameMap

variable {α : Type}

instance [DecidableEq α] : DecidableEq (NameMap α) := fun a b ↦
  decidable_of_iff (a.entries = b.entries) (by cases a; cases b; simp)

/-- The map with no entry. -/
def empty : NameMap α := ⟨[], List.Pairwise.nil⟩

instance : Inhabited (NameMap α) := ⟨empty⟩

/-- The value under a name. -/
def get? (m : NameMap α) (name : String) : Option α := findEntry name m.entries

/-- Whether a name has a value. -/
def contains (m : NameMap α) (name : String) : Bool := (m.get? name).isSome

/-- Writes a value under a name, replacing the value it had. -/
def insert (m : NameMap α) (name : String) (value : α) : NameMap α :=
  ⟨insertEntry name value m.entries, ascending_insertEntry name value m.ascending⟩

/-- Writes entries in the order given, so the last value of a repeated name stays. -/
def ofList (entries : List (String × α)) : NameMap α :=
  entries.foldl (fun m entry ↦ m.insert entry.1 entry.2) empty

/-- The names in ascending order, each once. -/
def names (m : NameMap α) : List String := m.entries.map (·.1)

/-- The number of names. -/
def size (m : NameMap α) : Nat := m.entries.length

/-- Whether no name has a value. -/
def isEmpty (m : NameMap α) : Bool := m.entries.isEmpty

/-- Nothing is found in the empty map. -/
@[simp] theorem get?_empty (name : String) : (empty : NameMap α).get? name = none := rfl

/-- A name finds the value written under it last. -/
theorem get?_insert (m : NameMap α) (name other : String) (value : α) :
    (m.insert name value).get? other = if name = other then some value else m.get? other := by
  obtain ⟨entries, h⟩ := m
  simp only [get?, insert]
  clear h
  induction entries with
  | nil => simp [insertEntry, findEntry]
  | cons first rest ih => grind [insertEntry, findEntry]

/-- The names of a map ascend strictly. -/
theorem pairwise_names (m : NameMap α) : m.names.Pairwise (· < ·) :=
  List.Pairwise.map _ (fun _ _ h ↦ h) m.ascending

end NameMap

end ConnectorProfiles
