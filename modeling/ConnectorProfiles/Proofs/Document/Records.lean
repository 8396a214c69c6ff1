import ConnectorProfiles.Document.Record
import ConnectorProfiles.Proofs.Document.Read
import ConnectorProfiles.Proofs.NameMap.LastWins
import Mathlib.Data.List.Nodup

/-!
# Reading records

What a document gives to the fields of a record, whether it is a mapping from their names or the
sequence of their values: a sequence stands for the mapping of the first names to its items. A
record is read exactly when no field is given twice, what is missing has a default, every value
reads, and no further member is refused.
-/

namespace ConnectorProfiles

variable {α : Type}

/-! ### Values by position -/

section Positions

variable {names : List String} {items : List α} {name : String} {i : Nat}

/-- Values by position stand under given names only. -/
theorem lacks_zip_of_not_mem (h : name ∉ names) : Lacks (names.zip items) name := by
  rintro entry hentry rfl
  exact h (List.of_mem_zip hentry).1

/-- Values by position stand under different names. -/
theorem nodup_zip (hnames : names.Nodup) : ((names.zip items).map (·.1)).Nodup := by
  induction names generalizing items with
  | nil => exact List.nodup_nil
  | cons first names ih =>
    obtain ⟨hfirst, hnames⟩ := List.nodup_cons.mp hnames
    cases items with
    | nil => exact List.nodup_nil
    | cons item items =>
      refine List.nodup_cons.mpr ⟨fun hmem ↦ ?_, ih hnames⟩
      obtain ⟨entry, hentry, heq⟩ := List.mem_map.mp hmem
      exact lacks_zip_of_not_mem hfirst entry hentry heq

/-- A name has no value where the values end before its position. -/
theorem lacks_zip_iff (hnames : names.Nodup) (hname : names[i]? = some name) :
    Lacks (names.zip items) name ↔ items[i]? = none := by
  induction names generalizing items i with
  | nil => cases hname
  | cons first names ih =>
    obtain ⟨hfirst, hnames⟩ := List.nodup_cons.mp hnames
    cases items with
    | nil => simp [Lacks]
    | cons item items =>
      rw [List.zip_cons_cons, lacks_cons_iff]
      cases i with
      | zero =>
        obtain rfl : first = name := Option.some.inj hname
        simp
      | succ i =>
        have hne : first ≠ name := by
          rintro rfl
          exact hfirst (List.mem_of_getElem? hname)
        rw [and_iff_right hne, ih hnames hname]
        rfl

/-- A name has the value at its position. -/
theorem once_zip_iff (hnames : names.Nodup) (hname : names[i]? = some name) {value : α} :
    Once (names.zip items) name value ↔ items[i]? = some value := by
  induction names generalizing items i with
  | nil => cases hname
  | cons first names ih =>
    obtain ⟨hfirst, hnames⟩ := List.nodup_cons.mp hnames
    cases items with
    | nil => simp [Once]
    | cons item items =>
      rw [List.zip_cons_cons, once_cons_iff]
      cases i with
      | zero =>
        obtain rfl : first = name := Option.some.inj hname
        simp [lacks_zip_of_not_mem hfirst]
      | succ i =>
        have hne : first ≠ name := by
          rintro rfl
          exact hfirst (List.mem_of_getElem? hname)
        rw [if_neg hne, ih hnames hname]
        rfl

end Positions

/-! ### Fields -/

/-- The field is given once and its value passes, or it is not given. -/
def FieldCheck.Passes (field : FieldCheck) (values : List (String × Document)) : Prop :=
  Lacks values field.name ∨ ∃ value, Once values field.name value ∧ field.check value = .ok ()

/-- The field passes, and it does not come again if it came before. -/
def FieldCheck.PassesAfter (field : FieldCheck) (seen : List String)
    (values : List (String × Document)) : Prop :=
  if field.name ∈ seen then Lacks values field.name else field.Passes values

/-- The field passes, and it is given where it has to be. -/
def FieldCheck.Given (field : FieldCheck) (values : List (String × Document)) : Prop :=
  field.Passes values ∧ (Lacks values field.name → field.required = false)

/-- The values give the field its part: by the only value of its name, or by its default where the
name does not occur. -/
def Field.Gives (field : Field α) (values : List (String × Document)) (part : α) : Prop :=
  (Lacks values field.name ∧ field.default = some part) ∨
    ∃ value, Once values field.name value ∧ field.read value = .ok part

namespace Field

variable {field : Field α} {values : List (String × Document)} {part : α}

/-- A value passes when it can be read. -/
theorem erase_check_eq_ok_iff {value : Document} :
    field.erase.check value = .ok () ↔ ∃ part, field.read value = .ok part := by
  simp [erase, map_eq_ok_iff]

/-- A field that is given a part is given. -/
theorem Gives.given (h : field.Gives values part) : field.erase.Given values := by
  rcases h with ⟨hlacks, hdefault⟩ | ⟨value, honce, hread⟩
  · refine ⟨.inl hlacks, fun _ ↦ ?_⟩
    rw [erase, hdefault]
    rfl
  · exact ⟨.inr ⟨value, honce, erase_check_eq_ok_iff.mpr ⟨part, hread⟩⟩,
      fun hlacks ↦ absurd hlacks honce.last.not_lacks⟩

/-- Among values that pass, a field has the part that they give it. -/
theorem get_eq_ok_iff (h : field.erase.Passes values) :
    field.get values = .ok part ↔ field.Gives values part := by
  rcases h with (hlacks : Lacks values field.name) | ⟨value, honce, -⟩
  · have honce (value : Document) : ¬ Once values field.name value :=
      fun honce ↦ honce.last.not_lacks hlacks
    rw [get, hlacks.findEntry_eq, Gives]
    cases field.default with
    | none => simp [throw_ne_ok, honce]
    | some missing => simp [pure_eq_ok_iff, honce, hlacks]
  · change Once values field.name value at honce
    have hlacks : ¬ Lacks values field.name := honce.last.not_lacks
    rw [get, honce.findEntry_eq, Gives]
    constructor
    · intro hread
      exact .inr ⟨value, honce, hread⟩
    · rintro (⟨h, -⟩ | ⟨other, hother, hread⟩)
      · exact absurd h hlacks
      · rwa [honce.last.unique hother.last]

/-- A field has the part that it is given. -/
theorem Gives.get_eq (h : field.Gives values part) : field.get values = .ok part :=
  (get_eq_ok_iff h.given.1).mpr h

end Field

/-! ### Records -/

namespace RecordShape

variable {shape : RecordShape}

/-- The values that a document lists for the names of a record. -/
inductive Lists (shape : RecordShape) : Document → List (String × Document) → Prop
  | mapping {members : List (String × Document)} {ending : Ending}
      (closed : ending.check = .ok ()) : Lists shape (.mapping members ending) members
  | sequence {items : List Document} {ending : Ending} (closed : ending.check = .ok ())
      (fit : items.length ≤ shape.fields.length ∨ ending = .lax) :
      Lists shape (.sequence items ending) (shape.names.zip items)

/-- A value under any other name may be passed over, if the record does not refuse it. -/
def Admits (shape : RecordShape) (values : List (String × Document)) : Prop :=
  ∀ member ∈ values, member.1 ∉ shape.names →
    shape.refusesUnknown = false ∧ member.2.skip = .ok ()

section Members

variable {seen : List String} {key : String} {value : Document} {rest : List (String × Document)}
  {field : FieldCheck}

/-- A member of another name does not matter for a field. -/
theorem passesAfter_cons_of_ne (h : key ≠ field.name) :
    field.PassesAfter seen ((key, value) :: rest) ↔ field.PassesAfter seen rest := by
  simp only [FieldCheck.PassesAfter, FieldCheck.Passes, lacks_cons_iff, once_cons_iff, ne_eq, h,
    not_false_eq_true, true_and, if_false]

/-- That another name came before does not matter for a field. -/
theorem passesAfter_cons_seen_of_ne (h : key ≠ field.name) :
    field.PassesAfter (key :: seen) rest ↔ field.PassesAfter seen rest := by
  simp only [FieldCheck.PassesAfter, List.mem_cons, h.symm, false_or]

/-- A field passes with a first member of its name when it did not come before, the value passes and
it does not come again. -/
theorem passesAfter_cons_of_eq (h : key = field.name) :
    field.PassesAfter seen ((key, value) :: rest) ↔
      (key ∉ seen ∧ field.check value = .ok ()) ∧ field.PassesAfter (key :: seen) rest := by
  subst h
  simp only [FieldCheck.PassesAfter, FieldCheck.Passes, lacks_cons_iff, once_cons_iff, if_true,
    ne_eq, not_true_eq_false, false_and, false_or, List.mem_cons_self]
  split
  · next hseen => simp [hseen]
  · next hseen =>
    rw [and_iff_right hseen]
    constructor
    · rintro ⟨_, ⟨rfl, hlacks⟩, hcheck⟩
      exact ⟨hcheck, hlacks⟩
    · rintro ⟨hcheck, hlacks⟩
      exact ⟨value, ⟨rfl, hlacks⟩, hcheck⟩

/-- A first member of another name passes when it is not refused and may be passed over. -/
theorem checkMembers_cons_of_unknown (h : shape.fields.find? (·.name == key) = none) :
    shape.checkMembers seen ((key, value) :: rest) = .ok () ↔
      (shape.refusesUnknown = false ∧ value.skip = .ok ()) ∧
        shape.checkMembers seen rest = .ok () := by
  rw [checkMembers, h]
  cases shape.refusesUnknown with
  | false => simp [check_bind_eq_ok_iff]
  | true => simp [bind_eq_ok_iff, throw_ne_ok]

/-- A first member of a field passes when the field did not come before and the value passes. -/
theorem checkMembers_cons_of_known (h : shape.fields.find? (·.name == key) = some field) :
    shape.checkMembers seen ((key, value) :: rest) = .ok () ↔
      (key ∉ seen ∧ field.check value = .ok ()) ∧
        shape.checkMembers (key :: seen) rest = .ok () := by
  rw [checkMembers, h]
  by_cases hseen : key ∈ seen
  · simp [hseen, bind_eq_ok_iff, throw_ne_ok]
  · simp [hseen, check_bind_eq_ok_iff]

/-- A first member of another name than the fields' is admitted when it is not refused and may be
passed over. -/
theorem admits_cons_of_unknown (h : key ∉ shape.names) :
    shape.Admits ((key, value) :: rest) ↔
      (shape.refusesUnknown = false ∧ value.skip = .ok ()) ∧ shape.Admits rest := by
  rw [Admits, List.forall_mem_cons, imp_iff_right h]
  rfl

/-- A first member of a field is admitted. -/
theorem admits_cons_of_known (h : key ∈ shape.names) :
    shape.Admits ((key, value) :: rest) ↔ shape.Admits rest := by
  rw [Admits, List.forall_mem_cons]
  exact and_iff_right fun hunknown ↦ absurd h hunknown

/-- A first member of a field matters for this field only. -/
theorem forall_passesAfter_cons_of_known (hnames : shape.names.Nodup)
    (hmem : field ∈ shape.fields) (hkey : key = field.name) :
    (∀ other ∈ shape.fields, other.PassesAfter seen ((key, value) :: rest)) ↔
      (key ∉ seen ∧ field.check value = .ok ()) ∧
        ∀ other ∈ shape.fields, other.PassesAfter (key :: seen) rest := by
  have hother (other : FieldCheck) (hin : other ∈ shape.fields) (hne : other ≠ field) :
      other.PassesAfter seen ((key, value) :: rest) ↔ other.PassesAfter (key :: seen) rest := by
    have hname : key ≠ other.name := fun h ↦
      hne (List.inj_on_of_nodup_map hnames hin hmem (h.symm.trans hkey))
    rw [passesAfter_cons_of_ne hname, passesAfter_cons_seen_of_ne hname]
  constructor
  · intro hfields
    have hvalue := (passesAfter_cons_of_eq hkey).mp (hfields field hmem)
    refine ⟨hvalue.1, fun other hin ↦ ?_⟩
    by_cases hknown : other = field
    · rw [hknown]
      exact hvalue.2
    · exact (hother other hin hknown).mp (hfields other hin)
  · rintro ⟨hvalue, hfields⟩ other hin
    by_cases hknown : other = field
    · rw [hknown, passesAfter_cons_of_eq hkey]
      exact ⟨hvalue, hfields field hmem⟩
    · exact (hother other hin hknown).mpr (hfields other hin)

/-- Members pass exactly when those of other names are admitted and each field passes. -/
theorem checkMembers_eq_ok_iff (hnames : shape.names.Nodup) {members : List (String × Document)} :
    shape.checkMembers seen members = .ok () ↔
      shape.Admits members ∧ ∀ field ∈ shape.fields, field.PassesAfter seen members := by
  induction members generalizing seen with
  | nil =>
    simp [checkMembers, pure_eq_ok_iff, Admits, FieldCheck.PassesAfter, FieldCheck.Passes,
      lacks_nil]
  | cons member rest ih =>
    obtain ⟨key, value⟩ := member
    cases hfind : shape.fields.find? (·.name == key) with
    | none =>
      have hne (field : FieldCheck) (hfield : field ∈ shape.fields) : key ≠ field.name := by
        rintro rfl
        simpa using List.find?_eq_none.mp hfind field hfield
      have hunknown : key ∉ shape.names := by
        intro hkey
        obtain ⟨field, hfield, rfl⟩ := List.mem_map.mp hkey
        exact hne field hfield rfl
      rw [checkMembers_cons_of_unknown hfind, ih, admits_cons_of_unknown hunknown, ← and_assoc]
      refine and_congr_right fun _ ↦ forall₂_congr fun field hfield ↦ ?_
      rw [passesAfter_cons_of_ne (hne field hfield)]
    | some known =>
      have hmem : known ∈ shape.fields := List.mem_of_find?_eq_some hfind
      have hkey : key = known.name := by
        have hname := List.find?_some hfind
        exact (beq_iff_eq.mp hname).symm
      have hlisted : key ∈ shape.names := by
        rw [hkey]
        exact List.mem_map_of_mem hmem
      rw [checkMembers_cons_of_known hfind, ih, admits_cons_of_known hlisted,
        forall_passesAfter_cons_of_known hnames hmem hkey, and_left_comm]

end Members

/-- Where nothing is given, a field is given when it need not be. -/
theorem given_nil_iff {field : FieldCheck} : field.Given [] ↔ field.required = false := by
  simp [FieldCheck.Given, FieldCheck.Passes, lacks_nil]

/-- A field is given by a first value of its name that passes, if the name does not occur again. -/
theorem given_cons_of_eq {field : FieldCheck} {value : Document}
    {rest : List (String × Document)} (hrest : Lacks rest field.name) :
    field.Given ((field.name, value) :: rest) ↔ field.check value = .ok () := by
  simp [FieldCheck.Given, FieldCheck.Passes, lacks_cons_iff, once_cons_iff, hrest]

/-- A first value of another name does not matter for whether a field is given. -/
theorem given_cons_of_ne {field : FieldCheck} {key : String} {value : Document}
    {rest : List (String × Document)} (h : key ≠ field.name) :
    field.Given ((key, value) :: rest) ↔ field.Given rest := by
  simp only [FieldCheck.Given, FieldCheck.Passes, lacks_cons_iff, once_cons_iff, ne_eq, h,
    not_false_eq_true, true_and, if_false]

/-- Items pass exactly when they are closed and not too many, and as the values of the first names
they give every field. -/
theorem checkItems_eq_ok_iff {fields : List FieldCheck} (hnames : (fields.map (·.name)).Nodup)
    {ending : Ending} {index : Nat} {items : List Document} :
    shape.checkItems ending index fields items = .ok () ↔
      (ending.check = .ok () ∧ (items.length ≤ fields.length ∨ ending = .lax)) ∧
        ∀ field ∈ fields, field.Given ((fields.map (·.name)).zip items) := by
  induction fields generalizing index items with
  | nil =>
    cases items with
    | nil => simp [checkItems]
    | cons item items => cases ending <;>
        simp [checkItems, Ending.check, throw_ne_ok, pure_eq_ok_iff]
  | cons field fields ih =>
    have hfield : field.name ∉ fields.map (·.name) := (List.nodup_cons.mp hnames).1
    replace hnames := (List.nodup_cons.mp hnames).2
    cases items with
    | nil =>
      have hrest : shape.checkItems ending (index + 1) fields [] = .ok () ↔ _ := ih hnames
      simp only [List.zip_nil_right, List.length_nil, Nat.zero_le, true_or, and_true,
        given_nil_iff, List.forall_mem_cons] at hrest ⊢
      rw [checkItems, check_bind_eq_ok_iff]
      cases field.required with
      | false => simp [hrest]
      | true => simp [bind_eq_ok_iff, throw_ne_ok]
    | cons item items =>
      have hlacks : Lacks ((fields.map (·.name)).zip items) field.name :=
        lacks_zip_of_not_mem hfield
      have hothers : (∀ other ∈ fields, other.Given ((field.name, item) ::
          (fields.map (·.name)).zip items)) ↔
          ∀ other ∈ fields, other.Given ((fields.map (·.name)).zip items) := by
        refine forall₂_congr fun other hother ↦ given_cons_of_ne fun hname ↦ hfield ?_
        rw [hname]
        exact List.mem_map_of_mem hother
      rw [checkItems, check_bind_eq_ok_iff, ih hnames, List.map_cons, List.zip_cons_cons,
        List.forall_mem_cons, given_cons_of_eq hlacks, hothers, List.length_cons,
        List.length_cons, Nat.add_le_add_iff_right]
      exact and_left_comm

/-- The names that items stand for are names of the record. -/
theorem admits_zip (shape : RecordShape) (items : List Document) :
    shape.Admits (shape.names.zip items) := fun _ hmember hunknown ↦
  absurd (List.of_mem_zip hmember).1 hunknown

section Values

variable {document : Document} {values : List (String × Document)}

/-- The values that a record takes from a document are listed there, admitted, and pass. -/
theorem of_values_eq_ok (hnames : shape.names.Nodup) (h : shape.values document = .ok values) :
    shape.Lists document values ∧ shape.Admits values ∧
      ∀ field ∈ shape.fields, field.Passes values := by
  cases document with
  | mapping members ending =>
    simp only [RecordShape.values, check_bind_eq_ok_iff, pure_eq_ok_iff] at h
    obtain ⟨hcheck, hclosed, rfl⟩ := h
    obtain ⟨hadmits, hfields⟩ := (checkMembers_eq_ok_iff hnames).mp hcheck
    refine ⟨.mapping hclosed, hadmits, fun field hfield ↦ ?_⟩
    simpa [FieldCheck.PassesAfter] using hfields field hfield
  | sequence items ending =>
    simp only [RecordShape.values, check_bind_eq_ok_iff, pure_eq_ok_iff] at h
    obtain ⟨hcheck, rfl⟩ := h
    obtain ⟨⟨hclosed, hfit⟩, hfields⟩ := (checkItems_eq_ok_iff hnames).mp hcheck
    exact ⟨.sequence hclosed hfit, shape.admits_zip items, fun field hfield ↦
      (hfields field hfield).1⟩
  | _ => simp [RecordShape.values] at h

/-- A record takes the values that a document lists when they are admitted and give every field. -/
theorem values_eq_ok_of_given (hnames : shape.names.Nodup) (hlists : shape.Lists document values)
    (hadmits : shape.Admits values) (hgiven : ∀ field ∈ shape.fields, field.Given values) :
    shape.values document = .ok values := by
  cases hlists with
  | mapping hclosed =>
    have hfields : ∀ field ∈ shape.fields, field.PassesAfter [] values := fun field hfield ↦ by
      simpa [FieldCheck.PassesAfter] using (hgiven field hfield).1
    simp only [RecordShape.values, check_bind_eq_ok_iff, pure_eq_ok_iff]
    exact ⟨(checkMembers_eq_ok_iff hnames).mpr ⟨hadmits, hfields⟩, hclosed, trivial⟩
  | sequence hclosed hfit =>
    simp only [RecordShape.values, check_bind_eq_ok_iff, pure_eq_ok_iff]
    exact ⟨(checkItems_eq_ok_iff hnames).mpr ⟨⟨hclosed, hfit⟩, hgiven⟩, trivial⟩

/-- What is made of the values of a record is made of values that its document lists and the record
admits, if it gives every field and is what the fields have where they pass. -/
theorem exists_values_iff (hnames : shape.names.Nodup) {Got Gives : List (String × Document) → Prop}
    (hgot : ∀ values, (∀ field ∈ shape.fields, field.Passes values) → (Got values ↔ Gives values))
    (hgiven : ∀ values, Gives values → ∀ field ∈ shape.fields, field.Given values) :
    (∃ values, shape.values document = .ok values ∧ Got values) ↔
      ∃ values, shape.Lists document values ∧ shape.Admits values ∧ Gives values := by
  refine exists_congr fun values ↦ ⟨?_, ?_⟩
  · rintro ⟨hvalues, hgotten⟩
    obtain ⟨hlists, hadmits, hpasses⟩ := of_values_eq_ok hnames hvalues
    exact ⟨hlists, hadmits, (hgot values hpasses).mp hgotten⟩
  · rintro ⟨hlists, hadmits, hgives⟩
    have hfields := hgiven values hgives
    refine ⟨values_eq_ok_of_given hnames hlists hadmits hfields, ?_⟩
    exact (hgot values fun field hfield ↦ (hfields field hfield).1).mpr hgives

end Values

end RecordShape

end ConnectorProfiles
