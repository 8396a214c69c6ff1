import ConnectorProfiles.Proofs.Text.Quoted
import ConnectorProfiles.Text.Outline

/-!
# What a text shows

A text shows parts when they stand in it one after the other and a mark, which is there to set them
off, occurs nowhere else. The debug text of an outline, on one line or on several, shows the texts
in the outline, each between double quotes; and the texts can be read off from it.
-/

namespace ConnectorProfiles.Text

/-- A text shows these parts in their order, and the mark does not occur in it outside of them. -/
inductive Shows (mark : Char) : (parts : List String) → (text : String) → Prop
  | nil {rest : String} (hrest : mark ∉ rest.toList) : Shows mark [] rest
  | cons {before part : String} {parts : List String} {rest : String}
      (hbefore : mark ∉ before.toList) (h : Shows mark parts rest) :
      Shows mark (part :: parts) (before ++ part ++ rest)

namespace Shows

variable {mark : Char} {parts others : List String} {text other : String}

/-- A text shows itself. -/
theorem self (text : String) : Shows mark [text] text := by
  have h : Shows mark [text] ("" ++ text ++ "") := .cons (by simp) (.nil (by simp))
  rwa [String.empty_append, String.append_empty] at h

/-- A text before another shows nothing more where the mark does not occur in it. -/
theorem append_left (h : Shows mark parts text) (hother : mark ∉ other.toList) :
    Shows mark parts (other ++ text) := by
  cases h with
  | nil hrest =>
    apply nil
    rw [String.toList_append, List.mem_append, not_or]
    exact ⟨hother, hrest⟩
  | @cons before part parts rest hbefore h =>
    rw [← String.append_assoc, ← String.append_assoc]
    apply cons _ h
    rw [String.toList_append, List.mem_append, not_or]
    exact ⟨hother, hbefore⟩

/-- Two texts, one after the other, show what both show. -/
theorem append (h : Shows mark parts text) (h' : Shows mark others other) :
    Shows mark (parts ++ others) (text ++ other) := by
  induction h with
  | nil hrest => exact h'.append_left hrest
  | cons hbefore _ ih =>
    rw [List.cons_append, String.append_assoc]
    exact cons hbefore ih

/-- A text after another shows nothing more where the mark does not occur in it. -/
theorem append_right (h : Shows mark parts text) (hother : mark ∉ other.toList) :
    Shows mark parts (text ++ other) := by
  have happend := h.append (nil hother)
  rwa [List.append_nil] at happend

section Lists

variable {α : Type} {shown : α → List String} {f : α → String} {items : List α}

/-- Texts in a row show what each of them shows. -/
theorem join (h : ∀ item ∈ items, Shows mark (shown item) (f item)) :
    Shows mark (items.flatMap shown) (String.join (items.map f)) := by
  induction items with
  | nil =>
    rw [List.map_nil, String.join_nil]
    exact nil (by simp)
  | cons item items ih =>
    obtain ⟨hitem, hitems⟩ := List.forall_mem_cons.mp h
    rw [List.flatMap_cons, List.map_cons, String.join_cons]
    exact hitem.append (ih hitems)

/-- Texts between separators show what each of them shows. -/
theorem intercalate {separator : String} (hseparator : mark ∉ separator.toList)
    (h : ∀ item ∈ items, Shows mark (shown item) (f item)) :
    Shows mark (items.flatMap shown) (separator.intercalate (items.map f)) := by
  induction items with
  | nil =>
    rw [List.map_nil, String.intercalate_nil]
    exact nil (by simp)
  | cons item items ih =>
    obtain ⟨hitem, hitems⟩ := List.forall_mem_cons.mp h
    rw [List.flatMap_cons]
    cases items with
    | nil =>
      rw [List.flatMap_nil, List.append_nil, List.map_singleton, String.intercalate_singleton]
      exact hitem
    | cons second items =>
      rw [List.map_cons, List.map_cons, String.intercalate_cons_cons, ← List.map_cons]
      exact (hitem.append_right hseparator).append (ih hitems)

end Lists

end Shows

/-- A text shows nothing where the mark does not occur in it. -/
theorem shows_nil_iff {mark : Char} {text : String} : Shows mark [] text ↔ mark ∉ text.toList := by
  constructor
  · intro h
    cases h with
    | nil hrest => exact hrest
  · exact .nil

/-- A text shows a first part after what is before it, and the other parts after that. -/
theorem shows_cons_iff {mark : Char} {part text : String} {parts : List String} :
    Shows mark (part :: parts) text ↔ ∃ before rest, text = before ++ part ++ rest ∧
      mark ∉ before.toList ∧ Shows mark parts rest := by
  constructor
  · intro h
    cases h with
    | @cons before _ _ rest hbefore h => exact ⟨before, rest, rfl, hbefore, h⟩
  · rintro ⟨before, rest, rfl, hbefore, h⟩
    exact .cons hbefore h

/-- A text shows quoted texts in one way only. -/
theorem Shows.quoted_inj {names others : List String} {text : String}
    (h : Shows '"' (names.map quote) text) (h' : Shows '"' (others.map quote) text) :
    names = others := by
  have hquote {before name rest : String} : '"' ∈ (before ++ quote name ++ rest).toList := by
    simp [toList_quote]
  induction names generalizing others text with
  | nil =>
    cases others with
    | nil => rfl
    | cons other others =>
      obtain ⟨before, rest, rfl, -⟩ := shows_cons_iff.mp h'
      exact absurd hquote (shows_nil_iff.mp h)
  | cons name names ih =>
    obtain ⟨before, rest, rfl, hbefore, hrest⟩ := shows_cons_iff.mp h
    cases others with
    | nil => exact absurd hquote (shows_nil_iff.mp h')
    | cons other others =>
      obtain ⟨before', rest', htext, hbefore', hrest'⟩ := shows_cons_iff.mp h'
      -- Both stand before the first double quote, and what follows it is quoted in one way.
      have hchars := congrArg String.toList htext
      simp only [String.toList_append, List.append_assoc, toList_quote, List.cons_append] at hchars
      obtain ⟨-, hafter⟩ := cut_inj hbefore hbefore' hchars
      obtain ⟨rfl, hlater⟩ : name = other ∧ rest.toList = rest'.toList := by
        apply quote_append_inj
        simp only [toList_quote, List.cons_append, List.append_assoc, hafter]
      rw [← String.toList_inj.mp hlater] at hrest'
      rw [ih hrest hrest']

/-! ### Debug texts -/

namespace Outline

mutual

/-- The texts in an outline, in order. -/
def texts : Outline → List String
  | .text value => [value]
  | .list items => textsOf items
  | .record _ _ value _ => value.texts

/-- The texts in every item. -/
def textsOf : List Outline → List String
  | [] => []
  | item :: rest => item.texts ++ textsOf rest

end

mutual

/-- The titles and the field names of the records in an outline. -/
def labels : Outline → List String
  | .text _ => []
  | .list items => labelsOf items
  | .record title field value _ => title :: field :: value.labels

/-- The titles and the field names in every item. -/
def labelsOf : List Outline → List String
  | [] => []
  | item :: rest => item.labels ++ labelsOf rest

end

/-- Induction over an outline that reaches every item of a list. -/
@[elab_as_elim, induction_eliminator]
theorem tree_induction {P : Outline → Prop} (text : ∀ value, P (.text value))
    (list : ∀ items, (∀ item ∈ items, P item) → P (.list items))
    (record : ∀ title field value isOpen, P value → P (.record title field value isOpen))
    (o : Outline) : P o := by
  refine @Outline.rec P (fun items ↦ ∀ item ∈ items, P item) text list record ?_ ?_ o
  · simp
  · intro item items hitem hitems
    exact List.forall_mem_cons.mpr ⟨hitem, hitems⟩

variable {items : List Outline}

/-- The texts in items are those in each of them. -/
theorem textsOf_eq_flatMap (items : List Outline) : textsOf items = items.flatMap texts := by
  induction items with
  | nil => rfl
  | cons item rest ih => rw [textsOf, ih, List.flatMap_cons]

/-- The labels in items are those in each of them. -/
theorem labelsOf_eq_flatMap (items : List Outline) : labelsOf items = items.flatMap labels := by
  induction items with
  | nil => rfl
  | cons item rest ih => rw [labelsOf, ih, List.flatMap_cons]

/-- Items are put on one line one by one. -/
theorem lines_eq_map (items : List Outline) : lines items = items.map line := by
  induction items with
  | nil => rfl
  | cons item rest ih => rw [lines, ih, List.map_cons]

/-- Items are put on lines of their own one by one. -/
theorem blocks_eq_map (depth : Nat) (items : List Outline) :
    blocks depth items = items.map fun item ↦ indent depth ++ item.block depth ++ ",\n" := by
  induction items with
  | nil => rfl
  | cons item rest ih => rw [blocks, ih, List.map_cons]

/-- The texts in a list of texts are these texts. -/
theorem texts_list_map_text (names : List String) :
    (list (names.map text)).texts = names := by
  rw [texts, textsOf_eq_flatMap, List.flatMap_map]
  simp [texts]

/-- No title and no field name in an outline has a double quote. -/
def Plain (o : Outline) : Prop := ∀ label ∈ o.labels, '"' ∉ label.toList

/-- The items of a plain list are plain. -/
theorem Plain.of_mem (h : (list items).Plain) {item : Outline} (hitem : item ∈ items) :
    item.Plain := by
  intro label hlabel
  apply h
  rw [labels, labelsOf_eq_flatMap]
  exact List.mem_flatMap.mpr ⟨item, hitem, hlabel⟩

/-- Indentation has no double quote. -/
theorem quote_not_mem_indent (depth : Nat) : '"' ∉ (indent depth).toList := by
  rw [indent, String.toList_ofList, List.mem_replicate]
  rintro ⟨-, h⟩
  exact absurd h (by decide)

/-- A list of texts is plain. -/
theorem plain_list_map_text (names : List String) : (list (names.map text)).Plain := by
  rw [Plain, labels, labelsOf_eq_flatMap, List.flatMap_map]
  simp [labels]

/-- A record is plain when its labels have no double quote and its value is plain. -/
theorem plain_record_iff {title field : String} {value : Outline} {isOpen : Bool} :
    (record title field value isOpen).Plain ↔
      '"' ∉ title.toList ∧ '"' ∉ field.toList ∧ value.Plain := by
  rw [Plain, labels, List.forall_mem_cons, List.forall_mem_cons, Plain]

/-- On one line, an outline shows its texts between double quotes. -/
theorem shows_line {o : Outline} (h : o.Plain) : Shows '"' (o.texts.map quote) o.line := by
  induction o with
  | text value => exact .self (quote value)
  | list items ih =>
    rw [texts, textsOf_eq_flatMap, List.map_flatMap, line, lines_eq_map]
    apply Shows.append_right _ (by decide)
    apply Shows.append_left _ (by decide)
    exact .intercalate (by decide) fun item hitem ↦ ih item hitem (h.of_mem hitem)
  | record title field value isOpen ih =>
    obtain ⟨htitle, hfield, hvalue⟩ := plain_record_iff.mp h
    rw [texts, line]
    apply Shows.append_right
    · apply (ih hvalue).append_left
      simp [htitle, hfield]
    · cases isOpen with
      | true | false => decide

/-- With one part on each line, an outline shows its texts between double quotes. -/
theorem shows_block {o : Outline} (h : o.Plain) (depth : Nat) :
    Shows '"' (o.texts.map quote) (o.block depth) := by
  induction o generalizing depth with
  | text value => exact .self (quote value)
  | list items ih =>
    rw [texts, textsOf_eq_flatMap, List.map_flatMap, block]
    split
    · next hempty =>
      rw [List.isEmpty_iff.mp hempty]
      exact .nil (by decide)
    · rw [blocks_eq_map]
      apply Shows.append_right _ (by decide)
      apply Shows.append_right _ (quote_not_mem_indent depth)
      apply Shows.append_left _ (by decide)
      apply Shows.join
      intro item hitem
      apply Shows.append_right _ (by decide)
      exact (ih item hitem (h.of_mem hitem) _).append_left (quote_not_mem_indent _)
  | record title field value isOpen ih =>
    obtain ⟨htitle, hfield, hvalue⟩ := plain_record_iff.mp h
    rw [texts, block]
    apply Shows.append_right _ (by decide)
    apply Shows.append_right _ (quote_not_mem_indent depth)
    apply Shows.append_right
    · apply Shows.append_right _ (by decide)
      apply (ih hvalue _).append_left
      simp [htitle, hfield, quote_not_mem_indent]
    · cases isOpen with
      | true => simp [quote_not_mem_indent]
      | false => simp

/-- Both debug texts of an outline show these texts, in this order and between double quotes, and no
double quote stands outside of them. -/
structure Displays (o : Outline) (names : List String) : Prop where
  line : Shows '"' (names.map quote) o.line
  block : ∀ depth, Shows '"' (names.map quote) (o.block depth)

/-- The debug texts of a plain outline display the texts in it. -/
theorem Plain.displays {o : Outline} (h : o.Plain) {names : List String}
    (hnames : o.texts = names) : o.Displays names := by
  subst hnames
  exact ⟨shows_line h, shows_block h⟩

/-- Outlines with the same debug text on one line display the same texts. -/
theorem Displays.inj {o other : Outline} {names others : List String} (h : o.Displays names)
    (h' : other.Displays others) (hline : o.line = other.line) : names = others := by
  have hshows := h.line
  rw [hline] at hshows
  exact hshows.quoted_inj h'.line

end Outline

end ConnectorProfiles.Text
