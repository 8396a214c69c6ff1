import Mathlib.Data.List.Forall2

/-!
# Lists related element by element

A list that arises from another one element by element is its image, where every element has
exactly one image; reading a list succeeds exactly when every element is read.
-/

namespace ConnectorProfiles

variable {α β : Type}

/-- Where each element has exactly one partner, the partners are the images. -/
theorem forall₂_iff_eq_map {R : α → β → Prop} {f : α → β} {as : List α} {bs : List β}
    (h : ∀ a ∈ as, ∀ b, R a b ↔ b = f a) : List.Forall₂ R as bs ↔ bs = as.map f := by
  induction as generalizing bs with
  | nil => exact List.forall₂_nil_left_iff
  | cons a as ih =>
    obtain ⟨ha, has⟩ := List.forall_mem_cons.mp h
    rw [List.forall₂_cons_left_iff, List.map_cons]
    constructor
    · rintro ⟨b, bs, hb, hbs, rfl⟩
      rw [(ha b).mp hb, (ih has).mp hbs]
    · rintro rfl
      exact ⟨f a, as.map f, (ha _).mpr rfl, (ih has).mpr rfl, rfl⟩

/-- A list whose elements are the images of their partners is the image of the partners. -/
theorem eq_map_of_forall₂ {R : α → β → Prop} {f : β → α} {as : List α} {bs : List β}
    (h : List.Forall₂ R as bs) (himage : ∀ a ∈ as, ∀ b, R a b → a = f b) : as = bs.map f := by
  induction h with
  | nil => rfl
  | cons hab _ ih =>
    obtain ⟨hfirst, hrest⟩ := List.forall_mem_cons.mp himage
    rw [List.map_cons, ← hfirst _ hab, ← ih hrest]

/-- Partners for a whole list exist as soon as each element has one. -/
theorem exists_forall₂_iff {R : α → β → Prop} {as : List α} :
    (∃ bs, List.Forall₂ R as bs) ↔ ∀ a ∈ as, ∃ b, R a b := by
  induction as with
  | nil => simp
  | cons a as ih =>
    rw [List.forall_mem_cons, ← ih]
    simp only [List.forall₂_cons_left_iff]
    constructor
    · rintro ⟨_, b, bs, hb, hbs, rfl⟩
      exact ⟨⟨b, hb⟩, bs, hbs⟩
    · rintro ⟨⟨b, hb⟩, bs, hbs⟩
      exact ⟨b :: bs, b, bs, hb, hbs, rfl⟩

/-- A relation between elements in order may be replaced by one that holds of them as well. -/
theorem forall₂_imp_of_mem {R S : α → β → Prop} {as : List α} {bs : List β}
    (h : List.Forall₂ R as bs) (himp : ∀ b ∈ bs, ∀ a, R a b → S a b) : List.Forall₂ S as bs := by
  induction h with
  | nil => exact .nil
  | cons hab _ ih =>
    obtain ⟨hfirst, hrest⟩ := List.forall_mem_cons.mp himp
    exact .cons (hfirst _ hab) (ih hrest)

/-- The images are related to the elements in order as soon as each is related to its own. -/
theorem forall₂_map_self_iff {R : β → α → Prop} {f : α → β} {as : List α} :
    List.Forall₂ R (as.map f) as ↔ ∀ a ∈ as, R (f a) a := by
  rw [List.forall₂_map_left_iff, List.forall₂_same]

/-- A list is recognised when each of its elements is. -/
theorem mapM_eq_some_iff {f : α → Option β} {as : List α} {bs : List β} :
    as.mapM f = some bs ↔ List.Forall₂ (fun a b ↦ f a = some b) as bs := by
  induction as generalizing bs with
  | nil =>
    rw [List.mapM_nil, List.forall₂_nil_left_iff, Option.pure_def, Option.some.injEq]
    exact eq_comm
  | cons a as ih =>
    rw [List.mapM_cons, List.forall₂_cons_left_iff]
    simp only [bind, Option.bind_eq_some_iff, pure, Option.some.injEq, ih]
    constructor
    · rintro ⟨b, hb, bs, hbs, rfl⟩
      exact ⟨b, bs, hb, hbs, rfl⟩
    · rintro ⟨b, bs, hb, hbs, rfl⟩
      exact ⟨b, hb, bs, hbs, rfl⟩

end ConnectorProfiles
