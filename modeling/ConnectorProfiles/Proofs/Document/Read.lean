import ConnectorProfiles.Json.Reader
import ConnectorProfiles.Proofs.Elementwise

/-!
# Results of reading

A reading of several parts succeeds exactly when each part is read. Where a mapping is kept under
its names, this makes the result a function of the JSON value of the whole.
-/

namespace ConnectorProfiles

variable {ε α β : Type}

/-- Results are compared by their values and by their causes. -/
instance decidableEqExcept [DecidableEq ε] [DecidableEq α] : DecidableEq (Except ε α)
  | .ok a, .ok b => decidable_of_iff (a = b) (by simp)
  | .error a, .error b => decidable_of_iff (a = b) (by simp)
  | .ok _, .error _ => isFalse nofun
  | .error _, .ok _ => isFalse nofun

/-! ### Steps of a reading -/

/-- A step after a result goes on with it. -/
theorem ok_bind (a : α) (f : α → Except ε β) : Except.ok a >>= f = f a := rfl

/-- A step after another succeeds exactly when both do. -/
theorem bind_eq_ok_iff {x : Except ε α} {f : α → Except ε β} {b : β} :
    x >>= f = .ok b ↔ ∃ a, x = .ok a ∧ f a = .ok b := by
  cases x with
  | error e => simp [bind, Except.bind]
  | ok a => simp [bind, Except.bind]

/-- Changing a result does not change whether there is one. -/
theorem map_eq_ok_iff {x : Except ε α} {f : α → β} {b : β} :
    f <$> x = .ok b ↔ ∃ a, x = .ok a ∧ f a = b := by
  cases x with
  | error e => simp [Functor.map, Except.map]
  | ok a => simp [Functor.map, Except.map]

/-- Changing a fault changes no result. -/
theorem mapError_eq_ok_iff {ε' : Type} {x : Except ε α} {f : ε → ε'} {a : α} :
    x.mapError f = .ok a ↔ x = .ok a := by
  cases x with
  | error e => simp [Except.mapError]
  | ok b => simp [Except.mapError]

/-- Changing a fault does not change whether there is one. -/
theorem mapError_eq_error_iff {ε' : Type} {x : Except ε α} {f : ε → ε'} {e' : ε'} :
    x.mapError f = .error e' ↔ ∃ e, x = .error e ∧ f e = e' := by
  cases x with
  | error e => simp [Except.mapError]
  | ok a => simp [Except.mapError]

/-- A result that is given is the result. -/
theorem pure_eq_ok_iff {a b : α} : (pure a : Except ε α) = .ok b ↔ a = b := by
  simp [pure, Except.pure]

/-- A fault is no result. -/
theorem throw_ne_ok {e : ε} {a : α} : (throw e : Except ε α) ≠ .ok a := by
  simp [throw, throwThe, MonadExceptOf.throw]

/-- A step after a check succeeds exactly when the check passes and the step succeeds. -/
theorem check_bind_eq_ok_iff {x : Except ε Unit} {f : Unit → Except ε β} {b : β} :
    x >>= f = .ok b ↔ x = .ok () ∧ f () = .ok b := by
  rw [bind_eq_ok_iff]
  constructor
  · rintro ⟨_, hx, hf⟩
    exact ⟨hx, hf⟩
  · rintro ⟨hx, hf⟩
    exact ⟨(), hx, hf⟩

/-- A check of every element passes exactly when each element passes it. -/
theorem forM_eq_ok_iff {check : α → Except ε Unit} {as : List α} :
    as.forM check = .ok () ↔ ∀ a ∈ as, check a = .ok () := by
  induction as with
  | nil => simp [pure, Except.pure]
  | cons a as ih => rw [List.forM, check_bind_eq_ok_iff, List.forall_mem_cons, ih]

/-- Elements are read exactly when each of them is. -/
theorem mapM_eq_ok_iff {read : α → Except ε β} {as : List α} {bs : List β} :
    as.mapM read = .ok bs ↔ List.Forall₂ (fun a b ↦ read a = .ok b) as bs := by
  induction as generalizing bs with
  | nil => rw [List.mapM_nil, pure_eq_ok_iff, List.forall₂_nil_left_iff, eq_comm]
  | cons a as ih =>
    simp only [List.mapM_cons, List.forall₂_cons_left_iff, bind_eq_ok_iff, pure_eq_ok_iff, ih]
    constructor
    · rintro ⟨b, hb, bs, hbs, rfl⟩
      exact ⟨b, bs, hb, hbs, rfl⟩
    · rintro ⟨b, bs, hb, hbs, rfl⟩
      exact ⟨b, hb, bs, hbs, rfl⟩

/-! ### JSON values of documents -/

namespace Document

/-- Only a mapping has an object as its value: the object of the values of its members. -/
theorem toJson_eq_object_iff {depth : Nat} {document : Document} {members : List (String × Json)} :
    document.toJson (depth + 1) = .ok (.object members) ↔
      ∃ given ending, document = .mapping given ending ∧
        membersToJson depth given = .ok members ∧ ending.check = .ok () := by
  cases document with
  | mapping given ending =>
    simp only [toJson, bind_eq_ok_iff, pure_eq_ok_iff, Json.object.injEq, mapping.injEq]
    constructor
    · rintro ⟨found, hfound, ⟨⟩, hcheck, rfl⟩
      exact ⟨given, ending, ⟨rfl, rfl⟩, hfound, hcheck⟩
    · rintro ⟨_, _, ⟨rfl, rfl⟩, hfound, hcheck⟩
      exact ⟨members, hfound, (), hcheck, rfl⟩
  | sequence items ending => simp [toJson, bind_eq_ok_iff, map_eq_ok_iff]
  | real value => cases value <;> simp [toJson, pure_eq_ok_iff, throw_ne_ok]
  | null | bool | integer | string => simp [toJson, pure_eq_ok_iff]
  | unusable | broken => simp [toJson, throw_ne_ok]

/-- Reading each member through its value changes the values of the members. -/
private theorem mapM_member_map (f : Json → α) (depth : Nat)
    (given : List (String × Document)) :
    (given.mapM fun member ↦ return (member.1, ← f <$> member.2.toJson depth) :
      Read (List (String × α))) =
    (fun members ↦ members.map fun member ↦ (member.1, f member.2)) <$>
      membersToJson depth given := by
  induction given with
  | nil => rfl
  | cons member rest ih =>
    rw [List.mapM_cons, ih, membersToJson, memberToJson]
    cases member.2.toJson depth with
    | error fault => rfl
    | ok value =>
      cases membersToJson depth rest with
      | error fault => rfl
      | ok values => rfl

/-- Reading the members of a mapping through their values is a function of the whole value. -/
theorem mapOf_toJson_eq_ok_iff {f : Json → α} {depth : Nat} {document : Document}
    {m : NameMap α} : document.mapOf (fun value ↦ f <$> value.toJson depth) = .ok m ↔
      ∃ members, document.toJson (depth + 1) = .ok (.object members) ∧
        m = NameMap.ofList (members.map fun member ↦ (member.1, f member.2)) := by
  simp only [toJson_eq_object_iff]
  cases document with
  | mapping given ending =>
    rw [mapOf, mapM_member_map]
    simp only [bind_eq_ok_iff, map_eq_ok_iff, pure_eq_ok_iff, mapping.injEq]
    constructor
    · rintro ⟨_, ⟨members, hmembers, rfl⟩, ⟨⟩, hcheck, rfl⟩
      exact ⟨members, ⟨given, ending, ⟨rfl, rfl⟩, hmembers, hcheck⟩, rfl⟩
    · rintro ⟨members, ⟨_, _, ⟨rfl, rfl⟩, hmembers, hcheck⟩, rfl⟩
      exact ⟨_, ⟨members, hmembers, rfl⟩, (), hcheck, rfl⟩
  | _ => simp [mapOf]

end Document

/-- A text is decoded when its document is read and nothing follows it. -/
theorem JsonText.decode_eq_ok_iff {read : Document → Read α} {text : String} {a : α} :
    decode read text = .ok a ↔ read (scan text).root = .ok a ∧ (scan text).trailing = false := by
  rw [decode]
  cases read (scan text).root with
  | error fault => simp [bind_eq_ok_iff]
  | ok value =>
    cases (scan text).trailing with
    | false => simp [bind, Except.bind, pure_eq_ok_iff]
    | true => simp [bind_eq_ok_iff, map_eq_ok_iff, throw_ne_ok]

end ConnectorProfiles
