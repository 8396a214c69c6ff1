import ConnectorProfiles.NameMap
import Mathlib.Tactic.SplitIfs

/-!
# Names in the order of their bytes

The order of texts by code point is the order of their UTF-8 bytes: of two characters the smaller
one has the smaller encoding, and it differs from the other before it ends. So a map lists its
entries from the first name to the last in the order of bytes.
-/

namespace ConnectorProfiles

namespace Text

/-- The UTF-8 bytes of a text. -/
def bytes (s : String) : List UInt8 := s.toUTF8.data.toList

/-- The bytes of a text are those of its characters. -/
theorem bytes_eq_flatMap (s : String) : bytes s = s.toList.flatMap String.utf8EncodeChar := by
  conv => lhs; rw [← String.ofList_toList (s := s)]
  rw [bytes, String.toUTF8_eq_toByteArray, String.toByteArray_ofList, List.utf8Encode,
    List.data_toByteArray]

private theorem ofNat_cons_lt_iff {a b : Nat} (ha : a < 256) (hb : b < 256) {as bs : List UInt8} :
    UInt8.ofNat a :: as < UInt8.ofNat b :: bs ↔ a < b ∨ a = b ∧ as < bs := by
  rw [List.cons_lt_cons_iff, UInt8.lt_iff_toNat_lt, ← UInt8.toNat_inj,
    UInt8.toNat_ofNat_of_lt' ha, UInt8.toNat_ofNat_of_lt' hb]

private theorem codePoint_lt (c : Char) : c.val.toNat < 0x110000 := by
  have h := c.valid
  simp only [UInt32.isValidChar, Nat.isValidChar] at h
  omega

/-- The encoding of a smaller character comes first, whatever follows the two. -/
theorem utf8EncodeChar_append_lt {c d : Char} (h : c < d) (as bs : List UInt8) :
    String.utf8EncodeChar c ++ as < String.utf8EncodeChar d ++ bs := by
  have hlt : c.val.toNat < d.val.toNat := h
  have hd := codePoint_lt d
  simp only [String.utf8EncodeChar]
  generalize c.val.toNat = m at *
  generalize d.val.toNat = n at *
  rw [Nat.mod_eq_of_lt (by omega : m / 262144 < 8), Nat.mod_eq_of_lt (by omega : n / 262144 < 8)]
  -- One case for each pair of lengths; the first bytes of different lengths differ.
  split_ifs <;>
    simp (disch := omega) only [List.cons_append, List.nil_append, ofNat_cons_lt_iff,
      Nat.add_lt_add_iff_right, Nat.add_right_cancel_iff] <;>
    omega

private theorem utf8EncodeChar_ne_nil (c : Char) : String.utf8EncodeChar c ≠ [] := by
  rw [String.utf8EncodeChar]
  split_ifs <;> simp

/-- The encoding of smaller characters comes first. -/
theorem flatMap_utf8EncodeChar_lt {cs ds : List Char} (h : cs < ds) :
    cs.flatMap String.utf8EncodeChar < ds.flatMap String.utf8EncodeChar := by
  induction cs generalizing ds with
  | nil =>
    cases ds with
    | nil => exact absurd h (List.lt_irrefl _)
    | cons d ds =>
      rw [List.flatMap_nil, List.flatMap_cons]
      cases hd : String.utf8EncodeChar d with
      | nil => exact absurd hd (utf8EncodeChar_ne_nil d)
      | cons => exact List.nil_lt_cons _ _
  | cons c cs ih =>
    cases ds with
    | nil => exact absurd h (List.not_lt_nil _)
    | cons d ds =>
      rw [List.flatMap_cons, List.flatMap_cons]
      rcases List.cons_lt_cons_iff.mp h with hlt | ⟨rfl, hlt⟩
      · exact utf8EncodeChar_append_lt hlt _ _
      · exact List.append_left_lt (ih hlt)

/-- Texts are in the order of their bytes. -/
theorem bytes_lt_bytes_iff {s t : String} : bytes s < bytes t ↔ s < t := by
  have hbytes {a b : String} (h : a < b) : bytes a < bytes b := by
    rw [bytes_eq_flatMap, bytes_eq_flatMap]
    exact flatMap_utf8EncodeChar_lt (String.lt_iff.mp h)
  refine ⟨fun h ↦ ?_, hbytes⟩
  refine Decidable.byContradiction fun hnot ↦ ?_
  by_cases heq : s = t
  · rw [heq] at h
    exact List.lt_irrefl _ h
  · have hlt : t < s := by
      refine Decidable.byContradiction fun hge ↦ heq ?_
      exact String.le_antisymm (String.not_lt.mp hge) (String.not_lt.mp hnot)
    exact List.lt_asymm h (hbytes hlt)

/-- Texts that are not after one another are in the order of their bytes as well. -/
theorem bytes_le_bytes_iff {s t : String} : bytes s ≤ bytes t ↔ s ≤ t := by
  rw [← List.not_lt, ← String.not_lt, bytes_lt_bytes_iff]

end Text

/-- A map lists its entries in the order of the bytes of their names. -/
theorem NameMap.pairwise_bytes {α : Type} (m : NameMap α) :
    m.entries.Pairwise fun a b ↦ Text.bytes a.1 < Text.bytes b.1 :=
  m.ascending.imp Text.bytes_lt_bytes_iff.mpr

end ConnectorProfiles
