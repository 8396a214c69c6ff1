import ConnectorProfiles.Text.Quoted
import Mathlib.Data.List.Basic

/-!
# Quoted texts tell apart

No two characters are escaped alike, and no escaped character begins like another one or with a
double quote. So a quoted text can be read off from whatever follows it.
-/

namespace ConnectorProfiles.Text

/-- There is one way to cut a text at its first mark. -/
theorem cut_inj {mark : Char} {xs ys x y : List Char} (hxs : mark ∉ xs) (hys : mark ∉ ys)
    (h : xs ++ mark :: x = ys ++ mark :: y) : xs = ys ∧ x = y := by
  obtain ⟨between, rfl, hrest⟩ | ⟨between, rfl, hrest⟩ := List.append_eq_append_iff.mp h
  · cases between with
    | nil => exact ⟨(List.append_nil xs).symm, (List.cons.inj hrest).2⟩
    | cons first between =>
      obtain ⟨rfl, -⟩ := List.cons.inj hrest
      simp at hys
  · cases between with
    | nil => exact ⟨List.append_nil ys, (List.cons.inj hrest).2.symm⟩
    | cons first between =>
      obtain ⟨rfl, -⟩ := List.cons.inj hrest
      simp at hxs

/-! ### Hexadecimal digits -/

/-- Digits below sixteen are written differently. -/
theorem digitChar_inj {m n : Nat} (hm : m < 16) (hn : n < 16) (h : m.digitChar = n.digitChar) :
    m = n := by
  have hall : ∀ m < 16, ∀ n < 16, Nat.digitChar m = Nat.digitChar n → m = n := by decide
  exact hall m hm n hn h

/-- Numbers are written differently in hexadecimal digits. -/
theorem toDigits_inj {m n : Nat} (h : Nat.toDigits 16 m = Nat.toDigits 16 n) : m = n := by
  induction m using Nat.strongRecOn generalizing n with
  | ind m ih =>
    rw [Nat.toDigits_eq_if (by decide), Nat.toDigits_eq_if (n := n) (by decide)] at h
    by_cases hm : m < 16
    · by_cases hn : n < 16
      · rw [if_pos hm, if_pos hn, List.singleton_inj] at h
        exact digitChar_inj hm hn h
      · rw [if_pos hm, if_neg hn, List.singleton_eq_append_iff] at h
        simp [Nat.toDigits_ne_nil] at h
    · by_cases hn : n < 16
      · rw [if_neg hm, if_pos hn, List.append_eq_singleton_iff] at h
        simp [Nat.toDigits_ne_nil] at h
      · rw [if_neg hm, if_neg hn] at h
        obtain ⟨hfront, hlast⟩ := List.append_inj' h rfl
        have hdiv : m / 16 = n / 16 := ih (m / 16) (by omega) hfront
        have hmod : m % 16 = n % 16 :=
          digitChar_inj (by omega) (by omega) (List.singleton_inj.mp hlast)
        omega

/-- The brace that ends a code point is no hexadecimal digit. -/
theorem brace_not_mem_toDigits (n : Nat) : '\x7d' ∉ Nat.toDigits 16 n := by
  induction n using Nat.strongRecOn with
  | ind n ih =>
    have hdigit : ∀ m < 16, '\x7d' ≠ Nat.digitChar m := by decide
    rw [Nat.toDigits_eq_if (by decide)]
    split
    · next hn =>
      rw [List.mem_singleton]
      exact hdigit n hn
    · rw [List.mem_append, List.mem_singleton, not_or]
      exact ⟨ih (n / 16) (by omega), hdigit (n % 16) (by omega)⟩

/-! ### Escapes -/

/-- The characters that are escaped by one other, with these. -/
def letters : List (Char × Char) :=
  [('"', '"'), ('\\', '\\'), ('\n', 'n'), ('\r', 'r'), ('\t', 't'), ('\x00', '0')]

/-- How a character stands in a quoted text: as itself, by one other after a backslash, or by its
code point. -/
inductive Escaped (c : Char) : List Char → Prop
  | self (hquote : c ≠ '"') (hbackslash : c ≠ '\\') : Escaped c [c]
  | letter {k : Char} (h : (c, k) ∈ letters) : Escaped c ['\\', k]
  | code : Escaped c ('\\' :: 'u' :: '\x7b' :: (Nat.toDigits 16 c.toNat ++ ['\x7d']))

/-- Every character is escaped in one of these ways. -/
theorem escaped_escapeChar (c : Char) : Escaped c (escapeChar c).toList := by
  by_cases hletter : ∃ k, (c, k) ∈ letters
  · obtain ⟨k, hk⟩ := hletter
    have hescape : ∀ entry ∈ letters, (escapeChar entry.1).toList = ['\\', entry.2] := by decide
    rw [hescape (c, k) hk]
    exact .letter hk
  · simp only [letters, List.mem_cons, Prod.mk.injEq, List.not_mem_nil, or_false, not_exists,
      not_or, not_and] at hletter
    have hquote : c ≠ '"' := fun h ↦ (hletter _).1 h rfl
    have hbackslash : c ≠ '\\' := fun h ↦ (hletter _).2.1 h rfl
    have hzero : c.toNat ≠ 0 := fun h ↦ (hletter _).2.2.2.2.2 (Char.toNat_inj.mp h) rfl
    rw [escapeChar, if_neg hquote, if_neg hbackslash, if_neg fun h ↦ (hletter _).2.2.1 h rfl,
      if_neg fun h ↦ (hletter _).2.2.2.1 h rfl, if_neg fun h ↦ (hletter _).2.2.2.2.1 h rfl,
      if_neg hzero]
    have hself : c.toString.toList = [c] := by simp
    split
    · rw [hself]
      exact .self hquote hbackslash
    · split
      · simp only [String.toList_append, hexDigits, String.toList_ofList]
        exact .code
      · rw [hself]
        exact .self hquote hbackslash

/-- What is escaped tells where it ends and which character it is. -/
theorem Escaped.append_inj {c d : Char} {xs ys x y : List Char} (hc : Escaped c xs)
    (hd : Escaped d ys) (h : xs ++ x = ys ++ y) : c = d ∧ x = y := by
  have hnot_u : ∀ entry ∈ letters, entry.2 ≠ 'u' := by decide
  cases hc with
  | self hquote hbackslash =>
    cases hd with
    | self => exact List.cons.inj h
    | letter | code => exact absurd (List.cons.inj h).1 hbackslash
  | letter hk =>
    cases hd with
    | self _ hbackslash => exact absurd (List.cons.inj h).1.symm hbackslash
    | letter hk' =>
      have hletters : ∀ entry ∈ letters, ∀ other ∈ letters, entry.2 = other.2 →
          entry.1 = other.1 := by decide
      obtain ⟨hletter, hrest⟩ := List.cons.inj (List.cons.inj h).2
      exact ⟨hletters _ hk _ hk' hletter, hrest⟩
    | code => exact absurd (List.cons.inj (List.cons.inj h).2).1 (hnot_u _ hk)
  | code =>
    cases hd with
    | self _ hbackslash => exact absurd (List.cons.inj h).1.symm hbackslash
    | letter hk => exact absurd (List.cons.inj (List.cons.inj h).2).1.symm (hnot_u _ hk)
    | code =>
      simp only [List.cons_append, List.append_assoc, List.cons.injEq, true_and,
        List.nil_append] at h
      obtain ⟨hdigits, hrest⟩ :=
        cut_inj (brace_not_mem_toDigits _) (brace_not_mem_toDigits _) h
      exact ⟨Char.toNat_inj.mp (toDigits_inj hdigits), hrest⟩

/-- What is escaped does not begin with a double quote. -/
theorem Escaped.ne_quote_cons {c : Char} {xs x y : List Char} (hc : Escaped c xs) :
    xs ++ x ≠ '"' :: y := by
  intro h
  cases hc with
  | self hquote => exact hquote (List.cons.inj h).1
  | letter | code => exact absurd (List.cons.inj h).1 (by decide)

/-! ### Quoted texts -/

/-- The characters of a quoted text. -/
theorem toList_quote (s : String) :
    (quote s).toList = '"' :: (s.toList.flatMap (fun c ↦ (escapeChar c).toList) ++ ['"']) := by
  simp [quote, List.flatMap_map]

/-- Escaped characters before a double quote tell which they are. -/
theorem escapes_append_inj {as bs x y : List Char}
    (h : as.flatMap (fun c ↦ (escapeChar c).toList) ++ '"' :: x =
      bs.flatMap (fun c ↦ (escapeChar c).toList) ++ '"' :: y) : as = bs ∧ x = y := by
  induction as generalizing bs with
  | nil =>
    cases bs with
    | nil => exact ⟨rfl, (List.cons.inj h).2⟩
    | cons d bs =>
      rw [List.flatMap_cons, List.append_assoc] at h
      exact absurd h.symm (escaped_escapeChar d).ne_quote_cons
  | cons c as ih =>
    rw [List.flatMap_cons, List.append_assoc] at h
    cases bs with
    | nil => exact absurd h (escaped_escapeChar c).ne_quote_cons
    | cons d bs =>
      rw [List.flatMap_cons, List.append_assoc] at h
      obtain ⟨rfl, hrest⟩ := (escaped_escapeChar c).append_inj (escaped_escapeChar d) h
      obtain ⟨rfl, hxy⟩ := ih hrest
      exact ⟨rfl, hxy⟩

/-- A quoted text tells which text it is and where it ends. -/
theorem quote_append_inj {a b : String} {x y : List Char}
    (h : (quote a).toList ++ x = (quote b).toList ++ y) : a = b ∧ x = y := by
  rw [toList_quote, toList_quote] at h
  simp only [List.cons_append, List.append_assoc, List.cons.injEq, true_and, List.nil_append] at h
  obtain ⟨hab, hxy⟩ := escapes_append_inj h
  exact ⟨String.toList_inj.mp hab, hxy⟩

end ConnectorProfiles.Text
