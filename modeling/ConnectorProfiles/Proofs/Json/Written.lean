import ConnectorProfiles.Json.Printer
import ConnectorProfiles.Proofs.Json.Documents

/-!
# Reading what was written

The text of a JSON value is scanned as the document of that value, whatever follows the text. This
is shown of values without numbers: escapes in texts are undone, and commas, colons and closing
brackets stand where they are looked for. So from its text such a value is decoded like itself.
-/

namespace ConnectorProfiles

namespace Json

/-- No number stands anywhere in the value. -/
inductive NumberFree : Json → Prop
  | null : NumberFree .null
  | bool (value : Bool) : NumberFree (.bool value)
  | string (value : String) : NumberFree (.string value)
  | array {items : List Json} (each : ∀ item ∈ items, NumberFree item) : NumberFree (.array items)
  | object {members : List (String × Json)} (each : ∀ member ∈ members, NumberFree member.2) :
      NumberFree (.object members)

/-- Items without numbers make an array without numbers. -/
theorem numberFree_array_map {α : Type} {toJson : α → Json} (h : ∀ a, (toJson a).NumberFree)
    (parts : List α) : (Json.array (parts.map toJson)).NumberFree :=
  .array (List.forall_mem_map.mpr fun part _ ↦ h part)

/-! ### The characters of texts -/

/-- The characters of the text of a value. -/
def chars (value : Json) : List Char := value.render.toList

/-- The characters of a text as they stand between quotes. -/
def quotedChars (s : String) : List Char := s.toList.flatMap fun c ↦ (escapeChar c).toList

/-- The characters of a member: its key between quotes, a colon and its value. -/
def memberChars (member : String × Json) : List Char :=
  '"' :: (quotedChars member.1 ++ '"' :: ':' :: member.2.chars)

private theorem toList_renderString (s : String) :
    (renderString s).toList = '"' :: (quotedChars s ++ ['"']) := by
  simp [renderString, quotedChars, String.toList_join, List.flatMap_map]

/-- A text stands between quotes. -/
theorem chars_string (s : String) : (string s).chars = '"' :: (quotedChars s ++ ['"']) := by
  rw [chars, render, toList_renderString]

/-- Items stand between brackets and are separated by commas. -/
theorem chars_array (items : List Json) :
    (array items).chars = '[' :: ([','].intercalate (items.map chars) ++ [']']) := by
  have hitems : renderItems items = items.map render := by
    induction items with
    | nil => rfl
    | cons item rest ih => rw [renderItems, ih, List.map_cons]
  simp only [chars, render, hitems, String.toList_append, String.toList_intercalate, List.map_map]
  rfl

/-- Members stand between braces and are separated by commas. -/
theorem chars_object (members : List (String × Json)) : (object members).chars =
    '\x7b' :: ([','].intercalate (members.map memberChars) ++ ['\x7d']) := by
  have hmember (member : String × Json) : (renderMember member).toList = memberChars member := by
    rw [renderMember, String.toList_append, String.toList_append, toList_renderString]
    simp [memberChars, chars]
  have hmembers : renderMembers members = members.map renderMember := by
    induction members with
    | nil => rfl
    | cons member rest ih => rw [renderMembers, ih, List.map_cons]
  simp [chars, render, hmembers, String.toList_intercalate, Function.comp_def, hmember]

/-- The text of a value without numbers starts with a character that neither is blank nor closes an
array. -/
theorem NumberFree.exists_chars_eq_cons {value : Json} (h : value.NumberFree) :
    ∃ c cs, value.chars = c :: cs ∧ c ≠ ']' ∧ c ≠ ' ' ∧ c ≠ '\t' ∧ c ≠ '\n' ∧ c ≠ '\r' := by
  cases h with
  | null => exact ⟨_, _, rfl, by decide⟩
  | bool value => cases value with
    | false => exact ⟨_, _, rfl, by decide⟩
    | true => exact ⟨_, _, rfl, by decide⟩
  | string value => exact ⟨_, _, chars_string value, by decide⟩
  | array => exact ⟨_, _, chars_array _, by decide⟩
  | object => exact ⟨_, _, chars_object _, by decide⟩

end Json

namespace JsonText

open Json

/-! ### Texts between quotes -/

private theorem toList_escapeChar_control : ∀ n < 0x20, n ∉ [0x08, 0x09, 0x0a, 0x0c, 0x0d] →
    (escapeChar (Char.ofNat n)).toList =
      ['\\', 'u', '0', '0', Nat.digitChar (n / 16), Nat.digitChar (n % 16)] := by
  decide +kernel

private theorem escape?_control : ∀ n ∈ [0x08, 0x09, 0x0a, 0x0c, 0x0d], ∃ letter, letter ≠ 'u' ∧
    escape? letter = some (Char.ofNat n) ∧
      (escapeChar (Char.ofNat n)).toList = ['\\', letter] := by
  simp only [List.forall_mem_cons]
  exact ⟨⟨'b', by decide, rfl, rfl⟩, ⟨'t', by decide, rfl, rfl⟩, ⟨'n', by decide, rfl, rfl⟩,
    ⟨'f', by decide, rfl, rfl⟩, ⟨'r', by decide, rfl, rfl⟩, List.forall_mem_nil _⟩

private theorem unit?_control : ∀ n < 0x20,
    unit? '0' '0' (Nat.digitChar (n / 16)) (Nat.digitChar (n % 16)) = some n := by
  decide +kernel

/-- A character is written by its number, by a letter, or as it is. -/
theorem escapeChar_cases (c : Char) :
    (c.toNat < 0x20 ∧ (escapeChar c).toList =
      ['\\', 'u', '0', '0', Nat.digitChar (c.toNat / 16), Nat.digitChar (c.toNat % 16)]) ∨
    (∃ letter, letter ≠ 'u' ∧ escape? letter = some c ∧
      (escapeChar c).toList = ['\\', letter]) ∨
    (c ≠ '"' ∧ c ≠ '\\' ∧ ¬ c.toNat < 0x20 ∧ (escapeChar c).toList = [c]) := by
  by_cases hcontrol : c.toNat < 0x20
  · by_cases hletter : c.toNat ∈ [0x08, 0x09, 0x0a, 0x0c, 0x0d]
    · have hescape := escape?_control c.toNat hletter
      rw [Char.ofNat_toNat] at hescape
      exact .inr (.inl hescape)
    · have hescape := toList_escapeChar_control c.toNat hcontrol hletter
      rw [Char.ofNat_toNat] at hescape
      exact .inl ⟨hcontrol, hescape⟩
  · by_cases hquote : c = '"'
    · subst hquote
      exact .inr (.inl ⟨'"', by decide, rfl, rfl⟩)
    · by_cases hslash : c = '\\'
      · subst hslash
        exact .inr (.inl ⟨'\\', by decide, rfl, rfl⟩)
      · have hne (d : Char) (hd : d.toNat < 0x20) : c ≠ d := by
          rintro rfl
          exact hcontrol hd
        have h08 : c.toNat ≠ 0x08 := by omega
        have h0c : c.toNat ≠ 0x0c := by omega
        refine .inr (.inr ⟨hquote, hslash, hcontrol, ?_⟩)
        simp [escapeChar, hquote, hslash, hcontrol, h08, h0c, hne '\n' (by decide),
          hne '\r' (by decide), hne '\t' (by decide)]

/-- A character is read from its escaped form. -/
theorem stringBody_escapeChar (c : Char) (rest : List Char) :
    stringBody ((escapeChar c).toList ++ rest) =
      (stringBody rest).map fun found ↦ (found.1.map (c :: ·), found.2) := by
  rcases escapeChar_cases c with ⟨hcontrol, hc⟩ | ⟨letter, hu, hletter, hc⟩ |
    ⟨hquote, hslash, hcontrol, hc⟩
  · have hunit : c.toNat < 0xd800 ∨ 0xe000 ≤ c.toNat := .inl (by omega)
    simp only [hc, List.cons_append, List.nil_append, stringBody, unit?_control _ hcontrol, bind,
      Option.bind, pure, if_pos hunit, Char.ofNat_toNat]
    cases stringBody rest <;> rfl
  · rw [hc, List.cons_append, List.cons_append, List.nil_append, stringBody, hletter]
    · cases stringBody rest <;> rfl
    · exact fun _ _ _ _ _ h ↦ absurd h hu
  · rw [hc, List.cons_append, List.nil_append, stringBody, if_neg (by simp [hslash, hcontrol])]
    · cases stringBody rest <;> rfl
    · exact hquote
    · exact fun _ _ _ _ _ h ↦ absurd h hslash
    · exact fun _ _ h ↦ absurd h hslash

/-- A text is read up to the quote that closes it. -/
theorem stringBody_quotedChars (s : String) (rest : List Char) :
    stringBody (quotedChars s ++ '"' :: rest) = some (some s.toList, rest) := by
  rw [quotedChars]
  induction s.toList with
  | nil => rfl
  | cons c cs ih =>
    rw [List.flatMap_cons, List.append_assoc, stringBody_escapeChar, ih]
    rfl

/-! ### Values -/

/-- With fuel for its characters, the text of the value is scanned as the document of the value, up
to whatever follows. -/
def Scans (v : Json) : Prop :=
  ∀ fuel rest, v.chars.length ≤ fuel → value fuel (v.chars ++ rest) = (v.toDocument, some rest)

/-- Blanks are not skipped where none stand. -/
theorem skipSpace_cons_of_ne {c : Char} {cs : List Char}
    (h : c ≠ ' ' ∧ c ≠ '\t' ∧ c ≠ '\n' ∧ c ≠ '\r') : skipSpace (c :: cs) = c :: cs := by
  simp [skipSpace, h]

private theorem skipSpace_comma (cs : List Char) : skipSpace (',' :: cs) = ',' :: cs :=
  skipSpace_cons_of_ne (by decide)

private theorem skipSpace_colon (cs : List Char) : skipSpace (':' :: cs) = ':' :: cs :=
  skipSpace_cons_of_ne (by decide)

private theorem skipSpace_quote (cs : List Char) : skipSpace ('"' :: cs) = '"' :: cs :=
  skipSpace_cons_of_ne (by decide)

private theorem skipSpace_brace (cs : List Char) : skipSpace ('\x7d' :: cs) = '\x7d' :: cs :=
  skipSpace_cons_of_ne (by decide)

/-- Nothing is skipped before items, and no closing bracket stands there. -/
theorem exists_items_eq_cons {first : Json} (h : first.NumberFree) (others : List Json)
    (rest : List Char) : ∃ c cs, [','].intercalate ((first :: others).map chars) ++ rest = c :: cs ∧
      c ≠ ']' ∧ skipSpace (c :: cs) = c :: cs := by
  obtain ⟨c, cs, hchars, hc, hspace⟩ := h.exists_chars_eq_cons
  cases others with
  | nil =>
    exact ⟨c, cs ++ rest, by simp [hchars], hc, skipSpace_cons_of_ne hspace⟩
  | cons second others =>
    rw [List.map_cons, List.map_cons, List.intercalate_cons_cons, hchars]
    exact ⟨c, _, rfl, hc, skipSpace_cons_of_ne hspace⟩

/-- After an item that a bracket follows, the array is over. -/
theorem items_of_bracket {fuel : Nat} {cs rest : List Char} {item : Document}
    (h : value fuel cs = (item, some (']' :: rest))) :
    items (fuel + 1) cs = ([item], .strict, some rest) := by
  rw [items, h]
  rfl

/-- After an item that a comma follows, the array goes on with further items. -/
theorem items_of_comma {fuel : Nat} {cs rest : List Char} {c : Char} {item : Document}
    (h : value fuel cs = (item, some (',' :: c :: rest))) (hc : c ≠ ']')
    (hspace : skipSpace (c :: rest) = c :: rest) :
    items (fuel + 1) cs = (item :: (items fuel (c :: rest)).1, (items fuel (c :: rest)).2) := by
  rw [items, h]
  simp only [skipSpace_comma, hspace]
  split
  · next heq => exact absurd (List.cons.inj heq).1 hc
  · rfl

/-- Items that are scanned one by one are scanned in a row. -/
theorem items_chars {first : Json} {others : List Json}
    (hfree : ∀ v ∈ first :: others, v.NumberFree) (h : ∀ v ∈ first :: others, Scans v)
    {fuel : Nat} (hfuel : ([','].intercalate ((first :: others).map chars)).length < fuel)
    (rest : List Char) :
    items fuel ([','].intercalate ((first :: others).map chars) ++ ']' :: rest) =
      ((first :: others).map toDocument, .strict, some rest) := by
  induction others generalizing first fuel with
  | nil =>
    obtain ⟨fuel, rfl⟩ : ∃ n, fuel = n + 1 := ⟨fuel - 1, by omega⟩
    rw [List.map_singleton, List.intercalate_singleton] at hfuel ⊢
    exact items_of_bracket (h first List.mem_cons_self fuel (']' :: rest) (by omega))
  | cons second others ih =>
    -- The comma after the first item pays for the fuel that its scan takes off.
    obtain ⟨fuel, rfl⟩ : ∃ n, fuel = n + 1 := ⟨fuel - 1, by omega⟩
    rw [List.map_cons, List.map_cons, List.intercalate_cons_cons, ← List.map_cons] at hfuel ⊢
    rw [List.length_append, List.length_append, List.length_singleton] at hfuel
    rw [List.append_assoc, List.append_assoc, List.singleton_append]
    have hmore : items fuel ([','].intercalate ((second :: others).map chars) ++ ']' :: rest) =
        ((second :: others).map toDocument, .strict, some rest) :=
      ih (fun v hv ↦ hfree v (List.mem_cons_of_mem _ hv))
        (fun v hv ↦ h v (List.mem_cons_of_mem _ hv)) (by omega)
    have hfirst := h first List.mem_cons_self fuel
      (',' :: ([','].intercalate ((second :: others).map chars) ++ ']' :: rest)) (by omega)
    obtain ⟨c, cs, hchars, hc, hspace⟩ := exists_items_eq_cons
      (hfree second (List.mem_cons_of_mem _ List.mem_cons_self)) others (']' :: rest)
    rw [hchars] at hmore hfirst ⊢
    rw [items_of_comma hfirst hc hspace, hmore]
    rfl

/-- After a member that a brace follows, the object is over. -/
theorem members_of_brace {fuel : Nat} {member : String × Json} {rest : List Char}
    (h : Scans member.2) (hfuel : (memberChars member).length ≤ fuel) :
    members (fuel + 1) (memberChars member ++ '\x7d' :: rest) =
      ([(member.1, member.2.toDocument)], .strict, some rest) := by
  simp only [memberChars, List.length_cons, List.length_append] at hfuel
  have hvalue := h fuel ('\x7d' :: rest) (by omega)
  rw [members, memberChars]
  simp only [List.cons_append, List.append_assoc, skipSpace_quote, stringBody_quotedChars,
    skipSpace_colon, hvalue, skipSpace_brace, String.ofList_toList]

/-- After a member that a comma follows, the object goes on with further members. -/
theorem members_of_comma {fuel : Nat} {member : String × Json} {rest : List Char}
    (h : Scans member.2) (hfuel : (memberChars member).length ≤ fuel) :
    members (fuel + 1) (memberChars member ++ ',' :: rest) =
      ((member.1, member.2.toDocument) :: (members fuel rest).1, (members fuel rest).2) := by
  simp only [memberChars, List.length_cons, List.length_append] at hfuel
  have hvalue := h fuel (',' :: rest) (by omega)
  rw [members, memberChars]
  simp only [List.cons_append, List.append_assoc, skipSpace_quote, stringBody_quotedChars,
    skipSpace_colon, hvalue, skipSpace_comma, String.ofList_toList, List.nil_append]

/-- Members whose values are scanned one by one are scanned in a row. -/
theorem members_chars {first : String × Json} {others : List (String × Json)}
    (h : ∀ member ∈ first :: others, Scans member.2) {fuel : Nat}
    (hfuel : ([','].intercalate ((first :: others).map memberChars)).length < fuel)
    (rest : List Char) :
    members fuel ([','].intercalate ((first :: others).map memberChars) ++ '\x7d' :: rest) =
      ((first :: others).map (fun member ↦ (member.1, member.2.toDocument)), .strict,
        some rest) := by
  induction others generalizing first fuel with
  | nil =>
    obtain ⟨fuel, rfl⟩ : ∃ n, fuel = n + 1 := ⟨fuel - 1, by omega⟩
    rw [List.map_singleton, List.intercalate_singleton] at hfuel ⊢
    exact members_of_brace (h first List.mem_cons_self) (by omega)
  | cons second others ih =>
    obtain ⟨fuel, rfl⟩ : ∃ n, fuel = n + 1 := ⟨fuel - 1, by omega⟩
    rw [List.map_cons, List.map_cons, List.intercalate_cons_cons, ← List.map_cons] at hfuel ⊢
    rw [List.length_append, List.length_append, List.length_singleton] at hfuel
    rw [List.append_assoc, List.append_assoc, List.singleton_append]
    rw [members_of_comma (h first List.mem_cons_self) (by omega),
      ih (fun member hmember ↦ h member (List.mem_cons_of_mem _ hmember)) (by omega)]
    rfl

private theorem value_bracket {fuel : Nat} {c : Char} {cs : List Char} (hc : c ≠ ']')
    (hspace : skipSpace (c :: cs) = c :: cs) : value (fuel + 1) ('[' :: c :: cs) =
      (.sequence (items fuel (c :: cs)).1 (items fuel (c :: cs)).2.1,
        (items fuel (c :: cs)).2.2) := by
  rw [value, skipSpace_cons_of_ne (by decide)]
  simp only [hspace]
  split
  · next heq => exact absurd (List.cons.inj heq).1 hc
  · rfl

private theorem value_brace {fuel : Nat} {cs : List Char} :
    value (fuel + 1) ('\x7b' :: '"' :: cs) =
      (.mapping (members fuel ('"' :: cs)).1 (members fuel ('"' :: cs)).2.1,
        (members fuel ('"' :: cs)).2.2) := by
  rw [value, skipSpace_cons_of_ne (by decide)]
  simp only [skipSpace_quote]
  rfl

/-- An array whose items are scanned is scanned. -/
theorem scans_array {found : List Json} (hfree : ∀ v ∈ found, v.NumberFree)
    (h : ∀ v ∈ found, Scans v) : Scans (.array found) := by
  intro fuel rest hfuel
  rw [chars_array, List.length_cons, List.length_append, List.length_singleton] at hfuel
  obtain ⟨fuel, rfl⟩ : ∃ n, fuel = n + 1 := ⟨fuel - 1, by omega⟩
  rw [chars_array, List.cons_append, List.append_assoc, List.singleton_append, toDocument_array]
  cases found with
  | nil =>
    rw [value, skipSpace_cons_of_ne (by decide)]
    rfl
  | cons first others =>
    have hfuel : ([','].intercalate ((first :: others).map chars)).length < fuel := by omega
    have hitems := items_chars hfree h hfuel rest
    obtain ⟨c, cs, hchars, hc, hspace⟩ :=
      exists_items_eq_cons (hfree first List.mem_cons_self) others (']' :: rest)
    rw [hchars] at hitems ⊢
    rw [value_bracket hc hspace, hitems]

/-- An object whose values are scanned is scanned. -/
theorem scans_object {found : List (String × Json)} (h : ∀ member ∈ found, Scans member.2) :
    Scans (.object found) := by
  intro fuel rest hfuel
  rw [chars_object, List.length_cons, List.length_append, List.length_singleton] at hfuel
  obtain ⟨fuel, rfl⟩ : ∃ n, fuel = n + 1 := ⟨fuel - 1, by omega⟩
  rw [chars_object, List.cons_append, List.append_assoc, List.singleton_append, toDocument_object]
  cases found with
  | nil =>
    rw [value, skipSpace_cons_of_ne (by decide)]
    rfl
  | cons first others =>
    have hfuel : ([','].intercalate ((first :: others).map memberChars)).length < fuel := by omega
    have hmembers := members_chars h hfuel rest
    obtain ⟨cs, hchars⟩ : ∃ cs, [','].intercalate ((first :: others).map memberChars) ++
        '\x7d' :: rest = '"' :: cs := by
      cases others <;> exact ⟨_, rfl⟩
    rw [hchars] at hmembers ⊢
    rw [value_brace, hmembers]

/-- A text is scanned from its quoted form. -/
theorem scans_string (s : String) : Scans (.string s) := by
  intro fuel rest hfuel
  rw [chars_string, List.length_cons] at hfuel
  obtain ⟨fuel, rfl⟩ : ∃ n, fuel = n + 1 := ⟨fuel - 1, by omega⟩
  rw [chars_string, List.cons_append, List.append_assoc, List.singleton_append, value,
    skipSpace_quote]
  simp only [stringBody_quotedChars, String.ofList_toList, toDocument]

private theorem scans_null : Scans .null
  | 0, _, hfuel => absurd hfuel (by decide)
  | _ + 1, _, _ => rfl

private theorem scans_bool (b : Bool) : Scans (.bool b) := by
  cases b with
  | false => exact fun
    | 0, _, hfuel => absurd hfuel (by decide)
    | _ + 1, _, _ => rfl
  | true => exact fun
    | 0, _, hfuel => absurd hfuel (by decide)
    | _ + 1, _, _ => rfl

/-- A value without numbers is scanned from its text. -/
theorem scans_of_numberFree {v : Json} (h : v.NumberFree) : Scans v := by
  induction h with
  | null => exact scans_null
  | bool value => exact scans_bool value
  | string value => exact scans_string value
  | array hfree h => exact scans_array hfree h
  | object hfree h => exact scans_object h

/-- The text of a value without numbers is scanned as the document of the value, and nothing is
left over. -/
theorem scan_render {v : Json} (h : v.NumberFree) : scan v.render = ⟨v.toDocument, false⟩ := by
  have hscans := scans_of_numberFree h (2 * v.chars.length + 2) [] (by omega)
  rw [List.append_nil] at hscans
  rw [scan, ← chars]
  simp only [hscans]
  rfl

/-- From its text a value without numbers is decoded like itself. -/
theorem decode_render {v : Json} (h : v.NumberFree) {α : Type} (read : Document → Read α) :
    decode read v.render = read v.toDocument := by
  rw [decode, scan_render h]
  cases read v.toDocument <;> rfl

end JsonText

end ConnectorProfiles
