import Remap.Proofs.Json.Grammar

/-!
# What is written in JSON is read

Every part of a JSON text is read as what it stands for, by induction on the grammar: no part goes
on in what follows it, and two steps for each character are enough fuel. With what the readers
answer only where it is written, `ofText_eq_ok_iff` says that the reader of whole texts gives the
value that a text stands for, and gives one for such texts only; so no text stands for two values.
-/

namespace Remap.Json

variable {text rest : List Char} {value : Json}

/-- A value does not go on in the text. -/
def EndsValue (text : List Char) : Prop :=
  ∀ c, text.head? = some c →
    (c = ' ' ∨ c = '\t' ∨ c = '\n' ∨ c = '\r') ∨ c = ',' ∨ c = ']' ∨ c = '}'

/-- What ends a value ends a number. -/
lemma EndsValue.endsNumber (h : EndsValue text) : EndsNumber text := by
  intro c hc
  obtain (rfl | rfl | rfl | rfl) | rfl | rfl | rfl := h c hc <;> decide

/-- Space before what ends a value ends it too. -/
lemma AllSpace.endsValue_append (h : AllSpace text) (hrest : EndsValue rest) :
    EndsValue (text ++ rest) := by
  cases text with
  | nil => exact hrest
  | cons c text =>
    rintro _ ⟨⟩
    exact .inl (h c List.mem_cons_self)

/-- A scalar starts with a letter, a digit or a minus. -/
lemma head_of_scalar (h : Scalar text value) :
    ∃ c more, text = c :: more ∧ (c.isAlpha = true ∨ c.isDigit = true ∨ c = '-') := by
  cases h with
  | null => exact ⟨'n', _, rfl, .inl rfl⟩
  | true => exact ⟨'t', _, rfl, .inl rfl⟩
  | false => exact ⟨'f', _, rfl, .inl rfl⟩
  | nan => exact ⟨'N', _, rfl, .inl rfl⟩
  | infinite => exact ⟨'I', _, rfl, .inl rfl⟩
  | negInfinite => exact ⟨'-', _, rfl, .inr (.inr rfl)⟩
  | unsigned h =>
    obtain ⟨c, more, rfl, hc⟩ := h.isDigit_head
    exact ⟨c, more, rfl, .inr (.inl hc)⟩
  | minus => exact ⟨'-', _, rfl, .inr (.inr rfl)⟩

/-- A value starts with a character that is neither white space nor a closing bracket. -/
lemma Denotes.head (h : Denotes text (.value value)) :
    ∃ c more, text = c :: more ∧ ¬ (c = ' ' ∨ c = '\t' ∨ c = '\n' ∨ c = '\r') ∧
      c ≠ ']' ∧ c ≠ '}' := by
  cases h with
  | scalar h =>
    obtain ⟨c, more, rfl, hc⟩ := head_of_scalar h
    refine ⟨c, more, rfl, ?_, ?_, ?_⟩
    · rintro (rfl | rfl | rfl | rfl) <;> exact absurd hc (by decide)
    · rintro rfl
      exact absurd hc (by decide)
    · rintro rfl
      exact absurd hc (by decide)
  | str => exact ⟨'"', _, rfl, by decide, by decide, by decide⟩
  | emptyArr => exact ⟨'[', _, rfl, by decide, by decide, by decide⟩
  | arr => exact ⟨'[', _, rfl, by decide, by decide, by decide⟩
  | emptyObj => exact ⟨'{', _, rfl, by decide, by decide, by decide⟩
  | obj => exact ⟨'{', _, rfl, by decide, by decide, by decide⟩

/-- No closing bracket comes first where an item or a field stands. -/
lemma Denotes.skipSpace_append {meaning : Meaning} (h : Denotes text meaning)
    (hmeaning : ∀ value, meaning ≠ .value value) (rest : List Char) :
    ∃ c more, skipSpace (text ++ rest) = c :: more ∧ c ≠ ']' ∧ c ≠ '}' := by
  induction h generalizing rest with
  | @item before _ after _ hbefore htext =>
    obtain ⟨c, more, rfl, hspace, hc⟩ := htext.head
    refine ⟨c, more ++ (after ++ rest), ?_, hc⟩
    simp only [List.append_assoc, List.cons_append]
    exact Json.skipSpace_append hbefore hspace
  | oneItem _ ih => exact ih nofun rest
  | moreItems _ _ ih =>
    rw [List.append_assoc]
    exact ih nofun _
  | field hbefore =>
    rw [List.append_assoc, List.cons_append, Json.skipSpace_append hbefore (by decide)]
    exact ⟨'"', _, rfl, by decide, by decide⟩
  | oneField _ ih => exact ih nofun rest
  | moreFields _ _ ih =>
    rw [List.append_assoc]
    exact ih nofun _
  | _ => exact absurd rfl (hmeaning _)

/-! White space before an item or a field makes no difference to its reader. -/

/-- Space skipped before a value is skipped by its reader anyway. -/
lemma readValue_skipSpace (fuel : Nat) (text : List Char) :
    readValue fuel (skipSpace text) = readValue fuel text := by
  cases fuel with
  | zero => rw [readValue, readValue]
  | succ fuel => rw [readValue, readValue, skipSpace_skipSpace]

/-- Space before a value does nothing to its reader. -/
lemma readValue_space_append {space : List Char} (hspace : AllSpace space) (fuel : Nat)
    (text : List Char) : readValue fuel (space ++ text) = readValue fuel text := by
  rw [← readValue_skipSpace, skipSpace_space_append hspace, readValue_skipSpace]

/-- Space skipped before items is skipped by their reader anyway. -/
lemma readItems_skipSpace (fuel : Nat) (found : List Json) (text : List Char) :
    readItems fuel found (skipSpace text) = readItems fuel found text := by
  cases fuel with
  | zero => rw [readItems, readItems]
  | succ fuel => rw [readItems, readItems, readValue_skipSpace]

/-- Space skipped before fields is skipped by their reader anyway. -/
lemma readFields_skipSpace (fuel : Nat) (found : List (Wide × Json)) (text : List Char) :
    readFields fuel found (skipSpace text) = readFields fuel found text := by
  cases fuel with
  | zero => rw [readFields, readFields]
  | succ fuel => rw [readFields, readFields, skipSpace_skipSpace]

/-- What the readers answer where a part with this meaning is written, if there is enough fuel. -/
def Reads (text : List Char) : Meaning → Prop
  | .value value => ∀ fuel before rest, 2 * text.length ≤ fuel → AllSpace before → EndsValue rest →
      readValue fuel (before ++ (text ++ rest)) = .ok (value, rest)
  | .item value => ∀ fuel c rest, 2 * text.length ≤ fuel → c = ',' ∨ c = ']' ∨ c = '}' →
      ∃ after, readValue fuel (text ++ c :: rest) = .ok (value, after) ∧
        skipSpace after = c :: rest
  | .items items => ∀ fuel found rest, 2 * text.length < fuel →
      readItems fuel found (text ++ ']' :: rest) = .ok (.arr (found.reverse ++ items), rest)
  | .field name value => ∀ fuel found rest, 2 * text.length ≤ fuel →
      readFields (fuel + 1) found (text ++ ',' :: rest) =
        readFields fuel ((name, value) :: found) rest ∧
      readFields (fuel + 1) found (text ++ '}' :: rest) =
        .ok (.obj ((name, value) :: found).reverse, rest)
  | .fields fields => ∀ fuel found rest, 2 * text.length < fuel →
      readFields fuel found (text ++ '}' :: rest) = .ok (.obj (found.reverse ++ fields), rest)

/-- A value that starts with neither a quote nor a bracket is a scalar. -/
lemma readValue_of_scalarHead {c : Char} (hc : c.isAlpha = true ∨ c.isDigit = true ∨ c = '-')
    (fuel : Nat) (more : List Char) :
    readValue (fuel + 1) (c :: more) = readScalar (c :: more) := by
  rw [readValue, skipSpace_cons]
  · split
    case h_4 => rfl
    all_goals
      rename_i heq
      cases heq
      exact absurd hc (by decide)
  · rintro (rfl | rfl | rfl | rfl) <;> exact absurd hc (by decide)

/-- A scalar is read back. -/
lemma reads_scalar (h : Scalar text value) : Reads text (.value value) := by
  intro fuel before rest hfuel hbefore hrest
  have hread := readScalar_of_scalar h hrest.endsNumber
  obtain ⟨c, more, rfl, hc⟩ := head_of_scalar h
  rw [List.length_cons] at hfuel
  obtain ⟨fuel, rfl⟩ := Nat.exists_eq_succ_of_ne_zero (show fuel ≠ 0 by omega)
  rw [← hread, readValue_space_append hbefore, List.cons_append, readValue_of_scalarHead hc]

/-- Of a value between two marks only the fuel for what stands between them is left to say. -/
lemma readValue_enclosed {before : List Char} {opener closer : Char} {fuel : Nat}
    (hbefore : AllSpace before) (hfuel : 2 * (opener :: (text ++ [closer])).length ≤ fuel)
    (rest : List Char) :
    ∃ spare, 2 * text.length < spare ∧
      readValue fuel (before ++ (opener :: (text ++ [closer]) ++ rest)) =
        readValue (spare + 1) (opener :: (text ++ closer :: rest)) := by
  rw [List.length_cons, List.length_append, List.length_singleton] at hfuel
  obtain ⟨spare, rfl⟩ := Nat.exists_eq_succ_of_ne_zero (show fuel ≠ 0 by omega)
  refine ⟨spare, by omega, ?_⟩
  rw [readValue_space_append hbefore, List.cons_append, List.append_assoc, List.singleton_append]

/-- A string is read back. -/
lemma reads_str {body : List Char} {string : Wide} (h : IsString body string) :
    Reads ('"' :: (body ++ ['"'])) (.value (.str string)) := by
  intro fuel before rest hfuel hbefore hrest
  obtain ⟨spare, -, hvalue⟩ := readValue_enclosed hbefore hfuel rest
  have hread := h.readString rest
  rw [hvalue, readValue, skipSpace_cons (by decide)]
  simp only [hread]

/-- An array without items is read back. -/
lemma reads_emptyArr {space : List Char} (hspace : AllSpace space) :
    Reads ('[' :: (space ++ [']'])) (.value (.arr [])) := by
  intro fuel before rest hfuel hbefore hrest
  obtain ⟨spare, -, hvalue⟩ := readValue_enclosed hbefore hfuel rest
  have hskip : skipSpace (space ++ ']' :: rest) = ']' :: rest := skipSpace_append hspace (by decide)
  rw [hvalue, readValue, skipSpace_cons (by decide)]
  simp only [hskip]

/-- An array is read back if its items are. -/
lemma reads_arr {items : List Json} (h : Reads text (.items items))
    (hhead : ∀ rest, ∃ c more, skipSpace (text ++ rest) = c :: more ∧ c ≠ ']' ∧ c ≠ '}') :
    Reads ('[' :: (text ++ [']'])) (.value (.arr items)) := by
  intro fuel before rest hfuel hbefore hrest
  obtain ⟨spare, hspare, hvalue⟩ := readValue_enclosed hbefore hfuel rest
  obtain ⟨c, more, hskip, hbracket, -⟩ := hhead (']' :: rest)
  have hread := h spare [] rest hspare
  rw [← readItems_skipSpace, hskip] at hread
  rw [hvalue, readValue, skipSpace_cons (by decide)]
  simp only [hskip]
  split
  case h_1 heq =>
    cases heq
    exact absurd rfl hbracket
  case h_2 => exact hread

/-- An object without fields is read back. -/
lemma reads_emptyObj {space : List Char} (hspace : AllSpace space) :
    Reads ('{' :: (space ++ ['}'])) (.value (.obj [])) := by
  intro fuel before rest hfuel hbefore hrest
  obtain ⟨spare, -, hvalue⟩ := readValue_enclosed hbefore hfuel rest
  have hskip : skipSpace (space ++ '}' :: rest) = '}' :: rest := skipSpace_append hspace (by decide)
  rw [hvalue, readValue, skipSpace_cons (by decide)]
  simp only [hskip]

/-- An object is read back if its fields are. -/
lemma reads_obj {fields : List (Wide × Json)} (h : Reads text (.fields fields))
    (hhead : ∀ rest, ∃ c more, skipSpace (text ++ rest) = c :: more ∧ c ≠ ']' ∧ c ≠ '}') :
    Reads ('{' :: (text ++ ['}'])) (.value (.obj fields)) := by
  intro fuel before rest hfuel hbefore hrest
  obtain ⟨spare, hspare, hvalue⟩ := readValue_enclosed hbefore hfuel rest
  obtain ⟨c, more, hskip, -, hbrace⟩ := hhead ('}' :: rest)
  have hread := h spare [] rest hspare
  rw [← readFields_skipSpace, hskip] at hread
  rw [hvalue, readValue, skipSpace_cons (by decide)]
  simp only [hskip]
  split
  case h_1 heq =>
    cases heq
    exact absurd rfl hbrace
  case h_2 => exact hread

/-- A value with space around it is read back as an item. -/
lemma reads_item {before after : List Char} (hbefore : AllSpace before)
    (h : Reads text (.value value)) (hafter : AllSpace after) :
    Reads (before ++ (text ++ after)) (.item value) := by
  intro fuel c rest hfuel hc
  have hends : EndsValue (c :: rest) := by
    rintro _ ⟨⟩
    exact .inr hc
  refine ⟨after ++ c :: rest, ?_, skipSpace_append hafter ?_⟩
  · rw [List.append_assoc, List.append_assoc]
    refine h fuel before _ ?_ hbefore (hafter.endsValue_append hends)
    simp only [List.length_append] at hfuel
    omega
  · obtain rfl | rfl | rfl := hc <;> decide

/-- A single item is read back. -/
lemma reads_oneItem (h : Reads text (.item value)) : Reads text (.items [value]) := by
  intro fuel found rest hfuel
  obtain ⟨fuel, rfl⟩ := Nat.exists_eq_succ_of_ne_zero (Nat.ne_zero_of_lt hfuel)
  obtain ⟨after, hread, hafter⟩ := h fuel ']' rest (by omega) (.inr (.inl rfl))
  rw [readItems, hread]
  dsimp only
  rw [hafter]
  exact congrArg (fun items => Except.ok (Json.arr items, rest)) List.reverse_cons

/-- An item before other items is read back with them. -/
lemma reads_moreItems {items : List Json} {more : List Char} (h : Reads text (.item value))
    (hmore : Reads more (.items items)) :
    Reads (text ++ ',' :: more) (.items (value :: items)) := by
  intro fuel found rest hfuel
  obtain ⟨fuel, rfl⟩ := Nat.exists_eq_succ_of_ne_zero (Nat.ne_zero_of_lt hfuel)
  rw [List.length_append, List.length_cons] at hfuel
  obtain ⟨after, hread, hafter⟩ := h fuel ',' (more ++ ']' :: rest) (by omega) (.inl rfl)
  rw [List.append_assoc, List.cons_append, readItems, hread]
  dsimp only
  rw [hafter, ← reverse_cons_append]
  exact hmore fuel (value :: found) rest (by omega)

/-- A field is read back if its value is. -/
lemma reads_field {before body inner : List Char} {name : Wide} (hbefore : AllSpace before)
    (hbody : IsString body name) (hinner : AllSpace inner) (h : Reads text (.item value)) :
    Reads (before ++ '"' :: (body ++ '"' :: (inner ++ ':' :: text))) (.field name value) := by
  intro fuel found rest hfuel
  simp only [List.length_append, List.length_cons] at hfuel
  have hstring : ∀ more, skipSpace (before ++ '"' :: more) = '"' :: more :=
    fun more => skipSpace_append hbefore (by decide)
  have hcolon : ∀ more, skipSpace (inner ++ ':' :: more) = ':' :: more :=
    fun more => skipSpace_append hinner (by decide)
  refine ⟨?_, ?_⟩
  · obtain ⟨after, hread, hafter⟩ := h fuel ',' rest (by omega) (.inl rfl)
    simp only [List.append_assoc, List.cons_append]
    rw [readFields]
    simp only [hstring, hbody.readString, hcolon, hread, hafter]
  · obtain ⟨after, hread, hafter⟩ := h fuel '}' rest (by omega) (.inr (.inr rfl))
    simp only [List.append_assoc, List.cons_append]
    rw [readFields]
    simp only [hstring, hbody.readString, hcolon, hread, hafter]

/-- A single field is read back. -/
lemma reads_oneField {name : Wide} (h : Reads text (.field name value)) :
    Reads text (.fields [(name, value)]) := by
  intro fuel found rest hfuel
  obtain ⟨fuel, rfl⟩ := Nat.exists_eq_succ_of_ne_zero (Nat.ne_zero_of_lt hfuel)
  rw [(h fuel found rest (by omega)).2, List.reverse_cons]

/-- A field before other fields is read back with them. -/
lemma reads_moreFields {name : Wide} {fields : List (Wide × Json)} {more : List Char}
    (h : Reads text (.field name value)) (hmore : Reads more (.fields fields)) :
    Reads (text ++ ',' :: more) (.fields ((name, value) :: fields)) := by
  intro fuel found rest hfuel
  obtain ⟨fuel, rfl⟩ := Nat.exists_eq_succ_of_ne_zero (Nat.ne_zero_of_lt hfuel)
  rw [List.length_append, List.length_cons] at hfuel
  rw [List.append_assoc, List.cons_append, (h fuel found _ (by omega)).1, ← reverse_cons_append]
  exact hmore fuel _ rest (by omega)

/-- Every part is read as what it stands for. -/
lemma Denotes.reads {meaning : Meaning} (h : Denotes text meaning) : Reads text meaning := by
  induction h with
  | scalar h => exact reads_scalar h
  | str h => exact reads_str h
  | emptyArr h => exact reads_emptyArr h
  | arr h ih => exact reads_arr ih (h.skipSpace_append nofun)
  | emptyObj h => exact reads_emptyObj h
  | obj h ih => exact reads_obj ih (h.skipSpace_append nofun)
  | item hbefore _ hafter ih => exact reads_item hbefore ih hafter
  | oneItem _ ih => exact reads_oneItem ih
  | moreItems _ _ ih ihmore => exact reads_moreItems ih ihmore
  | field hbefore hbody hinner _ ih => exact reads_field hbefore hbody hinner ih
  | oneField _ ih => exact reads_oneField ih
  | moreFields _ _ ih ihmore => exact reads_moreFields ih ihmore

/-- The reader gives the value that a text stands for, and gives one for such texts only. -/
lemma ofText_eq_ok_iff : ofText text = .ok value ↔ StandsFor text value := by
  refine ⟨ofText_sound, ?_⟩
  intro h
  cases h with
  | @item before front after _ hbefore hfront hafter =>
    have hends : EndsValue after := by
      have hnil : EndsValue (after ++ []) := hafter.endsValue_append nofun
      rwa [List.append_nil] at hnil
    have hread := hfront.reads (2 * (before ++ (front ++ after)).length + 2) before after
      (by simp only [List.length_append]; omega) hbefore hends
    rw [ofText, hread]
    dsimp only
    rw [skipSpace_of_allSpace hafter]
    rfl

end Remap.Json
