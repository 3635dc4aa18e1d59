import Remap.Proofs.Json.Numeral
import Remap.Proofs.Json.String

/-!
# The grammar of JSON

What a JSON text is made of, and what value it stands for, without a word about how it is read. A
reader answers with a value only if that value is written where it starts, in white space: this is
shown for all readers together, by induction on the fuel, and `ofText_sound` is what it says of a
whole text.
-/

namespace Remap.Json

variable {text rest : List Char} {value : Json}

/-! Literals and numbers. -/

/-- A literal or a number, and the value that it stands for. -/
inductive Scalar : List Char → Json → Prop where
  | null : Scalar "null".toList .null
  | true : Scalar "true".toList (.bool true)
  | false : Scalar "false".toList (.bool false)
  | nan : Scalar "NaN".toList (.float .nan)
  | infinite : Scalar "Infinity".toList (.float (.infinite false))
  | negInfinite : Scalar "-Infinity".toList (.float (.infinite true))
  | unsigned {text : List Char} {value : Json} :
      Unsigned false text value → Scalar text value
  | minus {text : List Char} {value : Json} :
      Unsigned true text value → Scalar ('-' :: text) value

/-- A number without a sign starts with a digit. -/
lemma Unsigned.isDigit_head {negative : Bool} (h : Unsigned negative text value) :
    ∃ c more, text = c :: more ∧ c.isDigit = true := by
  have hwhole : ∀ {whole : List Char}, IsWhole whole →
      ∃ c more, whole = c :: more ∧ c.isDigit = true := by
    intro whole hwhole
    obtain ⟨c, more, rfl⟩ := List.exists_cons_of_ne_nil hwhole.ne_nil
    exact ⟨c, more, rfl, hwhole.all c List.mem_cons_self⟩
  cases h with
  | int h => exact hwhole h
  | float h =>
    obtain ⟨c, more, rfl, hc⟩ := hwhole h
    exact ⟨c, _, rfl, hc⟩

/-- A word is read at the start of a text. -/
lemma afterWord?_eq_some_iff {word : String} :
    afterWord? word text = some rest ↔ text = word.toList ++ rest := by
  rw [afterWord?, Option.ite_none_right_eq_some, Option.some.injEq, List.isPrefixOf_iff_prefix,
    ← String.length_toList]
  refine ⟨?_, ?_⟩
  · rintro ⟨⟨more, rfl⟩, rfl⟩
    rw [List.drop_left]
  · rintro rfl
    exact ⟨List.prefix_append _ _, List.drop_left⟩

/-- A word is read as what it stands for. -/
lemma readWord_eq_ok_iff {word : String} {stands : Json} :
    readWord word stands text = .ok (value, rest) ↔
      text = word.toList ++ rest ∧ value = stands := by
  rw [readWord, ← afterWord?_eq_some_iff]
  cases afterWord? word text with
  | none =>
    refine iff_of_false ?_ ?_
    · intro h
      cases h
    · rintro ⟨h, -⟩
      cases h
  | some more =>
    simp only [Except.ok.injEq, Prod.mk.injEq, Option.some.injEq]
    exact ⟨fun h => ⟨h.2, h.1.symm⟩, fun h => ⟨h.2.symm, h.1⟩⟩

/-- What is read as a scalar is one. -/
lemma readScalar_sound (h : readScalar text = .ok (value, rest)) :
    ∃ front, text = front ++ rest ∧ Scalar front value := by
  have hword : ∀ {word : String} {stands : Json}, Scalar word.toList stands →
      readWord word stands text = .ok (value, rest) →
        ∃ front, text = front ++ rest ∧ Scalar front value := by
    intro word stands hstands hread
    obtain ⟨htext, rfl⟩ := readWord_eq_ok_iff.1 hread
    exact ⟨_, htext, hstands⟩
  unfold readScalar at h
  split at h
  case h_1 => exact hword .null h
  case h_2 => exact hword .true h
  case h_3 => exact hword .false h
  case h_4 => exact hword .nan h
  case h_5 => exact hword .infinite h
  case h_6 more =>
    split at h
    case h_1 hinfinite =>
      cases h
      refine ⟨_, ?_, .negInfinite⟩
      rw [afterWord?_eq_some_iff.1 hinfinite]
      rfl
    case h_2 =>
      obtain ⟨front, rfl, hfront⟩ := readUnsigned_sound h
      exact ⟨'-' :: front, rfl, .minus hfront⟩
  case h_7 =>
    obtain ⟨front, rfl, hfront⟩ := readUnsigned_sound h
    exact ⟨front, rfl, .unsigned hfront⟩

/-- A scalar is read as a whole if a number ends behind it. -/
lemma readScalar_of_scalar {front : List Char} (h : Scalar front value) (hrest : EndsNumber rest) :
    readScalar (front ++ rest) = .ok (value, rest) := by
  have hword : ∀ {word : String} {stands : Json},
      readScalar (word.toList ++ rest) = readWord word stands (word.toList ++ rest) →
        readScalar (word.toList ++ rest) = .ok (stands, rest) :=
    fun hread => hread.trans (readWord_eq_ok_iff.2 ⟨rfl, rfl⟩)
  cases h with
  | null => exact hword rfl
  | true => exact hword rfl
  | false => exact hword rfl
  | nan => exact hword rfl
  | infinite => exact hword rfl
  | negInfinite =>
    have hafter : afterWord? "Infinity" ("Infinity".toList ++ rest) = some rest :=
      afterWord?_eq_some_iff.2 rfl
    have hread : readScalar ('-' :: ("Infinity".toList ++ rest)) =
        .ok (.float (.infinite true), rest) := by
      rw [readScalar, hafter]
    exact hread
  | unsigned hnumber =>
    obtain ⟨c, more, rfl, hc⟩ := hnumber.isDigit_head
    rw [List.cons_append, readScalar_of_digit hc, ← List.cons_append]
    exact readUnsigned_of_unsigned hnumber hrest
  | @minus text _ hnumber =>
    have hafter : afterWord? "Infinity" (text ++ rest) = none := by
      obtain ⟨c, more, rfl, hc⟩ := hnumber.isDigit_head
      refine Option.eq_none_iff_forall_ne_some.2 fun after hword => ?_
      have hhead := congrArg List.head? (afterWord?_eq_some_iff.1 hword)
      cases hhead
      cases hc
    rw [List.cons_append, readScalar, hafter]
    exact readUnsigned_of_unsigned hnumber hrest

/-! White space. -/

/-- Nothing but white space. -/
def AllSpace (text : List Char) : Prop :=
  ∀ c ∈ text, c = ' ' ∨ c = '\t' ∨ c = '\n' ∨ c = '\r'

/-- Space after space is all space. -/
lemma AllSpace.append {more : List Char} (h : AllSpace text) (hmore : AllSpace more) :
    AllSpace (text ++ more) :=
  List.forall_mem_append.2 ⟨h, hmore⟩

/-- What is skipped is space. -/
lemma skipSpace_sound (text : List Char) :
    ∃ space, AllSpace space ∧ text = space ++ skipSpace text := by
  refine ⟨_, ?_, List.takeWhile_append_dropWhile.symm⟩
  intro c hc
  have hspace := List.mem_takeWhile_imp hc
  simpa only [Bool.or_eq_true, beq_iff_eq, or_assoc] using hspace

/-- Space before a text is skipped with the space at its start. -/
lemma skipSpace_space_append {space : List Char} (hspace : AllSpace space) (rest : List Char) :
    skipSpace (space ++ rest) = skipSpace rest := by
  refine List.dropWhile_append_of_pos fun c hc => ?_
  simpa only [Bool.or_eq_true, beq_iff_eq, or_assoc] using hspace c hc

/-- Nothing is skipped before another character. -/
lemma skipSpace_cons {c : Char} (hc : ¬ (c = ' ' ∨ c = '\t' ∨ c = '\n' ∨ c = '\r'))
    (rest : List Char) : skipSpace (c :: rest) = c :: rest := by
  refine List.dropWhile_cons_of_neg ?_
  simpa only [Bool.or_eq_true, beq_iff_eq, or_assoc] using hc

/-- White space is skipped up to a character that is none. -/
lemma skipSpace_append {space : List Char} {c : Char} (hspace : AllSpace space)
    (hc : ¬ (c = ' ' ∨ c = '\t' ∨ c = '\n' ∨ c = '\r')) :
    skipSpace (space ++ c :: rest) = c :: rest := by
  rw [skipSpace_space_append hspace, skipSpace_cons hc]

/-- Space is skipped as a whole. -/
lemma skipSpace_of_allSpace (h : AllSpace text) : skipSpace text = [] := by
  refine List.dropWhile_eq_nil_iff.2 fun c hc => ?_
  simpa only [Bool.or_eq_true, beq_iff_eq, or_assoc] using h c hc

/-- After space has been skipped there is none to skip. -/
lemma skipSpace_skipSpace (text : List Char) : skipSpace (skipSpace text) = skipSpace text := by
  cases hskip : skipSpace text with
  | nil => rfl
  | cons c more =>
    have hnot := List.head?_dropWhile_not
      (fun c => c == ' ' || c == '\t' || c == '\n' || c == '\r') text
    rw [skipSpace] at hskip
    rw [hskip] at hnot
    exact List.dropWhile_cons_of_neg (by simpa using hnot)

/-! Values. -/

/-- What a part of a JSON text stands for. -/
inductive Meaning where
  | value (value : Json)
  | item (value : Json)
  | items (items : List Json)
  | field (name : Wide) (value : Json)
  | fields (fields : List (Wide × Json))

/--
What values are made of, and the items and the fields between brackets. White space may stand
around an item, around a field and around the colon in it.
-/
inductive Denotes : List Char → Meaning → Prop where
  | scalar {text : List Char} {value : Json} : Scalar text value → Denotes text (.value value)
  | str {body : List Char} {value : Wide} :
      IsString body value → Denotes ('"' :: (body ++ ['"'])) (.value (.str value))
  | emptyArr {space : List Char} :
      AllSpace space → Denotes ('[' :: (space ++ [']'])) (.value (.arr []))
  | arr {text : List Char} {items : List Json} :
      Denotes text (.items items) → Denotes ('[' :: (text ++ [']'])) (.value (.arr items))
  | emptyObj {space : List Char} :
      AllSpace space → Denotes ('{' :: (space ++ ['}'])) (.value (.obj []))
  | obj {text : List Char} {fields : List (Wide × Json)} :
      Denotes text (.fields fields) → Denotes ('{' :: (text ++ ['}'])) (.value (.obj fields))
  | item {before text after : List Char} {value : Json} :
      AllSpace before → Denotes text (.value value) → AllSpace after →
        Denotes (before ++ (text ++ after)) (.item value)
  | oneItem {text : List Char} {value : Json} :
      Denotes text (.item value) → Denotes text (.items [value])
  | moreItems {text rest : List Char} {value : Json} {items : List Json} :
      Denotes text (.item value) → Denotes rest (.items items) →
        Denotes (text ++ ',' :: rest) (.items (value :: items))
  | field {before body inner text : List Char} {name : Wide} {value : Json} :
      AllSpace before → IsString body name → AllSpace inner → Denotes text (.item value) →
        Denotes (before ++ '"' :: (body ++ '"' :: (inner ++ ':' :: text))) (.field name value)
  | oneField {text : List Char} {name : Wide} {value : Json} :
      Denotes text (.field name value) → Denotes text (.fields [(name, value)])
  | moreFields {text rest : List Char} {name : Wide} {value : Json}
      {fields : List (Wide × Json)} :
      Denotes text (.field name value) → Denotes rest (.fields fields) →
        Denotes (text ++ ',' :: rest) (.fields ((name, value) :: fields))

/-- A JSON text and its value: the value in white space. -/
def StandsFor (text : List Char) (value : Json) : Prop :=
  Denotes text (.item value)

/-! What is read is what is written. -/

/-- White space before an item or a field, or before the first of some, belongs to it. -/
lemma Denotes.space_append {space : List Char} {meaning : Meaning} (hspace : AllSpace space)
    (h : Denotes text meaning) (hmeaning : ∀ value, meaning ≠ .value value) :
    Denotes (space ++ text) meaning := by
  induction h with
  | item hbefore htext hafter =>
    rw [← List.append_assoc]
    exact .item (hspace.append hbefore) htext hafter
  | oneItem _ ih => exact .oneItem (ih nofun)
  | moreItems _ hrest ih =>
    rw [← List.append_assoc]
    exact .moreItems (ih nofun) hrest
  | field hbefore hname hinner htext =>
    rw [← List.append_assoc]
    exact .field (hspace.append hbefore) hname hinner htext
  | oneField _ ih => exact .oneField (ih nofun)
  | moreFields _ hrest ih =>
    rw [← List.append_assoc]
    exact .moreFields (ih nofun) hrest
  | _ => exact absurd rfl (hmeaning _)

/-- The readers of values, items and fields, with the same fuel, read what is written. -/
structure SoundAt (fuel : Nat) : Prop where
  value : ∀ {text rest : List Char} {value : Json}, readValue fuel text = .ok (value, rest) →
    ∃ before front, AllSpace before ∧ text = before ++ (front ++ rest) ∧
      Denotes front (.value value)
  items : ∀ {found : List Json} {text rest : List Char} {value : Json},
    readItems fuel found text = .ok (value, rest) →
      ∃ front items, text = front ++ ']' :: rest ∧ Denotes front (.items items) ∧
        value = .arr (found.reverse ++ items)
  fields : ∀ {found : List (Wide × Json)} {text rest : List Char} {value : Json},
    readFields fuel found text = .ok (value, rest) →
      ∃ front fields, text = front ++ '}' :: rest ∧ Denotes front (.fields fields) ∧
        value = .obj (found.reverse ++ fields)

/-- With one more step what is read as a value is one. -/
lemma SoundAt.value_succ {fuel : Nat} (hsound : SoundAt fuel)
    (h : readValue (fuel + 1) text = .ok (value, rest)) :
    ∃ before front, AllSpace before ∧ text = before ++ (front ++ rest) ∧
      Denotes front (.value value) := by
  obtain ⟨before, hbefore, htext⟩ := skipSpace_sound text
  refine ⟨before, ?_⟩
  suffices hfront : ∃ front, skipSpace text = front ++ rest ∧ Denotes front (.value value) by
    obtain ⟨front, hfront, hdenotes⟩ := hfront
    exact ⟨front, hbefore, hfront ▸ htext, hdenotes⟩
  rw [readValue] at h
  split at h
  case h_1 more hspace =>
    split at h
    case h_1 => cases h
    case h_2 string after hstring =>
      cases h
      obtain ⟨body, rfl, hbody⟩ := readString_sound hstring
      refine ⟨_, ?_, .str hbody⟩
      rw [hspace, List.cons_append, List.append_assoc, List.singleton_append]
  case h_2 more hspace =>
    obtain ⟨space, hall, hmore⟩ := skipSpace_sound more
    split at h
    case h_1 after hclose =>
      cases h
      refine ⟨_, ?_, .emptyArr hall⟩
      rw [hspace, hmore, hclose, List.cons_append, List.append_assoc, List.singleton_append]
    case h_2 =>
      obtain ⟨front, items, hfront, hitems, rfl⟩ := hsound.items h
      refine ⟨_, ?_, .arr (hitems.space_append hall (by rintro _ ⟨⟩))⟩
      rw [hspace, hmore, hfront, List.cons_append, List.append_assoc, List.append_assoc,
        List.singleton_append]
  case h_3 more hspace =>
    obtain ⟨space, hall, hmore⟩ := skipSpace_sound more
    split at h
    case h_1 after hclose =>
      cases h
      refine ⟨_, ?_, .emptyObj hall⟩
      rw [hspace, hmore, hclose, List.cons_append, List.append_assoc, List.singleton_append]
    case h_2 =>
      obtain ⟨front, fields, hfront, hfields, rfl⟩ := hsound.fields h
      refine ⟨_, ?_, .obj (hfields.space_append hall (by rintro _ ⟨⟩))⟩
      rw [hspace, hmore, hfront, List.cons_append, List.append_assoc, List.append_assoc,
        List.singleton_append]
  case h_4 =>
    obtain ⟨front, hfront, hscalar⟩ := readScalar_sound h
    exact ⟨front, hfront, .scalar hscalar⟩

/-- A value that is read, with the white space up to the next character, is an item. -/
lemma SoundAt.item {fuel : Nat} (hsound : SoundAt fuel) {after : List Char} {c : Char}
    (h : readValue fuel text = .ok (value, rest)) (hafter : skipSpace rest = c :: after) :
    ∃ front, text = front ++ c :: after ∧ Denotes front (.item value) := by
  obtain ⟨before, front, hbefore, htext, hfront⟩ := hsound.value h
  obtain ⟨space, hspace, hrest⟩ := skipSpace_sound rest
  refine ⟨_, ?_, .item hbefore hfront hspace⟩
  rw [htext, hrest, hafter, List.append_assoc, List.append_assoc]

/-- With one more step what is read as items is a list of them. -/
lemma SoundAt.items_succ {fuel : Nat} (hsound : SoundAt fuel) {found : List Json}
    (h : readItems (fuel + 1) found text = .ok (value, rest)) :
    ∃ front items, text = front ++ ']' :: rest ∧ Denotes front (.items items) ∧
      value = .arr (found.reverse ++ items) := by
  rw [readItems] at h
  split at h
  case h_1 => cases h
  case h_2 item after hitem =>
    split at h
    case h_1 more hmore =>
      obtain ⟨front, htext, hfront⟩ := hsound.item hitem hmore
      obtain ⟨others, items, rfl, hitems, rfl⟩ := hsound.items h
      refine ⟨front ++ ',' :: others, item :: items, ?_, .moreItems hfront hitems, ?_⟩
      · rw [htext, List.append_assoc, List.cons_append]
      · rw [List.reverse_cons, List.append_assoc, List.singleton_append]
    case h_2 more hmore =>
      obtain ⟨front, htext, hfront⟩ := hsound.item hitem hmore
      cases h
      exact ⟨front, [item], htext, .oneItem hfront, congrArg Json.arr List.reverse_cons⟩
    case h_3 => cases h

/-- With one more step what is read as fields is a list of them. -/
lemma SoundAt.fields_succ {fuel : Nat} (hsound : SoundAt fuel) {found : List (Wide × Json)}
    (h : readFields (fuel + 1) found text = .ok (value, rest)) :
    ∃ front fields, text = front ++ '}' :: rest ∧ Denotes front (.fields fields) ∧
      value = .obj (found.reverse ++ fields) := by
  obtain ⟨before, hbefore, htext⟩ := skipSpace_sound text
  rw [readFields] at h
  split at h
  case h_2 => cases h
  case h_1 inside hquote =>
    split at h
    case h_1 => cases h
    case h_2 name more hname =>
      obtain ⟨body, rfl, hbody⟩ := readString_sound hname
      obtain ⟨inner, hinner, hmore⟩ := skipSpace_sound more
      split at h
      case h_2 => cases h
      case h_1 behind hcolon =>
        split at h
        case h_1 => cases h
        case h_2 field after hfield =>
          -- what stands before the comma or the brace is a field
          have hpiece : ∀ {c : Char} {next : List Char}, skipSpace after = c :: next →
              ∃ front, text = front ++ c :: next ∧
                Denotes front (.field name field) := by
            intro c next hnext
            obtain ⟨front, hbehind, hfront⟩ := hsound.item hfield hnext
            refine ⟨_, ?_, .field hbefore hbody hinner hfront⟩
            rw [htext, hquote, hmore, hcolon, hbehind]
            simp only [List.append_assoc, List.cons_append]
          dsimp only at h
          split at h
          case h_1 next hnext =>
            obtain ⟨front, hfront, hdenotes⟩ := hpiece hnext
            obtain ⟨others, fields, rfl, hfields, rfl⟩ := hsound.fields h
            refine ⟨front ++ ',' :: others, _, ?_, .moreFields hdenotes hfields, ?_⟩
            · rw [hfront, List.append_assoc, List.cons_append]
            · rw [List.reverse_cons, List.append_assoc, List.singleton_append]
          case h_2 next hnext =>
            obtain ⟨front, hfront, hdenotes⟩ := hpiece hnext
            cases h
            exact ⟨front, _, hfront, .oneField hdenotes, congrArg Json.obj List.reverse_cons⟩
          case h_3 => cases h

/-- With any fuel the readers are sound. -/
lemma soundAt (fuel : Nat) : SoundAt fuel := by
  induction fuel with
  | zero =>
    refine ⟨?_, ?_, ?_⟩
    · intro text rest value h
      rw [readValue] at h
      cases h
    · intro found text rest value h
      rw [readItems] at h
      cases h
    · intro found text rest value h
      rw [readFields] at h
      cases h
  | succ fuel ih => exact ⟨ih.value_succ, ih.items_succ, ih.fields_succ⟩

/-- What is read as a JSON text is one. -/
lemma ofText_sound (h : ofText text = .ok value) : StandsFor text value := by
  rw [ofText] at h
  split at h
  case h_1 => cases h
  case h_2 read rest hread =>
    split at h
    case isFalse => cases h
    case isTrue hend =>
      cases h
      obtain ⟨before, front, hbefore, htext, hfront⟩ := (soundAt _).value hread
      obtain ⟨space, hspace, hrest⟩ := skipSpace_sound rest
      rw [List.isEmpty_iff.1 hend, List.append_nil] at hrest
      rw [htext, hrest]
      exact .item hbefore hfront hspace

end Remap.Json
