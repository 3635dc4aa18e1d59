import Remap.Formatter
import Remap.Proofs.Text.Utf8
import Remap.Proofs.Text.Word
import Remap.Text.Escape

/-!
# Documents in links

The query of a link is the percent-encoded document. As it can be decoded, no character of a
document is lost or changed in a link, and links to different documents differ.
-/

/-!
## Percent decoding

What a percent-encoded text is made of, and how it is read: a percent sign with two hexadecimal
digits is a byte, and every other character stands for its own bytes. The encoded form of a byte
reads back as this byte whatever follows it, as no digit is left over and no byte below 128 that
stands for itself is the percent sign. So `decode?_decode_encode` says that the encoded form of a
text, read as bytes and then as UTF-8, is the text.
-/

namespace Remap.Text

namespace Percent

open String (utf8EncodeChar)

variable {c : Char} {rest : List Char}

/-! What encoded texts are made of, and what they stand for. -/

/-- A digit of an escape: a decimal one, or an upper-case letter from A to F. -/
def IsEscapeDigit (c : Char) : Prop :=
  ('0' ≤ c ∧ c ≤ '9') ∨ ('A' ≤ c ∧ c ≤ 'F')

/-- Unreserved characters, and percent signs with two digits after each of them. -/
inductive Encoded : List Char → Prop where
  | nil : Encoded []
  | plain {c : Char} {rest : List Char} : isUnreserved c = true → Encoded rest →
    Encoded (c :: rest)
  | escape {a b : Char} {rest : List Char} : IsEscapeDigit a → IsEscapeDigit b → Encoded rest →
    Encoded ('%' :: a :: b :: rest)

/--
The bytes that a text stands for. A percent sign that two digits do not follow stands for itself,
as does any other character.
-/
def decode : List Char → List UInt8
  | [] => []
  | '%' :: a :: b :: rest =>
    match Hex.digitValue? a, Hex.digitValue? b with
    | some high, some low => UInt8.ofNat (high * 16 + low) :: decode rest
    | _, _ => utf8EncodeChar '%' ++ decode (a :: b :: rest)
  | c :: rest => utf8EncodeChar c ++ decode rest

/-- A character other than the percent sign stands for itself. -/
lemma decode_cons_of_ne (h : c ≠ '%') (rest : List Char) :
    decode (c :: rest) = utf8EncodeChar c ++ decode rest := by
  rw [decode]
  intro a b more heq
  exact absurd heq h

/-- A percent sign and two digits stand for a byte. -/
lemma decode_escape {a b : Char} {high low : Nat} (ha : Hex.digitValue? a = some high)
    (hb : Hex.digitValue? b = some low) (rest : List Char) :
    decode ('%' :: a :: b :: rest) = UInt8.ofNat (high * 16 + low) :: decode rest := by
  rw [decode, ha, hb]

/-! One byte. -/

/-- An upper-case digit reads back as the number that it was written for. -/
lemma digitValue?_toUpper_digit {n : Nat} (h : n < 16) :
    Hex.digitValue? (Hex.digit n).toUpper = some n := by
  revert n
  decide

/-- The upper-case digits of base sixteen can stand in an escape. -/
lemma isEscapeDigit_toUpper_digit {n : Nat} (h : n < 16) :
    IsEscapeDigit (Hex.digit n).toUpper := by
  unfold IsEscapeDigit
  revert n
  decide

/-- A character that stands for itself has one byte. -/
lemma toNat_le_of_isUnreserved (h : isUnreserved c = true) : c.toNat ≤ 0x7F := by
  simp only [isUnreserved, Bool.or_eq_true, beq_iff_eq] at h
  obtain (((halnum | rfl) | rfl) | rfl) | rfl := h
  · rw [Char.isAlphanum, Bool.or_eq_true] at halnum
    obtain halpha | hdigit := halnum
    · have hrange := toNat_of_isAlpha halpha
      omega
    · exact (Char.isDigit_iff_toNat.1 hdigit).2.trans (by decide)
  all_goals decide

/-- The percent sign is not among the characters that stay. -/
lemma ne_percent_of_isUnreserved (h : isUnreserved c = true) : c ≠ '%' := by
  rintro rfl
  exact absurd h (by decide)

/-- A byte is one unreserved character or an escape. -/
lemma encodeByte_cases (byte : UInt8) :
    (isUnreserved (Char.ofNat byte.toNat) = true ∧
        encodeByte byte = [Char.ofNat byte.toNat]) ∨
      encodeByte byte =
        ['%', (Hex.digit (byte.toNat / 16)).toUpper, (Hex.digit (byte.toNat % 16)).toUpper] := by
  have hbyte : byte.toNat < 256 := byte.toNat_lt
  have hhigh : byte.toNat / 16 % 16 = byte.toNat / 16 := Nat.mod_eq_of_lt (by omega)
  rw [encodeByte]
  split
  case isTrue hplain => exact .inl ⟨hplain, rfl⟩
  case isFalse => simp [Hex.digits, hhigh]

/-- The form of a byte can stand before an encoded text. -/
lemma Encoded.byte_append (byte : UInt8) (h : Encoded rest) :
    Encoded (encodeByte byte ++ rest) := by
  have hbyte : byte.toNat < 256 := byte.toNat_lt
  obtain ⟨hplain, heq⟩ | heq := encodeByte_cases byte
  · rw [heq]
    exact .plain hplain h
  · rw [heq]
    exact .escape (isEscapeDigit_toUpper_digit (by omega))
      (isEscapeDigit_toUpper_digit (by omega)) h

/-- The form of a byte is decoded first. -/
lemma decode_encodeByte_append (byte : UInt8) (rest : List Char) :
    decode (encodeByte byte ++ rest) = byte :: decode rest := by
  have hbyte : byte.toNat < 256 := byte.toNat_lt
  obtain ⟨hplain, heq⟩ | heq := encodeByte_cases byte
  · have hascii := toNat_le_of_isUnreserved hplain
    rw [Utf8.toNat_ofNat_byte] at hascii
    rw [heq, List.singleton_append, decode_cons_of_ne (ne_percent_of_isUnreserved hplain),
      Utf8.utf8EncodeChar_ascii hascii, List.singleton_append]
  · have hnumber : byte.toNat / 16 * 16 + byte.toNat % 16 = byte.toNat := by omega
    rw [heq]
    simp only [List.cons_append, List.nil_append]
    rw [decode_escape (digitValue?_toUpper_digit (by omega)) (digitValue?_toUpper_digit (by omega)),
      hnumber, UInt8.ofNat_toNat]

/-! All bytes. -/

/-- The forms of bytes are an encoded text. -/
lemma encoded_flatMap (bytes : List UInt8) : Encoded (bytes.flatMap encodeByte) := by
  induction bytes with
  | nil => exact .nil
  | cons byte bytes ih =>
    rw [List.flatMap_cons]
    exact ih.byte_append byte

/-- The forms of bytes are decoded to the bytes. -/
lemma decode_flatMap (bytes : List UInt8) : decode (bytes.flatMap encodeByte) = bytes := by
  induction bytes with
  | nil => rfl
  | cons byte bytes ih => rw [List.flatMap_cons, decode_encodeByte_append, ih]

/-- The encoded form of a text is an encoded text. -/
lemma encoded_encode (text : List Char) : Encoded (encode text) :=
  encoded_flatMap _

/-- The encoded form of a text, read as bytes and then as UTF-8, is the text. -/
lemma decode?_decode_encode (text : List Char) :
    Utf8.decode? (decode (encode text)) = some text := by
  rw [encode, decode_flatMap, Utf8.decode?_encode]

-- signs of the query are escapes, and a percent sign that no two digits follow is left alone
example : decode "a%2B%26%c3%A9%4".toList = Utf8.encode "a+&é%4".toList := by decide

/-- Texts with the same encoded form are the same. -/
lemma encode_injective {text other : List Char} (h : encode text = encode other) :
    text = other := by
  have hdecode := decode?_decode_encode text
  rw [h, decode?_decode_encode, Option.some.injEq] at hdecode
  exact hdecode.symm

end Percent

end Remap.Text

namespace Remap.Playground

open Text

variable {base : String} {text other : List Char}

/-- A blank text has a link without a script. -/
lemma link_of_blank (h : ∀ c ∈ text, isBlank c = true) : link base text = base := by
  rw [link, if_pos (List.all_eq_true.2 h)]

/-- Another text has a link with its encoded form. -/
lemma link_of_not_blank (h : ¬ ∀ c ∈ text, isBlank c = true) :
    link base text = base ++ "?script=" ++ String.ofList (Percent.encode text) := by
  rw [link, if_neg]
  rwa [List.all_eq_true]

/-- The document that a link carries can be read off the link. -/
lemma link_injective (htext : ¬ ∀ c ∈ text, isBlank c = true)
    (hother : ¬ ∀ c ∈ other, isBlank c = true) (h : link base text = link base other) :
    text = other := by
  rw [link_of_not_blank htext, link_of_not_blank hother] at h
  have hchars := congrArg String.toList h
  simp only [String.toList_append, List.append_cancel_left_eq, String.toList_ofList] at hchars
  exact Percent.encode_injective hchars

/--
A link carries the document without loss. A blank document leaves the address as it is; any other is
the query of the link, which is made of unreserved characters and of escapes and from which the
document is read back, as bytes and then as UTF-8. So two documents that are not blank have the same
link at an address only if they are equal.
-/
theorem link_lossless (base : String) (text : List Char) :
    ((∀ c ∈ text, isBlank c = true) → link base text = base) ∧
      ((∃ c ∈ text, isBlank c = false) →
        (∃ query, link base text = base ++ "?script=" ++ String.ofList query ∧
          Percent.Encoded query ∧ Utf8.decode? (Percent.decode query) = some text) ∧
        ∀ other : List Char, (∃ c ∈ other, isBlank c = false) →
          (link base other = link base text ↔ other = text)) := by
  have hsome : ∀ chars : List Char, (∃ c ∈ chars, isBlank c = false) →
      ¬ ∀ c ∈ chars, isBlank c = true := by
    intro chars hchars hblank
    obtain ⟨c, hc, hne⟩ := hchars
    rw [hblank c hc] at hne
    cases hne
  refine ⟨link_of_blank, ?_⟩
  intro htext
  refine ⟨⟨Percent.encode text, link_of_not_blank (hsome text htext), Percent.encoded_encode text,
    Percent.decode?_decode_encode text⟩, ?_⟩
  intro other hother
  exact ⟨link_injective (hsome other hother) (hsome text htext), congrArg (link base)⟩

/-- A document with signs of the query, a line feed and characters of two and of four bytes. -/
theorem link_lossless_signs :
    let text := "a&b=%2B +\n#é😀".toList
    let decoded := "a&b=+ +\n#é😀".toList
    (∃ c ∈ text, isBlank c = false) ∧ (∃ c ∈ decoded, isBlank c = false) ∧
      (∃ query, link "base" text = "base" ++ "?script=" ++ String.ofList query ∧
        Percent.Encoded query ∧ Utf8.decode? (Percent.decode query) = some text) ∧
      link "base" text = "base?script=a%26b%3D%252B%20%2B%0A%23%C3%A9%F0%9F%98%80" ∧
      link "base" decoded ≠ link "base" text ∧ link "base" " \n".toList = "base" := by
  intro text decoded
  have htext : ∃ c ∈ text, isBlank c = false := ⟨'a', by decide, by decide⟩
  have hdecoded : ∃ c ∈ decoded, isBlank c = false := ⟨'a', by decide, by decide⟩
  have hblank : ∀ c ∈ " \n".toList, isBlank c = true := List.all_eq_true.1 (by decide)
  obtain ⟨hquery, hinjective⟩ := (link_lossless "base" text).2 htext
  have hne : decoded ≠ text := by decide
  exact ⟨htext, hdecoded, hquery, by decide, mt (hinjective decoded hdecoded).1 hne,
    (link_lossless "base" " \n".toList).1 hblank⟩

end Remap.Playground
