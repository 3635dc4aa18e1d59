import Mathlib.Algebra.Group.Nat.Defs
import Mathlib.Data.List.Infix
import Mathlib.Data.List.Induction
import Mathlib.Data.Nat.Find
import Remap.Text.Utf8

/-!
# What bytes spell

Bytes spell a text piece by piece: the bytes of a character spell this character, and where no
character begins, a longest piece that could begin one, or else one byte, spells U+FFFD.
`spells_iff` says that every byte sequence spells exactly one text, the one that the lossy decoder
gives. Inside a character the decoder knows which characters begin with the bytes that it has read
since the last piece: `Inside` says that what it owes, the next byte that it allows and the value
that it has describe exactly these. The strict decoder reads the encoding of each text and nothing
else (`decode?_eq_some_iff`).
-/

namespace Remap.Text.Utf8

open String (utf8EncodeChar)

variable {b : UInt8} {c : Char} {piece rest bytes : List UInt8} {text : List Char}
  {found : List (Option Char)} {owed low high value v : Nat}

/-! Texts that bytes spell. -/

/-- The bytes can begin the bytes of a character. -/
def Begins (piece : List UInt8) : Prop :=
  ∃ c, piece <+: utf8EncodeChar c

/--
At the start of the bytes there is no character, and the piece is as long as one that begins a
character can be there, but at least one byte long.
-/
structure IllFormed (piece rest : List UInt8) : Prop where
  noChar : ∀ c, ¬ utf8EncodeChar c <+: piece ++ rest
  ne_nil : piece ≠ []
  begins : piece.length = 1 ∨ Begins piece
  longest : ∀ other, other <+: piece ++ rest → Begins other → other.length ≤ piece.length

/-- The bytes are those of the text, with ill-formed pieces where the text has U+FFFD in place. -/
inductive Spells : List UInt8 → List Char → Prop where
  | nil : Spells [] []
  | char (c : Char) {rest : List UInt8} {text : List Char} :
    Spells rest text →
    Spells (utf8EncodeChar c ++ rest) (c :: text)
  | illFormed {piece rest : List UInt8} {text : List Char} :
    IllFormed piece rest →
    Spells rest text →
    Spells (piece ++ rest) ('\uFFFD' :: text)

/-! The bytes of a character. -/

/-- The byte with six of the bits of a number, with as many more bytes after it. -/
def trailByte (owed v : Nat) : Nat :=
  v / 64 ^ owed % 64 + 0x80

/-- The bytes that end a character. -/
def trail : Nat → Nat → List UInt8
  | 0, _ => []
  | owed + 1, v => UInt8.ofNat (trailByte owed v) :: trail owed v

/-- The number of bytes after the first one. -/
def extent (v : Nat) : Nat :=
  if v ≤ 0x7F then 0 else if v ≤ 0x7FF then 1 else if v ≤ 0xFFFF then 2 else 3

/-- The first byte. -/
def lead (v : Nat) : Nat :=
  if v ≤ 0x7F then v
  else if v ≤ 0x7FF then v / 64 + 0xC0
  else if v ≤ 0xFFFF then v / 4096 + 0xE0
  else v / 262144 + 0xF0

/-- The number of bytes after a first one. -/
def extentOfLead (first : Nat) : Nat :=
  if first ≤ 0x7F then 0 else if first ≤ 0xDF then 1 else if first ≤ 0xEF then 2 else 3

/-- The number of a character is valid. -/
lemma valid_toNat (c : Char) : c.toNat.isValidChar :=
  c.valid

/-- A valid number is that of a character. -/
lemma exists_char (h : v.isValidChar) : ∃ c : Char, c.toNat = v :=
  ⟨Char.ofNatAux v h, rfl⟩

/-- The first byte of a character is a byte. -/
lemma lead_lt (h : v.isValidChar) : lead v < 256 := by
  unfold Nat.isValidChar at h
  unfold lead
  split_ifs <;> omega

/-- How many bytes there are can be read off the first one. -/
lemma extent_eq (v : Nat) : extent v = extentOfLead (lead v) := by
  unfold extent extentOfLead lead
  split_ifs <;> omega

/-- A character is encoded as its first byte and its trail. -/
lemma utf8EncodeChar_eq (c : Char) :
    utf8EncodeChar c = UInt8.ofNat (lead c.toNat) :: trail (extent c.toNat) c.toNat := by
  have hvalid := valid_toNat c
  have hval : c.val.toNat = c.toNat := rfl
  unfold Nat.isValidChar at hvalid
  simp only [utf8EncodeChar, lead, extent, hval]
  generalize c.toNat = v at hvalid
  split_ifs
  · rfl
  · have hfirst : v / 64 % 32 = v / 64 := by omega
    simp only [hfirst, trail, trailByte, Nat.reducePow, Nat.div_one]
  · have hfirst : v / 4096 % 16 = v / 4096 := by omega
    simp only [hfirst, trail, trailByte, Nat.reducePow, Nat.div_one]
  · have hfirst : v / 262144 % 8 = v / 262144 := by omega
    simp only [hfirst, trail, trailByte, Nat.reducePow, Nat.div_one]

/-- A byte begins a character if it is the first one of its bytes. -/
lemma singleton_prefix_iff : [b] <+: utf8EncodeChar c ↔ lead c.toNat = b.toNat := by
  have hlt := lead_lt (valid_toNat c)
  rw [utf8EncodeChar_eq, List.cons_prefix_cons, ← UInt8.toNat_inj, UInt8.toNat_ofNat_of_lt' hlt]
  simp [eq_comm]

/-! A decoder inside a character. -/

/--
A decoder that owes one byte more than `owed` describes the characters that begin with the piece: in
the number of a character the bits before the bytes that it owes are `value`, and the first one of
these bytes is in the range.
-/
structure Inside (piece : List UInt8) (owed low high value : Nat) : Prop where
  range : 0x80 ≤ low ∧ low ≤ high ∧ high ≤ 0xBF
  bytes : ∀ c, piece <+: utf8EncodeChar c → utf8EncodeChar c = piece ++ trail (owed + 1) c.toNat
  chars : ∀ v, (∃ c : Char, c.toNat = v ∧ piece <+: utf8EncodeChar c) ↔
    v / 64 ^ (owed + 1) = value ∧ low ≤ trailByte owed v ∧ trailByte owed v ≤ high

/-- What the first byte says of the characters that begin with it. -/
lemma inside_first (hrange : 0x80 ≤ low ∧ low ≤ high ∧ high ≤ 0xBF)
    (hextent : extentOfLead b.toNat = owed + 1)
    (hchars : ∀ v, v.isValidChar ∧ lead v = b.toNat ↔
      v / 64 ^ (owed + 1) = value ∧ low ≤ trailByte owed v ∧ trailByte owed v ≤ high) :
    Inside [b] owed low high value where
  range := hrange
  bytes c h := by
    rw [singleton_prefix_iff] at h
    rw [utf8EncodeChar_eq, extent_eq, h, hextent, UInt8.ofNat_toNat]
    rfl
  chars v := by
    rw [← hchars]
    refine ⟨?_, ?_⟩
    · intro h
      obtain ⟨c, rfl, hbegin⟩ := h
      exact ⟨valid_toNat c, singleton_prefix_iff.1 hbegin⟩
    · intro h
      obtain ⟨hvalid, hlead⟩ := h
      obtain ⟨c, rfl⟩ := exists_char hvalid
      exact ⟨c, rfl, singleton_prefix_iff.2 hlead⟩

/-- A first byte for two leaves one byte to be read. -/
lemma inside_two (h : 0xC2 ≤ b.toNat ∧ b.toNat ≤ 0xDF) :
    Inside [b] 0 0x80 0xBF (b.toNat - 0xC0) := by
  apply inside_first (by decide)
  · unfold extentOfLead
    split_ifs <;> omega
  · intro v
    unfold Nat.isValidChar lead trailByte
    simp only [Nat.reduceAdd, Nat.reducePow, Nat.div_one]
    split_ifs <;> omega

/-- The first of the numbers is written with fewer bytes, and surrogates are not characters. -/
lemma inside_three (h : 0xE0 ≤ b.toNat ∧ b.toNat ≤ 0xEF)
    (hlow : low = if b.toNat = 0xE0 then 0xA0 else 0x80)
    (hhigh : high = if b.toNat = 0xED then 0x9F else 0xBF) :
    Inside [b] 1 low high (b.toNat - 0xE0) := by
  apply inside_first (by split_ifs at hlow hhigh <;> omega)
  · unfold extentOfLead
    split_ifs <;> omega
  · intro v
    unfold Nat.isValidChar lead trailByte
    simp only [Nat.reduceAdd, Nat.reducePow]
    split_ifs at hlow hhigh ⊢ <;> omega

/-- The first of the numbers is written with fewer bytes, and the last one ends the characters. -/
lemma inside_four (h : 0xF0 ≤ b.toNat ∧ b.toNat ≤ 0xF4)
    (hlow : low = if b.toNat = 0xF0 then 0x90 else 0x80)
    (hhigh : high = if b.toNat = 0xF4 then 0x8F else 0xBF) :
    Inside [b] 2 low high (b.toNat - 0xF0) := by
  apply inside_first (by split_ifs at hlow hhigh <;> omega)
  · unfold extentOfLead
    split_ifs <;> omega
  · intro v
    unfold Nat.isValidChar lead trailByte
    simp only [Nat.reduceAdd, Nat.reducePow]
    split_ifs at hlow hhigh ⊢ <;> omega

/-- Every byte is the number of a character. -/
lemma toNat_ofNat_byte (b : UInt8) : (Char.ofNat b.toNat).toNat = b.toNat := by
  have hbyte : b.toNat < 256 := b.toNat_lt
  have hvalid : b.toNat.isValidChar := .inl (by omega)
  rw [Char.ofNat, dif_pos hvalid]
  rfl

/-- A byte of a short character is all of it. -/
lemma utf8EncodeChar_ascii (h : b.toNat ≤ 0x7F) : utf8EncodeChar (Char.ofNat b.toNat) = [b] := by
  rw [utf8EncodeChar_eq, toNat_ofNat_byte, lead, if_pos h, extent, if_pos h, UInt8.ofNat_toNat]
  rfl

/-- A byte below 128 begins no other character than its own. -/
lemma eq_of_prefix_ascii (h : b.toNat ≤ 0x7F) (hbegin : [b] <+: utf8EncodeChar c) :
    c = Char.ofNat b.toNat := by
  have hlead := singleton_prefix_iff.1 hbegin
  have hnat : c.toNat = b.toNat := by
    unfold lead at hlead
    split_ifs at hlead <;> omega
  rw [← hnat, Char.ofNat_toNat]

/-- A byte that is not the first one of a character begins none. -/
lemma not_begins_of_lead (h : ∀ v, v.isValidChar → lead v ≠ b.toNat) : ¬ Begins [b] := by
  intro hbegins
  obtain ⟨c, hc⟩ := hbegins
  exact h c.toNat (valid_toNat c) (singleton_prefix_iff.1 hc)

/--
The first byte of a piece is a short character, or the decoder is inside one after it, or no
character begins with it.
-/
lemma first_cases (found : List (Option Char)) (b : UInt8) :
    (Decoder.first found b.toNat = ⟨.start, some (Char.ofNat b.toNat) :: found⟩ ∧
        b.toNat ≤ 0x7F) ∨
      (∃ owed low high value, Decoder.first found b.toNat =
          ⟨.inside (owed + 1) low high value, found⟩ ∧ Inside [b] owed low high value) ∨
      (Decoder.first found b.toNat = ⟨.start, none :: found⟩ ∧ ¬ Begins [b]) := by
  have hbyte : b.toNat < 256 := b.toNat_lt
  unfold Decoder.first
  split_ifs with hascii htwo hE0 hED hthree hF0 hF4 hfour
  · exact .inl ⟨rfl, hascii⟩
  · exact .inr (.inl ⟨_, _, _, _, rfl, inside_two htwo⟩)
  · have hinside := inside_three (b := b) (by omega) (if_pos hE0).symm (if_neg (by omega)).symm
    rw [hE0] at hinside
    exact .inr (.inl ⟨_, _, _, _, rfl, hinside⟩)
  · have hinside := inside_three (b := b) (by omega) (if_neg (by omega)).symm (if_pos hED).symm
    rw [hED] at hinside
    exact .inr (.inl ⟨_, _, _, _, rfl, hinside⟩)
  · have hinside := inside_three (b := b) (by omega) (if_neg hE0).symm (if_neg hED).symm
    exact .inr (.inl ⟨_, _, _, _, rfl, hinside⟩)
  · have hinside := inside_four (b := b) (by omega) (if_pos hF0).symm (if_neg (by omega)).symm
    rw [hF0] at hinside
    exact .inr (.inl ⟨_, _, _, _, rfl, hinside⟩)
  · have hinside := inside_four (b := b) (by omega) (if_neg (by omega)).symm (if_pos hF4).symm
    rw [hF4] at hinside
    exact .inr (.inl ⟨_, _, _, _, rfl, hinside⟩)
  · have hinside := inside_four (b := b) (by omega) (if_neg hF0).symm (if_neg hF4).symm
    exact .inr (.inl ⟨_, _, _, _, rfl, hinside⟩)
  · refine .inr (.inr ⟨rfl, not_begins_of_lead ?_⟩)
    intro v hvalid hlead
    unfold Nat.isValidChar at hvalid
    unfold lead at hlead
    split_ifs at hlead <;> omega

/-! One more byte. -/

/-- The bytes of a trail lie between 128 and 191. -/
lemma mem_range_trailByte (owed v : Nat) : 0x80 ≤ trailByte owed v ∧ trailByte owed v ≤ 0xBF := by
  unfold trailByte
  omega

/-- The bits before a byte are those before the next one and those in the next one. -/
lemma div_eq_iff_trailByte (owed v : Nat) (hvalue : 0x80 ≤ b.toNat ∧ b.toNat ≤ 0xBF) :
    v / 64 ^ owed = value * 64 + (b.toNat - 0x80) ↔
      v / 64 ^ (owed + 1) = value ∧ trailByte owed v = b.toNat := by
  rw [Nat.pow_succ, ← Nat.div_div_eq_div_mul, trailByte]
  omega

namespace Inside

/-- The byte after the piece in a character is given by the number of the character. -/
lemma prefix_concat_iff (h : Inside piece owed low high value) :
    piece ++ [b] <+: utf8EncodeChar c ↔
      piece <+: utf8EncodeChar c ∧ trailByte owed c.toNat = b.toNat := by
  have hbyte : piece <+: utf8EncodeChar c →
      (piece ++ [b] <+: utf8EncodeChar c ↔ trailByte owed c.toNat = b.toNat) := by
    intro hc
    have hrange := mem_range_trailByte owed c.toNat
    have hlt : trailByte owed c.toNat < 256 := by omega
    rw [h.bytes c hc, List.prefix_append_right_inj, trail, List.cons_prefix_cons,
      ← UInt8.toNat_inj, UInt8.toNat_ofNat_of_lt' hlt, eq_comm]
    exact and_iff_left List.nil_prefix
  refine ⟨?_, ?_⟩
  · intro hconcat
    have hc := (List.prefix_append piece [b]).trans hconcat
    exact ⟨hc, (hbyte hc).1 hconcat⟩
  · intro hc
    exact (hbyte hc.1).2 hc.2

/-- The decoder allows exactly the bytes that follow the piece in some character. -/
lemma begins_concat_iff (h : Inside piece owed low high value) :
    Begins (piece ++ [b]) ↔ low ≤ b.toNat ∧ b.toNat ≤ high := by
  refine ⟨?_, ?_⟩
  · intro hbegins
    obtain ⟨c, hc⟩ := hbegins
    obtain ⟨hbegin, hbyte⟩ := h.prefix_concat_iff.1 hc
    obtain ⟨-, hrange⟩ := (h.chars c.toNat).1 ⟨c, rfl, hbegin⟩
    rwa [hbyte] at hrange
  · intro hrange
    obtain ⟨hlow, -, hhigh⟩ := h.range
    -- the number with the bits read so far and those of the byte, and zeros after them
    have hnumber : (value * 64 + (b.toNat - 0x80)) * 64 ^ owed / 64 ^ owed =
        value * 64 + (b.toNat - 0x80) :=
      Nat.mul_div_cancel _ (Nat.pow_pos (by decide))
    obtain ⟨hvalue, hbyte⟩ := (div_eq_iff_trailByte owed _ (by omega)).1 hnumber
    obtain ⟨c, hnat, hbegin⟩ := (h.chars _).2 ⟨hvalue, by omega, by omega⟩
    rw [← hnat] at hbyte
    exact ⟨c, h.prefix_concat_iff.2 ⟨hbegin, hbyte⟩⟩

/-- The bytes that lead inside a character begin one. -/
lemma begins (h : Inside piece owed low high value) : Begins piece := by
  obtain ⟨hlow, hle, hhigh⟩ := h.range
  have hlt : low < 256 := by omega
  have hbyte : (UInt8.ofNat low).toNat = low := UInt8.toNat_ofNat_of_lt' hlt
  obtain ⟨c, hc⟩ := (h.begins_concat_iff (b := UInt8.ofNat low)).2 (by omega)
  exact ⟨c, (List.prefix_append piece _).trans hc⟩

/-- With one more byte of those that it owes the decoder is still inside. -/
lemma next (h : Inside piece (owed + 1) low high value) (hb : low ≤ b.toNat ∧ b.toNat ≤ high) :
    Inside (piece ++ [b]) owed 0x80 0xBF (value * 64 + (b.toNat - 0x80)) where
  range := by decide
  bytes c hc := by
    obtain ⟨hbegin, hbyte⟩ := h.prefix_concat_iff.1 hc
    rw [h.bytes c hbegin, trail, hbyte, UInt8.ofNat_toNat, List.append_assoc]
    rfl
  chars v := by
    obtain ⟨hlow, -, hhigh⟩ := h.range
    rw [and_iff_left (mem_range_trailByte owed v), div_eq_iff_trailByte (owed + 1) v (by omega)]
    refine ⟨?_, ?_⟩
    · intro hv
      obtain ⟨c, rfl, hc⟩ := hv
      obtain ⟨hbegin, hbyte⟩ := h.prefix_concat_iff.1 hc
      obtain ⟨hvalue, -⟩ := (h.chars c.toNat).1 ⟨c, rfl, hbegin⟩
      exact ⟨hvalue, hbyte⟩
    · intro hv
      obtain ⟨hvalue, hbyte⟩ := hv
      rw [← hbyte] at hb
      obtain ⟨c, rfl, hbegin⟩ := (h.chars v).2 ⟨hvalue, hb⟩
      exact ⟨c, rfl, h.prefix_concat_iff.2 ⟨hbegin, hbyte⟩⟩

/-- With the last byte that it owes the decoder has the character. -/
lemma last (h : Inside piece 0 low high value) (hc : piece ++ [b] <+: utf8EncodeChar c) :
    utf8EncodeChar c = piece ++ [b] ∧ c = Char.ofNat (value * 64 + (b.toNat - 0x80)) := by
  obtain ⟨hbegin, hbyte⟩ := h.prefix_concat_iff.1 hc
  obtain ⟨hvalue, -⟩ := (h.chars c.toNat).1 ⟨c, rfl, hbegin⟩
  have hrange : 0x80 ≤ b.toNat ∧ b.toNat ≤ 0xBF := hbyte ▸ mem_range_trailByte 0 c.toNat
  have hnumber := (div_eq_iff_trailByte 0 c.toNat hrange).2 ⟨hvalue, hbyte⟩
  rw [Nat.pow_zero, Nat.div_one] at hnumber
  refine ⟨?_, ?_⟩
  · rw [h.bytes c hbegin, trail, hbyte, UInt8.ofNat_toNat]
    rfl
  · rw [← hnumber, Char.ofNat_toNat]

end Inside

/-! The decoder on one piece. -/

/-- Inside a character the decoder goes on, ends it, or starts again at the byte. -/
lemma step_inside (found : List (Option Char)) (b : UInt8) :
    Decoder.step ⟨.inside (owed + 1) low high value, found⟩ b =
      if low ≤ b.toNat ∧ b.toNat ≤ high then
        if owed = 0 then ⟨.start, some (Char.ofNat (value * 64 + (b.toNat - 0x80))) :: found⟩
        else ⟨.inside owed 0x80 0xBF (value * 64 + (b.toNat - 0x80)), found⟩
      else Decoder.first (none :: found) b.toNat := by
  have howed : owed + 1 ≤ 1 ↔ owed = 0 := by omega
  simp only [Decoder.step, howed, Nat.add_sub_cancel]

/-- With all bytes of a character the decoder has it; with the first of them it is inside. -/
lemma foldl_of_begins (found : List (Option Char)) (hne : piece ≠ [])
    (h : piece <+: utf8EncodeChar c) :
    (utf8EncodeChar c = piece ∧
        piece.foldl Decoder.step ⟨.start, found⟩ = ⟨.start, some c :: found⟩) ∨
      ∃ owed low high value, Inside piece owed low high value ∧
        piece.foldl Decoder.step ⟨.start, found⟩ =
          ⟨.inside (owed + 1) low high value, found⟩ := by
  induction piece using List.reverseRecOn with
  | nil => exact absurd rfl hne
  | append_singleton piece b ih =>
    rw [List.foldl_append, List.foldl_cons, List.foldl_nil]
    by_cases hfirst : piece = []
    · subst hfirst
      obtain ⟨heq, hascii⟩ | ⟨owed, low, high, value, heq, hinside⟩ | ⟨-, hbegins⟩ :=
        first_cases found b
      · rw [eq_of_prefix_ascii hascii h]
        exact .inl ⟨utf8EncodeChar_ascii hascii, heq⟩
      · exact .inr ⟨owed, low, high, value, hinside, heq⟩
      · exact absurd ⟨c, h⟩ hbegins
    · obtain ⟨hall, -⟩ | ⟨owed, low, high, value, hinside, heq⟩ :=
        ih hfirst ((List.prefix_append piece [b]).trans h)
      · -- no byte follows all bytes of the character
        have hle := h.length_le
        rw [hall, List.length_append, List.length_singleton] at hle
        exact absurd hle (Nat.not_succ_le_self _)
      · have hrange := hinside.begins_concat_iff.1 ⟨c, h⟩
        rw [heq, step_inside, if_pos hrange]
        cases owed with
        | zero =>
          obtain ⟨hall, hchar⟩ := hinside.last h
          rw [if_pos rfl, ← hchar]
          exact .inl ⟨hall, rfl⟩
        | succ owed =>
          rw [if_neg (Nat.succ_ne_zero owed)]
          exact .inr ⟨owed, 0x80, 0xBF, _, hinside.next hrange, rfl⟩

/-- The bytes of a character are decoded to it. -/
lemma foldl_utf8EncodeChar (found : List (Option Char)) (c : Char) :
    (utf8EncodeChar c).foldl Decoder.step ⟨.start, found⟩ = ⟨.start, some c :: found⟩ := by
  obtain ⟨-, heq⟩ | ⟨owed, low, high, value, hinside, -⟩ :=
    foldl_of_begins found String.utf8EncodeChar_ne_nil (List.prefix_refl (utf8EncodeChar c))
  · exact heq
  · -- a decoder inside the character would owe more of its bytes
    have hbytes := congrArg List.length (hinside.bytes c (List.prefix_refl _))
    rw [trail, List.length_append, List.length_cons] at hbytes
    omega

/-- The decoder takes an ill-formed piece as one, whether it ends or more bytes follow. -/
lemma finish_illFormed (h : IllFormed piece rest) (found : List (Option Char)) :
    ((piece ++ rest).foldl Decoder.step ⟨.start, found⟩).finish =
      (rest.foldl Decoder.step ⟨.start, none :: found⟩).finish := by
  rw [List.foldl_append]
  by_cases hbegins : Begins piece
  · obtain ⟨c, hc⟩ := hbegins
    obtain ⟨hall, -⟩ | ⟨owed, low, high, value, hinside, heq⟩ := foldl_of_begins found h.ne_nil hc
    · exact absurd (hall ▸ List.prefix_append piece rest) (h.noChar c)
    · rw [heq]
      cases rest with
      | nil => rfl
      | cons b rest =>
        have hrefused : ¬ (low ≤ b.toNat ∧ b.toNat ≤ high) := by
          intro hrange
          have hlonger : piece ++ [b] <+: piece ++ b :: rest := ⟨rest, by simp⟩
          have hle := h.longest _ hlonger (hinside.begins_concat_iff.2 hrange)
          rw [List.length_append, List.length_singleton] at hle
          exact absurd hle (Nat.not_succ_le_self _)
        rw [List.foldl_cons, List.foldl_cons, step_inside, if_neg hrefused]
        rfl
  · obtain hone | hbegins' := h.begins
    · obtain ⟨b, rfl⟩ := List.length_eq_one_iff.1 hone
      obtain ⟨-, hascii⟩ | ⟨owed, low, high, value, -, hinside⟩ | ⟨heq, -⟩ := first_cases found b
      · have hall := utf8EncodeChar_ascii hascii
        exact absurd (hall ▸ List.prefix_append [b] rest) (h.noChar (Char.ofNat b.toNat))
      · exact absurd hinside.begins hbegins
      · exact congrArg (fun d => (rest.foldl Decoder.step d).finish) heq
    · exact absurd hbegins' hbegins

/-! The decoder on all bytes. -/

/-- The pieces that the decoder finds after those found so far are those of the text. -/
lemma Spells.finish (h : Spells bytes text) (found : List (Option Char)) :
    (bytes.foldl Decoder.step ⟨.start, found⟩).finish.map (·.getD '\uFFFD') =
      found.reverse.map (·.getD '\uFFFD') ++ text := by
  induction h generalizing found with
  | nil => exact (List.append_nil _).symm
  | char c _ ih =>
    rw [List.foldl_append, foldl_utf8EncodeChar, ih]
    simp
  | illFormed hpiece _ ih =>
    rw [finish_illFormed hpiece, ih]
    simp

/-- Bytes that spell a text are decoded to it. -/
lemma Spells.decodeLossy (h : Spells bytes text) : decodeLossy bytes = text :=
  h.finish []

/-- Where no character stands there is an ill-formed piece. -/
lemma exists_illFormed (hne : bytes ≠ []) (h : ∀ c, ¬ utf8EncodeChar c <+: bytes) :
    ∃ piece rest, bytes = piece ++ rest ∧ IllFormed piece rest := by
  classical
  let longest := Nat.findGreatest (fun n => Begins (bytes.take n)) bytes.length
  have hpos : 0 < bytes.length := List.length_pos_of_ne_nil hne
  have hle : longest ≤ bytes.length := Nat.findGreatest_le bytes.length
  have hlength : (bytes.take (max longest 1)).length = max longest 1 :=
    List.length_take_of_le (max_le hle hpos)
  have hbytes : bytes.take (max longest 1) ++ bytes.drop (max longest 1) = bytes :=
    List.take_append_drop (max longest 1) bytes
  refine ⟨_, _, hbytes.symm, ?_, ?_, ?_, ?_⟩
  · rwa [hbytes]
  · intro hnil
    rw [hnil, List.length_nil] at hlength
    omega
  · by_cases hzero : longest = 0
    · left
      rw [hlength, hzero]
      rfl
    · right
      rw [max_eq_left (Nat.one_le_iff_ne_zero.2 hzero)]
      exact Nat.findGreatest_of_ne_zero rfl hzero
  · intro other hother hbegins
    rw [hbytes] at hother
    rw [List.prefix_iff_eq_take.1 hother] at hbegins
    have hmost : other.length ≤ longest := Nat.le_findGreatest hother.length_le hbegins
    rw [hlength]
    exact hmost.trans (le_max_left longest 1)

/-- Bytes start with a piece that spells one character. -/
lemma exists_piece (hne : bytes ≠ []) :
    ∃ piece rest c, bytes = piece ++ rest ∧ piece ≠ [] ∧
      ∀ text, Spells rest text → Spells (piece ++ rest) (c :: text) := by
  by_cases hchar : ∃ c, utf8EncodeChar c <+: bytes
  · obtain ⟨c, rest, rfl⟩ := hchar
    exact ⟨_, rest, c, rfl, String.utf8EncodeChar_ne_nil, fun _ => .char c⟩
  · obtain ⟨piece, rest, rfl, hpiece⟩ := exists_illFormed hne (not_exists.1 hchar)
    exact ⟨piece, rest, '\uFFFD', rfl, hpiece.ne_nil, fun _ => .illFormed hpiece⟩

/-- All bytes spell some text. -/
lemma exists_spells (bytes : List UInt8) : ∃ text, Spells bytes text := by
  induction hlength : bytes.length using Nat.strong_induction_on generalizing bytes with
  | _ n ih =>
    subst hlength
    by_cases hnil : bytes = []
    · subst hnil
      exact ⟨[], .nil⟩
    · obtain ⟨piece, rest, c, rfl, hne, hspells⟩ := exists_piece hnil
      have hshorter : rest.length < (piece ++ rest).length := by
        have hpos := List.length_pos_of_ne_nil hne
        rw [List.length_append]
        omega
      obtain ⟨text, htext⟩ := ih _ hshorter rest rfl
      exact ⟨c :: text, hspells text htext⟩

/-- Bytes spell the text that the lossy decoder gives, and no other. -/
lemma spells_iff : Spells bytes text ↔ decodeLossy bytes = text := by
  refine ⟨Spells.decodeLossy, ?_⟩
  intro h
  obtain ⟨text', htext'⟩ := exists_spells bytes
  rwa [← h, htext'.decodeLossy]

-- a character of which the last byte is missing, one of two bytes, and two bytes that begin none
example : decodeLossy [0xF0, 0x9F, 0x98, 0xC3, 0xA9, 0xC0, 0x80] =
    ['\uFFFD', 'é', '\uFFFD', '\uFFFD'] := by decide

/-- The encoded form of a text spells it. -/
lemma spells_encode (text : List Char) : Spells (encode text) text := by
  induction text with
  | nil => exact .nil
  | cons c text ih => exact .char c ih

/-! Well-formed bytes. -/

/-- The bytes of a text are decoded to its characters. -/
lemma foldl_encode (text : List Char) (found : List (Option Char)) :
    (encode text).foldl Decoder.step ⟨.start, found⟩ =
      ⟨.start, (text.map some).reverse ++ found⟩ := by
  induction text generalizing found with
  | nil => rfl
  | cons c text ih =>
    have hcons : encode (c :: text) = utf8EncodeChar c ++ encode text := rfl
    rw [hcons, List.foldl_append, foldl_utf8EncodeChar, ih, List.map_cons, List.reverse_cons,
      List.append_assoc, List.singleton_append]

/-- The bytes of a text are well-formed and decode to it. -/
lemma decode?_encode (text : List Char) : decode? (encode text) = some text := by
  have hpieces : pieces (encode text) = text.map some := by
    rw [pieces, foldl_encode, Decoder.finish, List.append_nil, List.reverse_reverse]
  rw [decode?, hpieces]
  simp [List.all_map, List.filterMap_map, Function.comp_def]

/-- The pieces that were found before are among those found in the end. -/
lemma Spells.mem_finish {found : List (Option Char)} {piece : Option Char} (h : Spells bytes text)
    (hpiece : piece ∈ found) : piece ∈ (bytes.foldl Decoder.step ⟨.start, found⟩).finish := by
  induction h generalizing found with
  | nil => exact List.mem_reverse.2 hpiece
  | char c _ ih =>
    rw [List.foldl_append, foldl_utf8EncodeChar]
    exact ih (List.mem_cons_of_mem _ hpiece)
  | illFormed hillFormed _ ih =>
    rw [finish_illFormed hillFormed]
    exact ih (List.mem_cons_of_mem _ hpiece)

/-- Bytes in which no ill-formed piece is found are those of a text. -/
lemma Spells.eq_encode {found : List (Option Char)} (h : Spells bytes text)
    (hall : none ∉ (bytes.foldl Decoder.step ⟨.start, found⟩).finish) : bytes = encode text := by
  induction h generalizing found with
  | nil => rfl
  | @char c rest text _ ih =>
    rw [List.foldl_append, foldl_utf8EncodeChar] at hall
    exact congrArg (utf8EncodeChar c ++ ·) (ih hall)
  | illFormed hillFormed hrest _ =>
    rw [finish_illFormed hillFormed] at hall
    exact absurd (hrest.mem_finish List.mem_cons_self) hall

/-- Strict decoding gives the text of which the bytes are those. -/
lemma decode?_eq_some_iff : decode? bytes = some text ↔ bytes = encode text := by
  refine ⟨?_, ?_⟩
  · intro h
    have hspells := spells_iff.2 (decodeLossy_of_decode? h)
    rw [decode?, Option.ite_none_right_eq_some] at h
    have hall : none ∉ pieces bytes :=
      fun hnone => Bool.false_ne_true (List.all_eq_true.1 h.1 none hnone)
    exact hspells.eq_encode hall
  · rintro rfl
    exact decode?_encode text

end Remap.Text.Utf8
