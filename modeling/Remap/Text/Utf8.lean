/-!
# UTF-8

Texts as bytes. The decoder runs over the bytes with one state between two of them: which bytes
may come next in the character that has begun. A byte that may not come next ends an ill-formed
piece and is read again as a first byte, so every ill-formed piece is a longest one. Decoding is
strict (`decode?`) or puts U+FFFD in place of each ill-formed piece (`decodeLossy`).
-/

namespace Remap.Text.Utf8

/-- The bytes of a text. -/
def encode (text : List Char) : List UInt8 :=
  text.flatMap String.utf8EncodeChar

/-- Where a decoder stands between two bytes. -/
inductive State where
  /-- Between two characters. -/
  | start
  /--
  Inside a character: `owed` more bytes, the next of them from `low` to `high`, after bytes that
  make up `value` so far.
  -/
  | inside (owed low high value : Nat)

/-- A decoder with the pieces found so far, the last one first; `none` is an ill-formed piece. -/
structure Decoder where
  state : State
  pieces : List (Option Char)

/-- The decoder after the first byte of a piece. -/
def Decoder.first (pieces : List (Option Char)) (b : Nat) : Decoder :=
  if b ≤ 0x7F then ⟨.start, some (Char.ofNat b) :: pieces⟩
  else if 0xC2 ≤ b ∧ b ≤ 0xDF then ⟨.inside 1 0x80 0xBF (b - 0xC0), pieces⟩
  else if b = 0xE0 then ⟨.inside 2 0xA0 0xBF 0, pieces⟩
  else if b = 0xED then ⟨.inside 2 0x80 0x9F 0xD, pieces⟩
  else if 0xE1 ≤ b ∧ b ≤ 0xEF then ⟨.inside 2 0x80 0xBF (b - 0xE0), pieces⟩
  else if b = 0xF0 then ⟨.inside 3 0x90 0xBF 0, pieces⟩
  else if b = 0xF4 then ⟨.inside 3 0x80 0x8F 4, pieces⟩
  else if 0xF1 ≤ b ∧ b ≤ 0xF3 then ⟨.inside 3 0x80 0xBF (b - 0xF0), pieces⟩
  else ⟨.start, none :: pieces⟩

/-- The decoder after one more byte. -/
def Decoder.step (d : Decoder) (byte : UInt8) : Decoder :=
  let b := byte.toNat
  match d.state with
  | .start => first d.pieces b
  | .inside owed low high value =>
    if low ≤ b ∧ b ≤ high then
      let value := value * 64 + (b - 0x80)
      if owed ≤ 1 then ⟨.start, some (Char.ofNat value) :: d.pieces⟩
      else ⟨.inside (owed - 1) 0x80 0xBF value, d.pieces⟩
    else first (none :: d.pieces) b

/-- The pieces in order; a character that is not complete at the end is ill-formed. -/
def Decoder.finish (d : Decoder) : List (Option Char) :=
  match d.state with
  | .start => d.pieces.reverse
  | .inside .. => (none :: d.pieces).reverse

/-- The characters and ill-formed pieces of a byte sequence. -/
def pieces (bytes : List UInt8) : List (Option Char) :=
  (bytes.foldl Decoder.step ⟨.start, []⟩).finish

/-- The text with these bytes, if they are well-formed. -/
def decode? (bytes : List UInt8) : Option (List Char) :=
  let found := pieces bytes
  if found.all Option.isSome then some (found.filterMap id) else none

/-- The text with these bytes, with U+FFFD for each ill-formed piece. -/
def decodeLossy (bytes : List UInt8) : List Char :=
  (pieces bytes).map fun piece => piece.getD '\uFFFD'

/-- Strict and lossy decoding agree where both are defined. -/
theorem decodeLossy_of_decode? {bytes : List UInt8} {text : List Char}
    (h : decode? bytes = some text) : decodeLossy bytes = text := by
  simp only [decode?, Option.ite_none_right_eq_some, Option.some.injEq] at h
  obtain ⟨hall, rfl⟩ := h
  simp only [decodeLossy]
  generalize pieces bytes = found at hall
  induction found with
  | nil => rfl
  | cons piece rest ih =>
    cases piece with
    | none => simp at hall
    | some c => simpa using ih (by simpa using hall)

end Remap.Text.Utf8
