import Remap.Text.Escape
import Remap.Text.Utf8

/-!
# Wide texts

Half of a surrogate pair is no character, but a string of JSON can hold one, and so can a path,
where it stands for a byte that is not part of a character. A wide text is a list of code points:
characters and such halves. Two halves that make up a pair are joined when a string is read, and a
path is brought into bytes and back by a form of UTF-8 in which the halves from U+DC80 to U+DCFF
stand for the bytes from 128 on.
-/

namespace Remap

/-- Half of a surrogate pair, by its distance from U+D800. -/
structure Surrogate where
  offset : Fin 0x800
  deriving DecidableEq, Repr

namespace Surrogate

/-- The code unit of a half. -/
def code (s : Surrogate) : Nat :=
  0xD800 + s.offset

/-- The half stands first in a pair. -/
def isHigh (s : Surrogate) : Bool :=
  s.offset.val < 0x400

/-- The character that a first and a second half make up. -/
def pairChar (high low : Surrogate) : Char :=
  Char.ofNat (0x10000 + high.offset * 0x400 + (low.offset - 0x400))

/-- The half that stands for a byte in a path. -/
def ofByte (byte : UInt8) : Surrogate :=
  ⟨⟨0x400 + byte.toNat, Nat.lt_trans (Nat.add_lt_add_left byte.toNat_lt 0x400) (by decide)⟩⟩

/-- The byte that a half stands for in a path. -/
def byte? (s : Surrogate) : Option UInt8 :=
  if 0xDC80 ≤ s.code ∧ s.code ≤ 0xDCFF then some (UInt8.ofNat (s.code - 0xDC00)) else none

end Surrogate

/-- A character or half of a surrogate pair. -/
inductive CodePoint where
  | char (c : Char)
  | surrogate (s : Surrogate)
  deriving DecidableEq, Repr

namespace CodePoint

/-- The code point that a UTF-16 code unit stands for on its own. -/
def ofUnit (unit : Nat) : CodePoint :=
  if h : 0xD800 ≤ unit ∧ unit ≤ 0xDFFF then .surrogate ⟨⟨unit - 0xD800, by omega⟩⟩
  else .char (Char.ofNat unit)

/-- The character, if the code point is one. -/
def char? : CodePoint → Option Char
  | char c => some c
  | surrogate _ => none

/-- The character, with U+FFFD for half of a pair. -/
def shown (point : CodePoint) : Char :=
  point.char?.getD '\uFFFD'

end CodePoint

/-- A text that can hold halves of surrogate pairs. -/
abbrev Wide := List CodePoint

namespace Wide

/-- A text as a wide one. -/
def ofString (text : String) : Wide :=
  text.toList.map .char

instance : Coe String Wide := ⟨ofString⟩

/-- The text, if there is no half of a pair in it. -/
def text? (wide : Wide) : Option String :=
  (wide.mapM CodePoint.char?).map String.ofList

/-- The text with U+FFFD for each half of a pair. -/
def shown (wide : Wide) : String :=
  String.ofList (wide.map CodePoint.shown)

/-- Joins each first half to the second half that directly follows it. -/
def joinPairs : Wide → Wide
  | .surrogate high :: .surrogate low :: rest =>
    if high.isHigh && !low.isHigh then .char (high.pairChar low) :: joinPairs rest
    else .surrogate high :: joinPairs (.surrogate low :: rest)
  | point :: rest => point :: joinPairs rest
  | [] => []

/-! Paths as bytes. -/

/-- Halves of pairs that stand for no byte: where the first one is, and the run of halves there. -/
structure Unencodable where
  position : Nat
  run : List Surrogate
  deriving DecidableEq, Repr

/-- The message about halves that stand for no byte. -/
def Unencodable.message (fault : Unencodable) : String :=
  let first := toString fault.position
  let place :=
    match fault.run with
    | [s] => " '\\u" ++ String.ofList (Text.Hex.digits 4 s.code) ++ "' in position " ++ first
    | run => "s in position " ++ first ++ "-" ++ toString (fault.position + run.length - 1)
  "'utf-8' codec can't encode character" ++ place ++ ": surrogates not allowed"

/-- The halves of pairs at the start of a text. -/
def surrogates : Wide → List Surrogate
  | .surrogate s :: rest => s :: surrogates rest
  | _ => []

/-- The bytes of the rest of a path from a position on. -/
def encodeFrom (position : Nat) : Wide → Except Unencodable (List UInt8)
  | [] => .ok []
  | .char c :: rest => (encodeFrom (position + 1) rest).map (String.utf8EncodeChar c ++ ·)
  | .surrogate s :: rest =>
    match s.byte? with
    | some byte => (encodeFrom (position + 1) rest).map (byte :: ·)
    | none => .error ⟨position, s :: surrogates rest⟩

/-- The bytes of a path. -/
def encode (path : Wide) : Except Unencodable (List UInt8) :=
  encodeFrom 0 path

/-- The character whose bytes stand first. -/
def firstChar? (bytes : List UInt8) : Option Char :=
  [1, 2, 3, 4].findSome? fun count =>
    match Text.Utf8.decode? (bytes.take count) with
    | some [c] => some c
    | _ => none

/-- The path with these bytes, without the first ones, which belong to a character before. -/
def decodeAfter : Nat → List UInt8 → Wide
  | _, [] => []
  | skipped + 1, _ :: rest => decodeAfter skipped rest
  | 0, byte :: rest =>
    match firstChar? (byte :: rest) with
    | some c => .char c :: decodeAfter (c.utf8Size - 1) rest
    | none => .surrogate (.ofByte byte) :: decodeAfter 0 rest

/-- The path with these bytes. -/
def decode (bytes : List UInt8) : Wide :=
  decodeAfter 0 bytes

end Wide

end Remap
