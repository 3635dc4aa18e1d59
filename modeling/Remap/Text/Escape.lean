import Remap.Text.Class
import Remap.Text.Utf8

/-!
# Escapes

Texts written with escapes for some of their characters: hexadecimal digits, the percent encoding of
a link, and quoted texts in messages.
-/

namespace Remap.Text.Hex

/-!
## Hexadecimal numbers

Numbers in base sixteen, written with lower-case digits in a fixed width and read one digit at a
time. `digitValue?_digit` says that a digit reads back as what it was written for.
-/

/-- The digit of a number below sixteen. -/
def digit (n : Nat) : Char :=
  Nat.digitChar n

/-- The last `width` digits of a number, most significant first. -/
def digits : Nat → Nat → List Char
  | 0, _ => []
  | width + 1, n => digits width (n / 16) ++ [digit (n % 16)]

/-- The value of a digit, in lower or in upper case. -/
def digitValue? (c : Char) : Option Nat :=
  if '0' ≤ c ∧ c ≤ '9' then some (c.toNat - '0'.toNat)
  else if 'a' ≤ c ∧ c ≤ 'f' then some (c.toNat - 'a'.toNat + 10)
  else if 'A' ≤ c ∧ c ≤ 'F' then some (c.toNat - 'A'.toNat + 10)
  else none

/-- A digit is read back as its number. -/
theorem digitValue?_digit {n : Nat} (h : n < 16) : digitValue? (digit n) = some n := by
  revert n
  decide

/-- As many digits are written as asked for. -/
@[simp] theorem length_digits (width n : Nat) : (digits width n).length = width := by
  induction width generalizing n with
  | zero => rfl
  | succ width ih => simp [digits, ih]

end Remap.Text.Hex

namespace Remap.Text.Percent

/-!
## Percent encoding

A text in the form in which it can stand in a query of a link: the unreserved bytes of its UTF-8
form stand for themselves, and each other byte is a percent sign with two upper-case hexadecimal
digits.
-/

/-- A character that needs no encoding: an ASCII letter or digit, or one of `_`, `.`, `-`, `~`. -/
def isUnreserved (c : Char) : Bool :=
  c.isAlphanum || c == '_' || c == '.' || c == '-' || c == '~'

/-- One byte in encoded form. -/
def encodeByte (byte : UInt8) : List Char :=
  let c := Char.ofNat byte.toNat
  if isUnreserved c then [c] else '%' :: (Hex.digits 2 byte.toNat).map Char.toUpper

/-- The encoded form of a text. -/
def encode (text : List Char) : List Char :=
  (Utf8.encode text).flatMap encodeByte

end Remap.Text.Percent

namespace Remap.Text.Quoted

/-!
## Quoted texts

A text between quotes, as messages show it. The quotes are single ones, or double ones when the
text holds a single quote and no double one. The quote and the backslash are escaped, line feed,
carriage return and tab have escapes of their own, and any other character that is not printable
is written by its number in hexadecimal.
-/

/-- The quote to put around a text. -/
def quote (text : List Char) : Char :=
  if text.contains '\'' && !text.contains '"' then '"' else '\''

/-- The character as it stands between two of the quotes. -/
def escape (quote c : Char) : List Char :=
  if c = quote ∨ c = '\\' then ['\\', c]
  else if c = '\n' then ['\\', 'n']
  else if c = '\r' then ['\\', 'r']
  else if c = '\t' then ['\\', 't']
  else if isPrintable c then [c]
  else if c.toNat < 0x100 then '\\' :: 'x' :: Hex.digits 2 c.toNat
  else if c.toNat < 0x10000 then '\\' :: 'u' :: Hex.digits 4 c.toNat
  else '\\' :: 'U' :: Hex.digits 8 c.toNat

/-- The text between quotes. -/
def encode (text : List Char) : List Char :=
  quote text :: text.flatMap (escape (quote text)) ++ [quote text]

end Remap.Text.Quoted

namespace Remap.Text

/-- The text between quotes, as a message shows it. -/
def quoted (text : String) : String :=
  String.ofList (Quoted.encode text.toList)

end Remap.Text
