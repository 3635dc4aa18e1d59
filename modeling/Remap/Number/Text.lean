import Remap.Number.Binary64

/-!
# Numbers as texts

How long an integer may be where it is read or written, and how a binary number is written.
-/

namespace Remap

/-!
## The length of integers

An integer is read or written in decimal digits, up to a limit on their number.
-/

/-- The largest number of digits with which an integer is read or written. -/
def maxDigits : Nat := 4300

/-- The integer has no more digits than can be written. -/
def isWritable (n : Int) : Bool :=
  n.natAbs < Nat.pow 10 maxDigits

/-- The message about an integer that is too long, with the number of its digits if known. -/
def tooLongMessage (digits : Option Nat) : String :=
  "Exceeds the limit (" ++ toString maxDigits ++ " digits) for integer string conversion" ++
    (match digits with
    | some count => ": value has " ++ toString count ++ " digits"
    | none => "") ++
    "; use sys.set_int_max_str_digits() to increase the limit"

end Remap

namespace Remap.Binary64

/-!
## Shortest decimal text

A finite number is written with the fewest digits that read back as the same number, and among
those with the digits nearest to it. The digits stand in positional notation, with at least one
digit after the point, when the exponent of the first digit is from -4 to 15; otherwise in
scientific notation with a signed exponent of at least two digits.
-/

/-- Decimal digits and the power of ten by which they are multiplied. -/
structure Decimal where
  digits : Nat
  exponent : Int

/-- A number of ticks as a fraction of `10 ^ exponent`: numerator and denominator. -/
def scaled (ticks : Nat) : Int → Nat × Nat
  | .ofNat up => (ticks, unit * Nat.pow 10 up)
  | .negSucc down => (ticks * Nat.pow 10 (down + 1), unit)

/-- The power of ten of the first digit of a positive number of ticks. -/
def leadingExponent (ticks : Nat) : Int :=
  if unit ≤ ticks then ((Nat.toDigits 10 (ticks / unit)).length : Int) - 1
  else
    match (List.range 330).find? fun zeros => unit ≤ ticks * Nat.pow 10 (zeros + 1) with
    | some zeros => -((zeros : Int) + 1)
    | none => -330

/-- The decimal on the grid of `10 ^ exponent` that is nearest to the ticks and reads back. -/
def onGrid? (ticks : Nat) (exponent : Int) : Option Decimal :=
  let (num, den) := scaled ticks exponent
  let below := num / den
  let readsBack (digits : Nat) : Bool := ofDecimal false digits exponent = finite false ticks
  let nearest := roundDiv num den
  if readsBack nearest then some ⟨nearest, exponent⟩
  else if readsBack below then some ⟨below, exponent⟩
  else if readsBack (below + 1) then some ⟨below + 1, exponent⟩
  else none

/-- The shortest decimal of a positive number of ticks; seventeen digits are always enough. -/
def shortest (ticks : Nat) : Decimal :=
  let leading := leadingExponent ticks
  match (List.range 17).findSome? fun (more : Nat) => onGrid? ticks (leading - more) with
  | some decimal => decimal
  | none => ⟨ticks, 0⟩

/-- The digits without the zeros at their end. -/
def significant (digits : Nat) : List Char :=
  ((Nat.toDigits 10 digits).reverse.dropWhile (· == '0')).reverse

/-- Digits and the exponent of the first one in positional notation. -/
def positional (digits : List Char) (leading : Int) : List Char :=
  match leading with
  | .ofNat whole =>
    let padded := digits ++ List.replicate (whole + 1 - digits.length) '0'
    let fraction := padded.drop (whole + 1)
    padded.take (whole + 1) ++ '.' :: (if fraction.isEmpty then ['0'] else fraction)
  | .negSucc zeros => '0' :: '.' :: List.replicate zeros '0' ++ digits

/-- Digits and the exponent of the first one in scientific notation. -/
def scientific (digits : List Char) (leading : Int) : List Char :=
  let exponent := Nat.toDigits 10 leading.natAbs
  let mantissa := digits.take 1 ++ (if digits.length ≤ 1 then [] else '.' :: digits.drop 1)
  mantissa ++ 'e' :: (if leading < 0 then '-' else '+') ::
    List.replicate (2 - exponent.length) '0' ++ exponent

/-- The text of a number of ticks. -/
def ticksText (ticks : Nat) : List Char :=
  if ticks = 0 then "0.0".toList
  else
    let decimal := shortest ticks
    let leading := decimal.exponent + (Nat.toDigits 10 decimal.digits).length - 1
    let digits := significant decimal.digits
    if -4 ≤ leading ∧ leading < 16 then positional digits leading
    else scientific digits leading

/-- The shortest text that reads back as the number. -/
def text : Binary64 → String
  | finite negative ticks => String.ofList ((if negative then ['-'] else []) ++ ticksText ticks)
  | infinite negative => if negative then "-inf" else "inf"
  | nan => "nan"

end Remap.Binary64
