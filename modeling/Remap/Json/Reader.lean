import Remap.Number.Binary64
import Remap.Number.Text
import Remap.Text.Wide

/-!
# JSON values and how they are read

JSON values, and the reader that takes one from a text.
-/

namespace Remap

/-!
## JSON values

A JSON value keeps the fields of an object in the order in which they are written, and tells
integers, which have no bound, from other numbers. Its strings are wide texts, as an escape can
stand for half of a surrogate pair.
-/

/-- A JSON value. -/
inductive Json where
  | null
  | bool (value : Bool)
  | int (value : Int)
  | float (value : Binary64)
  | str (value : Wide)
  | arr (items : List Json)
  | obj (fields : List (Wide × Json))

namespace Json

/-- A text as a string. -/
def ofString (text : String) : Json :=
  str text

/-- The value of a field; of several fields with the same name the last one counts. -/
def field? (name : Wide) : Json → Option Json
  | obj fields => (fields.reverse.find? fun field => field.1 == name).map Prod.snd
  | _ => none

end Json

end Remap

namespace Remap.Json

/-!
## Reading JSON

The reader takes the standard grammar and, beside it, the three numbers `NaN`, `Infinity` and
`-Infinity`. A number with a fraction or an exponent is rounded to a binary number; any other is
an exact integer, whose length is limited. Two escapes that stand for a surrogate pair are one
character, and half of a pair stays in the string where it is not part of one. Control characters
inside strings, anything before or after the value but space, tab, line feed and carriage return,
and so also a byte order mark, are errors. Of several errors the first one from the left counts.
-/

/-- Why a text cannot be read. -/
inductive ReadError where
  /-- The text does not follow the grammar. -/
  | malformed
  /-- An integer has more digits than can be read. -/
  | integerTooLong (digits : Nat)
  deriving DecidableEq, Repr

/-- The text after the white space at its start. -/
def skipSpace (text : List Char) : List Char :=
  text.dropWhile fun c => c == ' ' || c == '\t' || c == '\n' || c == '\r'

/-- The number that four hexadecimal digits stand for. -/
def codeUnit? (a b c d : Char) : Option Nat := do
  let a ← Text.Hex.digitValue? a
  let b ← Text.Hex.digitValue? b
  let c ← Text.Hex.digitValue? c
  let d ← Text.Hex.digitValue? d
  return ((a * 16 + b) * 16 + c) * 16 + d

/-- The character that a one-letter escape stands for. -/
def escaped? : Char → Option Char
  | '"' => some '"'
  | '\\' => some '\\'
  | '/' => some '/'
  | 'b' => some '\x08'
  | 'f' => some '\x0C'
  | 'n' => some '\n'
  | 'r' => some '\r'
  | 't' => some '\t'
  | _ => none

/--
The rest of a string up to its closing quote, and what follows it: `found` holds the code points
read so far, the last one first.
-/
def readString (found : Wide) : List Char → Option (Wide × List Char)
  | [] => none
  | '\\' :: 'u' :: a :: b :: c :: d :: rest =>
    match codeUnit? a b c d with
    | none => none
    | some unit => readString (.ofUnit unit :: found) rest
  | '\\' :: e :: rest =>
    match escaped? e with
    | none => none
    | some c => readString (.char c :: found) rest
  | c :: rest =>
    if c = '"' then some (Wide.joinPairs found.reverse, rest)
    else if c.toNat < 0x20 then none
    else readString (.char c :: found) rest

/-- The value of a run of decimal digits. -/
def naturalOf (digits : List Char) : Nat :=
  Nat.ofDigitChars 10 digits 0

/-- A fraction or an exponent after the digits of a number: its digits and what follows. -/
def readDigits (text : List Char) : Option (List Char × List Char) :=
  let digits := text.takeWhile Char.isDigit
  if digits.isEmpty then none else some (digits, text.dropWhile Char.isDigit)

/-- The fraction of a number, if it has one. -/
def readFraction (text : List Char) : List Char × List Char :=
  match text with
  | '.' :: rest => (readDigits rest).getD ([], text)
  | _ => ([], text)

/-- The exponent of a number, if it has one. -/
def readExponent (text : List Char) : Option Int × List Char :=
  match text with
  | e :: rest =>
    if e = 'e' ∨ e = 'E' then
      let (negative, digits) :=
        match rest with
        | '-' :: digits => (true, digits)
        | '+' :: digits => (false, digits)
        | digits => (false, digits)
      match readDigits digits with
      | some (digits, rest) =>
        (some (if negative then -(naturalOf digits : Int) else naturalOf digits), rest)
      | none => (none, text)
    else (none, text)
  | [] => (none, text)

/-- An integer with the given sign and digits. -/
def integer (negative : Bool) (digits : List Char) : Except ReadError Json :=
  if maxDigits < digits.length then .error (.integerTooLong digits.length)
  else
    let n := naturalOf digits
    .ok (.int (if negative then -(n : Int) else n))

/-- A number without its sign. -/
def readUnsigned (negative : Bool) (text : List Char) : Except ReadError (Json × List Char) :=
  match readDigits text with
  | none => .error .malformed
  | some (all, _) =>
    let whole := if all.head? = some '0' then ['0'] else all
    let (fraction, rest) := readFraction (text.drop whole.length)
    let (exponent, rest) := readExponent rest
    if fraction.isEmpty ∧ exponent.isNone then (integer negative whole).map (·, rest)
    else
      let digits := naturalOf (whole ++ fraction)
      .ok (.float (.ofDecimal negative digits (exponent.getD 0 - fraction.length)), rest)

/-- The text after a word that it starts with. -/
def afterWord? (word : String) (text : List Char) : Option (List Char) :=
  if word.toList.isPrefixOf text then some (text.drop word.length) else none

/-- A word that stands for a value. -/
def readWord (word : String) (value : Json) (text : List Char) :
    Except ReadError (Json × List Char) :=
  match afterWord? word text with
  | some rest => .ok (value, rest)
  | none => .error .malformed

/-- A literal or a number. -/
def readScalar (text : List Char) : Except ReadError (Json × List Char) :=
  match text with
  | 'n' :: _ => readWord "null" .null text
  | 't' :: _ => readWord "true" (.bool true) text
  | 'f' :: _ => readWord "false" (.bool false) text
  | 'N' :: _ => readWord "NaN" (.float .nan) text
  | 'I' :: _ => readWord "Infinity" (.float (.infinite false)) text
  | '-' :: rest =>
    match afterWord? "Infinity" rest with
    | some rest => .ok (.float (.infinite true), rest)
    | none => readUnsigned true rest
  | _ => readUnsigned false text

mutual

/-- A value and what follows it. The fuel bounds the number of steps. -/
def readValue : Nat → List Char → Except ReadError (Json × List Char)
  | 0, _ => .error .malformed
  | fuel + 1, text =>
    match skipSpace text with
    | '"' :: rest =>
      match readString [] rest with
      | none => .error .malformed
      | some (value, rest) => .ok (.str value, rest)
    | '[' :: rest =>
      match skipSpace rest with
      | ']' :: rest => .ok (.arr [], rest)
      | rest => readItems fuel [] rest
    | '{' :: rest =>
      match skipSpace rest with
      | '}' :: rest => .ok (.obj [], rest)
      | rest => readFields fuel [] rest
    | text => readScalar text

/-- The items of an array from one of them on, after those found so far, the last one first. -/
def readItems : Nat → List Json → List Char → Except ReadError (Json × List Char)
  | 0, _, _ => .error .malformed
  | fuel + 1, found, text =>
    match readValue fuel text with
    | .error error => .error error
    | .ok (value, rest) =>
      match skipSpace rest with
      | ',' :: rest => readItems fuel (value :: found) rest
      | ']' :: rest => .ok (.arr (value :: found).reverse, rest)
      | _ => .error .malformed

/-- The fields of an object from one of them on, after those found so far, the last one first. -/
def readFields : Nat → List (Wide × Json) → List Char → Except ReadError (Json × List Char)
  | 0, _, _ => .error .malformed
  | fuel + 1, found, text =>
    match skipSpace text with
    | '"' :: rest =>
      match readString [] rest with
      | none => .error .malformed
      | some (name, rest) =>
        match skipSpace rest with
        | ':' :: rest =>
          match readValue fuel rest with
          | .error error => .error error
          | .ok (value, rest) =>
            let found := (name, value) :: found
            match skipSpace rest with
            | ',' :: rest => readFields fuel found rest
            | '}' :: rest => .ok (.obj found.reverse, rest)
            | _ => .error .malformed
        | _ => .error .malformed
    | _ => .error .malformed

end

/-- The value that a text stands for. Two steps for each character are always enough. -/
def ofText (text : List Char) : Except ReadError Json :=
  match readValue (2 * text.length + 2) text with
  | .error error => .error error
  | .ok (value, rest) => if (skipSpace rest).isEmpty then .ok value else .error .malformed

end Remap.Json
