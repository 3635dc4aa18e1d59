import Remap.Json.Reader
import Remap.Text.Class

/-!
# Lenient reading of fields

Settings and function descriptions are read leniently: a number may be written as a string, a
truth value as a word or as 0 or 1, and a whole number as a float that has no fraction. A string
with half of a surrogate pair in it is no number and no word. What a field cannot be read as is
`none`, which makes the value that holds it unreadable.
-/

namespace Remap.Json

/-- A wide text: a string and nothing else. -/
def asWide? : Json → Option Wide
  | str value => some value
  | _ => none

/-- A text: a string, with U+FFFD for each half of a surrogate pair. -/
def asString? (value : Json) : Option String :=
  value.asWide?.map Wide.shown

/-- A list: an array and nothing else. -/
def asList? : Json → Option (List Json)
  | arr items => some items
  | _ => none

/-- A list of values that are each read in the same way. -/
def asListOf? {α : Type} (value : Json) (read : Json → Option α) : Option (List α) :=
  value.asList?.bind fun items => items.mapM read

/-- A value that may be null. -/
def asNullable? {α : Type} (value : Json) (read : Json → Option α) : Option (Option α) :=
  match value with
  | null => some none
  | value => (read value).map some

/-- The words for true. -/
def trueWords : List String :=
  ["1", "on", "t", "true", "y", "yes"]

/-- The words for false. -/
def falseWords : List String :=
  ["0", "off", "f", "false", "n", "no"]

/-- A word for a truth value, in upper or in lower case. -/
def boolOfWord? (word : String) : Option Bool :=
  let word := String.ofList (word.toList.map Char.toLower)
  if trueWords.contains word then some true
  else if falseWords.contains word then some false
  else none

/-- A truth value. -/
def asBool? : Json → Option Bool
  | bool value => some value
  | int value => if value = 0 then some false else if value = 1 then some true else none
  | float value =>
    match value.toInt? with
    | some 0 => some false
    | some 1 => some true
    | _ => none
  | str value => value.text?.bind boolOfWord?
  | _ => none

/-- White space around a numeral: a blank other than the four information separators. -/
def isMargin (c : Char) : Bool :=
  Text.isBlank c && !(0x1C ≤ c.toNat && c.toNat ≤ 0x1F)

/-- A numeral without the white space around it. -/
def numeral (text : String) : List Char :=
  ((text.toList.dropWhile isMargin).reverse.dropWhile isMargin).reverse

/-- The sign at the start of a numeral and what follows it. -/
def readSign (text : List Char) : Bool × List Char :=
  match text with
  | '-' :: rest => (true, rest)
  | '+' :: rest => (false, rest)
  | _ => (false, text)

/--
The characters of a numeral without the underscores that group them. An underscore stands between
two other characters.
-/
def ungroup? (text : List Char) : Option (List Char) :=
  if text.head? = some '_' ∨ text.getLast? = some '_' ∨ ('_', '_') ∈ text.zip text.tail then none
  else some (text.filter (· ≠ '_'))

/--
A numeral without the zeros at its start and the underscores among them. The last one of them stays
where nothing follows or a fraction does.
-/
def dropZeros (text : List Char) : List Char :=
  if text.head? = some '0' then
    let zeros := text.takeWhile fun c => c == '0' || c == '_'
    let rest := text.drop zeros.length
    if rest = [] ∨ rest.head? = some '.' then zeros.getLast?.toList ++ rest else rest
  else text

/-- A numeral without a fraction that holds nothing but zeros. -/
def dropZeroFraction (text : List Char) : List Char :=
  match text.dropWhile (· ≠ '.') with
  | '.' :: zeros =>
    if zeros ≠ [] ∧ zeros.all (· == '0') then text.takeWhile (· ≠ '.') else text
  | _ => text

/--
A whole number written out: between blanks a sign, zeros, and then an integer as in JSON, with
underscores in it and a fraction of zeros after it. A digit stands after the sign, and a minus
counts towards the length.
-/
def intOfNumeral? (text : String) : Option Int := do
  let (negative, rest) := readSign (numeral text)
  if !rest.head?.any Char.isDigit then none
  let digits ← ungroup? (dropZeroFraction (dropZeros rest))
  let text := if negative then '-' :: digits else digits
  match readScalar text with
  | .ok (.int value, []) => if text.length ≤ maxDigits then return value else none
  | _ => none

/-- A whole number. -/
def asInt? : Json → Option Int
  | int value => some value
  | bool value => some (if value then 1 else 0)
  | float value => value.toInt?
  | str value => value.text?.bind intOfNumeral?
  | _ => none

/-- The numbers that are written as words, in upper or in lower case. -/
def numberOfWord? (negative : Bool) (word : List Char) : Option Binary64 :=
  let word := String.ofList (word.map Char.toLower)
  if word = "inf" ∨ word = "infinity" then some (.infinite negative)
  else if word = "nan" then some .nan
  else none

/-- A number written out: a sign, and digits with a point and an exponent, or a word. -/
def numberOfDigits? (text : List Char) : Option Binary64 :=
  let (negative, rest) := readSign text
  let whole := rest.takeWhile Char.isDigit
  let afterWhole := rest.dropWhile Char.isDigit
  let (fraction, afterFraction) :=
    match afterWhole with
    | '.' :: more => (more.takeWhile Char.isDigit, more.dropWhile Char.isDigit)
    | _ => ([], afterWhole)
  if whole.isEmpty ∧ fraction.isEmpty then numberOfWord? negative rest
  else
    let (exponent, afterExponent) := readExponent afterFraction
    if afterExponent.isEmpty then
      some (.ofDecimal negative (naturalOf (whole ++ fraction))
        (exponent.getD 0 - fraction.length))
    else none

/-- A number written out, either between blanks or with underscores in it. -/
def numberOfNumeral? (text : String) : Option Binary64 :=
  if text.toList.contains '_' then (ungroup? text.toList).bind numberOfDigits?
  else numberOfDigits? (numeral text)

/-- A number. -/
def asNumber? : Json → Option Binary64
  | int value => Binary64.ofInt? value
  | bool value => some (.finite false (if value then Binary64.unit else 0))
  | float value => some value
  | str value => value.text?.bind numberOfNumeral?
  | _ => none

/-- A field that must be there. -/
def required? {α : Type} (value : Json) (name : Wide) (read : Json → Option α) : Option α :=
  (value.field? name).bind read

/-- A field that may be absent, with what it is then. -/
def optional? {α : Type} (value : Json) (name : Wide) (absent : α) (read : Json → Option α) :
    Option α :=
  match value.field? name with
  | none => some absent
  | some field => read field

end Remap.Json
