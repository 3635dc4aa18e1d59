import Remap.Json.Reader
import Remap.Number.Text
import Remap.Text.Escape

/-!
# Writing JSON

Values are written in ASCII, every other character and every half of a surrogate pair as an escape
of its UTF-16 code units, either on one line or with each item and field on a line of its own,
indented by two spaces a level.
-/

namespace Remap.Json

/-- The escape of a UTF-16 code unit. -/
def unitEscape (code : Nat) : List Char :=
  '\\' :: 'u' :: Text.Hex.digits 4 code

/-- A character as it stands inside a string. -/
def escape (c : Char) : List Char :=
  if c = '"' ∨ c = '\\' then ['\\', c]
  else if c = '\n' then ['\\', 'n']
  else if c = '\r' then ['\\', 'r']
  else if c = '\t' then ['\\', 't']
  else if c = '\x08' then ['\\', 'b']
  else if c = '\x0C' then ['\\', 'f']
  else if 0x20 ≤ c.toNat ∧ c.toNat ≤ 0x7E then [c]
  else if c.toNat < 0x10000 then unitEscape c.toNat
  else
    let above := c.toNat - 0x10000
    unitEscape (0xD800 + above / 0x400) ++ unitEscape (0xDC00 + above % 0x400)

/-- A code point as it stands inside a string. -/
def escapePoint : CodePoint → List Char
  | .char c => escape c
  | .surrogate s => unitEscape s.code

/-- A string between quotes. -/
def quote (value : Wide) : String :=
  String.ofList ('"' :: value.flatMap escapePoint ++ ['"'])

/-- A number. -/
def floatText : Binary64 → String
  | .nan => "NaN"
  | .infinite negative => if negative then "-Infinity" else "Infinity"
  | number => number.text

/-- What stands between the brackets of an array or an object, and between its parts. -/
structure Layout where
  /-- After the opening bracket and after each comma, at the given depth of what follows. -/
  lineBreak : Nat → String
  /-- Between the name of a field and its value. -/
  colon : String

/-- Everything on one line. -/
def Layout.oneLine : Layout where
  lineBreak _ := ""
  colon := ":"

/-- Each part on a line of its own, two spaces for each level. -/
def Layout.indented : Layout where
  lineBreak depth := "\n" ++ String.ofList (List.replicate (2 * depth) ' ')
  colon := ": "

/-- The parts of an array or an object between its brackets. -/
def enclose (layout : Layout) (depth : Nat) (opening closing : String)
    (parts : List String) : String :=
  if parts.isEmpty then opening ++ closing
  else
    opening ++ layout.lineBreak (depth + 1) ++
      ("," ++ layout.lineBreak (depth + 1)).intercalate parts ++ layout.lineBreak depth ++ closing

mutual

/-- A value at a depth of nesting. -/
def render (layout : Layout) (depth : Nat) : Json → String
  | null => "null"
  | bool value => if value then "true" else "false"
  | int value => toString value
  | float value => floatText value
  | str value => quote value
  | arr items => enclose layout depth "[" "]" (renderItems layout (depth + 1) items)
  | obj fields => enclose layout depth "\x7b" "\x7d" (renderFields layout (depth + 1) fields)

/-- The items of an array. -/
def renderItems (layout : Layout) (depth : Nat) : List Json → List String
  | [] => []
  | item :: rest => render layout depth item :: renderItems layout depth rest

/-- The fields of an object. -/
def renderFields (layout : Layout) (depth : Nat) : List (Wide × Json) → List String
  | [] => []
  | (name, value) :: rest =>
    (quote name ++ layout.colon ++ render layout depth value) :: renderFields layout depth rest

end

/-- The value on one line. -/
def compact (value : Json) : String :=
  render .oneLine 0 value

/-- The value with each part on a line of its own. -/
def pretty (value : Json) : String :=
  render .indented 0 value

end Remap.Json
