import Remap.Text.Class
import Remap.Text.Line
import Remap.Text.Search

/-!
# What is found on a line

Calls of functions, bindings of a result and an error, and references to fields of the event: each
is a reader, and what it finds on a line is what a search for it finds.
-/

namespace Remap

/-!
## Call sites

A call site is an identifier of ASCII characters at a word boundary, a bang if the call aborts on
failure, blanks, and an opening parenthesis. Sites are found line by line.
-/

/-- The start of a call on a line. -/
structure CallSite where
  name : String
  /-- The name is followed by a bang. -/
  abort : Bool
  /-- The column of the first character of the name. -/
  start : Nat
  /-- The column just past the opening parenthesis. -/
  stop : Nat
  deriving DecidableEq, Repr

namespace CallSite

open Text

/-- The column just past the name. -/
def nameStop (site : CallSite) : Nat :=
  site.start + site.name.length

/-- Reads a call site: how many characters it takes, the name, and whether the call aborts. -/
def read : Reader (String × Bool)
  | _, [] => none
  | before, c :: rest =>
    if isIdentStart c && !before.any isWord then
      let name := (c :: rest).takeWhile isIdentChar
      let afterName := (c :: rest).dropWhile isIdentChar
      let abort := afterName.head? == some '!'
      let afterBang := if abort then afterName.tail else afterName
      let blanks := leadingBlanks afterBang
      if (trimStart afterBang).head? == some '(' then
        some (name.length + abort.toNat + blanks + 1, (String.ofList name, abort))
      else none
    else none

/-- The call site at a match of the reader. -/
def ofMatch (found : Match (String × Bool)) : CallSite :=
  ⟨found.value.1, found.value.2, found.start, found.stop⟩

/-- The call sites on a line, from left to right. -/
def ofLine (line : List Char) : List CallSite :=
  (findAll read line).map ofMatch

end CallSite

end Remap

namespace Remap.Binding

/-!
## Bindings of a result and an error

A binding is two identifiers with a comma between them and an equals sign after them that does not
begin a comparison, as in `result, err =`. Blanks may stand around each part. The first identifier
starts at a word boundary; both start with an ASCII letter or an underscore and go on with any
word characters.
-/

open Text

/-- The identifier at the start of a text. -/
def identifier? (text : List Char) : Option (List Char × List Char) :=
  if text.head?.any isIdentStart then some (text.takeWhile isWord, text.dropWhile isWord)
  else none

/-- What follows a character after blanks. -/
def afterSign? (sign : Char) (text : List Char) : Option (List Char) :=
  match trimStart text with
  | c :: rest => if c = sign then some rest else none
  | [] => none

/-- What follows a binding at the start of a text. -/
def rest? (text : List Char) : Option (List Char) := do
  let (_, afterFirst) ← identifier? text
  let afterComma ← afterSign? ',' afterFirst
  let (_, afterSecond) ← identifier? (trimStart afterComma)
  let afterEquals ← afterSign? '=' afterSecond
  if afterEquals.head? = some '=' then none else some afterEquals

/-- Reads a binding: how many characters it takes. -/
def read : Reader Unit := fun before text =>
  if text.head?.any isIdentStart && !before.any isWord then
    (rest? text).map fun rest => (text.length - rest.length, ())
  else none

/-- The columns just past the bindings on a line, from left to right. -/
def stops (line : List Char) : List Nat :=
  (findAll read line).map (·.stop)

/-- A binding ends at or before a column of the line. -/
def endsBefore (line : List Char) (column : Int) : Bool :=
  (stops line).any fun stop => (stop : Int) ≤ column

end Remap.Binding

namespace Remap.FieldPath

/-!
## Fields of the event

A reference to a field is a point and an identifier, and a path is one reference or several
without anything between them. Identifiers are made of ASCII characters.
-/

open Text

/-- The identifier at the start of a text, which is empty if there is none. -/
def identifier (text : List Char) : List Char :=
  if text.head?.any isIdentStart then text.takeWhile isIdentChar else []

/-- Reads one reference: how many characters it takes, and the name of the field. -/
def readName : Reader (List Char)
  | _, '.' :: rest =>
    let name := identifier rest
    if name.isEmpty then none else some (name.length + 1, name)
  | _, _ => none

/-- The names of the fields referenced in a text, in order and with repetitions. -/
def names (text : List Char) : List String :=
  (findAll readName text).map fun found => String.ofList found.value

/-- A character of a path. -/
def isPathChar (c : Char) : Bool :=
  isIdentChar c || c == '.'

/-- The names of the path that a text starts with, after the first point. -/
def pathNames (text : List Char) : List (List Char) :=
  (cut '.' (text.takeWhile isPathChar)).takeWhile fun name => name.head?.any isIdentStart

/-- Reads a path: how many characters it takes, and the path without its first point. -/
def readPath : Reader (List Char)
  | _, '.' :: rest =>
    if rest.head?.any isIdentStart then
      let path := ['.'].intercalate (pathNames rest)
      some (path.length + 1, path)
    else none
  | _, _ => none

/-- The paths on a line, from left to right. -/
def ofLine (line : List Char) : List (Match (List Char)) :=
  findAll readPath line

end Remap.FieldPath
