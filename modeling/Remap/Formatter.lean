import Remap.Text.Class
import Remap.Text.Escape
import Remap.Text.Line

/-!
# The formatter

What a document is turned into: the same lines with their indentation made regular, and a link that
opens the playground with it.
-/

namespace Remap.Indentation

/-!
## Indentation

A document is indented by the depth of its braces: a line that starts with a closing brace is one
level further out, and the lines after one that ends with an opening brace one level further in.
Blanks at the two ends of a line are not kept, and a level never goes below zero. The number of
spaces for each level can be any integer; where it makes a line wider than a text can be, there is
no result.
-/

open Text

/-- The text starts with a closing brace. -/
def closes (line : List Char) : Bool :=
  line.head? == some '\x7d'

/-- The text ends with an opening brace. -/
def opens (line : List Char) : Bool :=
  line.getLast? == some '\x7b'

/-- A line to write: its level, and its content without the blanks at the ends. -/
structure Placed where
  level : Nat
  content : List Char
  deriving DecidableEq, Repr

/-- The lines placed so far, the last one first, and the level of the next one. -/
structure State where
  placed : List Placed
  level : Nat

/-- Places one more line; an empty one has no level. -/
def State.place (state : State) (line : List Char) : State :=
  let content := trim line
  if content.isEmpty then { state with placed := ⟨0, []⟩ :: state.placed }
  else
    let level := if closes content then state.level - 1 else state.level
    { placed := ⟨level, content⟩ :: state.placed
      level := if opens content then level + 1 else level }

/-- The lines of a document with their levels. -/
def place (ls : List (List Char)) : List Placed :=
  (ls.foldl State.place ⟨[], 0⟩).placed.reverse

/-- The number of spaces before a line, with `size` of them for each level. -/
def Placed.width (size : Int) (line : Placed) : Int :=
  line.level * size

/-- A line with the spaces before it; there are none if their number is negative. -/
def Placed.text (size : Int) (line : Placed) : List Char :=
  List.replicate (line.width size).toNat ' ' ++ line.content

/-- The document, indented, however wide its lines become. -/
def indented (size : Int) (text : List Char) : List Char :=
  unlines ((place (lines text)).map (Placed.text size))

/-- Why a document cannot be indented. -/
inductive Fault where
  /-- The number of spaces before a line does not fit in a word of 64 bits. -/
  | widthOverflow
  /-- The spaces before a line do not fit in an address space of 47 bits. -/
  | outOfMemory
  deriving DecidableEq, Repr

/-- What is wrong with a number of spaces, if anything is. -/
def Fault.ofWidth? (width : Int) : Option Fault :=
  if width < -0x8000000000000000 ∨ 0x8000000000000000 ≤ width then some .widthOverflow
  else if 0x800000000000 ≤ width then some .outOfMemory
  else none

/-- The fault of the first line that has one. -/
def fault? (size : Int) (text : List Char) : Option Fault :=
  (place (lines text)).findSome? fun line => Fault.ofWidth? (line.width size)

/-- The document, indented, if its lines do not become too wide. -/
def indent (size : Int) (text : List Char) : Except Fault (List Char) :=
  match fault? size text with
  | some fault => .error fault
  | none => .ok (indented size text)

end Remap.Indentation

namespace Remap.Playground

/-!
## Playground links

A link to the playground carries a document as its query, unless the document is blank.
-/

/-- The address of the playground, unless it is configured. -/
def usualBase : String :=
  "https://playground.vrl.dev/"

/-- The link that opens the playground at an address with a document. -/
def link (base : String) (text : List Char) : String :=
  if text.all Text.isBlank then base
  else base ++ "?script=" ++ String.ofList (Text.Percent.encode text)

end Remap.Playground
