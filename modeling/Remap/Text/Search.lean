/-!
# Searching a text

`findAll` lists the matches of a reader from left to right, each search going on where the match
before it ended, so no two of them overlap. A reader sees the character before the place where
it is tried, which is all that a word boundary needs.
-/

namespace Remap.Text

/-- A place in a text, from `start` up to and without `stop`, and what was read there. -/
structure Match (α : Type) where
  start : Nat
  stop : Nat
  value : α

/--
A reader is tried at one place: given the character before it, if any, and the text from there
on, it says how many characters it takes and what they mean.
-/
abbrev Reader (α : Type) := Option Char → List Char → Option (Nat × α)

/--
The matches in the rest of a text, after those found so far (the last one first): `before` is the
character before the rest, `pos` its offset, and `skip` the number of characters of it that the
last match takes.
-/
def findFrom {α : Type} (read : Reader α) (before : Option Char) (pos skip : Nat)
    (found : List (Match α)) : List Char → List (Match α)
  | [] => found.reverse
  | c :: rest =>
    match skip with
    | left + 1 => findFrom read (some c) (pos + 1) left found rest
    | 0 =>
      match read before (c :: rest) with
      | none => findFrom read (some c) (pos + 1) 0 found rest
      | some (size, value) =>
        findFrom read (some c) (pos + 1) (size - 1) (⟨pos, pos + size, value⟩ :: found) rest

/-- The matches of the reader in the text, leftmost first and without overlap. -/
def findAll {α : Type} (read : Reader α) (text : List Char) : List (Match α) :=
  findFrom read none 0 0 [] text

/-- The offset of the pattern's first occurrence in the rest of a text that starts at `pos`. -/
def offsetFrom (pattern : List Char) (pos : Nat) : List Char → Option Nat
  | [] => if pattern.isEmpty then some pos else none
  | c :: rest =>
    if pattern.isPrefixOf (c :: rest) then some pos else offsetFrom pattern (pos + 1) rest

/-- The offset of the pattern's first occurrence in the text. -/
def offset? (pattern text : List Char) : Option Nat :=
  offsetFrom pattern 0 text

/-- The pattern occurs in the text. -/
def occurs (pattern text : List Char) : Bool :=
  (offset? pattern text).isSome

/-- What was found before only stands in front of what is found next. -/
theorem findFrom_eq_append {α : Type} (read : Reader α) (before : Option Char) (pos skip : Nat)
    (found : List (Match α)) (text : List Char) :
    findFrom read before pos skip found text =
      found.reverse ++ findFrom read before pos skip [] text := by
  induction text generalizing before pos skip found with
  | nil => simp [findFrom]
  | cons c rest ih =>
    cases skip with
    | succ left => simpa [findFrom] using ih (some c) (pos + 1) left found
    | zero =>
      cases h : read before (c :: rest) with
      | none => simpa [findFrom, h] using ih (some c) (pos + 1) 0 found
      | some m =>
        obtain ⟨size, value⟩ := m
        simp only [findFrom, h]
        rw [ih _ _ _ (_ :: found), ih _ _ _ [_]]
        simp

end Remap.Text
