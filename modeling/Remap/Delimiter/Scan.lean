import Remap.Delimiter.Basic
import Remap.Diagnostic.Basic

/-!
# Balance of delimiters

One pass over the whole document counts, for each kind, the openers that wait for their closer. A
closer for which none waits is a stray one, and the count stays at zero, so that it hides nothing
that comes later. The openers that still wait at the end are reported together, on the last line.
Comments and strings are scanned like any other text.
-/

namespace Remap.Delimiter

/-- A place in a document that is read character by character. -/
structure Cursor where
  line : Nat
  column : Nat
  deriving DecidableEq, Repr

/-- The place after a character. -/
def Cursor.next (cursor : Cursor) (c : Char) : Cursor :=
  if c = '\n' then ⟨cursor.line + 1, 0⟩ else ⟨cursor.line, cursor.column + 1⟩

/-- For each kind, the number of openers that wait for their closer. -/
structure Depths where
  paren : Nat
  brace : Nat
  bracket : Nat
  deriving DecidableEq, Repr

namespace Depths

/-- No opener waits. -/
def zero : Depths :=
  ⟨0, 0, 0⟩

/-- The number of waiting openers of a kind. -/
def get (depths : Depths) : Delimiter → Nat
  | .paren => depths.paren
  | .brace => depths.brace
  | .bracket => depths.bracket

/-- Another number of waiting openers for a kind. -/
def set (depths : Depths) (d : Delimiter) (depth : Nat) : Depths :=
  match d with
  | .paren => { depths with paren := depth }
  | .brace => { depths with brace := depth }
  | .bracket => { depths with bracket := depth }

/-- At the start no opener of any kind waits. -/
@[simp] theorem get_zero (d : Delimiter) : zero.get d = 0 := by
  cases d <;> rfl

/-- The depth that is set for a kind is read back. -/
@[simp] theorem get_set_self (depths : Depths) (d : Delimiter) (depth : Nat) :
    (depths.set d depth).get d = depth := by
  cases d <;> rfl

/-- The depth that is set for a kind leaves the other kinds as they are. -/
theorem get_set_of_ne (depths : Depths) {d e : Delimiter} (h : e ≠ d) (depth : Nat) :
    (depths.set d depth).get e = depths.get e := by
  cases d <;> cases e <;> simp_all [get, set]

end Depths

/-- A closer that closes nothing. -/
structure Stray where
  kind : Delimiter
  line : Nat
  column : Nat
  deriving DecidableEq, Repr

/-- What is known after a part of the document; the last stray closer stands first. -/
structure Scan where
  cursor : Cursor
  depths : Depths
  strays : List Stray
  deriving DecidableEq, Repr

namespace Scan

/-- Before the first character. -/
def start : Scan :=
  ⟨⟨0, 0⟩, .zero, []⟩

/-- After one more character. -/
def step (scan : Scan) (c : Char) : Scan :=
  let cursor := scan.cursor.next c
  match ofOpener? c with
  | some d => { scan with cursor, depths := scan.depths.set d (scan.depths.get d + 1) }
  | none =>
    match ofCloser? c with
    | none => { scan with cursor }
    | some d =>
      match scan.depths.get d with
      | depth + 1 => { scan with cursor, depths := scan.depths.set d depth }
      | 0 =>
        { scan with
          cursor, strays := ⟨d, scan.cursor.line, scan.cursor.column⟩ :: scan.strays }

/-- After the whole document. -/
def ofText (text : List Char) : Scan :=
  text.foldl step start

/-- The scan of a text goes on through the text after it. -/
theorem ofText_append (a b : List Char) : ofText (a ++ b) = b.foldl step (ofText a) :=
  List.foldl_append

end Scan

/-- The diagnostic about a stray closer. -/
def Stray.diagnostic (stray : Stray) : Diagnostic where
  range := .onLine stray.line stray.column (stray.column + 1)
  message := "Unexpected closing '" ++ stray.kind.closer.toString ++
    "': no matching opening '" ++ stray.kind.opener.toString ++ "'"
  severity := .error
  code := "unmatched-closing-" ++ stray.kind.name

/-- The diagnostic about the openers of a kind that wait at the end of the document. -/
def Scan.missing? (scan : Scan) (d : Delimiter) : Option Diagnostic :=
  let missing := scan.depths.get d
  if missing = 0 then none
  else some {
    range := .onLine scan.cursor.line 0 scan.cursor.column
    message := "Missing " ++ toString missing ++ " closing " ++ d.noun missing ++ " '" ++
      d.closer.toString ++ "'"
    severity := .error
    code := "missing-closing-" ++ d.name }

/-- The diagnostics about the delimiters of a document. -/
def check (text : List Char) : List Diagnostic :=
  let scan := Scan.ofText text
  scan.strays.reverse.map Stray.diagnostic ++ all.filterMap scan.missing?

end Remap.Delimiter
