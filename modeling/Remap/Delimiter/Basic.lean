/-!
# Delimiters

The three kinds of delimiters, each with the character that opens and the one that closes.
-/

namespace Remap

/-- A kind of delimiter. -/
inductive Delimiter where
  | paren | brace | bracket
  deriving DecidableEq, Repr

namespace Delimiter

/-- All kinds, in the order in which they are reported. -/
def all : List Delimiter :=
  [paren, brace, bracket]

/-- The name of the kind in the codes of diagnostics. -/
def name : Delimiter → String
  | paren => "paren"
  | brace => "brace"
  | bracket => "bracket"

/-- The character that opens. -/
def opener : Delimiter → Char
  | paren => '('
  | brace => '\x7b'
  | bracket => '['

/-- The character that closes. -/
def closer : Delimiter → Char
  | paren => ')'
  | brace => '\x7d'
  | bracket => ']'

/-- The English noun for one of them or for several. -/
def noun (d : Delimiter) (count : Nat) : String :=
  match d with
  | paren => if count = 1 then "parenthesis" else "parentheses"
  | brace => if count = 1 then "brace" else "braces"
  | bracket => if count = 1 then "bracket" else "brackets"

/-- The kind that a character opens. -/
def ofOpener? (c : Char) : Option Delimiter :=
  all.find? fun d => d.opener == c

/-- The kind that a character closes. -/
def ofCloser? (c : Char) : Option Delimiter :=
  all.find? fun d => d.closer == c

/-- Every kind is listed. -/
theorem mem_all (d : Delimiter) : d ∈ all := by
  cases d <;> decide

/-- A character opens the kind of which it is the opener. -/
theorem ofOpener?_eq_some_iff {c : Char} {d : Delimiter} :
    ofOpener? c = some d ↔ c = d.opener := by
  constructor
  · intro h
    exact (by simpa using List.find?_some h : d.opener = c).symm
  · rintro rfl
    cases d <;> rfl

/-- A character closes the kind of which it is the closer. -/
theorem ofCloser?_eq_some_iff {c : Char} {d : Delimiter} :
    ofCloser? c = some d ↔ c = d.closer := by
  constructor
  · intro h
    exact (by simpa using List.find?_some h : d.closer = c).symm
  · rintro rfl
    cases d <;> rfl

end Delimiter

end Remap
