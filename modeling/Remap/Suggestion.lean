/-!
# Suggestions

The distance between two names, and the names of a list that are close to a given one.
-/

namespace Remap.Text

/-!
## Edit distance

The least number of single-character insertions, deletions and substitutions that turn one text
into another, from the usual table of the distances between prefixes. Only one row of the table
is kept: the distances from the part of the first text read so far to each prefix of the second. The
shorter text is taken as the second one, so that the rows are short.
-/

/--
The rest of a row: `c` is the character just read from the first text, `corner` the entry above
and to the left, `left` the entry to the left, and the lists are the characters still to come in
the second text and the entries of the row above them.
-/
def extendRow (c : Char) (corner left : Nat) : List Char → List Nat → List Nat
  | d :: rest, above :: row =>
    let entry := min (min (above + 1) (left + 1)) (corner + if c = d then 0 else 1)
    entry :: extendRow c above entry rest row
  | _, _ => []

/-- The row after `c` is read from the first text. -/
def nextRow (target : List Char) (row : List Nat) (c : Char) : List Nat :=
  match row with
  | [] => []
  | corner :: row => (corner + 1) :: extendRow c corner (corner + 1) target row

/-- The distance between two texts by the table, whose rows are as long as the second text. -/
def tableDistance (source target : List Char) : Nat :=
  if target.isEmpty then source.length
  else ((source.foldl (nextRow target) (List.range (target.length + 1))).getLast?).getD 0

/-- The edit distance between two texts. -/
def editDistance (source target : List Char) : Nat :=
  if source.length < target.length then tableDistance target source
  else tableDistance source target

end Remap.Text

namespace Remap.Suggestion

/-!
## Suggestions for a misspelt name

The candidates within some edit distance of a name, the closest first; of equally close ones the
earlier candidate comes first. A limit cuts the list, and a negative limit drops that many names
from its end.
-/

/-- A candidate with its distance from the name and its place among the candidates. -/
structure Scored where
  distance : Nat
  place : Nat
  candidate : String
  deriving DecidableEq, Repr

/-- One candidate comes before another: it is closer, or as close and no later. -/
def Scored.before (a b : Scored) : Bool :=
  a.distance < b.distance || (a.distance == b.distance && a.place ≤ b.place)

/-- The candidates scored against a name. -/
def scored (name : String) (candidates : List String) : List Scored :=
  candidates.zipIdx.map fun (candidate, place) =>
    ⟨Text.editDistance name.toList candidate.toList, place, candidate⟩

/-- The candidates within a distance, the closest first. -/
def ranked (name : String) (candidates : List String) (maxDistance : Int) : List Scored :=
  ((scored name candidates).filter fun s => (s.distance : Int) ≤ maxDistance).mergeSort
    Scored.before

/-- The first items of a list, or all but the last ones if the limit is negative. -/
def limit {α : Type} (count : Int) (items : List α) : List α :=
  match count with
  | .ofNat n => items.take n
  | .negSucc n => items.take (items.length - (n + 1))

/-- The distance within which names are suggested, unless it is given. -/
def usualDistance : Int := 3

/-- The number of names that are suggested, unless it is given. -/
def usualCount : Int := 3

/-- The names to suggest in place of a name. -/
def suggest (name : String) (candidates : List String) (maxDistance count : Int) : List String :=
  (limit count (ranked name candidates maxDistance)).map (·.candidate)

/-- The names to suggest in place of a name, within the usual distance and number. -/
def similar (name : String) (candidates : List String) : List String :=
  suggest name candidates usualDistance usualCount

/-- The order of the ranking is transitive. -/
theorem Scored.before_trans (a b c : Scored) (hab : a.before b = true) (hbc : b.before c = true) :
    a.before c = true := by
  simp only [before, Bool.or_eq_true, Bool.and_eq_true, decide_eq_true_eq, beq_iff_eq] at *
  omega

/-- The order of the ranking is total. -/
theorem Scored.before_total (a b : Scored) : (a.before b || b.before a) = true := by
  simp only [before, Bool.or_eq_true, Bool.and_eq_true, decide_eq_true_eq, beq_iff_eq]
  omega

/-- The ranking is in order. -/
theorem pairwise_ranked (name : String) (candidates : List String) (maxDistance : Int) :
    (ranked name candidates maxDistance).Pairwise (Scored.before · ·) :=
  List.pairwise_mergeSort Scored.before_trans Scored.before_total _

end Remap.Suggestion
