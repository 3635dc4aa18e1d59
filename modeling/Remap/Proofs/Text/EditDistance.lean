import Mathlib.Data.List.Infix
import Mathlib.Order.Bounds.Defs
import Remap.Suggestion

/-!
# Edits of a text

An edit inserts, deletes or substitutes one character anywhere in a text. Turning one text into
another takes some number of edits, through texts in between that may be anything; the edit
distance is the least such number (`isLeast_editDistance`).

The rule for two texts looks at their first characters only (`distance`). An edit of one text moves
its distance from any other text by at most one, so no sequence of edits is shorter than the
distance, and the rule itself says which edits to make. The table applies the rule to the part of
each text that has been read, from its end: that is, to the prefixes, reversed. Edits can be undone,
so that the table may be made from either text.
-/

namespace Remap.Text

/-- An edit of a text: one character is inserted, deleted or substituted. -/
inductive Edit : List Char → List Char → Prop
  | insertion (before after : List Char) (c : Char) :
    Edit (before ++ after) (before ++ c :: after)
  | deletion (before after : List Char) (c : Char) :
    Edit (before ++ c :: after) (before ++ after)
  | substitution (before after : List Char) (c d : Char) :
    Edit (before ++ c :: after) (before ++ d :: after)

/-- A number of edits, one after the other, turn a text into another one. -/
inductive Edits : Nat → List Char → List Char → Prop
  | refl (text : List Char) : Edits 0 text text
  | head {n : Nat} {source between target : List Char} :
    Edit source between → Edits n between target → Edits (n + 1) source target

variable {source between target : List Char} {n : Nat}

/-! Sequences of edits. -/

/-- An edit can be made behind one more character. -/
lemma Edit.cons (c : Char) (h : Edit source target) : Edit (c :: source) (c :: target) := by
  cases h with
  | insertion before after d => exact .insertion (c :: before) after d
  | deletion before after d => exact .deletion (c :: before) after d
  | substitution before after d e => exact .substitution (c :: before) after d e

/-- An edit can be made on the reversed texts. -/
lemma Edit.reverse (h : Edit source target) : Edit source.reverse target.reverse := by
  cases h with
  | insertion before after c => simpa using Edit.insertion after.reverse before.reverse c
  | deletion before after c => simpa using Edit.deletion after.reverse before.reverse c
  | substitution before after c d =>
    simpa using Edit.substitution after.reverse before.reverse c d

/-- An edit can be undone by an edit. -/
lemma Edit.symm (h : Edit source target) : Edit target source := by
  cases h with
  | insertion before after c => exact .deletion before after c
  | deletion before after c => exact .insertion before after c
  | substitution before after c d => exact .substitution before after d c

/-- Edits can be made behind one more character. -/
lemma Edits.cons (c : Char) (h : Edits n source target) : Edits n (c :: source) (c :: target) := by
  induction h with
  | refl text => exact .refl (c :: text)
  | head hedit _ ih => exact .head (hedit.cons c) ih

/-- Edits can be made on the reversed texts. -/
lemma Edits.reverse (h : Edits n source target) : Edits n source.reverse target.reverse := by
  induction h with
  | refl text => exact .refl text.reverse
  | head hedit _ ih => exact .head hedit.reverse ih

/-- One more edit can follow. -/
lemma Edits.concat (h : Edits n source between) (hedit : Edit between target) :
    Edits (n + 1) source target := by
  induction h with
  | refl text => exact .head hedit (.refl target)
  | head hfirst _ ih => exact .head hfirst (ih hedit)

/-- Edits can be undone. -/
lemma Edits.symm (h : Edits n source target) : Edits n target source := by
  induction h with
  | refl text => exact .refl text
  | head hedit _ ih => exact ih.concat hedit.symm

/-- Without edits a text stays as it is. -/
lemma edits_zero_iff : Edits 0 source target ↔ source = target := by
  refine ⟨?_, ?_⟩
  · intro h
    cases h
    rfl
  · rintro rfl
    exact .refl source

/-! The distance by the first characters. -/

/--
The distance between two texts by their first characters: the one is deleted, the other inserted,
or the one becomes the other, whichever is best.
-/
def distance : List Char → List Char → Nat
  | [], target => target.length
  | source, [] => source.length
  | c :: source, d :: target =>
    min (min (distance source (d :: target) + 1) (distance (c :: source) target + 1))
      (distance source target + if c = d then 0 else 1)

/-- To get a text from nothing is to put all its characters in. -/
lemma distance_nil_left (target : List Char) : distance [] target = target.length := by
  rw [distance]

/-- To get nothing from a text is to take all its characters away. -/
lemma distance_nil_right (source : List Char) : distance source [] = source.length := by
  cases source <;> simp [distance]

/-- The first characters are taken away, put in, or turned into each other. -/
lemma distance_cons_cons (c d : Char) (source target : List Char) :
    distance (c :: source) (d :: target) =
      min (min (distance source (d :: target) + 1) (distance (c :: source) target + 1))
        (distance source target + if c = d then 0 else 1) := by
  rw [distance]

/-- A text has no distance from itself. -/
lemma distance_self (text : List Char) : distance text text = 0 := by
  induction text with
  | nil => rw [distance_nil_left, List.length_nil]
  | cons c text ih => rw [distance_cons_cons, ih, if_pos rfl, Nat.min_zero]

/-! One edit moves the distance by at most one. -/

/-- One more character in front of the first text adds at most one edit. -/
lemma distance_cons_left_le (c : Char) (source target : List Char) :
    distance (c :: source) target ≤ distance source target + 1 := by
  cases target with
  | nil => simp [distance_nil_right]
  | cons d target =>
    rw [distance_cons_cons]
    omega

/-- One more character in front of the second text adds at most one edit. -/
lemma distance_cons_right_le (d : Char) (source target : List Char) :
    distance source (d :: target) ≤ distance source target + 1 := by
  cases source with
  | nil => simp [distance_nil_left]
  | cons c source =>
    rw [distance_cons_cons]
    omega

/-- One character less in front of the first text adds at most one edit. -/
lemma distance_le_cons_left (c : Char) (source target : List Char) :
    distance source target ≤ distance (c :: source) target + 1 := by
  induction target with
  | nil =>
    rw [distance_nil_right, distance_nil_right, List.length_cons]
    omega
  | cons d target ih =>
    have hright := distance_cons_right_le d source target
    rw [distance_cons_cons]
    omega

/-- Another character in front of the first text adds at most one edit. -/
lemma distance_cons_le_cons (c d : Char) (source target : List Char) :
    distance (c :: source) target ≤ distance (d :: source) target + 1 := by
  induction target with
  | nil => simp [distance_nil_right]
  | cons e target ih =>
    have hleft := distance_cons_left_le c source (e :: target)
    rw [distance_cons_cons d]
    rw [distance_cons_cons c] at hleft ⊢
    have hone : (if c = e then 0 else 1) ≤ 1 := by split <;> omega
    omega

/-- What holds of two texts holds of them behind the same text. -/
lemma distance_append_le (h : ∀ target, distance source target ≤ distance between target + 1)
    (before target : List Char) :
    distance (before ++ source) target ≤ distance (before ++ between) target + 1 := by
  induction before generalizing target with
  | nil => exact h target
  | cons c before ih =>
    rw [List.cons_append, List.cons_append]
    induction target with
    | nil =>
      have hnil := ih []
      rw [distance_nil_right, distance_nil_right] at hnil ⊢
      simpa using hnil
    | cons d target ih' =>
      have hcons := ih (d :: target)
      have hrest := ih target
      rw [distance_cons_cons, distance_cons_cons]
      omega

/-- An edit of the first text takes at most one from the distance. -/
lemma Edit.distance_le (h : Edit source between) (target : List Char) :
    distance source target ≤ distance between target + 1 := by
  cases h with
  | insertion before after c =>
    exact distance_append_le (distance_le_cons_left c after) before target
  | deletion before after c =>
    exact distance_append_le (distance_cons_left_le c after) before target
  | substitution before after c d =>
    exact distance_append_le (distance_cons_le_cons c d after) before target

/-- No sequence of edits is shorter than the distance. -/
lemma Edits.distance_le (h : Edits n source target) : distance source target ≤ n := by
  induction h with
  | refl text => rw [distance_self]
  | head hedit _ ih =>
    have hle := hedit.distance_le
    exact (hle _).trans (Nat.succ_le_succ ih)

/-! Some sequence of edits is as short as the distance. -/

/-- A text is made from nothing by putting in its characters. -/
lemma edits_nil_left (target : List Char) : Edits target.length [] target := by
  induction target with
  | nil => exact .refl []
  | cons d target ih => exact .head (.insertion [] [] d) (ih.cons d)

/-- A text is unmade by taking its characters away. -/
lemma edits_nil_right (source : List Char) : Edits source.length source [] := by
  induction source with
  | nil => exact .refl []
  | cons c source ih => exact .head (.deletion [] source c) ih

/-- The smaller of two numbers of edits is one. -/
lemma edits_min {m : Nat} (h : Edits m source target) (h' : Edits n source target) :
    Edits (min m n) source target := by
  obtain hle | hle := Nat.le_total m n
  · rwa [Nat.min_eq_left hle]
  · rwa [Nat.min_eq_right hle]

/-- There are as many edits between two texts as their distance. -/
lemma edits_distance (source target : List Char) :
    Edits (distance source target) source target := by
  induction source generalizing target with
  | nil =>
    rw [distance_nil_left]
    exact edits_nil_left target
  | cons c source ih =>
    induction target with
    | nil =>
      rw [distance_nil_right]
      exact edits_nil_right (c :: source)
    | cons d target ih' =>
      have hdelete : Edits (distance source (d :: target) + 1) (c :: source) (d :: target) :=
        .head (.deletion [] source c) (ih (d :: target))
      have hinsert : Edits (distance (c :: source) target + 1) (c :: source) (d :: target) :=
        .head (.insertion [] (c :: source) d) (ih'.cons d)
      have hreplace : Edits (distance source target + if c = d then 0 else 1) (c :: source)
          (d :: target) := by
        split
        case isTrue h =>
          rw [h]
          exact (ih target).cons d
        case isFalse => exact .head (.substitution [] source c d) ((ih target).cons d)
      rw [distance_cons_cons]
      exact edits_min (edits_min hdelete hinsert) hreplace

/-- The distance is the same from either text. -/
lemma distance_comm (source target : List Char) : distance source target = distance target source :=
  Nat.le_antisymm (edits_distance target source).symm.distance_le
    (edits_distance source target).symm.distance_le

/-! The table of the distances between prefixes. -/

/-- A row of the table: the distances from a text to the prefixes of the second one. -/
def tableRow (source target : List Char) : List Nat :=
  target.inits.map fun start => distance source.reverse start.reverse

/-- The first start of a text is empty. -/
lemma inits_eq_cons (text : List Char) : text.inits = [] :: text.inits.tail := by
  cases text <;> simp

/-- The starts of a text have all lengths up to its own. -/
lemma map_length_inits (text : List Char) :
    text.inits.map List.length = List.range (text.length + 1) := by
  induction text with
  | nil => rfl
  | cons c text ih =>
    rw [List.inits_cons, List.map_cons, List.map_map, List.length_cons, List.range_succ_eq_map,
      ← ih, List.map_map]
    rfl

/-- The last start of a text is the text. -/
lemma getLast?_inits (text : List Char) : text.inits.getLast? = some text := by
  induction text with
  | nil => rfl
  | cons c text ih => rw [List.inits_cons, List.getLast?_cons, List.getLast?_map, ih]; rfl

/-- The first row holds the lengths of the prefixes. -/
lemma tableRow_nil (target : List Char) :
    tableRow [] target = List.range (target.length + 1) := by
  rw [← map_length_inits, tableRow]
  apply List.map_congr_left
  intro start _
  rw [List.reverse_nil, distance_nil_left, List.length_reverse]

/-- From one row to the next: the entries to the right of a prefix of the second text. -/
lemma extendRow_eq (c : Char) (source start rest : List Char) :
    extendRow c (distance source.reverse start.reverse)
        (distance (source ++ [c]).reverse start.reverse) rest
        (rest.inits.tail.map fun more => distance source.reverse (start ++ more).reverse) =
      rest.inits.tail.map fun more =>
        distance (source ++ [c]).reverse (start ++ more).reverse := by
  induction rest generalizing start with
  | nil => rfl
  | cons d rest ih =>
    have hentry : distance (source ++ [c]).reverse (start ++ [d]).reverse =
        min (min (distance source.reverse (start ++ [d]).reverse + 1)
          (distance (source ++ [c]).reverse start.reverse + 1))
          (distance source.reverse start.reverse + if c = d then 0 else 1) := by
      simp only [List.reverse_append, List.reverse_singleton, List.singleton_append,
        distance_cons_cons]
    have hrest := ih (start ++ [d])
    simp only [List.append_assoc, List.singleton_append] at hrest
    rw [List.inits_cons, List.tail_cons, inits_eq_cons rest]
    simp only [List.map_cons, List.map_map, extendRow, ← hentry]
    exact congrArg _ hrest

/-- From the row of a text comes that of the text with one more character. -/
lemma nextRow_tableRow (c : Char) (source target : List Char) :
    nextRow target (tableRow source target) c = tableRow (source ++ [c]) target := by
  have hcorner : distance (source ++ [c]).reverse [] = distance source.reverse [] + 1 := by
    simp [distance_nil_right]
  have hrest := extendRow_eq c source [] target
  simp only [List.reverse_nil, List.nil_append, hcorner] at hrest
  rw [tableRow, tableRow, inits_eq_cons]
  simp only [List.map_cons, List.reverse_nil, nextRow, hcorner, hrest]

/-- From the row of a text comes that of the text with more behind it. -/
lemma foldl_nextRow (source read target : List Char) :
    source.foldl (nextRow target) (tableRow read target) = tableRow (read ++ source) target := by
  induction source generalizing read with
  | nil => rw [List.foldl_nil, List.append_nil]
  | cons c source ih =>
    rw [List.foldl_cons, nextRow_tableRow, ih, List.append_assoc, List.singleton_append]

/-- The table ends with the distance of the reversed texts. -/
lemma tableDistance_eq_distance (source target : List Char) :
    tableDistance source target = distance source.reverse target.reverse := by
  rw [tableDistance]
  split
  case isTrue h =>
    rw [List.isEmpty_iff.1 h, List.reverse_nil, distance_nil_right, List.length_reverse]
  case isFalse =>
    rw [← tableRow_nil, foldl_nextRow, List.nil_append, tableRow, List.getLast?_map, getLast?_inits]
    rfl

/-- Which of the texts runs along the rows does not matter. -/
lemma editDistance_eq_distance (source target : List Char) :
    editDistance source target = distance source.reverse target.reverse := by
  rw [editDistance]
  split
  case isTrue => rw [tableDistance_eq_distance, distance_comm]
  case isFalse => rw [tableDistance_eq_distance]

/-! The edit distance. -/

/-- There are as many edits between two texts as the edit distance. -/
lemma edits_editDistance (source target : List Char) :
    Edits (editDistance source target) source target := by
  have hedits := (edits_distance source.reverse target.reverse).reverse
  rwa [List.reverse_reverse, List.reverse_reverse, ← editDistance_eq_distance] at hedits

/-- There are no fewer edits between two texts than the edit distance. -/
lemma editDistance_le_of_edits (h : Edits n source target) : editDistance source target ≤ n := by
  rw [editDistance_eq_distance]
  exact h.reverse.distance_le

/-- Only a text itself is at no distance from it. -/
lemma editDistance_eq_zero_iff : editDistance source target = 0 ↔ source = target := by
  rw [← edits_zero_iff]
  refine ⟨?_, ?_⟩
  · intro h
    rw [← h]
    exact edits_editDistance source target
  · intro h
    exact Nat.le_zero.1 (editDistance_le_of_edits h)

/--
The edit distance is the length of a shortest sequence of insertions, deletions and substitutions
of single characters that turns the one text into the other.
-/
theorem isLeast_editDistance (source target : List Char) :
    IsLeast {n | Edits n source target} (editDistance source target) := by
  refine ⟨edits_editDistance source target, ?_⟩
  intro n h
  exact editDistance_le_of_edits h

end Remap.Text
