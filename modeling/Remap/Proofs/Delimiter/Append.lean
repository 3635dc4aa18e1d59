import Remap.Diagnostic.Code
import Remap.Proofs.Delimiter.Report

/-!
# Delimiters of texts put together

For one kind of delimiter a text has its stray closers and a depth, the number of openers that wait
at its end. Behind another text, the openers that wait there take the first stray closers of the
text away, as many as there are, and the rest of either is left (`strays_append`, `depth_append`).
`reports_append` says so of what is reported, in which the text is moved behind the other one.
-/

namespace Remap

open Text

/-! Behind another text. -/

/-- The position in a text that is put behind another one. -/
def Position.behind (front : List Char) (p : Position) : Position :=
  ⟨p.line + front.count '\n', p.character + if p.line = 0 then (lastLine front).length else 0⟩

/-- The range in a text that is put behind another one. -/
def Range.behind (front : List Char) (r : Range) : Range :=
  ⟨r.start.behind front, r.stop.behind front⟩

/-- The diagnostic about a text that is put behind another one, with all its ranges. -/
def Diagnostic.behind (front : List Char) (d : Diagnostic) : Diagnostic :=
  { d with
    range := d.range.behind front
    related := d.related.map fun r => { r with range := r.range.behind front } }

namespace Delimiter

/-! One kind of delimiter. -/

/-- The offsets of the closers of a kind that close nothing, in the order of the text. -/
def strays (d : Delimiter) (text : List Char) : List Nat :=
  ((strayClosers text).filter fun s => s.1 = d).map Prod.snd

/-- The number of openers of a kind that wait at the end of a text. -/
def depth (d : Delimiter) (text : List Char) : Nat :=
  (waiting d text).length

/-- The diagnostics about stray closers of a kind. -/
def unmatched (d : Delimiter) (text : List Char) : List Diagnostic :=
  (check text).filter (·.code == (Code.unmatchedClosing d).id)

/-- The number that the diagnostic about missing closers of a kind states; zero without one. -/
def missing (d : Delimiter) (text : List Char) : Nat :=
  ((check text).find? (·.code == (Code.missingClosing d).id)).elim 0 statedCount

variable {a b text : List Char} {d : Delimiter} {c : Char}

/-- The diagnostics about stray closers of a kind are one for each of its strays. -/
lemma unmatched_eq (d : Delimiter) (text : List Char) :
    unmatched d text = (strays d text).map (strayReport text d) := by
  have hfilter : unmatched d text =
      ((strayClosers text).filter fun s => s.1 = d).map fun s => strayReport text s.1 s.2 :=
    filter_unmatched text d
  rw [hfilter, strays, List.map_map]
  apply List.map_congr_left
  intro s hs
  have hkind : s.1 = d := by simpa using (List.mem_filter.1 hs).2
  rw [Function.comp_apply, hkind]

/-- There are as many diagnostics about stray closers of a kind as strays. -/
lemma length_unmatched (d : Delimiter) (text : List Char) :
    (unmatched d text).length = (strays d text).length := by
  rw [unmatched_eq, List.length_map]

/-- The missing closers of a kind have one diagnostic, unless none is missing. -/
lemma filter_missing_eq (d : Delimiter) (text : List Char) :
    (check text).filter (·.code == (Code.missingClosing d).id) =
      if waiting d text = [] then [] else [missingReport text d] :=
  filter_missing text d

/-- The number that is reported is the depth. -/
lemma missing_eq (d : Delimiter) (text : List Char) : missing d text = depth d text := by
  rw [missing, ← List.head?_filter, filter_missing_eq, depth]
  by_cases hw : waiting d text = []
  · rw [if_pos hw, hw]
    rfl
  · rw [if_neg hw, List.head?_cons, Option.elim_some, statedCount_missingReport]

/-! One more character. -/

/-- The depth is zero if no opener waits. -/
lemma depth_eq_zero_iff : depth d text = 0 ↔ waiting d text = [] :=
  List.length_eq_zero_iff

/-- An opener adds one to the depth of its kind. -/
lemma depth_opener (d : Delimiter) (text : List Char) :
    depth d (text ++ [d.opener]) = depth d text + 1 := by
  rw [depth, waiting_opener, List.length_cons, depth]

/-- A closer takes one from the depth of its kind, if it can. -/
lemma depth_closer (d : Delimiter) (text : List Char) :
    depth d (text ++ [d.closer]) = depth d text - 1 := by
  rw [depth, waiting_closer, List.length_tail, depth]

/-- Another character leaves the depth as it is. -/
lemma depth_of_ne (ho : c ≠ d.opener) (hc : c ≠ d.closer) (text : List Char) :
    depth d (text ++ [c]) = depth d text := by
  rw [depth, waiting_of_ne ho hc, depth]

/-- What a character does to the depth depends on the depth only. -/
lemma depth_concat_congr (h : depth d a = depth d b) (c : Char) :
    depth d (a ++ [c]) = depth d (b ++ [c]) := by
  by_cases hc : c = d.closer
  · rw [hc, depth_closer, depth_closer, h]
  · by_cases ho : c = d.opener
    · rw [ho, depth_opener, depth_opener, h]
    · rw [depth_of_ne ho hc, depth_of_ne ho hc, h]

/-- One more character is a stray if it closes the kind while nothing waits. -/
lemma strays_concat (d : Delimiter) (text : List Char) (c : Char) :
    strays d (text ++ [c]) =
      strays d text ++ if c = d.closer ∧ depth d text = 0 then [text.length] else [] := by
  have htake : (text ++ [c]).take text.length = text := List.take_left
  rw [strays, strayClosers_concat, List.filter_append, List.map_append, strays]
  congr 1
  cases hc : ofCloser? c with
  | none =>
    have hne : c ≠ d.closer := fun h => by simp [h, ofCloser?_closer] at hc
    simp [strayKind?, hc, hne]
  | some e =>
    rw [ofCloser?_eq_some_iff] at hc
    subst hc
    rw [strayKind?_closer, htake]
    by_cases he : e = d
    · subst he
      by_cases hw : waiting e text = [] <;> simp [hw, depth_eq_zero_iff]
    · have hne : e.closer ≠ d.closer := fun h => he (closer_injective h)
      by_cases hw : waiting e text = [] <;> simp [hw, he, hne]

/-- A character that does not close the kind is no stray of it. -/
lemma strays_of_ne (hc : c ≠ d.closer) (text : List Char) :
    strays d (text ++ [c]) = strays d text := by
  rw [strays_concat, if_neg fun h => hc h.1, List.append_nil]

/-- A closer is a stray while nothing waits. -/
lemma strays_closer_zero (h : depth d text = 0) :
    strays d (text ++ [d.closer]) = strays d text ++ [text.length] := by
  rw [strays_concat, if_pos ⟨rfl, h⟩]

/-- A closer is no stray while an opener waits. -/
lemma strays_closer_pos (h : depth d text ≠ 0) :
    strays d (text ++ [d.closer]) = strays d text := by
  rw [strays_concat, if_neg fun hzero => h hzero.2, List.append_nil]

/-! Two texts put together. -/

/-- The stray closers and the depth of two texts put together, in terms of those of each. -/
def Composes (d : Delimiter) (a b : List Char) : Prop :=
  strays d (a ++ b) = strays d a ++ ((strays d b).drop (depth d a)).map (a.length + ·) ∧
    depth d (a ++ b) = depth d b + (depth d a - (strays d b).length)

/-- A closer that comes next meets an opener of the second text, one of the first, or none. -/
lemma Composes.closer (h : Composes d a b) : Composes d a (b ++ [d.closer]) := by
  obtain ⟨hstrays, hdepth⟩ := h
  rw [Composes, ← List.append_assoc, depth_closer, depth_closer, hdepth]
  by_cases hb : depth d b = 0
  · rw [strays_closer_zero hb, List.length_append, List.length_singleton]
    by_cases hle : depth d a ≤ (strays d b).length
    · have hzero : depth d (a ++ b) = 0 := by omega
      rw [strays_closer_zero hzero, hstrays, List.drop_append_of_le_length hle, List.map_append,
        List.length_append, List.append_assoc]
      exact ⟨rfl, by omega⟩
    · have hpos : depth d (a ++ b) ≠ 0 := by omega
      have hmore : (strays d b ++ [b.length]).length ≤ depth d a := by
        rw [List.length_append, List.length_singleton]
        omega
      rw [strays_closer_pos hpos, hstrays, List.drop_eq_nil_of_le hmore,
        List.drop_eq_nil_of_le (by omega)]
      exact ⟨rfl, by omega⟩
  · have hpos : depth d (a ++ b) ≠ 0 := by omega
    rw [strays_closer_pos hb, strays_closer_pos hpos]
    exact ⟨hstrays, by omega⟩

/-- One more character of the second text keeps the composition right. -/
lemma Composes.concat (h : Composes d a b) (c : Char) : Composes d a (b ++ [c]) := by
  by_cases hc : c = d.closer
  · rw [hc]
    exact h.closer
  · obtain ⟨hstrays, hdepth⟩ := h
    rw [Composes, ← List.append_assoc, strays_of_ne hc, strays_of_ne hc]
    refine ⟨hstrays, ?_⟩
    by_cases ho : c = d.opener
    · rw [ho, depth_opener, depth_opener, hdepth, Nat.add_right_comm]
    · rw [depth_of_ne ho hc, depth_of_ne ho hc, hdepth]

/-- Strays and depth of a text behind another one come from those of the two. -/
lemma composes (d : Delimiter) (a b : List Char) : Composes d a b := by
  induction b using List.reverseRecOn with
  | nil =>
    have hnone : strays d [] = [] := rfl
    rw [Composes, List.append_nil, hnone, List.drop_nil, List.map_nil, List.append_nil]
    exact ⟨rfl, (Nat.zero_add _).symm⟩
  | append_singleton b c ih => exact ih.concat c

/-- The strays of a text behind another one are those that nothing waits for. -/
lemma strays_append (d : Delimiter) (a b : List Char) :
    strays d (a ++ b) = strays d a ++ ((strays d b).drop (depth d a)).map (a.length + ·) :=
  (composes d a b).1

/-- What waits after both texts is what waits after the second and what it left of the first. -/
lemma depth_append (d : Delimiter) (a b : List Char) :
    depth d (a ++ b) = depth d b + (depth d a - (strays d b).length) :=
  (composes d a b).2

/-- The opener takes the first closer of the text behind it. -/
example : strays paren ("a(\n".toList ++ "))".toList) = [4] := by decide

/-! What is reported. -/

/-- A stray is a character of the text. -/
lemma lt_length_of_mem_strays {i : Nat} (h : i ∈ strays d text) : i < text.length := by
  obtain ⟨⟨e, j⟩, hmem, rfl⟩ := List.mem_map.1 h
  obtain ⟨hget, -⟩ := mem_strayClosers.1 (List.mem_filter.1 hmem).1
  exact (List.getElem?_eq_some_iff.1 hget).1

/-- A report about the first text is the same with more text behind it. -/
lemma strayReport_append_left {i : Nat} (h : i ≤ a.length) (b : List Char) (d : Delimiter) :
    strayReport (a ++ b) d i = strayReport a d i := by
  rw [strayReport, lineAt_append h, columnAt_append h, strayReport]

/-- A report about the second text moves behind the first. -/
lemma strayReport_append_right (a b : List Char) (d : Delimiter) (i : Nat) :
    strayReport (a ++ b) d (a.length + i) = (strayReport b d i).behind a := by
  have hline : ((lineAt b i : Int) = 0) = (lineAt b i = 0) := propext Int.natCast_eq_zero
  simp only [strayReport, lineAt_append_add, columnAt_append_add, Diagnostic.behind, Range.behind,
    Range.onLine, Position.behind, hline, List.map_nil, Int.natCast_add, Int.add_right_comm _ 1,
    Int.add_comm (a.count '\n')]

/--
The reports about a kind of delimiter in two texts put together. The closers of the second text that
are reported for it alone are reported behind the first text, without the first ones of them, for
which an opener waits at the end of the first text. As many openers wait at the end of the whole as
at the end of the second text, and those of the first that none of these closers takes.
-/
theorem reports_append (a b : List Char) (d : Delimiter) :
    unmatched d (a ++ b) =
        unmatched d a ++ ((unmatched d b).drop (min (missing d a) (unmatched d b).length)).map
          (Diagnostic.behind a) ∧
      missing d (a ++ b) = missing d b + (missing d a - (unmatched d b).length) := by
  rw [missing_eq, missing_eq, missing_eq, length_unmatched, depth_append]
  refine ⟨?_, rfl⟩
  have hfirst : (strays d a).map (strayReport (a ++ b) d) = (strays d a).map (strayReport a d) := by
    apply List.map_congr_left
    intro i hi
    exact strayReport_append_left (Nat.le_of_lt (lt_length_of_mem_strays hi)) b d
  have hsecond : strayReport (a ++ b) d ∘ (a.length + ·) =
      Diagnostic.behind a ∘ strayReport b d := by
    funext i
    exact strayReport_append_right a b d i
  have hdrop : (strays d b).drop (min (depth d a) (strays d b).length) =
      (strays d b).drop (depth d a) :=
    List.drop_eq_drop_iff.2 (by omega)
  rw [unmatched_eq, unmatched_eq, unmatched_eq, strays_append, List.map_append, hfirst,
    List.map_map, hsecond, ← List.map_drop, List.map_map, hdrop]

end Delimiter

end Remap
