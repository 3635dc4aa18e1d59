import Mathlib.Data.List.Induction
import Mathlib.Order.Bounds.Defs
import Remap.Proofs.Indentation

/-!
# Levels of indentation

A document is a walk: one step down before a line that starts with a closing brace is written, one
step up after a line that ends with an opening brace. The walk goes on below zero where the level
stays at zero, so that the level is not the height of the walk but how far the walk stands above the
lowest point that it has reached (`standsAbove_levelAfter`). `indented_levels` gives the indented
document by this rule, line by line.
-/

namespace Remap.Indentation

open Text

/-! The walk. -/

/-- The step before a line is written. -/
def stepBefore (line : List Char) : List Int :=
  if closes (trim line) then [-1] else []

/-- The step after a line is written. -/
def stepAfter (line : List Char) : List Int :=
  if opens (trim line) then [1] else []

/-- The steps over some lines; a blank line makes none. -/
def steps (ls : List (List Char)) : List Int :=
  ls.flatMap fun line => stepBefore line ++ stepAfter line

/-- The heights of a walk, from its start at zero on. -/
def heights (walk : List Int) : List Int :=
  walk.scanl (· + ·) 0

/-- The heights up to the moment at which a line that follows others is written. -/
def heightsAt (earlier : List (List Char)) (line : List Char) : List Int :=
  heights (steps earlier ++ stepBefore line)

/-- How far the last height is above the lowest one. -/
def StandsAbove (heights : List Int) (level : Nat) : Prop :=
  IsLeast {height | height ∈ heights} (heights.getLastD 0 - level)

/-- One more line goes down before it and up after it. -/
lemma steps_concat (ls : List (List Char)) (line : List Char) :
    steps (ls ++ [line]) = (steps ls ++ stepBefore line) ++ stepAfter line := by
  rw [steps, List.flatMap_append, List.flatMap_singleton, List.append_assoc, steps]

variable {walk : List Int} {level : Nat} {line : List Char} {ls : List (List Char)}

/-- One more step ends as much above or below the last height. -/
lemma heights_concat (walk : List Int) (step : Int) :
    heights (walk ++ [step]) = heights walk ++ [(heights walk).getLastD 0 + step] := by
  have hlast : (heights walk).getLastD 0 = walk.foldl (· + ·) 0 := by
    rw [List.getLastD_eq_getLast?, heights, List.getLast?_scanl, Option.getD_some]
  rw [hlast, heights, List.scanl_append, heights, List.scanl_cons, List.scanl_nil, List.tail_cons]

/-- The last height after one more step. -/
lemma last_heights_concat (walk : List Int) (step : Int) :
    (heights (walk ++ [step])).getLastD 0 = (heights walk).getLastD 0 + step := by
  rw [heights_concat, List.getLastD_concat]

/-- One more step adds its end to the heights. -/
lemma mem_heights_concat {walk : List Int} {step height : Int} :
    height ∈ heights (walk ++ [step]) ↔
      height ∈ heights walk ∨ height = (heights walk).getLastD 0 + step := by
  rw [heights_concat, List.mem_append, List.mem_singleton]

/-- Every walk starts at zero. -/
lemma zero_mem_heights (walk : List Int) : 0 ∈ heights walk := by
  cases walk <;> simp [heights]

/-- Before the first line the level is the height of a walk without steps. -/
lemma standsAbove_nil : StandsAbove (heights []) 0 := by
  refine ⟨List.mem_singleton_self 0, ?_⟩
  intro height hmem
  rw [List.mem_singleton.1 hmem]
  exact Int.le_refl 0

/-- A step moves the level along, unless that would be below zero. -/
lemma StandsAbove.concat {step : Int} {next : Nat} (h : StandsAbove (heights walk) level)
    (hnext : (next : Int) = max (level + step) 0) :
    StandsAbove (heights (walk ++ [step])) next := by
  obtain ⟨hmem, hlow⟩ := h
  rw [StandsAbove, last_heights_concat]
  by_cases hbelow : level + step ≤ 0
  -- the step ends on the lowest point, which may be a new one
  · have hzero : (next : Int) = 0 := by omega
    rw [hzero, Int.sub_zero]
    refine ⟨mem_heights_concat.2 (.inr rfl), ?_⟩
    intro height hheight
    obtain hearlier | rfl := mem_heights_concat.1 hheight
    · have hle := hlow hearlier
      omega
    · exact Int.le_refl _
  -- the lowest point stays what it was
  · have hsame : (heights walk).getLastD 0 + step - next = (heights walk).getLastD 0 - level := by
      omega
    rw [hsame]
    refine ⟨mem_heights_concat.2 (.inl hmem), ?_⟩
    intro height hheight
    obtain hearlier | rfl := mem_heights_concat.1 hheight
    · exact hlow hearlier
    · omega

/-! The level. -/

/-- The level on which a line is written, from the one after the line before. -/
def levelOf (level : Nat) (line : List Char) : Nat :=
  if closes (trim line) then level - 1 else level

/-- The level after some lines. -/
def levelAfter (ls : List (List Char)) : Nat :=
  (ls.foldl State.place ⟨[], 0⟩).level

/-- The level of a line stands above the lowest height up to the step before it. -/
lemma StandsAbove.before (h : StandsAbove (heights walk) level) (line : List Char) :
    StandsAbove (heights (walk ++ stepBefore line)) (levelOf level line) := by
  rw [stepBefore, levelOf]
  split
  · exact h.concat (by omega)
  · rwa [List.append_nil]

/-- The level after a line stands above the lowest height up to the step after it. -/
lemma StandsAbove.after (h : StandsAbove (heights walk) level) (line : List Char) :
    StandsAbove (heights (walk ++ stepAfter line))
      (if opens (trim line) then level + 1 else level) := by
  rw [stepAfter]
  split
  · exact h.concat (by omega)
  · rwa [List.append_nil]

/-- Placing a line leaves its level, or one more if it opens. -/
lemma level_place (state : State) (line : List Char) :
    (state.place line).level =
      if opens (trim line) then levelOf state.level line + 1 else levelOf state.level line := by
  rw [State.place, levelOf]
  split
  case isTrue h =>
    rw [List.isEmpty_iff] at h
    rw [h]
    rfl
  case isFalse => rfl

/-- After any number of lines the level is how far the walk stands above its lowest point. -/
lemma standsAbove_levelAfter (ls : List (List Char)) :
    StandsAbove (heights (steps ls)) (levelAfter ls) := by
  induction ls using List.reverseRecOn with
  | nil => exact standsAbove_nil
  | append_singleton ls line ih =>
    have hlevel : levelAfter (ls ++ [line]) =
        if opens (trim line) then levelOf (levelAfter ls) line + 1
        else levelOf (levelAfter ls) line := by
      rw [levelAfter, List.foldl_append, List.foldl_cons, List.foldl_nil, level_place, levelAfter]
    rw [steps_concat, hlevel]
    exact (ih.before line).after line

/-! What is placed. -/

/-- A line as it is placed after others. -/
def placedAfter (earlier : List (List Char)) (line : List Char) : Placed :=
  ⟨if trim line = [] then 0 else levelOf (levelAfter earlier) line, trim line⟩

/-- One more line is placed behind the others. -/
lemma place_concat (ls : List (List Char)) (line : List Char) :
    place (ls ++ [line]) = place ls ++ [placedAfter ls line] := by
  rw [place, List.foldl_append, List.foldl_cons, List.foldl_nil, State.place, placedAfter, levelOf,
    place, levelAfter]
  by_cases h : trim line = []
  · rw [h, if_pos rfl]
    exact List.reverse_cons
  · have hempty : ¬ (trim line).isEmpty = true := by rwa [List.isEmpty_iff]
    rw [if_neg hempty, if_neg h]
    exact List.reverse_cons

/-- As many lines are placed as there are. -/
lemma length_place (ls : List (List Char)) : (place ls).length = ls.length := by
  have hlength := congrArg List.length (map_content_place ls)
  rwa [List.length_map, List.length_map] at hlength

/-- A line is placed by the lines before it. -/
lemma getElem?_place {i : Nat} (h : ls[i]? = some line) :
    (place ls)[i]? = some (placedAfter (ls.take i) line) := by
  induction ls using List.reverseRecOn with
  | nil => cases h
  | append_singleton ls last ih =>
    have hlength := length_place ls
    rw [place_concat]
    by_cases hi : i < ls.length
    · rw [List.getElem?_append_left hi] at h
      rw [List.getElem?_append_left (by omega), List.take_append_of_le_length (Nat.le_of_lt hi)]
      exact ih h
    · have hlast : i = ls.length := by
        obtain ⟨hlt, -⟩ := List.getElem?_eq_some_iff.1 h
        rw [List.length_append, List.length_singleton] at hlt
        omega
      subst hlast
      rw [List.getElem?_concat_length] at h
      cases h
      rw [← hlength, List.getElem?_concat_length, hlength, List.take_left]

/-- A blank line becomes empty. -/
lemma text_placedAfter_blank (size : Int) (earlier : List (List Char)) (h : trim line = []) :
    (placedAfter earlier line).text size = [] := by
  rw [placedAfter, h, if_pos rfl, Placed.text, Placed.width, Int.natCast_zero, Int.zero_mul]
  rfl

/-- Another line becomes its content behind as many spaces as its level asks for. -/
lemma text_placedAfter (size : Nat) (earlier : List (List Char)) (h : trim line ≠ []) :
    (placedAfter earlier line).text size =
      List.replicate (size * levelOf (levelAfter earlier) line) ' ' ++ trim line := by
  rw [placedAfter, if_neg h, Placed.text, Placed.width, ← Int.natCast_mul, Int.toNat_natCast,
    Nat.mul_comm]

/-! The height of the walk, counted. -/

/-- The height before a line is one less if the line closes. -/
lemma last_heights_before (walk : List Int) (line : List Char) :
    (heights (walk ++ stepBefore line)).getLastD 0 =
      (heights walk).getLastD 0 - [line].countP (closes ∘ trim) := by
  rw [stepBefore, List.countP_singleton, Function.comp_apply]
  split
  · rw [last_heights_concat]
    rfl
  · rw [List.append_nil]
    exact (Int.sub_zero _).symm

/-- The height after a line is one more if the line opens. -/
lemma last_heights_after (walk : List Int) (line : List Char) :
    (heights (walk ++ stepAfter line)).getLastD 0 =
      (heights walk).getLastD 0 + [line].countP (opens ∘ trim) := by
  rw [stepAfter, List.countP_singleton, Function.comp_apply]
  split
  · rw [last_heights_concat]
    rfl
  · rw [List.append_nil]
    exact (Int.add_zero _).symm

/-- The height after some lines counts those that open less those that close. -/
lemma last_heights_steps (ls : List (List Char)) :
    (heights (steps ls)).getLastD 0 =
      (ls.countP (opens ∘ trim) : Int) - ls.countP (closes ∘ trim) := by
  induction ls using List.reverseRecOn with
  | nil => rfl
  | append_singleton ls line ih =>
    rw [steps_concat, last_heights_after, last_heights_before, ih, List.countP_append,
      List.countP_append]
    omega

/--
The height at a line counts the lines before it that open less those that close, itself included.
-/
lemma last_heightsAt (earlier : List (List Char)) (line : List Char) :
    (heightsAt earlier line).getLastD 0 =
      (earlier.countP (opens ∘ trim) : Int) - (earlier ++ [line]).countP (closes ∘ trim) := by
  rw [heightsAt, last_heights_before, last_heights_steps, List.countP_append]
  omega

/-- Where the walk has not been below zero the level is its height. -/
lemma StandsAbove.eq_last (h : StandsAbove (heights walk) level)
    (hnonneg : ∀ height ∈ heights walk, 0 ≤ height) :
    (level : Int) = (heights walk).getLastD 0 := by
  obtain ⟨hmem, hlow⟩ := h
  have hstart := hlow (zero_mem_heights walk)
  have hlowest := hnonneg _ hmem
  omega

/--
The indented document line by line. It has as many lines as the document. A blank line is empty,
and any other one is its content behind the spaces of its level, which is how far the walk over the
lines stands above its lowest point so far when the line is written; where the walk has not been
below zero, these are the earlier lines that end with an opening brace without the lines up to this
one that start with a closing brace. This is what indentation gives, unless a line becomes too wide.
-/
theorem indented_levels (size : Nat) (text : List Char) :
    (lines (indented size text)).length = (lines text).length ∧
      (∀ (i : Nat) (line : List Char), (lines text)[i]? = some line →
        (trim line = [] → (lines (indented size text))[i]? = some []) ∧
        (trim line ≠ [] → ∃ level : Nat,
          StandsAbove (heightsAt ((lines text).take i) line) level ∧
          (lines (indented size text))[i]? =
            some (List.replicate (size * level) ' ' ++ trim line) ∧
          ((∀ height ∈ heightsAt ((lines text).take i) line, 0 ≤ height) →
            (level : Int) = ((lines text).take i).countP (opens ∘ trim) -
              ((lines text).take (i + 1)).countP (closes ∘ trim)))) ∧
      ∀ formatted, indent size text = .ok formatted ↔
        formatted = indented size text ∧ Fits size text := by
  refine ⟨?_, ?_, indent_eq_ok_iff size text⟩
  · rw [lines_indented, List.length_map, length_place]
  · intro i line hline
    have hwritten : (lines (indented size text))[i]? =
        some ((placedAfter ((lines text).take i) line).text size) := by
      rw [lines_indented, List.getElem?_map, getElem?_place hline, Option.map_some]
    have habove : StandsAbove (heightsAt ((lines text).take i) line)
        (levelOf (levelAfter ((lines text).take i)) line) :=
      (standsAbove_levelAfter ((lines text).take i)).before line
    refine ⟨?_, ?_⟩
    · intro hblank
      rw [hwritten, text_placedAfter_blank size _ hblank]
    · intro hcontent
      refine ⟨levelOf (levelAfter ((lines text).take i)) line, habove, ?_, ?_⟩
      · rw [hwritten, text_placedAfter size _ hcontent]
      · intro hnonneg
        rw [List.take_add_one, hline, Option.toList_some, ← last_heightsAt]
        exact habove.eq_last hnonneg

/-- After a closing brace too many the levels start again from the lowest point of the walk. -/
theorem indented_levels_unbalanced :
    let text := "a \x7b\n b\n\x7d\n\x7d\n\t\nc \x7b\nd".toList
    let inner := " b".toList
    let last := "d".toList
    (lines text)[4]? = some ['\t'] ∧ trim ['\t'] = [] ∧ (lines (indented 3 text))[4]? = some [] ∧
      (lines text)[6]? = some last ∧ trim last ≠ [] ∧
      heightsAt ((lines text).take 6) last = [0, 1, 0, -1, 0] ∧ StandsAbove [0, 1, 0, -1, 0] 1 ∧
      (lines (indented 3 text))[6]? = some (List.replicate (3 * 1) ' ' ++ last) ∧
      (lines text)[1]? = some inner ∧ trim inner ≠ [] ∧
      (∀ height ∈ heightsAt ((lines text).take 1) inner, 0 ≤ height) ∧
      ∃ level : Nat, (level : Int) = ((lines text).take 1).countP (opens ∘ trim) -
        ((lines text).take 2).countP (closes ∘ trim) := by
  intro text inner last
  obtain ⟨-, hlines, -⟩ := indented_levels 3 text
  have hblank : (lines text)[4]? = some ['\t'] := by decide
  have hlast : (lines text)[6]? = some last := by decide
  have hinner : (lines text)[1]? = some inner := by decide
  have hheights : heightsAt ((lines text).take 6) last = [0, 1, 0, -1, 0] := by decide +kernel
  have hnonneg : ∀ height ∈ heightsAt ((lines text).take 1) inner, 0 ≤ height := by
    decide +kernel
  obtain ⟨level, habove, hwritten, -⟩ := (hlines 6 last hlast).2 (by decide)
  obtain ⟨level', -, -, hcount⟩ := (hlines 1 inner hinner).2 (by decide)
  have hlevel : level = 1 := by
    have hactual : (lines (indented 3 text))[6]? = some "   d".toList := by decide +kernel
    have hlength := congrArg List.length (Option.some.inj (hwritten.symm.trans hactual))
    have hcontent : (trim last).length = 1 := by decide
    have hwidth : "   d".toList.length = 4 := by decide
    rw [List.length_append, List.length_replicate, hcontent, hwidth] at hlength
    omega
  subst hlevel
  rw [hheights] at habove
  exact ⟨hblank, by decide, (hlines 4 _ hblank).1 (by decide), hlast, by decide, hheights, habove,
    hwritten, hinner, by decide, hnonneg, level', hcount hnonneg⟩

end Remap.Indentation
