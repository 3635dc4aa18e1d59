import Mathlib.Data.List.Basic
import Mathlib.Data.List.Induction
import Remap.Delimiter.Scan
import Remap.Proofs.Text.Position

/-!
# Matching delimiters with a stack

The reference for the balance check: for each kind the openers without their closer stand on a
stack, known by their offsets, and a closer takes the last of them away or finds the stack empty.
The scan itself counts, with a reset at each stray closer. `Scan.agrees_ofText` relates the two
after every part of a document, and `length_waiting_add_count` accounts for every delimiter.
-/

namespace Remap.Delimiter

open Text

/-- The stack of waiting openers after one more character, given with its offset. -/
def matchStep (d : Delimiter) (stack : List Nat) (place : Char × Nat) : List Nat :=
  if place.1 = d.opener then place.2 :: stack
  else if place.1 = d.closer then stack.tail
  else stack

/-- The offsets of the openers of a kind that wait after a text, the last one on top. -/
def waiting (d : Delimiter) (text : List Char) : List Nat :=
  text.zipIdx.foldl (matchStep d) []

/-- At the offset stands a closer of the kind, and no opener of the kind waits there. -/
def ClosesNothing (text : List Char) (d : Delimiter) (i : Nat) : Prop :=
  text[i]? = some d.closer ∧ waiting d (text.take i) = []

/-- The kind of a character, if it is a closer for which no opener waits. -/
def strayKind? (text : List Char) (place : Char × Nat) : Option (Delimiter × Nat) :=
  match ofCloser? place.1 with
  | some d => if waiting d (text.take place.2) = [] then some (d, place.2) else none
  | none => none

/-- The closers that close nothing, with their kinds, in the order of the text. -/
def strayClosers (text : List Char) : List (Delimiter × Nat) :=
  text.zipIdx.filterMap (strayKind? text)

/-! Openers and closers are told apart by their kinds. -/

/-- The opener of a kind opens it. -/
lemma ofOpener?_opener (d : Delimiter) : ofOpener? d.opener = some d :=
  ofOpener?_eq_some_iff.2 rfl

/-- The closer of a kind closes it. -/
lemma ofCloser?_closer (d : Delimiter) : ofCloser? d.closer = some d :=
  ofCloser?_eq_some_iff.2 rfl

/-- A closer opens nothing. -/
lemma ofOpener?_closer (d : Delimiter) : ofOpener? d.closer = none := by
  cases d <;> rfl

/-- An opener closes nothing. -/
lemma ofCloser?_opener (d : Delimiter) : ofCloser? d.opener = none := by
  cases d <;> rfl

/-- No character both opens and closes. -/
lemma opener_ne_closer (d e : Delimiter) : d.opener ≠ e.closer := by
  cases d <;> cases e <;> decide

/-- Kinds with the same opener are the same. -/
lemma opener_injective {d e : Delimiter} (h : d.opener = e.opener) : d = e := by
  have h' := ofOpener?_opener e
  rw [← h, ofOpener?_opener] at h'
  exact Option.some.inj h'

/-- Kinds with the same closer are the same. -/
lemma closer_injective {d e : Delimiter} (h : d.closer = e.closer) : d = e := by
  have h' := ofCloser?_closer e
  rw [← h, ofCloser?_closer] at h'
  exact Option.some.inj h'

/-- A closer is no line feed. -/
lemma closer_ne_feed (d : Delimiter) : d.closer ≠ '\n' := by
  cases d <;> decide

/-- A character opens, closes, or does neither. -/
lemma opens_or_closes (c : Char) :
    (∃ d : Delimiter, c = d.opener) ∨ (∃ d : Delimiter, c = d.closer) ∨
      (ofOpener? c = none ∧ ofCloser? c = none) := by
  cases ho : ofOpener? c with
  | some d => exact .inl ⟨d, ofOpener?_eq_some_iff.1 ho⟩
  | none =>
    cases hc : ofCloser? c with
    | some d => exact .inr (.inl ⟨d, ofCloser?_eq_some_iff.1 hc⟩)
    | none => exact .inr (.inr ⟨rfl, rfl⟩)

/-! The stack after one more character. -/

/-- One more character changes the waiting openers by one step. -/
lemma waiting_concat (d : Delimiter) (text : List Char) (c : Char) :
    waiting d (text ++ [c]) = matchStep d (waiting d text) (c, text.length) := by
  simp [waiting, List.zipIdx_append]

/-- An opener waits in front of those that waited before. -/
lemma waiting_opener (d : Delimiter) (text : List Char) :
    waiting d (text ++ [d.opener]) = text.length :: waiting d text := by
  rw [waiting_concat, matchStep, if_pos rfl]

/-- A closer takes the opener that waits in front. -/
lemma waiting_closer (d : Delimiter) (text : List Char) :
    waiting d (text ++ [d.closer]) = (waiting d text).tail := by
  rw [waiting_concat, matchStep, if_neg (opener_ne_closer d d).symm, if_pos rfl]

/-- Another character leaves the waiting openers as they are. -/
lemma waiting_of_ne {d : Delimiter} {c : Char} (ho : c ≠ d.opener) (hc : c ≠ d.closer)
    (text : List Char) : waiting d (text ++ [c]) = waiting d text := by
  rw [waiting_concat, matchStep, if_neg ho, if_neg hc]

/-! The stray closers after one more character. -/

/-- A text has the same start when a character is added. -/
lemma take_concat_of_le {text : List Char} {i : Nat} (c : Char) (h : i ≤ text.length) :
    (text ++ [c]).take i = text.take i :=
  List.take_append_of_le_length h

/-- One more character adds itself, if it closes nothing. -/
lemma strayClosers_concat (text : List Char) (c : Char) :
    strayClosers (text ++ [c]) =
      strayClosers text ++ (strayKind? (text ++ [c]) (c, text.length)).toList := by
  rw [strayClosers, List.zipIdx_append, List.filterMap_append]
  congr 1
  · apply List.filterMap_congr
    rintro ⟨c', i⟩ hmem
    have hi := List.snd_lt_of_mem_zipIdx hmem
    simp only [strayKind?]
    rw [take_concat_of_le c (Nat.le_of_lt (by simpa using hi))]
  · cases h : strayKind? (text ++ [c]) (c, text.length) <;> simp [h]

/-- Listed are the closers that close nothing. -/
lemma mem_strayClosers {text : List Char} {d : Delimiter} {i : Nat} :
    (d, i) ∈ strayClosers text ↔ ClosesNothing text d i := by
  simp only [strayClosers, List.mem_filterMap, Prod.exists, ClosesNothing]
  refine ⟨?_, ?_⟩
  · intro h
    obtain ⟨c, j, hmem, h⟩ := h
    rw [List.mk_mem_zipIdx_iff_getElem?] at hmem
    cases hc : ofCloser? c with
    | none => simp [strayKind?, hc] at h
    | some e =>
      simp only [strayKind?, hc] at h
      split at h
      · next hw =>
        cases h
        rw [ofCloser?_eq_some_iff] at hc
        exact ⟨hc ▸ hmem, hw⟩
      · cases h
  · intro h
    obtain ⟨hget, hw⟩ := h
    refine ⟨d.closer, i, List.mk_mem_zipIdx_iff_getElem?.2 hget, ?_⟩
    simp [strayKind?, ofCloser?_closer, hw]

/-- An opener is not a stray closer. -/
lemma strayKind?_opener (text : List Char) (d : Delimiter) (i : Nat) :
    strayKind? text (d.opener, i) = none := by
  rw [strayKind?, ofCloser?_opener]

/-- A closer is a stray one if no opener of its kind waits before it. -/
lemma strayKind?_closer (text : List Char) (d : Delimiter) (i : Nat) :
    strayKind? text (d.closer, i) =
      if waiting d (text.take i) = [] then some (d, i) else none := by
  rw [strayKind?, ofCloser?_closer]

/-- The stray closers are listed in the order of the text. -/
lemma pairwise_strayClosers (text : List Char) :
    (strayClosers text).Pairwise fun a b => a.2 < b.2 := by
  induction text using List.reverseRecOn with
  | nil => exact .nil
  | append_singleton text c ih =>
    rw [strayClosers_concat, List.pairwise_append]
    refine ⟨ih, ?_, ?_⟩
    · cases strayKind? (text ++ [c]) (c, text.length) <;> simp
    · rintro ⟨d, i⟩ hi ⟨e, j⟩ hj
      obtain ⟨hget, -⟩ := mem_strayClosers.1 hi
      obtain ⟨hlt, -⟩ := List.getElem?_eq_some_iff.1 hget
      have hj' : j = text.length := by
        simp only [strayKind?, Option.mem_toList] at hj
        split at hj
        · split at hj <;> simp_all
        · cases hj
      simpa [hj'] using hlt

/-! The scan after one more character. -/

/-- An opener adds one to the depth of its kind. -/
lemma Scan.step_opener (scan : Scan) (d : Delimiter) :
    scan.step d.opener =
      { scan with
        cursor := scan.cursor.next d.opener
        depths := scan.depths.set d (scan.depths.get d + 1) } := by
  simp only [Scan.step, ofOpener?_opener]

/-- A closer is noted as a stray one while no opener waits. -/
lemma Scan.step_closer_zero {scan : Scan} {d : Delimiter} (h : scan.depths.get d = 0) :
    scan.step d.closer =
      { scan with
        cursor := scan.cursor.next d.closer
        strays := ⟨d, scan.cursor.line, scan.cursor.column⟩ :: scan.strays } := by
  simp only [Scan.step, ofOpener?_closer, ofCloser?_closer, h]

/-- A closer takes one from the depth of its kind while an opener waits. -/
lemma Scan.step_closer_succ {scan : Scan} {d : Delimiter} {n : Nat}
    (h : scan.depths.get d = n + 1) :
    scan.step d.closer =
      { scan with
        cursor := scan.cursor.next d.closer
        depths := scan.depths.set d n } := by
  simp only [Scan.step, ofOpener?_closer, ofCloser?_closer, h]

/-- Another character only moves the cursor. -/
lemma Scan.step_other {scan : Scan} {c : Char} (ho : ofOpener? c = none)
    (hc : ofCloser? c = none) :
    scan.step c = { scan with cursor := scan.cursor.next c } := by
  simp only [Scan.step, ho, hc]

/-- The place of a character in a document, as the scan records a stray closer there. -/
def strayAt (text : List Char) (place : Delimiter × Nat) : Stray :=
  ⟨place.1, lineAt text place.2, columnAt text place.2⟩

/-- What the scan knows after a part of a document, in terms of the stacks and the offsets. -/
structure Scan.Agrees (scan : Scan) (text : List Char) : Prop where
  line : scan.cursor.line = lineAt text text.length
  column : scan.cursor.column = (lastLine text).length
  depths : ∀ d, scan.depths.get d = (waiting d text).length
  strays : scan.strays.reverse = (strayClosers text).map (strayAt text)

/-- Before the first character the scan agrees with the empty text. -/
lemma Scan.agrees_start : Scan.start.Agrees [] where
  line := rfl
  column := rfl
  depths d := Depths.get_zero d
  strays := rfl

/-- A character moves the cursor like it moves the end of the text. -/
lemma Scan.Agrees.next {scan : Scan} {text : List Char} (ag : scan.Agrees text) (c : Char) :
    (scan.cursor.next c).line = lineAt (text ++ [c]) (text ++ [c]).length ∧
      (scan.cursor.next c).column = (lastLine (text ++ [c])).length := by
  rw [lineAt_length_concat, lastLine_concat, Cursor.next]
  by_cases hc : c = '\n'
  · simp [hc, ag.line]
  · simp [hc, ag.line, ag.column]

/-- The places of the stray closers stay the same when a character is added. -/
lemma map_strayAt_concat (text : List Char) (c : Char) :
    (strayClosers text).map (strayAt (text ++ [c])) = (strayClosers text).map (strayAt text) := by
  apply List.map_congr_left
  rintro ⟨d, i⟩ hi
  obtain ⟨hget, -⟩ := mem_strayClosers.1 hi
  obtain ⟨hlt, -⟩ := List.getElem?_eq_some_iff.1 hget
  have hle := Nat.le_of_lt hlt
  rw [strayAt, strayAt, lineAt_append hle, columnAt_append hle]

/-- The scan and the stacks stay together over one more character. -/
lemma Scan.Agrees.step {scan : Scan} {text : List Char} (ag : scan.Agrees text) (c : Char) :
    (scan.step c).Agrees (text ++ [c]) := by
  obtain ⟨hline, hcol⟩ := ag.next c
  have hsame := map_strayAt_concat text c
  obtain ⟨d, rfl⟩ | ⟨d, rfl⟩ | ⟨ho, hc⟩ := opens_or_closes c
  · rw [Scan.step_opener]
    refine ⟨hline, hcol, ?_, ?_⟩
    · intro e
      by_cases he : e = d
      · subst he
        simp [waiting_opener, ag.depths]
      · have hne : d.opener ≠ e.opener := fun h => he (opener_injective h).symm
        rw [Depths.get_set_of_ne _ he, waiting_of_ne hne (opener_ne_closer d e), ag.depths]
    · simp [strayClosers_concat, strayKind?_opener, hsame, ag.strays]
  · have hothers : ∀ e, e ≠ d → waiting e (text ++ [d.closer]) = waiting e text := by
      intro e he
      exact waiting_of_ne (opener_ne_closer e d).symm
        (fun h => he (closer_injective h).symm) text
    have hdepth := ag.depths d
    have htake : (text ++ [d.closer]).take text.length = text := by simp
    -- at depth zero the stack is empty, and the closer is recorded; else both lose one opener
    cases hw : waiting d text with
    | nil =>
      rw [hw] at hdepth
      rw [Scan.step_closer_zero hdepth]
      refine ⟨hline, hcol, ?_, ?_⟩
      · intro e
        by_cases he : e = d
        · subst he
          simp [waiting_closer, ag.depths, hw]
        · rw [hothers e he, ag.depths]
      · have hplace : strayAt (text ++ [d.closer]) (d, text.length) =
            ⟨d, scan.cursor.line, scan.cursor.column⟩ := by
          rw [strayAt, lineAt_append (Nat.le_refl _), columnAt_append (Nat.le_refl _),
            columnAt_length, ag.line, ag.column]
        simp [strayClosers_concat, strayKind?_closer, htake, hw, hsame, ag.strays, hplace]
    | cons i rest =>
      rw [hw] at hdepth
      rw [Scan.step_closer_succ hdepth]
      refine ⟨hline, hcol, ?_, ?_⟩
      · intro e
        by_cases he : e = d
        · subst he
          simp [waiting_closer, hw]
        · rw [hothers e he, Depths.get_set_of_ne _ he, ag.depths]
      · simp [strayClosers_concat, strayKind?_closer, htake, hw, hsame, ag.strays]
  · rw [Scan.step_other ho hc]
    refine ⟨hline, hcol, ?_, ?_⟩
    · intro e
      have hne : c ≠ e.opener := fun h => by simp [h, ofOpener?_opener] at ho
      have hne' : c ≠ e.closer := fun h => by simp [h, ofCloser?_closer] at hc
      rw [waiting_of_ne hne hne', ag.depths]
    · simp [strayClosers_concat, strayKind?, hc, hsame, ag.strays]

/-- After every part of a document the scan agrees with the stacks. -/
lemma Scan.agrees_ofText (text : List Char) : (Scan.ofText text).Agrees text := by
  induction text using List.reverseRecOn with
  | nil => exact Scan.agrees_start
  | append_singleton text c ih =>
    rw [Scan.ofText_append]
    exact ih.step c

/-- Openers that do not wait have their closers; all other closers are stray. -/
lemma length_waiting_add_count (d : Delimiter) (text : List Char) :
    (waiting d text).length + text.count d.closer =
      text.count d.opener + (strayClosers text).countP fun s => s.1 = d := by
  induction text using List.reverseRecOn with
  | nil => rfl
  | append_singleton text c ih =>
    rw [strayClosers_concat, List.countP_append, List.count_append, List.count_append]
    obtain ⟨e, rfl⟩ | ⟨e, rfl⟩ | ⟨ho, hc⟩ := opens_or_closes c
    · rw [strayKind?_opener]
      by_cases he : e = d
      · subst he
        simp [waiting_opener, opener_ne_closer]
        omega
      · have hne : e.opener ≠ d.opener := fun h => he (opener_injective h)
        simp [waiting_of_ne hne (opener_ne_closer e d), opener_ne_closer, hne, ih]
    · have htake : (text ++ [e.closer]).take text.length = text := by simp
      rw [strayKind?_closer, htake]
      by_cases he : e = d
      · subst he
        rw [waiting_closer]
        cases hw : waiting e text <;> simp [hw, (opener_ne_closer e e).symm] at ih ⊢ <;> omega
      · have hne : e.closer ≠ d.closer := fun h => he (closer_injective h)
        rw [waiting_of_ne (opener_ne_closer d e).symm hne]
        split <;> simp [he, hne, (opener_ne_closer d e).symm, ih]
    · have hne : c ≠ d.opener := fun h => by simp [h, ofOpener?_opener] at ho
      have hne' : c ≠ d.closer := fun h => by simp [h, ofCloser?_closer] at hc
      simp [waiting_of_ne hne hne', strayKind?, hc, hne, hne', ih]

end Remap.Delimiter
