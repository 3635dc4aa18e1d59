import Mathlib.Data.List.Induction
import Remap.Text.Line

/-!
# Positions

Where the character at an offset stands: its line is the number of line feeds before it, and its
column the number of characters since the last of them. `getElem?_lines` says that the lines of a
text hold every character at its position, `lines_append` how the lines of two texts meet, and
`lines_unlines` that lines without line feeds can be put together and taken apart again.
-/

namespace Remap.Text

/-- The first line of a text. -/
def firstLine (text : List Char) : List Char :=
  (lines text).headD []

/-- The last line of a text. -/
def lastLine (text : List Char) : List Char :=
  (lines text).getLastD []

/-- The line of the character at an offset: the number of line feeds before it. -/
def lineAt (text : List Char) (i : Nat) : Nat :=
  (text.take i).count '\n'

/-- The column of the character at an offset: the characters since the last line feed. -/
def columnAt (text : List Char) (i : Nat) : Nat :=
  ((text.take i).reverse.takeWhile (· != '\n')).length

/-- A line feed ends an empty line. -/
lemma lines_cons_feed (text : List Char) : lines ('\n' :: text) = [] :: lines text := by
  have h := lines_ne_nil text
  unfold lines at h ⊢
  rw [cut_cons]
  cases e : cut '\n' text with
  | nil => exact absurd e h
  | cons line rest => rfl

/-- Any other character goes in front of the first line. -/
lemma lines_cons_of_ne {c : Char} (hc : c ≠ '\n') (text : List Char) :
    lines (c :: text) = (c :: firstLine text) :: (lines text).tail := by
  have h := lines_ne_nil text
  unfold firstLine
  unfold lines at h ⊢
  rw [cut_cons]
  generalize cut '\n' text = pieces at h ⊢
  cases pieces with
  | nil => exact absurd rfl h
  | cons line rest => simp [consPiece, hc]

/-- Two texts meet in the last line of the first and the first line of the second. -/
lemma lines_append (a b : List Char) :
    lines (a ++ b) =
      (lines a).dropLast ++ (lastLine a ++ firstLine b) :: (lines b).tail := by
  unfold lastLine
  induction a with
  | nil =>
    have h := lines_ne_nil b
    unfold firstLine
    rw [List.nil_append, show lines [] = [[]] from rfl]
    generalize lines b = rest at h ⊢
    cases rest with
    | nil => exact absurd rfl h
    | cons line rest => rfl
  | cons c a ih =>
    have h := lines_ne_nil a
    rw [List.cons_append]
    by_cases hc : c = '\n'
    · subst hc
      rw [lines_cons_feed, lines_cons_feed, ih]
      generalize lines a = rest at h ⊢
      cases rest with
      | nil => exact absurd rfl h
      | cons line rest => rfl
    · rw [lines_cons_of_ne hc, lines_cons_of_ne hc]
      simp only [firstLine, ih]
      generalize lines a = rest at h ⊢
      cases rest with
      | nil => exact absurd rfl h
      | cons line rest => cases rest <;> rfl

/-- A line that is found under its number is a line of the text. -/
lemma mem_lines_of_line? {text line : List Char} {number : Int}
    (h : line? text number = some line) : line ∈ lines text := by
  cases number with
  | ofNat n => exact List.mem_of_getElem? h
  | negSucc n => cases h

/-- No piece holds the separator. -/
lemma sep_notMem_of_mem_cut {α : Type} [DecidableEq α] {sep : α} {text piece : List α}
    (h : piece ∈ cut sep text) : sep ∉ piece := by
  induction text generalizing piece with
  | nil =>
    rw [List.mem_singleton.1 h]
    exact List.not_mem_nil
  | cons c text ih =>
    rw [cut_cons] at h
    cases hcut : cut sep text with
    | nil => exact absurd hcut (cut_ne_nil sep text)
    | cons first rest =>
      rw [hcut] at h ih
      rw [consPiece] at h
      split at h
      case isTrue =>
        cases h with
        | head => exact List.not_mem_nil
        | tail _ h => exact ih h
      case isFalse hc =>
        cases h with
        | head =>
          rw [List.mem_cons, not_or]
          exact ⟨Ne.symm hc, ih List.mem_cons_self⟩
        | tail _ h => exact ih (List.mem_cons_of_mem _ h)

/-- No line holds a line feed. -/
lemma feed_notMem_of_mem_lines {text line : List Char} (h : line ∈ lines text) : '\n' ∉ line :=
  sep_notMem_of_mem_cut h

/-- A text without separators is its only piece. -/
lemma cut_of_notMem {sep : Char} {text : List Char} (h : sep ∉ text) : cut sep text = [text] := by
  induction text with
  | nil => rfl
  | cons c text ih =>
    rw [List.mem_cons, not_or] at h
    rw [cut_cons, ih h.2, consPiece, if_neg (Ne.symm h.1)]

/-- What stands before the first separator is the first piece. -/
lemma cut_append_cons {sep : Char} {piece : List Char} (h : sep ∉ piece) (rest : List Char) :
    cut sep (piece ++ sep :: rest) = piece :: cut sep rest := by
  induction piece with
  | nil =>
    rw [List.nil_append, cut_cons]
    cases hcut : cut sep rest with
    | nil => exact absurd hcut (cut_ne_nil sep rest)
    | cons first more => rw [consPiece, if_pos rfl]
  | cons c piece ih =>
    rw [List.mem_cons, not_or] at h
    rw [List.cons_append, cut_cons, ih h.2, consPiece, if_neg (Ne.symm h.1)]

/-- A text without line feeds is its only line. -/
lemma lines_of_notMem {text : List Char} (h : '\n' ∉ text) : lines text = [text] :=
  cut_of_notMem h

/-- The first line stands before a line feed and the other lines. -/
lemma unlines_cons_cons (line next : List Char) (rest : List (List Char)) :
    unlines (line :: next :: rest) = line ++ '\n' :: unlines (next :: rest) := by
  rw [unlines, List.intercalate_cons_cons, List.append_assoc]
  rfl

/-- Lines without line feeds are those of the text that is made of them. -/
lemma lines_unlines {ls : List (List Char)} (hne : ls ≠ []) (h : ∀ line ∈ ls, '\n' ∉ line) :
    lines (unlines ls) = ls := by
  induction ls with
  | nil => exact absurd rfl hne
  | cons line rest ih =>
    have hline := lines_of_notMem (h line List.mem_cons_self)
    cases rest with
    | nil =>
      rw [unlines, List.intercalate_singleton, hline]
    | cons next rest =>
      have hrest := ih (List.cons_ne_nil next rest) fun l hl => h l (List.mem_cons_of_mem line hl)
      rw [unlines_cons_cons, lines_append, lastLine, firstLine, lines_cons_feed, hline, hrest]
      simp

/-- A line stands in the text, up to a line feed or the end. -/
lemma exists_around_line {text line : List Char} (h : line ∈ lines text) :
    ∃ before after, text = before ++ (line ++ after) ∧ ∀ c, after.head? = some c → c = '\n' := by
  have hunlines : ∀ ls : List (List Char), line ∈ ls →
      ∃ before after, unlines ls = before ++ (line ++ after) ∧
        ∀ c, after.head? = some c → c = '\n' := by
    intro ls hmem
    induction ls with
    | nil => cases hmem
    | cons first rest ih =>
      cases rest with
      | nil =>
        rw [List.mem_singleton.1 hmem]
        exact ⟨[], [], by simp [unlines], nofun⟩
      | cons next rest =>
        rw [unlines_cons_cons]
        obtain rfl | hmem := List.mem_cons.1 hmem
        · refine ⟨[], '\n' :: unlines (next :: rest), rfl, ?_⟩
          intro c hc
          exact (Option.some.inj hc).symm
        · obtain ⟨before, after, heq, hafter⟩ := ih hmem
          refine ⟨first ++ '\n' :: before, after, ?_, hafter⟩
          rw [heq, List.append_assoc, List.cons_append]
  rw [← unlines_lines text]
  exact hunlines (lines text) h

/-- One more character ends the last line or makes it longer. -/
lemma lastLine_concat (text : List Char) (c : Char) :
    lastLine (text ++ [c]) = if c = '\n' then [] else lastLine text ++ [c] := by
  rw [lastLine, lines_append]
  by_cases hc : c = '\n'
  · subst hc
    rw [firstLine, lines_cons_feed, if_pos rfl]
    simp [lines]
  · rw [firstLine, lines_cons_of_ne hc, if_neg hc]
    simp [firstLine, lines]

/-- The last line is what follows the last line feed. -/
lemma reverse_lastLine (text : List Char) :
    (lastLine text).reverse = text.reverse.takeWhile (· != '\n') := by
  induction text using List.reverseRecOn with
  | nil => rfl
  | append_singleton text c ih =>
    rw [lastLine_concat, List.reverse_append, List.reverse_singleton, List.singleton_append,
      List.takeWhile_cons]
    by_cases hc : c = '\n'
    · simp [hc]
    · simp [hc, ih]

/-- The column of a place is the length of the last line before it. -/
lemma columnAt_eq_length (text : List Char) (i : Nat) :
    columnAt text i = (lastLine (text.take i)).length := by
  rw [columnAt, ← reverse_lastLine, List.length_reverse]

/-- A place has the same line with more text behind it. -/
lemma lineAt_append {text : List Char} {i : Nat} (h : i ≤ text.length) (more : List Char) :
    lineAt (text ++ more) i = lineAt text i := by
  rw [lineAt, List.take_append_of_le_length h, lineAt]

/-- A place has the same column with more text behind it. -/
lemma columnAt_append {text : List Char} {i : Nat} (h : i ≤ text.length) (more : List Char) :
    columnAt (text ++ more) i = columnAt text i := by
  rw [columnAt, List.take_append_of_le_length h, columnAt]

/-- The end of a text is one line further down behind a line feed. -/
lemma lineAt_length_concat (text : List Char) (c : Char) :
    lineAt (text ++ [c]) (text ++ [c]).length =
      if c = '\n' then lineAt text text.length + 1 else lineAt text text.length := by
  rw [lineAt, lineAt, List.take_length, List.take_length, List.count_append,
    List.count_singleton]
  by_cases hc : c = '\n' <;> simp [hc]

/-- The column at the end of a text is the length of its last line. -/
lemma columnAt_length (text : List Char) : columnAt text text.length = (lastLine text).length := by
  rw [columnAt_eq_length, List.take_length]

/-! Two texts put together. -/

/-- The last line of the whole is that of the second text, or both if that is one line. -/
lemma lastLine_append (a b : List Char) :
    lastLine (a ++ b) = if '\n' ∈ b then lastLine b else lastLine a ++ b := by
  induction b using List.reverseRecOn with
  | nil => rw [if_neg List.not_mem_nil, List.append_nil, List.append_nil]
  | append_singleton b c ih =>
    rw [← List.append_assoc, lastLine_concat, ih, lastLine_concat]
    by_cases hc : c = '\n'
    · rw [if_pos hc, if_pos hc, hc, if_pos List.mem_concat_self]
    · have hmem : '\n' ∈ b ++ [c] ↔ '\n' ∈ b := by simp [Ne.symm hc]
      simp only [hmem, if_neg hc]
      split
      · rfl
      · rw [List.append_assoc]

/-- The second text starts after the line feeds of the first. -/
lemma lineAt_append_add (a b : List Char) (i : Nat) :
    lineAt (a ++ b) (a.length + i) = a.count '\n' + lineAt b i := by
  rw [lineAt, List.take_length_add_append, List.count_append, lineAt]

/-- The first line of the second text goes on where the last line of the first one ends. -/
lemma columnAt_append_add (a b : List Char) (i : Nat) :
    columnAt (a ++ b) (a.length + i) =
      columnAt b i + if lineAt b i = 0 then (lastLine a).length else 0 := by
  rw [columnAt_eq_length, columnAt_eq_length, List.take_length_add_append, lastLine_append, lineAt]
  by_cases hfeed : '\n' ∈ b.take i
  · rw [if_pos hfeed, if_neg (Nat.ne_of_gt (List.count_pos_iff.2 hfeed)), Nat.add_zero]
  · have hline : lastLine (b.take i) = b.take i := by
      rw [lastLine, lines_of_notMem hfeed]
      rfl
    rw [if_neg hfeed, if_pos (List.count_eq_zero.2 hfeed), hline, List.length_append, Nat.add_comm]

/-- After one more character the place is further down, or further right on its line. -/
lemma place_lt_succ {text : List Char} {i : Nat} (h : i < text.length) :
    lineAt text i < lineAt text (i + 1) ∨
      lineAt text i = lineAt text (i + 1) ∧ columnAt text i < columnAt text (i + 1) := by
  rw [columnAt_eq_length, columnAt_eq_length, lineAt, lineAt, List.take_add_one,
    List.getElem?_eq_getElem h, Option.toList_some, List.count_append, List.count_singleton,
    lastLine_concat]
  by_cases hc : text[i] = '\n'
  · rw [hc]
    exact .inl (Nat.lt_succ_self _)
  · rw [if_neg hc, List.length_append, if_neg (by simpa using hc)]
    exact .inr ⟨rfl, Nat.lt_succ_self _⟩

/-- Of two places in a text the later one is further down, or further right on the same line. -/
lemma place_lt {text : List Char} {i j : Nat} (hij : i < j) (hj : j ≤ text.length) :
    lineAt text i < lineAt text j ∨
      lineAt text i = lineAt text j ∧ columnAt text i < columnAt text j := by
  induction j with
  | zero => exact absurd hij (Nat.not_lt_zero i)
  | succ j ih =>
    have hstep := place_lt_succ hj
    obtain hlt | rfl := Nat.lt_or_eq_of_le (Nat.le_of_lt_succ hij)
    · have hnear := ih hlt (Nat.le_of_succ_le hj)
      omega
    · exact hstep

/-- No two characters of a text stand in the same place. -/
lemma eq_of_place {text : List Char} {i j : Nat} (hi : i < text.length) (hj : j < text.length)
    (hline : lineAt text i = lineAt text j) (hcolumn : columnAt text i = columnAt text j) :
    i = j := by
  obtain hlt | heq | hlt := Nat.lt_trichotomy i j
  · have h := place_lt hlt (Nat.le_of_lt hj)
    omega
  · exact heq
  · have h := place_lt hlt (Nat.le_of_lt hi)
    omega

/-- The lines of a text hold every character but the line feeds at its position. -/
lemma getElem?_lines {text : List Char} {i : Nat} {c : Char} (h : text[i]? = some c)
    (hc : c ≠ '\n') :
    ∃ row, (lines text)[lineAt text i]? = some row ∧ row[columnAt text i]? = some c := by
  obtain ⟨hi, hget⟩ := List.getElem?_eq_some_iff.1 h
  have hsplit : text = text.take i ++ c :: text.drop (i + 1) := by
    rw [← hget, List.getElem_cons_drop, List.take_append_drop]
  have hlines := lines_append (text.take i) (c :: text.drop (i + 1))
  rw [← hsplit] at hlines
  have hline : (lines (text.take i)).dropLast.length = lineAt text i := by
    rw [List.length_dropLast, length_lines, lineAt, Nat.add_sub_cancel]
  have hfirst : firstLine (c :: text.drop (i + 1)) = c :: firstLine (text.drop (i + 1)) := by
    rw [firstLine, lines_cons_of_ne hc, List.headD_cons]
  -- the line is what stands before the character on it, and what follows up to the next line feed
  refine ⟨lastLine (text.take i) ++ firstLine (c :: text.drop (i + 1)), ?_, ?_⟩
  · rw [hlines, List.getElem?_append_right (by omega), hline, Nat.sub_self]
    rfl
  · rw [columnAt_eq_length, List.getElem?_append_right (Nat.le_refl _), Nat.sub_self, hfirst]
    rfl

end Remap.Text
