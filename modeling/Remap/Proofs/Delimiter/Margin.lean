import Remap.Proofs.Delimiter.Matching
import Remap.Proofs.Diagnostic.Alike

/-!
# Delimiters and margins

The scan passes over blanks without effect but on the column. So two documents with the same
contents on their lines have the same delimiters open at the end of each line, and the same stray
closers, as far apart as the contents of their lines. The relation between the two scans holds after
every character of a content, and without regard to the column at the end of every line.
-/

namespace Remap.Delimiter

open Text

variable {a b : List Char} {s t : Scan}

/-! One scan. -/

/-- A step of the scan moves the cursor by one character. -/
lemma Scan.cursor_step (s : Scan) (c : Char) : (s.step c).cursor = s.cursor.next c := by
  obtain ⟨d, rfl⟩ | ⟨d, rfl⟩ | ⟨ho, hc⟩ := opens_or_closes c
  · rw [step_opener]
  · cases h : s.depths.get d with
    | zero => rw [step_closer_zero h]
    | succ n => rw [step_closer_succ h]
  · rw [step_other ho hc]

/-- A line feed takes the scan to the start of the next line. -/
lemma Scan.step_feed (s : Scan) : s.step '\n' = { s with cursor := ⟨s.cursor.line + 1, 0⟩ } :=
  step_other rfl rfl

/-- A character that is no line feed takes the cursor one column on. -/
lemma Cursor.next_of_ne {c : Char} (hc : c ≠ '\n') (cursor : Cursor) :
    cursor.next c = ⟨cursor.line, cursor.column + 1⟩ :=
  if_neg hc

/-- A blank neither opens nor closes. -/
lemma delimits_nothing_of_isBlank {c : Char} (h : isBlank c = true) :
    ofOpener? c = none ∧ ofCloser? c = none := by
  obtain ⟨d, rfl⟩ | ⟨d, rfl⟩ | hnone := opens_or_closes c
  · cases d <;> cases h
  · cases d <;> cases h
  · exact hnone

/-- Blanks only move the column. -/
lemma Scan.foldl_blanks {blanks : List Char} (h : AllBlank blanks) (hfeed : '\n' ∉ blanks)
    (s : Scan) :
    blanks.foldl step s =
      { s with cursor := ⟨s.cursor.line, s.cursor.column + blanks.length⟩ } := by
  induction blanks generalizing s with
  | nil => rfl
  | cons c rest ih =>
    rw [List.mem_cons, not_or] at hfeed
    obtain ⟨ho, hc⟩ := delimits_nothing_of_isBlank (h c List.mem_cons_self)
    have hrest : AllBlank rest := fun d hd => h d (List.mem_cons_of_mem c hd)
    rw [List.foldl_cons, step_other ho hc, ih hrest hfeed.2,
      Cursor.next_of_ne (Ne.symm hfeed.1), List.length_cons, Nat.add_right_comm, Nat.add_assoc]

/-! Two scans. -/

/-- Stray closers of two documents are the same but for the leading blanks of their line. -/
def Stray.Agrees (a b : List Char) (s t : Stray) : Prop :=
  t.kind = s.kind ∧ t.line = s.line ∧
    (t.column : Int) = s.column + (margin b s.line - margin a s.line)

/-- The second scan is on the same line as the first one, with the same delimiters and closers. -/
structure Scan.Beside (a b : List Char) (s t : Scan) : Prop where
  line : t.cursor.line = s.cursor.line
  depths : t.depths = s.depths
  strays : List.Forall₂ (Stray.Agrees a b) s.strays t.strays

/-- On a content, both scans are as far apart as the contents are. -/
def Scan.Apart (a b : List Char) (s t : Scan) : Prop :=
  (t.cursor.column : Int) = s.cursor.column + (margin b s.cursor.line - margin a s.cursor.line)

/-- A character of a content leaves the scans beside each other and apart. -/
lemma Scan.Beside.step (h : Beside a b s t) (hapart : Apart a b s t) {c : Char} (hc : c ≠ '\n') :
    Beside a b (s.step c) (t.step c) ∧ Apart a b (s.step c) (t.step c) := by
  have hfound : (t.step c).depths = (s.step c).depths ∧
      List.Forall₂ (Stray.Agrees a b) (s.step c).strays (t.step c).strays := by
    obtain ⟨d, rfl⟩ | ⟨d, rfl⟩ | ⟨ho, hn⟩ := opens_or_closes c
    · rw [step_opener, step_opener, h.depths]
      exact ⟨rfl, h.strays⟩
    · have hdepth : t.depths.get d = s.depths.get d := by rw [h.depths]
      cases hs : s.depths.get d with
      | zero =>
        rw [step_closer_zero hs, step_closer_zero (hdepth.trans hs)]
        exact ⟨h.depths, .cons ⟨rfl, h.line, hapart⟩ h.strays⟩
      | succ n =>
        rw [step_closer_succ hs, step_closer_succ (hdepth.trans hs), h.depths]
        exact ⟨rfl, h.strays⟩
    · rw [step_other ho hn, step_other ho hn]
      exact ⟨h.depths, h.strays⟩
  have hnext : ∀ scan : Scan, (scan.step c).cursor =
      ⟨scan.cursor.line, scan.cursor.column + 1⟩ := by
    intro scan
    rw [cursor_step, Cursor.next_of_ne hc]
  refine ⟨⟨?_, hfound.1, hfound.2⟩, ?_⟩
  · rw [hnext, hnext, h.line]
  · rw [Apart] at hapart ⊢
    rw [hnext, hnext]
    dsimp only
    omega

/-- Scans that are beside each other stay so over the same content. -/
lemma Scan.Beside.content (h : Beside a b s t) (hapart : Apart a b s t) {content : List Char}
    (hfeed : '\n' ∉ content) :
    Beside a b (content.foldl Scan.step s) (content.foldl Scan.step t) := by
  induction content generalizing s t with
  | nil => exact h
  | cons c rest ih =>
    rw [List.mem_cons, not_or] at hfeed
    obtain ⟨hnext, hapart'⟩ := h.step hapart (Ne.symm hfeed.1)
    exact ih hnext hapart' hfeed.2

/-- Scans that are beside each other stay so over blanks of their own. -/
lemma Scan.Beside.blanks (h : Beside a b s t) {blanks blanks' : List Char}
    (hb : AllBlank blanks) (hb' : AllBlank blanks') (hfeed : '\n' ∉ blanks)
    (hfeed' : '\n' ∉ blanks') :
    Beside a b (blanks.foldl Scan.step s) (blanks'.foldl Scan.step t) := by
  rw [foldl_blanks hb hfeed, foldl_blanks hb' hfeed']
  exact ⟨h.line, h.depths, h.strays⟩

/-- Two lines with the same content leave the scans beside each other. -/
lemma Scan.Beside.line_end (h : Beside a b s t) (hs : s.cursor.column = 0)
    (ht : t.cursor.column = 0) {line line' : List Char}
    (hline : (lines a)[s.cursor.line]? = some line)
    (hline' : (lines b)[s.cursor.line]? = some line') (hcontent : trim line = trim line') :
    Beside a b (line.foldl Scan.step s) (line'.foldl Scan.step t) := by
  obtain ⟨tail, htail, heq⟩ := exists_margin line
  obtain ⟨tail', htail', heq'⟩ := exists_margin line'
  have hfeed := feed_notMem_of_mem_lines (List.mem_of_getElem? hline)
  have hfeed' := feed_notMem_of_mem_lines (List.mem_of_getElem? hline')
  rw [heq, List.mem_append, List.mem_append, not_or, not_or] at hfeed
  rw [heq', List.mem_append, List.mem_append, not_or, not_or] at hfeed'
  -- the leading blanks put the scans apart, the content keeps them so, and then it does not matter
  have hpad := h.blanks (allBlank_takeWhile line) (allBlank_takeWhile line') hfeed.1 hfeed'.1
  have hapart : Apart a b ((line.takeWhile isBlank).foldl Scan.step s)
      ((line'.takeWhile isBlank).foldl Scan.step t) := by
    rw [foldl_blanks (allBlank_takeWhile line) hfeed.1,
      foldl_blanks (allBlank_takeWhile line') hfeed'.1, Apart, margin_eq hline, margin_eq hline']
    simp only [hs, ht, leadingBlanks]
    omega
  rw [heq, heq', List.foldl_append, List.foldl_append, List.foldl_append, List.foldl_append,
    ← hcontent]
  exact (hpad.content hapart hfeed.2.1).blanks htail htail' hfeed.2.2 hfeed'.2.2

/-- A text without line feeds leaves the scan on its line. -/
lemma Scan.line_foldl {text : List Char} (hfeed : '\n' ∉ text) (s : Scan) :
    (text.foldl Scan.step s).cursor.line = s.cursor.line := by
  induction text generalizing s with
  | nil => rfl
  | cons c rest ih =>
    rw [List.mem_cons, not_or] at hfeed
    rw [List.foldl_cons, ih hfeed.2, cursor_step, Cursor.next_of_ne (Ne.symm hfeed.1)]

/-- From the start of a line on, the same contents leave the scans beside each other. -/
lemma Scan.Beside.rest (h : Beside a b s t) (hs : s.cursor.column = 0) (ht : t.cursor.column = 0)
    {ls ls' : List (List Char)} (hls : (lines a).drop s.cursor.line = ls)
    (hls' : (lines b).drop s.cursor.line = ls') (hcontents : ls.map trim = ls'.map trim) :
    Beside a b ((unlines ls).foldl Scan.step s) ((unlines ls').foldl Scan.step t) := by
  -- by the lines that are left; each of them but the last one ends with a line feed
  induction ls generalizing s t ls' with
  | nil =>
    rw [List.map_nil, eq_comm, List.map_eq_nil_iff] at hcontents
    rw [hcontents]
    exact h
  | cons line rest ih =>
    cases ls' with
    | nil => cases hcontents
    | cons line' rest' =>
      rw [List.map_cons, List.map_cons, List.cons_eq_cons] at hcontents
      obtain ⟨hcontent, hrest⟩ := hcontents
      have hline : (lines a)[s.cursor.line]? = some line := by
        rw [← List.head?_drop, hls, List.head?_cons]
      have hline' : (lines b)[s.cursor.line]? = some line' := by
        rw [← List.head?_drop, hls', List.head?_cons]
      have hend := h.line_end hs ht hline hline' hcontent
      have hnumber := line_foldl (feed_notMem_of_mem_lines (List.mem_of_getElem? hline)) s
      cases rest with
      | nil =>
        rw [List.map_nil, eq_comm, List.map_eq_nil_iff] at hrest
        rw [hrest, unlines, unlines, List.intercalate_singleton, List.intercalate_singleton]
        exact hend
      | cons next rest =>
        cases rest' with
        | nil => cases hrest
        | cons next' rest' =>
          rw [unlines_cons_cons, unlines_cons_cons, List.foldl_append, List.foldl_append,
            List.foldl_cons, List.foldl_cons, step_feed, step_feed]
          apply ih _ rfl rfl _ _ hrest
          · exact ⟨by rw [hend.line], hend.depths, hend.strays⟩
          · rw [hnumber, ← List.tail_drop, hls, List.tail_cons]
          · rw [hnumber, ← List.tail_drop, hls', List.tail_cons]

/-- The scans of two documents with the same contents end beside each other. -/
lemma Scan.beside_ofText (h : (lines a).map trim = (lines b).map trim) :
    Beside a b (ofText a) (ofText b) := by
  have hstart : Beside a b start start := ⟨rfl, rfl, .nil⟩
  have hend := hstart.rest rfl rfl List.drop_zero List.drop_zero h
  rwa [unlines_lines, unlines_lines] at hend

/-! The reports. -/

/-- Strays that agree have diagnostics that agree. -/
lemma Stray.Agrees.diagnostic {s t : Stray} (h : s.Agrees a b t) :
    s.diagnostic.Agrees a b t.diagnostic := by
  obtain ⟨hkind, hline, hcolumn⟩ := h
  rw [Stray.diagnostic, Stray.diagnostic, hkind, hline]
  exact ((Code.unmatchedClosing s.kind).alike_moved (fun h => h) rfl rfl hcolumn _ _).agrees

/-- The openers that wait are reported with their number on the last line, from its start on. -/
lemma Scan.Beside.missing? (h : Beside a b s t) (d : Delimiter) :
    Option.Rel (Diagnostic.Agrees a b) (s.missing? d) (t.missing? d) := by
  rw [Scan.missing?, Scan.missing?, h.depths, h.line]
  split
  · exact .none
  · exact .some ((Code.missingClosing d).alike_whole trivial rfl rfl _ _).agrees

/-- The same contents give the same reports about delimiters. -/
lemma forall₂_check (h : (lines a).map trim = (lines b).map trim) :
    List.Forall₂ (Diagnostic.Agrees a b) (check a) (check b) := by
  have hbeside := Scan.beside_ofText h
  apply List.rel_append
  · rw [List.forall₂_map_left_iff, List.forall₂_map_right_iff, List.forall₂_reverse_iff]
    exact hbeside.strays.imp fun _ _ hs => hs.diagnostic
  · refine List.rel_filterMap (R := Eq) ?_ (List.forall₂_same.2 fun _ _ => rfl)
    rintro d e rfl
    exact hbeside.missing? d

end Remap.Delimiter
