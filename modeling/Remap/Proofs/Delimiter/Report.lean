import Remap.Proofs.Delimiter.Matching

/-!
# Reports about delimiters

The diagnostics about the delimiters of a document, read off the stacks of the matching: one for
each closer that closes nothing, in the order of the text, then one for each kind of which openers
wait at the end, with their number. There is none exactly if no part of the document closes more
than it opens and the whole document closes what it opens.
-/

namespace Remap.Delimiter

open Text

/-- What is reported about a closer that closes nothing. -/
def strayReport (text : List Char) (d : Delimiter) (i : Nat) : Diagnostic where
  range := .onLine (lineAt text i) (columnAt text i) (columnAt text i + 1)
  message := "Unexpected closing '" ++ d.closer.toString ++ "': no matching opening '" ++
    d.opener.toString ++ "'"
  severity := .error
  code := "unmatched-closing-" ++ d.name

/-- What is reported about the openers of a kind that wait at the end. -/
def missingReport (text : List Char) (d : Delimiter) : Diagnostic where
  range := .onLine (lineAt text text.length) 0 (lastLine text).length
  message := "Missing " ++ toString (waiting d text).length ++ " closing " ++
    d.noun (waiting d text).length ++ " '" ++ d.closer.toString ++ "'"
  severity := .error
  code := "missing-closing-" ++ d.name

/-- The number that the message of a diagnostic states after its first word `Missing`. -/
def statedCount (d : Diagnostic) : Nat :=
  Nat.ofDigitChars 10 ((d.message.toList.drop "Missing ".length).takeWhile Char.isDigit) 0

/-- The diagnostic about waiting openers says how many they are. -/
lemma Scan.Agrees.missing? {scan : Scan} {text : List Char} (ag : scan.Agrees text)
    (d : Delimiter) :
    scan.missing? d = if waiting d text = [] then none else some (missingReport text d) := by
  simp only [Scan.missing?, ag.depths, List.length_eq_zero_iff]
  split
  · rfl
  · rw [ag.line, ag.column]
    rfl

/-- The diagnostics about a document, read off the stacks. -/
lemma check_eq_reports (text : List Char) :
    check text =
      (strayClosers text).map (fun s => strayReport text s.1 s.2) ++
        (all.filter fun d => waiting d text ≠ []).map (missingReport text) := by
  have ag := Scan.agrees_ofText text
  have hstrays : (Scan.ofText text).strays.reverse.map Stray.diagnostic =
      (strayClosers text).map fun s => strayReport text s.1 s.2 := by
    rw [ag.strays, List.map_map]
    rfl
  have hmissing : all.filterMap (Scan.ofText text).missing? =
      (all.filter fun d => waiting d text ≠ []).map (missingReport text) := by
    rw [← List.filterMap_eq_map, List.filterMap_filter]
    apply List.filterMap_congr
    intro d _
    rw [ag.missing?]
    by_cases h : waiting d text = [] <;> simp [h]
  rw [check, hstrays, hmissing]

/-! What the diagnostics say, and when there is none. -/

/-- The number in the message can be read back. -/
lemma statedCount_missingReport (text : List Char) (d : Delimiter) :
    statedCount (missingReport text d) = (waiting d text).length := by
  have hdigit : ∀ c ∈ Nat.toDigits 10 (waiting d text).length, c.isDigit = true :=
    fun c hc => Nat.isDigit_of_mem_toDigits (by decide) (by decide) hc
  have hblank : " closing ".toList = ' ' :: "closing ".toList := by decide
  simp only [statedCount, missingReport, String.toList_append, List.append_assoc,
    Nat.toString_eq_ofList_toDigits, String.toList_ofList]
  rw [List.drop_left' (by decide), List.takeWhile_append_of_pos hdigit, hblank,
    List.cons_append, List.takeWhile_cons_of_neg (by decide), List.append_nil,
    Nat.ofDigitChars_ten_toDigits]

/-- What is stray in a part of a document is stray in all of it. -/
lemma ClosesNothing.append {text : List Char} {d : Delimiter} {i : Nat}
    (h : ClosesNothing text d i) (more : List Char) : ClosesNothing (text ++ more) d i := by
  obtain ⟨hget, hw⟩ := h
  obtain ⟨hlt, -⟩ := List.getElem?_eq_some_iff.1 hget
  refine ⟨?_, ?_⟩
  · rw [List.getElem?_append_left hlt, hget]
  · rw [List.take_append_of_le_length (Nat.le_of_lt hlt), hw]

/-- A text has no stray closers if it has none with more text behind it. -/
lemma strayClosers_of_append {text more : List Char} (h : strayClosers (text ++ more) = []) :
    strayClosers text = [] := by
  rw [List.eq_nil_iff_forall_not_mem] at h ⊢
  rintro ⟨d, i⟩ hi
  exact h (d, i) (mem_strayClosers.2 ((mem_strayClosers.1 hi).append more))

/-- Up to a stray closer, itself included, a document closes more than it opens. -/
lemma ClosesNothing.count_lt {text : List Char} {d : Delimiter} {i : Nat}
    (h : ClosesNothing text d i) :
    (text.take (i + 1)).count d.opener < (text.take (i + 1)).count d.closer := by
  obtain ⟨hget, hw⟩ := h
  have hcount := length_waiting_add_count d (text.take i)
  rw [hw, List.length_nil, Nat.zero_add] at hcount
  have hopener : [d.closer].count d.opener = 0 := by
    apply List.count_eq_zero.2
    intro hmem
    exact opener_ne_closer d d (List.mem_singleton.1 hmem)
  have hcloser : [d.closer].count d.closer = 1 := List.count_singleton_self
  rw [List.take_add_one, hget, Option.toList_some, List.count_append, List.count_append, hopener,
    hcloser, hcount]
  omega

/-- No closer is stray exactly if no part of the document closes more than it opens. -/
lemma strayClosers_eq_nil_iff (text : List Char) :
    strayClosers text = [] ↔
      ∀ (d : Delimiter) (part : List Char), part <+: text →
        part.count d.closer ≤ part.count d.opener := by
  refine ⟨?_, ?_⟩
  · rintro h d part ⟨more, rfl⟩
    have hcount := length_waiting_add_count d part
    rw [strayClosers_of_append h, List.countP_nil] at hcount
    omega
  · intro h
    rw [List.eq_nil_iff_forall_not_mem]
    rintro ⟨d, i⟩ hi
    have hlt := (mem_strayClosers.1 hi).count_lt
    have hle := h d (text.take (i + 1)) (List.take_prefix _ _)
    omega

/-- Nothing is reported exactly if every kind is balanced. -/
lemma check_eq_nil_iff (text : List Char) :
    check text = [] ↔
      ∀ d : Delimiter,
        (∀ part, part <+: text → part.count d.closer ≤ part.count d.opener) ∧
          text.count d.opener = text.count d.closer := by
  rw [check_eq_reports, List.append_eq_nil_iff, List.map_eq_nil_iff, List.map_eq_nil_iff,
    strayClosers_eq_nil_iff]
  refine ⟨?_, ?_⟩
  · rintro ⟨hparts, hnone⟩ d
    refine ⟨hparts d, ?_⟩
    have hstray := (strayClosers_eq_nil_iff text).2 hparts
    have hw : waiting d text = [] := by
      simpa using List.filter_eq_nil_iff.1 hnone d (mem_all d)
    have hcount := length_waiting_add_count d text
    rw [hstray, hw, List.countP_nil, List.length_nil] at hcount
    omega
  · intro h
    have hparts : ∀ (d : Delimiter) (part : List Char), part <+: text →
        part.count d.closer ≤ part.count d.opener := fun d => (h d).1
    refine ⟨hparts, ?_⟩
    rw [List.filter_eq_nil_iff]
    intro d _
    have hcount := length_waiting_add_count d text
    rw [(strayClosers_eq_nil_iff text).2 hparts, List.countP_nil, (h d).2] at hcount
    have hw : waiting d text = [] := List.length_eq_zero_iff.1 (by omega)
    simp [hw]

/-! The diagnostics of one kind. -/

/-- The codes of stray closers tell the kinds apart. -/
lemma unmatched_code_inj (d e : Delimiter) :
    ("unmatched-closing-" ++ e.name == "unmatched-closing-" ++ d.name) = decide (e = d) := by
  cases d <;> cases e <;> decide

/-- The codes of missing closers tell the kinds apart. -/
lemma missing_code_inj (d e : Delimiter) :
    ("missing-closing-" ++ e.name == "missing-closing-" ++ d.name) = decide (e = d) := by
  cases d <;> cases e <;> decide

/-- The code of a stray closer is not that of a missing one. -/
lemma unmatched_code_ne_missing (d e : Delimiter) :
    ("unmatched-closing-" ++ e.name == "missing-closing-" ++ d.name) = false := by
  cases d <;> cases e <;> decide

/-- The code of a missing closer is not that of a stray one. -/
lemma missing_code_ne_unmatched (d e : Delimiter) :
    ("missing-closing-" ++ e.name == "unmatched-closing-" ++ d.name) = false := by
  cases d <;> cases e <;> decide

/-- The diagnostics with the code of a stray closer are those of the strays of its kind. -/
lemma filter_unmatched (text : List Char) (d : Delimiter) :
    (check text).filter (·.code == "unmatched-closing-" ++ d.name) =
      ((strayClosers text).filter fun s => s.1 = d).map fun s => strayReport text s.1 s.2 := by
  rw [check_eq_reports, List.filter_append, List.filter_map, List.filter_map]
  have hstray : ((·.code == "unmatched-closing-" ++ d.name) ∘
      fun s : Delimiter × Nat => strayReport text s.1 s.2) = fun s => decide (s.1 = d) := by
    funext s
    exact unmatched_code_inj d s.1
  have hmissing : ((·.code == "unmatched-closing-" ++ d.name) ∘ missingReport text) =
      fun _ => false := by
    funext e
    exact missing_code_ne_unmatched d e
  rw [hstray, hmissing]
  simp

/-- The diagnostic with the code of a missing closer is there if an opener of its kind waits. -/
lemma filter_missing (text : List Char) (d : Delimiter) :
    (check text).filter (·.code == "missing-closing-" ++ d.name) =
      if waiting d text = [] then [] else [missingReport text d] := by
  rw [check_eq_reports, List.filter_append, List.filter_map, List.filter_map]
  have hstray : ((·.code == "missing-closing-" ++ d.name) ∘
      fun s : Delimiter × Nat => strayReport text s.1 s.2) = fun _ => false := by
    funext s
    exact unmatched_code_ne_missing d s.1
  have hmissing : ((·.code == "missing-closing-" ++ d.name) ∘ missingReport text) =
      fun e => decide (e = d) := by
    funext e
    exact missing_code_inj d e
  rw [hstray, hmissing, List.filter_filter]
  by_cases hw : waiting d text = []
  · have hnone : (all.filter fun e => decide (e = d) && decide (waiting e text ≠ [])) = [] := by
      rw [List.filter_eq_nil_iff]
      intro e _
      by_cases he : e = d <;> simp [he, hw]
    rw [hnone, if_pos hw]
    simp
  · have hone : (all.filter fun e => decide (e = d) && decide (waiting e text ≠ [])) = [d] := by
      cases d <;> simp [all, hw]
    rw [hone, if_neg hw]
    simp

/--
The balance check agrees with matching by a stack: the diagnostics are those about the closers
that find the stack of their kind empty, in the order of the text and each at its own place, then
those about the openers left on the three stacks.
-/
theorem check_eq_matching (text : List Char) :
    ∃ strays : List (Delimiter × Nat),
      (∀ d i, (d, i) ∈ strays ↔ ClosesNothing text d i) ∧
      strays.Pairwise (fun a b => a.2 < b.2) ∧
      check text =
        strays.map (fun s => strayReport text s.1 s.2) ++
          ([paren, brace, bracket].filter fun d => waiting d text ≠ []).map (missingReport text) ∧
      (∀ d i, ClosesNothing text d i →
        ∃ row, (lines text)[lineAt text i]? = some row ∧
          row[columnAt text i]? = some d.closer) ∧
      (∀ d : Delimiter,
        (check text).filter (·.code == "unmatched-closing-" ++ d.name) =
          (strays.filter fun s => s.1 = d).map fun s => strayReport text s.1 s.2) ∧
      (∀ d : Delimiter,
        ((check text).filter (·.code == "missing-closing-" ++ d.name)).map statedCount =
          if waiting d text = [] then [] else [(waiting d text).length]) ∧
      (check text = [] ↔
        ∀ d : Delimiter,
          (∀ part, part <+: text → part.count d.closer ≤ part.count d.opener) ∧
            text.count d.opener = text.count d.closer) := by
  refine ⟨strayClosers text, fun d i => mem_strayClosers, pairwise_strayClosers text,
    check_eq_reports text, ?_, filter_unmatched text, ?_, check_eq_nil_iff text⟩
  · intro d i h
    exact getElem?_lines h.1 (closer_ne_feed d)
  · intro d
    rw [filter_missing]
    split
    · rfl
    · rw [List.map_singleton, statedCount_missingReport]

/-- A closer after the end of a line is at the start of the next one. -/
example : check "(\n)]".toList = [strayReport "(\n)]".toList bracket 3] := by decide

/-!
## Balanced texts

A text is balanced if the scan passes over it without a stray closer and leaves as many openers
waiting as before, wherever it comes from. Balanced texts can be put one after another and between
delimiters; nothing is reported of a document that is one.
-/

namespace Depths

/-- Setting the depth that there is changes nothing. -/
lemma set_get_self (depths : Depths) (d : Delimiter) : depths.set d (depths.get d) = depths := by
  cases d <;> rfl

/-- The depth that is set last stays. -/
lemma set_set (depths : Depths) (d : Delimiter) (n m : Nat) :
    (depths.set d n).set d m = depths.set d m := by
  cases d <;> rfl

end Depths

/-- The scan passes over the text without a stray closer, and the same openers wait after it. -/
structure Balanced (text : List Char) : Prop where
  depths : ∀ s : Scan, (text.foldl Scan.step s).depths = s.depths
  strays : ∀ s : Scan, (text.foldl Scan.step s).strays = s.strays

variable {a b text : List Char}

/-- The empty text is balanced. -/
lemma balanced_nil : Balanced [] where
  depths _ := rfl
  strays _ := rfl

/-- Balanced texts one after the other are balanced. -/
lemma Balanced.append (ha : Balanced a) (hb : Balanced b) : Balanced (a ++ b) where
  depths s := by
    rw [List.foldl_append, hb.depths, ha.depths]
  strays s := by
    rw [List.foldl_append, hb.strays, ha.strays]

/-- A text without delimiters is balanced. -/
lemma balanced_of_plain (h : ∀ c ∈ text, ofOpener? c = none ∧ ofCloser? c = none) :
    Balanced text := by
  induction text with
  | nil => exact balanced_nil
  | cons c rest ih =>
    obtain ⟨ho, hc⟩ := h c List.mem_cons_self
    have hrest := ih fun d hd => h d (List.mem_cons_of_mem c hd)
    refine ⟨?_, ?_⟩
    · intro s
      rw [List.foldl_cons, hrest.depths, Scan.step_other ho hc]
    · intro s
      rw [List.foldl_cons, hrest.strays, Scan.step_other ho hc]

/-- A balanced text may stand between an opener and its closer. -/
lemma Balanced.enclose (h : Balanced text) (d : Delimiter) :
    Balanced (d.opener :: (text ++ [d.closer])) := by
  -- after the text the opener waits, so that the closer takes it away again
  have hopen : ∀ s : Scan, (text.foldl Scan.step (s.step d.opener)).depths =
      s.depths.set d (s.depths.get d + 1) := by
    intro s
    rw [h.depths, Scan.step_opener]
  have hwait : ∀ s : Scan, (text.foldl Scan.step (s.step d.opener)).depths.get d =
      s.depths.get d + 1 := by
    intro s
    rw [hopen, Depths.get_set_self]
  refine ⟨?_, ?_⟩
  · intro s
    rw [List.foldl_cons, List.foldl_append, List.foldl_cons, List.foldl_nil,
      Scan.step_closer_succ (hwait s), hopen, Depths.set_set, Depths.set_get_self]
  · intro s
    rw [List.foldl_cons, List.foldl_append, List.foldl_cons, List.foldl_nil,
      Scan.step_closer_succ (hwait s), h.strays, Scan.step_opener]

/-- Nothing is reported of a balanced document. -/
lemma Balanced.check_eq_nil (h : Balanced text) : check text = [] := by
  have hdepths : (Scan.ofText text).depths = .zero := h.depths .start
  have hstrays : (Scan.ofText text).strays = [] := h.strays .start
  have hmissing : all.filterMap (Scan.ofText text).missing? = [] := by
    rw [List.filterMap_eq_nil_iff]
    intro d _
    rw [Scan.missing?, hdepths, Depths.get_zero]
    rfl
  rw [check, hstrays, hmissing]
  rfl

end Remap.Delimiter
