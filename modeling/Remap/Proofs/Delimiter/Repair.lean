import Mathlib.Order.Bounds.Defs
import Remap.Proofs.Delimiter.Append

/-!
# Repairs

A text is repaired for a kind of delimiter by insertions and deletions of single characters, until
nothing of that kind is reported. One of them changes the number of stray closers and waiting
openers by one at most, wherever it is made, since what stands before it and what stands after it
only meet in these two numbers. So no repair is shorter than what is reported, and the report itself
is a repair of that length: delete the closers that it points at, and write at the end the closers
that it counts (`report_repairs`).
-/

namespace Remap

/-- A number of insertions and deletions of single characters turn a text into another one. -/
inductive Text.Patch : Nat → List Char → List Char → Prop
  | refl (text : List Char) : Patch 0 text text
  | insertion {n : Nat} {target : List Char} (before after : List Char) (c : Char) :
    Patch n (before ++ c :: after) target → Patch (n + 1) (before ++ after) target
  | deletion {n : Nat} {target : List Char} (before after : List Char) (c : Char) :
    Patch n (before ++ after) target → Patch (n + 1) (before ++ c :: after) target

open Text

namespace Text.Patch

variable {source between target : List Char} {m n : Nat}

/-- Patches one after the other are a patch with the edits of both. -/
lemma trans (h : Patch m source between) (h' : Patch n between target) :
    Patch (m + n) source target := by
  induction h with
  | refl text =>
    rw [Nat.zero_add]
    exact h'
  | insertion before after c _ ih =>
    rw [Nat.add_right_comm]
    exact .insertion before after c (ih h')
  | deletion before after c _ ih =>
    rw [Nat.add_right_comm]
    exact .deletion before after c (ih h')

/-- The same changes can be made in front of one more character. -/
lemma concat (h : Patch n source target) (c : Char) : Patch n (source ++ [c]) (target ++ [c]) := by
  induction h with
  | refl text => exact .refl (text ++ [c])
  | insertion before after d _ ih =>
    rw [List.append_assoc]
    apply insertion before (after ++ [c]) d
    rwa [List.append_assoc] at ih
  | deletion before after d _ ih =>
    rw [List.append_assoc]
    apply deletion before (after ++ [c]) d
    rwa [List.append_assoc] at ih

/-- One more character can be deleted. -/
lemma drop (h : Patch n source target) (c : Char) : Patch (n + 1) (source ++ [c]) target := by
  apply deletion source [] c
  rwa [List.append_nil]

/-- A text can be written at the end, character by character. -/
lemma extend (source tail : List Char) : Patch tail.length source (source ++ tail) := by
  induction tail generalizing source with
  | nil =>
    rw [List.append_nil]
    exact .refl source
  | cons c tail ih =>
    have hrest := ih (source ++ [c])
    rw [List.append_assoc, List.singleton_append] at hrest
    have hfirst := insertion source [] c hrest
    rwa [List.append_nil] at hfirst

end Text.Patch

namespace Delimiter

variable {a b text tail : List Char} {d : Delimiter} {kinds : List Delimiter} {n i j : Nat}

/-! When nothing is reported. -/

/-- Nothing is reported of a kind of delimiter. -/
def Silent (d : Delimiter) (text : List Char) : Prop :=
  ∀ r ∈ check text, r.code ≠ (Code.unmatchedClosing d).id ∧ r.code ≠ (Code.missingClosing d).id

/-- A kind is silent if it has no strays and nothing waits. -/
lemma silent_iff : Silent d text ↔ strays d text = [] ∧ depth d text = 0 := by
  have hunmatched : strays d text = [] ↔
      ∀ r ∈ check text, r.code ≠ (Code.unmatchedClosing d).id := by
    rw [← List.map_eq_nil_iff (f := strayReport text d), ← unmatched_eq, unmatched,
      List.filter_eq_nil_iff]
    simp only [beq_iff_eq, ne_eq]
  have hmissing : depth d text = 0 ↔
      ∀ r ∈ check text, r.code ≠ (Code.missingClosing d).id := by
    have hnone : depth d text = 0 ↔
        (check text).filter (·.code == (Code.missingClosing d).id) = [] := by
      rw [depth_eq_zero_iff, filter_missing_eq]
      split
      case isTrue h => exact iff_of_true h rfl
      case isFalse h => exact iff_of_false h (List.cons_ne_nil _ _)
    rw [hnone, List.filter_eq_nil_iff]
    simp only [beq_iff_eq, ne_eq]
  rw [hunmatched, hmissing]
  exact forall₂_and

/-- Nothing is reported if all kinds are silent. -/
lemma check_eq_nil_iff_silent : check text = [] ↔ ∀ d, Silent d text := by
  refine ⟨?_, ?_⟩
  · intro h d r hr
    rw [h] at hr
    cases hr
  · intro h
    have hstrays : strayClosers text = [] := by
      rw [List.eq_nil_iff_forall_not_mem]
      intro s hs
      have hnone := (silent_iff.1 (h s.1)).1
      rw [strays, List.map_eq_nil_iff, List.filter_eq_nil_iff] at hnone
      exact hnone s hs (decide_eq_true rfl)
    have hwaiting : (all.filter fun d => waiting d text ≠ []) = [] := by
      rw [List.filter_eq_nil_iff]
      intro d _
      simpa using depth_eq_zero_iff.1 (silent_iff.1 (h d)).2
    rw [check_eq_reports, hstrays, hwaiting]
    rfl

/-! No repair is shorter than the report. -/

/-- The number of stray closers of a kind and openers that wait at the end. -/
def faults (d : Delimiter) (text : List Char) : Nat :=
  (strays d text).length + depth d text

/-- The faults of two texts together, of which the first hands its waiting openers on. -/
lemma faults_append (d : Delimiter) (a b : List Char) :
    faults d (a ++ b) = (strays d a).length + ((strays d b).length - depth d a) +
      (depth d b + (depth d a - (strays d b).length)) := by
  rw [faults, strays_append, depth_append, List.length_append, List.length_map, List.length_drop]

/-- A character after a text makes one more opener wait, one less, or one more closer stray. -/
lemma concat_cases (d : Delimiter) (text : List Char) (c : Char) :
    (strays d (text ++ [c])).length = (strays d text).length ∧
        (depth d (text ++ [c]) = depth d text + 1 ∨ depth d (text ++ [c]) = depth d text ∨
          depth d (text ++ [c]) + 1 = depth d text) ∨
      (strays d (text ++ [c])).length = (strays d text).length + 1 ∧ depth d text = 0 ∧
        depth d (text ++ [c]) = 0 := by
  by_cases hc : c = d.closer
  · subst hc
    rw [depth_closer]
    by_cases h : depth d text = 0
    · rw [strays_closer_zero h, List.length_append, h]
      exact .inr ⟨rfl, rfl, rfl⟩
    · rw [strays_closer_pos h]
      exact .inl ⟨rfl, .inr (.inr (Nat.sub_add_cancel (Nat.pos_of_ne_zero h)))⟩
  · rw [strays_of_ne hc]
    refine .inl ⟨rfl, ?_⟩
    by_cases ho : c = d.opener
    · subst ho
      exact .inl (depth_opener d text)
    · exact .inr (.inl (depth_of_ne ho hc text))

/-- One character more or less somewhere in a text makes a difference of one at most. -/
lemma faults_insert (d : Delimiter) (a b : List Char) (c : Char) :
    faults d (a ++ b) ≤ faults d (a ++ c :: b) + 1 ∧
      faults d (a ++ c :: b) ≤ faults d (a ++ b) + 1 := by
  have hsplit : a ++ c :: b = (a ++ [c]) ++ b := by
    rw [List.append_assoc, List.singleton_append]
  rw [hsplit, faults_append, faults_append d (a ++ [c])]
  obtain ⟨hstrays, hdepth⟩ | ⟨hstrays, hzero, hdepth⟩ := concat_cases d a c
  · omega
  · omega

/-- A patch takes away one fault at most with each edit. -/
lemma faults_le_of_patch {target : List Char} (h : Patch n text target) :
    faults d text ≤ faults d target + n := by
  induction h with
  | refl text => exact Nat.le_refl _
  | insertion before after c _ ih =>
    have hone := (faults_insert d before after c).1
    omega
  | deletion before after c _ ih =>
    have hone := (faults_insert d before after c).2
    omega

/-! Deleting the stray closers. -/

/-- A diagnostic about a stray closer of one of the kinds starts at an offset of the text. -/
def reportedAt (kinds : List Delimiter) (text : List Char) (i : Nat) : Bool :=
  kinds.any fun d => (unmatched d text).any fun r =>
    r.range.start == ⟨lineAt text i, columnAt text i⟩

/-- The text without the closers that are reported as stray, for some kinds of delimiters. -/
def withoutStrays (kinds : List Delimiter) (text : List Char) : List Char :=
  (text.zipIdx.filter fun place => !reportedAt kinds text place.2).map Prod.fst

/-- A character is reported if it is a stray of one of the kinds. -/
lemma reportedAt_iff (hi : i < text.length) :
    reportedAt kinds text i = true ↔ ∃ d ∈ kinds, i ∈ strays d text := by
  simp only [reportedAt, List.any_eq_true, unmatched_eq, List.mem_map, beq_iff_eq]
  refine ⟨?_, ?_⟩
  · intro h
    obtain ⟨d, hd, r, ⟨j, hj, rfl⟩, hstart⟩ := h
    simp only [strayReport, Range.onLine, Position.mk.injEq, Int.natCast_inj] at hstart
    rw [eq_of_place hi (lt_length_of_mem_strays hj) hstart.1.symm hstart.2.symm]
    exact ⟨d, hd, hj⟩
  · intro h
    obtain ⟨d, hd, hmem⟩ := h
    exact ⟨d, hd, strayReport text d i, ⟨i, hmem, rfl⟩, rfl⟩

/-- An earlier character is as much a stray as before. -/
lemma mem_strays_concat_of_lt (hi : i < text.length) (c : Char) :
    i ∈ strays d (text ++ [c]) ↔ i ∈ strays d text := by
  rw [strays_concat, List.mem_append]
  refine or_iff_left ?_
  intro hmem
  split at hmem
  · exact absurd (List.mem_singleton.1 hmem) (Nat.ne_of_lt hi)
  · cases hmem

/-- The last character is a stray if it closes the kind while nothing waits. -/
lemma length_mem_strays_concat (d : Delimiter) (text : List Char) (c : Char) :
    text.length ∈ strays d (text ++ [c]) ↔ c = d.closer ∧ depth d text = 0 := by
  rw [strays_concat, List.mem_append]
  refine ⟨?_, ?_⟩
  · rintro (hmem | hmem)
    · exact absurd (lt_length_of_mem_strays hmem) (Nat.lt_irrefl _)
    · split at hmem
      case isTrue h => exact h
      case isFalse => cases hmem
  · intro h
    rw [if_pos h]
    exact .inr (List.mem_singleton_self _)

/-- One more character stays unless it is a stray of one of the kinds. -/
lemma withoutStrays_concat (kinds : List Delimiter) (text : List Char) (c : Char) :
    withoutStrays kinds (text ++ [c]) = withoutStrays kinds text ++
      if ∃ d ∈ kinds, c = d.closer ∧ depth d text = 0 then [] else [c] := by
  have hlength : ∀ {k}, k ≤ text.length → k < (text ++ [c]).length := by
    intro k hk
    rw [List.length_append, List.length_singleton]
    omega
  rw [withoutStrays, List.zipIdx_append, List.filter_append, List.map_append]
  congr 1
  · rw [withoutStrays]
    congr 1
    apply List.filter_congr
    rintro ⟨e, i⟩ hmem
    have hi : i < text.length := by simpa using List.snd_lt_of_mem_zipIdx hmem
    congr 1
    rw [Bool.eq_iff_iff, reportedAt_iff (hlength (Nat.le_of_lt hi)), reportedAt_iff hi]
    simp only [mem_strays_concat_of_lt hi]
  · have hlast : reportedAt kinds (text ++ [c]) text.length = true ↔
        ∃ d ∈ kinds, text.length ∈ strays d (text ++ [c]) :=
      reportedAt_iff (hlength (Nat.le_refl _))
    simp only [length_mem_strays_concat] at hlast
    rw [Nat.zero_add, List.zipIdx_singleton]
    split
    case isTrue h => simp [hlast.2 h]
    case isFalse h => simp [Bool.eq_false_iff.2 fun hreported => h (hlast.1 hreported)]

/-- Without its stray closers a text has none left, and as many openers wait at its end. -/
lemma withoutStrays_spec (hd : d ∈ kinds) (text : List Char) :
    strays d (withoutStrays kinds text) = [] ∧
      depth d (withoutStrays kinds text) = depth d text := by
  induction text using List.reverseRecOn with
  | nil => exact ⟨rfl, rfl⟩
  | append_singleton text c ih =>
    obtain ⟨hstrays, hdepth⟩ := ih
    rw [withoutStrays_concat]
    split
    case isTrue h =>
      obtain ⟨e, -, rfl, hzero⟩ := h
      rw [List.append_nil]
      refine ⟨hstrays, hdepth.trans ?_⟩
      by_cases he : d = e
      · subst he
        rw [depth_closer, hzero]
      · have hne : e.closer ≠ d.closer := fun heq => he (closer_injective heq).symm
        rw [depth_of_ne (opener_ne_closer d e).symm hne]
    case isFalse h =>
      refine ⟨?_, depth_concat_congr hdepth c⟩
      rw [strays_concat, hstrays, if_neg]
      · rfl
      -- such a closer is one of those that are deleted
      · rintro ⟨hc, hzero⟩
        exact h ⟨d, hd, hc, hdepth ▸ hzero⟩

/-- The stray closers of one kind are deleted one by one. -/
lemma patch_withoutStrays (d : Delimiter) (text : List Char) :
    Patch (strays d text).length text (withoutStrays [d] text) := by
  induction text using List.reverseRecOn with
  | nil => exact .refl []
  | append_singleton text c ih =>
    rw [withoutStrays_concat, strays_concat]
    simp only [List.mem_singleton, exists_eq_left]
    split
    · rw [List.append_nil, List.length_append]
      exact ih.drop c
    · rw [List.append_nil]
      exact ih.concat c

/-! Writing the missing closers. -/

/-- Without openers nothing waits. -/
lemma depth_of_notMem (h : d.opener ∉ text) : depth d text = 0 := by
  induction text using List.reverseRecOn with
  | nil => rfl
  | append_singleton text c ih =>
    rw [List.mem_append, List.mem_singleton, not_or] at h
    have hzero := ih h.1
    by_cases hc : c = d.closer
    · rw [hc, depth_closer, hzero]
    · rw [depth_of_ne (Ne.symm h.2) hc, hzero]

/-- Without openers every closer is a stray. -/
lemma length_strays_of_notMem (h : d.opener ∉ text) :
    (strays d text).length = text.count d.closer := by
  have hcount := length_waiting_add_count d text
  rw [List.count_eq_zero.2 h, ← depth, depth_of_notMem h] at hcount
  rw [strays, List.length_map, ← List.countP_eq_length_filter]
  omega

/-- As many closers as there are waiting openers, and none of these, close a text. -/
lemma silent_append (hstrays : strays d text = []) (hopener : d.opener ∉ tail)
    (hcount : tail.count d.closer = depth d text) : Silent d (text ++ tail) := by
  have hlength := length_strays_of_notMem hopener
  rw [silent_iff, strays_append, depth_append, hstrays, depth_of_notMem hopener,
    List.drop_eq_nil_of_le (by omega)]
  exact ⟨rfl, by omega⟩

/-- For one kind, the report says which changes to make. -/
lemma exists_repair (d : Delimiter) (text : List Char) :
    ∃ repaired, Patch (faults d text) text repaired ∧ Silent d repaired := by
  obtain ⟨hstrays, hdepth⟩ := withoutStrays_spec (List.mem_singleton_self d) text
  let tail := List.replicate (depth d text) d.closer
  have hopener : d.opener ∉ tail := fun h => opener_ne_closer d d (List.eq_of_mem_replicate h)
  have hcount : tail.count d.closer = depth d (withoutStrays [d] text) := by
    rw [List.count_replicate_self, hdepth]
  have hwrite := Patch.extend (withoutStrays [d] text) tail
  rw [List.length_replicate] at hwrite
  exact ⟨withoutStrays [d] text ++ tail, (patch_withoutStrays d text).trans hwrite,
    silent_append hstrays hopener hcount⟩

/--
The report about delimiters is a repair, and for each kind a shortest one. As many single characters
have to be inserted or deleted as closers of the kind are reported, together with the number that is
stated as missing, until nothing of the kind is reported. Without all the reported closers, and with
the missing ones at the end in any order, nothing is reported at all.
-/
theorem report_repairs (text : List Char) :
    (∀ d : Delimiter,
      IsLeast {n | ∃ repaired, Patch n text repaired ∧ Silent d repaired}
        ((unmatched d text).length + missing d text)) ∧
      ∀ closers : List Char,
        closers.Perm (all.flatMap fun d => List.replicate (missing d text) d.closer) →
          check (withoutStrays all text ++ closers) = [] := by
  refine ⟨?_, ?_⟩
  · intro d
    have hfaults : (unmatched d text).length + missing d text = faults d text := by
      rw [length_unmatched, missing_eq, faults]
    rw [hfaults]
    refine ⟨exists_repair d text, ?_⟩
    rintro n ⟨repaired, hpatch, hsilent⟩
    obtain ⟨hstrays, hdepth⟩ := silent_iff.1 hsilent
    have hnone : faults d repaired = 0 := by
      rw [faults, hstrays, hdepth, List.length_nil]
    have hle := faults_le_of_patch (d := d) hpatch
    rwa [hnone, Nat.zero_add] at hle
  · intro closers hperm
    rw [check_eq_nil_iff_silent]
    intro d
    obtain ⟨hstrays, hdepth⟩ := withoutStrays_spec (mem_all d) text
    apply silent_append hstrays
    · rw [hperm.mem_iff, List.mem_flatMap]
      rintro ⟨e, -, hmem⟩
      exact opener_ne_closer d e (List.eq_of_mem_replicate hmem)
    · rw [hperm.count_eq, hdepth, ← missing_eq]
      cases d <;> simp [all, List.count_replicate, closer]

/-- A text with stray closers of two kinds and missing ones of two, of which one kind is both. -/
theorem report_repairs_mixed :
    let text := "((]\n\x7d[".toList
    let closers := ")])".toList
    IsLeast {n | ∃ repaired, Patch n text repaired ∧ Silent bracket repaired} 2 ∧
      withoutStrays all text = "((\n[".toList ∧
      closers.Perm (all.flatMap fun d => List.replicate (missing d text) d.closer) ∧
      check (withoutStrays all text ++ closers) = [] := by
  intro text closers
  obtain ⟨hleast, hclosers⟩ := report_repairs text
  have hperm : closers.Perm (all.flatMap fun d => List.replicate (missing d text) d.closer) := by
    decide +kernel
  have hcount : (unmatched bracket text).length + missing bracket text = 2 := by decide +kernel
  exact ⟨hcount ▸ hleast bracket, by decide +kernel, hperm, hclosers closers hperm⟩

end Delimiter

end Remap
