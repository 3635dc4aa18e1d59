import Mathlib.Data.List.Forall2
import Remap.Proofs.Check.Fallible

/-!
# What the line checks have in common

Each standard check reports with one code of its own, on the line that it is given and from left to
right, and what it reports moves with the number of the line. `forall₂_regular` says so of the whole
list of checks, so that facts about a report as a whole are proved for any such check.
-/

namespace Remap

/-! Moving down. -/

/-- The range as many lines further down. -/
def Range.down (count : Nat) (r : Range) : Range :=
  ⟨⟨r.start.line + count, r.start.character⟩, ⟨r.stop.line + count, r.stop.character⟩⟩

/-- The diagnostic as many lines further down, with all its ranges. -/
def Diagnostic.down (count : Nat) (d : Diagnostic) : Diagnostic :=
  { d with
    range := d.range.down count
    related := d.related.map fun r => { r with range := r.range.down count } }

/-- What a check finds on a line; nothing if it fails. -/
def LineCheck.found (check : LineCheck) (registry : Registry) (line : List Char) (number : Int) :
    List Diagnostic :=
  (check registry line number).toOption.getD []

/--
A check reports with one code, on the line that it is given, from left to right, and in the same way
on a line further down.
-/
structure LineCheck.Regular (check : LineCheck) (code : Code) : Prop where
  code : ∀ registry line number, ∀ d ∈ check.found registry line number, d.code = code.id
  line : ∀ registry line number, ∀ d ∈ check.found registry line number, d.line = number
  order : ∀ registry line number, (check.found registry line number).Pairwise
    fun a b => a.range.start.character < b.range.start.character
  moved : ∀ registry line number (count : Nat), check.found registry line (number + count) =
    (check.found registry line number).map (Diagnostic.down count)

/-- A check that makes one report for each of some items on a line, which stand in columns. -/
lemma LineCheck.regular_of_items {α : Type} {check : SafeCheck} {code : Code}
    (items : Registry → List Char → List α) (column : α → Nat)
    (report : Registry → List Char → Int → α → Diagnostic)
    (hcheck : ∀ registry line number,
      check registry line number = (items registry line).map (report registry line number))
    (horder : ∀ registry line, (items registry line).Pairwise fun a b => column a < column b)
    (hcode : ∀ registry line number item, (report registry line number item).code = code.id)
    (hstart : ∀ registry line number item,
      (report registry line number item).range.start = ⟨number, column item⟩)
    (hmoved : ∀ registry line number (count : Nat) item,
      report registry line (number + count) item =
        (report registry line number item).down count) : check.lift.Regular code := by
  have hfound : ∀ registry line number,
      LineCheck.found check.lift registry line number =
        (items registry line).map (report registry line number) := hcheck
  refine ⟨?_, ?_, ?_, ?_⟩
  · intro registry line number d hd
    rw [hfound] at hd
    obtain ⟨item, -, rfl⟩ := List.mem_map.1 hd
    exact hcode registry line number item
  · intro registry line number d hd
    rw [hfound] at hd
    obtain ⟨item, -, rfl⟩ := List.mem_map.1 hd
    rw [Diagnostic.line, hstart]
  · intro registry line number
    rw [hfound, List.pairwise_map]
    apply (horder registry line).imp
    intro a b hlt
    rw [hstart, hstart]
    exact Int.ofNat_lt.2 hlt
  · intro registry line number count
    rw [hfound, hfound, List.map_map]
    apply List.map_congr_left
    intro item _
    exact hmoved registry line number count item

namespace Check

open Text

/-- The calls on a line that have a property stand from left to right. -/
lemma pairwise_sites (line : List Char) (p : CallSite → Bool) :
    ((CallSite.ofLine line).filter p).Pairwise fun a b => a.start < b.start :=
  ((CallSite.pairwise_ofLine line).imp fun h => h.1).filter p

/-- At most one item is in order. -/
lemma pairwise_toList {α : Type} (R : α → α → Prop) (item : Option α) :
    item.toList.Pairwise R := by
  cases item with
  | none => exact List.Pairwise.nil
  | some a => exact List.pairwise_singleton R a

/-- The check of fallible calls is regular. -/
lemma regular_fallibleCalls : (SafeCheck.lift fallibleCalls).Regular .missingErrorHandling :=
  LineCheck.regular_of_items
    (fun registry line => (CallSite.ofLine line).filter fun site =>
      isFallible registry site && isUnhandled (hasFallback line) (Binding.stops line) site)
    CallSite.start (fun _ _ => unhandled) (fun _ _ _ => rfl) (fun _ line => pairwise_sites line _)
    (fun _ _ _ _ => rfl) (fun _ _ _ _ => rfl) (fun _ _ _ _ _ => rfl)

/-- The check of unknown functions is regular. -/
lemma regular_unknownFunctions : (SafeCheck.lift unknownFunctions).Regular .unknownFunction :=
  LineCheck.regular_of_items
    (fun registry line => (CallSite.ofLine line).filter fun site =>
      !(registry.contains site.name || keywords.contains site.name))
    CallSite.start (fun registry _ => unknown registry) (fun _ _ _ => rfl)
    (fun _ line => pairwise_sites line _) (fun _ _ _ _ => rfl) (fun _ _ _ _ => rfl)
    (fun _ _ _ _ _ => rfl)

/-- The check for deletions of the event is regular. -/
lemma regular_deletesRoot : (SafeCheck.lift deletesRoot).Regular .delRootEvent := by
  refine LineCheck.regular_of_items (fun _ line => (offset? rootDeletion line).toList) (fun n => n)
    (fun _ _ => rootDeleted) ?_ (fun _ line => pairwise_toList _ _) (fun _ _ _ _ => rfl)
    (fun _ _ _ _ => rfl) (fun _ _ _ _ _ => rfl)
  intro registry line number
  rw [deletesRoot]
  cases offset? rootDeletion line <;> rfl

/-- The check for calls that abort is regular. -/
lemma regular_abortsWithoutFallback :
    (SafeCheck.lift abortsWithoutFallback).Regular .suggestNullCoalescing := by
  refine LineCheck.regular_of_items
    (fun registry line => if hasFallback line then [] else
      ((CallSite.ofLine line).find? fun site => site.abort && isFallible registry site).toList)
    CallSite.start (fun _ _ => aborting) ?_ ?_ (fun _ _ _ _ => rfl) (fun _ _ _ _ => rfl)
    (fun _ _ _ _ _ => rfl)
  · intro registry line number
    rw [abortsWithoutFallback]
    cases hasFallback line with
    | true => rfl
    | false =>
      cases (CallSite.ofLine line).find? fun site => site.abort && isFallible registry site <;> rfl
  · intro registry line
    cases hasFallback line with
    | true => exact List.Pairwise.nil
    | false => exact pairwise_toList _ _

/-- The check for slow patterns is regular. -/
lemma regular_matchesUnbounded : (SafeCheck.lift matchesUnbounded).Regular .regexPerformance := by
  -- the only item is the line itself
  refine LineCheck.regular_of_items
    (fun _ line => if occurs ['.', '*'] line &&
      (CallSite.ofLine line).any fun site => patternFunctions.contains site.name then [()] else [])
    (fun _ => 0)
    (fun _ line number _ => slowPattern number line) ?_ ?_ (fun _ _ _ _ => rfl)
    (fun _ _ _ _ => rfl) (fun _ _ _ _ _ => rfl)
  · intro registry line number
    dsimp only [matchesUnbounded]
    split <;> rfl
  · intro registry line
    split
    · exact List.pairwise_singleton _ _
    · exact List.Pairwise.nil

/-! Checks that report a line at most once. -/

variable (registry : Registry) (line : List Char) (number : Int)

/-- At most one deletion of the event is reported on a line. -/
lemma length_deletesRoot_le : (deletesRoot registry line number).length ≤ 1 := by
  rw [deletesRoot]
  split
  · exact Nat.zero_le 1
  · exact Nat.le_refl 1

/-- At most one call that aborts is reported on a line. -/
lemma length_abortsWithoutFallback_le :
    (abortsWithoutFallback registry line number).length ≤ 1 := by
  rw [abortsWithoutFallback]
  split
  · exact Nat.zero_le 1
  · split
    · exact Nat.zero_le 1
    · exact Nat.le_refl 1

/-- At most one slow pattern is reported on a line. -/
lemma length_matchesUnbounded_le : (matchesUnbounded registry line number).length ≤ 1 := by
  rw [matchesUnbounded]
  split
  · exact Nat.le_refl 1
  · exact Nat.zero_le 1

end Check

/-- The codes of the standard checks, in their order. -/
def lineCodes : List Code :=
  [.missingErrorHandling, .unknownFunction, .delRootEvent, .suggestNullCoalescing,
    .regexPerformance]

namespace LineCheck

/-- Each standard check is regular, with the code that stands in its place. -/
lemma forall₂_regular : List.Forall₂ LineCheck.Regular LineCheck.standard lineCodes :=
  .cons Check.regular_fallibleCalls <| .cons Check.regular_unknownFunctions <|
    .cons Check.regular_deletesRoot <| .cons Check.regular_abortsWithoutFallback <|
    .cons Check.regular_matchesUnbounded .nil

/-- The code of the standard check in a place. -/
lemma exists_code {check : LineCheck} {i : Nat} (h : LineCheck.standard[i]? = some check) :
    ∃ code, lineCodes[i]? = some code ∧ check.Regular code := by
  obtain ⟨hi, hcheck⟩ := List.getElem?_eq_some_iff.1 h
  have hlength : i < lineCodes.length := hi
  refine ⟨lineCodes[i], List.getElem?_eq_getElem hlength, ?_⟩
  rw [← hcheck]
  exact forall₂_regular.get hi hlength

/-- Every standard check is regular, with one of the codes of the line checks. -/
lemma regular_of_mem {check : LineCheck} (h : check ∈ LineCheck.standard) :
    ∃ code ∈ lineCodes, check.Regular code := by
  obtain ⟨i, hi⟩ := List.mem_iff_getElem?.1 h
  obtain ⟨code, hcode, hregular⟩ := exists_code hi
  exact ⟨code, List.mem_of_getElem? hcode, hregular⟩

end LineCheck

namespace Analyzer

/-- What the standard checks find on a line, check by check. -/
lemma findings_eq_flatMap (registry : Registry) (line : List Char) (number : Nat) :
    findings registry line number =
      LineCheck.standard.flatMap fun check => check.found registry line number := by
  rw [← value_checkLine, checkLine, List.flatMap_map]
  rfl

variable {registry : Registry} {line : List Char} {number : Nat} {d : Diagnostic}

/-- What is found on a line is found by a regular check. -/
lemma exists_check_of_mem_findings (h : d ∈ findings registry line number) :
    ∃ check code, code ∈ lineCodes ∧ LineCheck.Regular check code ∧
      d ∈ check.found registry line number := by
  rw [findings_eq_flatMap] at h
  obtain ⟨check, hcheck, hd⟩ := List.mem_flatMap.1 h
  obtain ⟨code, hcode, hregular⟩ := LineCheck.regular_of_mem hcheck
  exact ⟨check, code, hcode, hregular, hd⟩

/-- What is found on a line has its number. -/
lemma line_of_mem_findings (h : d ∈ findings registry line number) : d.line = number := by
  obtain ⟨check, code, -, hregular, hd⟩ := exists_check_of_mem_findings h
  exact hregular.line registry line number d hd

/-- What is found on a line has one of the codes of the line checks. -/
lemma code_of_mem_findings (h : d ∈ findings registry line number) :
    ∃ code ∈ lineCodes, d.code = code.id := by
  obtain ⟨check, code, hcode, hregular, hd⟩ := exists_check_of_mem_findings h
  exact ⟨code, hcode, hregular.code registry line number d hd⟩

/-- On a line further down the same is found further down. -/
lemma findings_down (registry : Registry) (line : List Char) (number count : Nat) :
    findings registry line (number + count) =
      (findings registry line number).map (Diagnostic.down count) := by
  rw [findings_eq_flatMap, findings_eq_flatMap, List.map_flatMap]
  apply List.flatMap_congr
  intro check hcheck
  obtain ⟨code, -, hregular⟩ := LineCheck.regular_of_mem hcheck
  exact hregular.moved registry line number count

end Analyzer

end Remap
