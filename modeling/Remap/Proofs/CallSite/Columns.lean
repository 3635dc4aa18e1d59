import Remap.Proofs.CallSite

/-!
# Call sites by their columns

What stands in the columns of a line where a call site is: before it no word character, then the
longest run of identifier characters as the name, a bang if the call aborts, blanks, and an opening
parenthesis in the last column. `ofLine_exact` says that the search finds a call site exactly where
the columns are such, each one once and from left to right without overlap.
-/

namespace Remap.CallSite

open Text

/-- The characters in the columns of the line are those of the call site. -/
structure InColumns (site : CallSite) (row : List Char) : Prop where
  boundary : ∀ c, site.start ≠ 0 → row[site.start - 1]? = some c → isWord c = false
  first : ∃ c, row[site.start]? = some c ∧ isIdentStart c = true
  name : site.name.toList = (row.drop site.start).takeWhile isIdentChar
  bang : site.abort = true ↔ row[site.nameStop]? = some '!'
  blank : ∀ column, site.nameStop + site.abort.toNat ≤ column → column < site.stop - 1 →
    ∃ c, row[column]? = some c ∧ isBlank c = true
  paren : site.nameStop + site.abort.toNat < site.stop ∧ row[site.stop - 1]? = some '('

variable {site : CallSite} {row : List Char}

/-- The bang has one character if the call aborts. -/
lemma length_bang (abort : Bool) : (CallSite.bang abort).length = abort.toNat := by
  cases abort <;> rfl

/-- The last character of the part of a line before a column. -/
lemma getLast?_take (column : Nat) (hle : column ≤ row.length) :
    (row.take column).getLast? = if column = 0 then none else row[column - 1]? := by
  split
  case isTrue h => rw [h, List.take_zero, List.getLast?_nil]
  case isFalse h =>
    rw [List.getLast?_eq_getElem?, List.length_take_of_le hle,
      List.getElem?_take_of_lt (by omega)]

/-- A member behind the front part, counted from there. -/
lemma getElem?_append_add (front back : List Char) (k : Nat) :
    (front ++ back)[front.length + k]? = back[k]? := by
  rw [List.getElem?_append_right (Nat.le_add_right _ _), Nat.add_sub_cancel_left]

/-- What is written on a line has its characters in the columns of the line. -/
lemma WrittenOn.inColumns (h : site.WrittenOn row) : site.InColumns row := by
  obtain ⟨siteName, abort, start, stop⟩ := site
  obtain ⟨before, name, blanks, after, rfl, hb, ⟨⟨c, hc, hcs⟩, hchars⟩, hblanks, hsite, hstart,
    hstop⟩ := h
  dsimp only at hsite hstart hstop
  subst hsite hstart hstop
  have hrest := @isIdentChar_head_rest abort blanks after hblanks
  have hlength := length_bang abort
  have htext : name ++ bang abort ++ blanks ++ '(' :: after =
      name ++ (bang abort ++ (blanks ++ '(' :: after)) := by simp only [List.append_assoc]
  rw [List.append_assoc] at hrest
  rw [htext]
  constructor
  case boundary =>
    intro d hne hd
    have hlt : before.length - 1 < before.length := Nat.sub_one_lt hne
    rw [List.getElem?_append_left hlt] at hd
    exact hb d (by rw [List.getLast?_eq_getElem?, hd])
  case first =>
    refine ⟨c, ?_, hcs⟩
    rw [← Nat.add_zero before.length, getElem?_append_add, ← List.head?_eq_getElem?,
      List.head?_append, hc]
    rfl
  case name =>
    rw [List.drop_left, takeWhile_run hchars hrest, String.toList_ofList]
  case bang =>
    rw [nameStop, String.length_ofList, getElem?_append_add, ← Nat.add_zero name.length,
      getElem?_append_add, ← List.head?_eq_getElem?]
    cases abort with
    | true => exact iff_of_true rfl rfl
    | false =>
      have hne := @head_blanks_ne_bang blanks after hblanks
      refine iff_of_false Bool.false_ne_true ?_
      intro h
      rw [bang, if_neg Bool.false_ne_true, List.nil_append] at h
      rw [h] at hne
      cases hne
  case blank =>
    intro column hle hlt
    simp only [nameStop, String.length_ofList, List.length_append, hlength] at hle hlt
    obtain ⟨k, rfl⟩ := Nat.exists_eq_add_of_le hle
    have hk : k < blanks.length := by omega
    refine ⟨blanks[k], ?_, hblanks _ (List.getElem_mem hk)⟩
    rw [Nat.add_assoc, Nat.add_assoc, getElem?_append_add, getElem?_append_add, ← hlength,
      getElem?_append_add, List.getElem?_append_left hk, List.getElem?_eq_getElem hk]
  case paren =>
    simp only [nameStop, String.length_ofList, List.length_append, hlength]
    refine ⟨by omega, ?_⟩
    have hstop : before.length + (name.length + abort.toNat + blanks.length + 1) - 1 =
        before.length + (name.length + ((bang abort).length + (blanks.length + 0))) := by omega
    rw [hstop, getElem?_append_add, getElem?_append_add, getElem?_append_add,
      getElem?_append_add]
    rfl

/-- The bang of a call stands at the start of a text. -/
lemma bang_append_drop {abort : Bool} {text : List Char}
    (h : abort = true ↔ text.head? = some '!') :
    bang abort ++ text.drop abort.toNat = text := by
  cases abort with
  | false => rfl
  | true =>
    obtain ⟨rest, rfl⟩ := List.head?_eq_some_iff.1 (h.1 rfl)
    rfl

namespace InColumns

/-- The line from the call on is the name and the line from the end of the name on. -/
lemma drop_start (h : site.InColumns row) :
    site.name.toList ++ row.drop site.nameStop = row.drop site.start := by
  have hnameStop : site.nameStop = site.start + site.name.toList.length := rfl
  rw [hnameStop, ← List.drop_drop]
  exact List.prefix_iff_eq_append.1 (h.name ▸ List.takeWhile_prefix _)

/-- After the name stand the bang and what follows it. -/
lemma drop_nameStop (h : site.InColumns row) :
    CallSite.bang site.abort ++ row.drop (site.nameStop + site.abort.toNat) =
      row.drop site.nameStop := by
  rw [← List.drop_drop]
  exact bang_append_drop (by rw [h.bang, List.head?_drop])

/-- The call ends with a parenthesis. -/
lemma drop_stop (h : site.InColumns row) :
    '(' :: row.drop site.stop = row.drop (site.stop - 1) := by
  obtain ⟨hle, hlast⟩ := h.paren
  obtain ⟨hsize, hparen⟩ := List.getElem?_eq_some_iff.1 hlast
  rw [List.drop_eq_getElem_cons hsize, hparen, Nat.sub_add_cancel (Nat.zero_lt_of_lt hle)]

/-- The name in the columns of a call is an identifier. -/
lemma isIdentifier (h : site.InColumns row) : IsIdentifier site.name.toList := by
  obtain ⟨c, hc, hstart⟩ := h.first
  have hhead : (row.drop site.start).head? = some c := by rw [List.head?_drop, hc]
  obtain ⟨rest, hrest⟩ := List.head?_eq_some_iff.1 hhead
  rw [h.name]
  refine ⟨⟨c, ?_, hstart⟩, fun d hd => List.mem_takeWhile_imp hd⟩
  rw [hrest, List.takeWhile_cons, if_pos (isIdentChar_of_isIdentStart hstart), List.head?_cons]

/-- The character before the columns of a call cannot belong to its name. -/
lemma isBoundary (h : site.InColumns row) (hle : site.start ≤ row.length) :
    IsBoundary (row.take site.start).getLast? := by
  intro c hc
  rw [getLast?_take _ hle] at hc
  split at hc
  case isTrue => cases hc
  case isFalse hne => exact h.boundary c hne hc

/-- The columns between the name with its bang and the parenthesis are blank. -/
lemma allBlank (h : site.InColumns row) {count : Nat}
    (hcount : site.stop = site.nameStop + site.abort.toNat + count + 1) :
    AllBlank ((row.drop (site.nameStop + site.abort.toNat)).take count) := by
  intro c hc
  obtain ⟨k, hk, rfl⟩ := List.mem_take_iff_getElem.1 hc
  obtain ⟨d, hd, hblank⟩ := h.blank (site.nameStop + site.abort.toNat + k) (by omega) (by omega)
  rwa [List.getElem_drop, (List.getElem?_eq_some_iff.1 hd).2]

/-- What has its characters in the columns of the line is written there. -/
lemma writtenOn (h : site.InColumns row) : site.WrittenOn row := by
  obtain ⟨hle, hlast⟩ := h.paren
  obtain ⟨count, hcount⟩ := Nat.exists_eq_add_of_lt hle
  have hsize : site.stop - 1 < row.length := (List.getElem?_eq_some_iff.1 hlast).1
  have hnameStop : site.nameStop = site.start + site.name.toList.length := rfl
  have hstart : site.start ≤ row.length := by omega
  have hblanks : (row.drop (site.nameStop + site.abort.toNat)).take count ++
      row.drop (site.stop - 1) = row.drop (site.nameStop + site.abort.toNat) := by
    have hcolumn : site.stop - 1 = site.nameStop + site.abort.toNat + count := by omega
    rw [hcolumn, ← @List.drop_drop _ count, List.take_append_drop]
  refine ⟨row.take site.start, site.name.toList,
    (row.drop (site.nameStop + site.abort.toNat)).take count, row.drop site.stop,
    ?_, h.isBoundary hstart, h.isIdentifier, h.allBlank hcount, ?_, ?_, ?_⟩
  · rw [h.drop_stop, List.append_assoc, hblanks, List.append_assoc, h.drop_nameStop, h.drop_start,
      List.take_append_drop]
  · rw [String.ofList_toList]
  · rw [List.length_take_of_le hstart]
  · rw [List.length_append, List.length_append, length_bang, List.length_take_of_le]
    · omega
    · rw [List.length_drop]
      omega

end InColumns

/-- What is written on a line is what has its characters in the columns. -/
theorem writtenOn_iff_inColumns : site.WrittenOn row ↔ site.InColumns row :=
  ⟨WrittenOn.inColumns, InColumns.writtenOn⟩

/--
The search finds a call site exactly where the columns of the line are such, each one once, from
left to right, and none overlaps another one.
-/
theorem ofLine_exact (row : List Char) :
    (∀ site, site ∈ ofLine row ↔ site.InColumns row) ∧
      (ofLine row).Pairwise fun a b => a.start < b.start ∧ a.stop ≤ b.start := by
  refine ⟨?_, pairwise_ofLine row⟩
  intro site
  rw [mem_ofLine, writtenOn_iff_inColumns]

end Remap.CallSite
