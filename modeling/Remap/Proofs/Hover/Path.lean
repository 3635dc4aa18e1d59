import Remap.Proofs.Completion
import Remap.Proofs.Hover

/-!
# The field path under the cursor

The paths on a line are found by one search over the line, and the word under the cursor by another
one around the cursor. The two agree: a word that follows a point and starts like a name is a
segment of one of the paths found, and that path is the longest one with this segment.
-/

namespace Remap.Hover

open Text FieldPath

variable {line : List Char} {span : Span} {before after : List (List Char)}

/-- Right before the word there is a point, and the word starts with a letter or an underscore. -/
def FollowsPoint (line : List Char) (span : Span) : Prop :=
  ['.'] <:+ line.take span.start ∧ StartsName (span.text line)

/-- The line has a path of which the word is a segment, between these other segments. -/
structure PathThrough (line : List Char) (span : Span) (before after : List (List Char)) :
    Prop where
  identifiers : ∀ name ∈ before ++ span.text line :: after, IsIdentifier name
  behind : spelling before ++ ['.'] <:+ line.take span.start
  ahead : spelling after <+: line.drop span.stop

/-- Every other path with the word as a segment goes less far to both sides. -/
structure IsLongestPath (line : List Char) (span : Span) (before after : List (List Char)) :
    Prop where
  through : PathThrough line span before after
  longest : ∀ before' after', PathThrough line span before' after' →
    spelling before' <:+ spelling before ∧ spelling after' <+: spelling after

/-! The word on its line. -/

namespace Span.IsRun

variable {accept : Char → Bool}

/-- The text of a run is as long as the run. -/
lemma length_text (h : span.IsRun accept line) :
    (span.text line).length = span.stop - span.start := by
  have hstop := h.stop_le_length
  rw [Span.text, List.length_take, List.length_drop]
  omega

/-- The text of a run stands before the rest of its line. -/
lemma text_append_drop (h : span.IsRun accept line) :
    span.text line ++ line.drop span.stop = line.drop span.start := by
  have hlt := h.start_lt_stop
  have hdrop : line.drop span.stop = (line.drop span.start).drop (span.stop - span.start) := by
    rw [List.drop_drop]
    congr 1
    omega
  rw [Span.text, hdrop, List.take_append_drop]

/-- All characters of a run are accepted. -/
lemma accept_of_mem (h : span.IsRun accept line) {c : Char} (hc : c ∈ span.text line) :
    accept c = true := by
  obtain ⟨i, hi, rfl⟩ := List.getElem_of_mem hc
  rw [h.length_text] at hi
  obtain ⟨c, hget, haccept⟩ := h.accepted (span.start + i) (by omega) (by omega)
  have htext : (span.text line)[i]? = some c := by
    rw [Span.text, List.getElem?_take_of_lt hi, List.getElem?_drop, hget]
  obtain ⟨_, heq⟩ := List.getElem?_eq_some_iff.1 htext
  rwa [heq]

/-- A name ends where a run of word characters does. -/
lemma endsName (h : span.IsRun isIdentChar line) : EndsName (line.drop span.stop) := by
  intro c hc
  rw [List.head?_drop] at hc
  rw [← Bool.not_eq_true]
  intro haccept
  exact h.stops ⟨c, hc, haccept⟩

/-- A name that starts where the word starts and is followed by a path or by its end is the word. -/
lemma text_eq (h : span.IsRun isIdentChar line) {name rest : List Char}
    (hname : IsIdentifier name) (hrest : EndsName rest)
    (heq : line.drop span.start = name ++ rest) :
    span.text line = name ∧ line.drop span.stop = rest := by
  rw [← h.text_append_drop] at heq
  have htext : span.text line = name := by
    rw [← takeWhile_run (fun _ => h.accept_of_mem) h.endsName, heq, takeWhile_run hname.2 hrest]
  rw [htext, List.append_cancel_left_eq] at heq
  exact ⟨htext, heq⟩

end Span.IsRun

variable {front rest : List Char} {names : List (List Char)}

/-- Right before a word that lies in a path there is a point of the path. -/
lemma exists_point (hrun : span.IsRun isIdentChar line) (hpath : IsWhole line front names rest)
    (hstart : front.length + 1 ≤ span.start)
    (hstop : span.stop ≤ front.length + (spelling names).length) :
    ∃ mid, line.take span.start = front ++ (mid ++ ['.']) := by
  have hlt := hrun.start_lt_stop
  obtain ⟨i, hi⟩ : ∃ i, front.length + i + 1 = span.start :=
    ⟨span.start - 1 - front.length, by omega⟩
  have hindex : i < (spelling names).length := by omega
  have hchar := isPathChar_of_mem_spelling hpath.path.identifiers (List.getElem_mem hindex)
  have hpoint : (spelling names)[i] = '.' := by
    rw [isPathChar, Bool.or_eq_true, beq_iff_eq] at hchar
    obtain hchar | hpoint := hchar
    · have haccepted : AcceptedAt isIdentChar line (front.length + i) := by
        rw [hpath.line_eq, AcceptedAt, List.getElem?_append_right (Nat.le_add_right _ _),
          Nat.add_sub_cancel_left, List.getElem?_append_left hindex,
          List.getElem?_eq_getElem hindex]
        exact ⟨_, rfl, hchar⟩
      exact absurd haccepted (hrun.starts _ hi)
    · exact hpoint
  refine ⟨(spelling names).take i, ?_⟩
  rw [hpath.line_eq, ← hi, Nat.add_assoc, List.take_length_add_append,
    List.take_append_of_le_length hindex, ← List.take_append_getElem hindex, hpoint]

/-- A word that lies in a path is one of its segments. -/
lemma exists_segment (hrun : span.IsRun isIdentChar line) (hpath : IsWhole line front names rest)
    (hstart : front.length + 1 ≤ span.start)
    (hstop : span.stop ≤ front.length + (spelling names).length) :
    ∃ before after, names = before ++ span.text line :: after ∧
      line.take span.start = front ++ (spelling before ++ ['.']) ∧
      line.drop span.stop = spelling after ++ rest := by
  have hlt := hrun.start_lt_stop
  have hle := hrun.stop_le_length
  obtain ⟨mid, hmid⟩ := exists_point hrun hpath hstart hstop
  have hsplit : spelling names ++ rest = mid ++ '.' :: line.drop span.start := by
    have hline := (List.take_append_drop span.start line).trans hpath.line_eq
    rw [hmid, List.append_assoc, List.append_assoc, List.append_cancel_left_eq] at hline
    exact hline.symm
  have hlength := congrArg List.length hmid
  rw [List.length_take_of_le (by omega), List.length_append, List.length_append,
    List.length_singleton] at hlength
  obtain ⟨before, name, after, rfl, rfl, hback⟩ :=
    split_spelling hpath.path.identifiers hsplit (by omega)
  have hname := hpath.path.identifiers name (List.mem_append_right _ List.mem_cons_self)
  obtain ⟨htext, hdrop⟩ := hrun.text_eq hname (endsName_append after hpath.path.ends.1) hback
  exact ⟨before, after, by rw [htext], hmid, hdrop⟩

/-- A path that goes on neither way is the longest one through each of its segments. -/
lemma isLongestPath_of_isWhole
    (hpath : IsWhole line front (before ++ span.text line :: after) rest)
    (hbehind : line.take span.start = front ++ (spelling before ++ ['.']))
    (hahead : line.drop span.stop = spelling after ++ rest) :
    IsLongestPath line span before after := by
  obtain ⟨hbefore, hword⟩ := List.forall_mem_append.1 hpath.path.identifiers
  have hafter := (List.forall_mem_cons.1 hword).2
  refine ⟨⟨hpath.path.identifiers, ⟨front, hbehind.symm⟩, ⟨rest, hahead.symm⟩⟩, ?_⟩
  intro before' after' hthrough
  obtain ⟨hidentifiers, ⟨front', hbehind'⟩, ⟨rest', hahead'⟩⟩ := hthrough
  obtain ⟨hbefore', hword'⟩ := List.forall_mem_append.1 hidentifiers
  have hafter' := (List.forall_mem_cons.1 hword').2
  rw [hbehind, ← List.append_assoc, ← List.append_assoc, List.append_cancel_right_eq] at hbehind'
  rw [hahead] at hahead'
  exact ⟨suffix_of_startsPath hpath.starts hbefore hbefore' hbehind'.symm,
    prefix_of_endsPath hpath.path.ends hafter hafter' hahead'.symm⟩

/-- The path that is found around a word is the longest one with the word as a segment. -/
lemma exists_of_pathAround? {path : List Char} (hrun : span.IsRun isIdentChar line)
    (h : pathAround? line span = some path) :
    ∃ before after, IsLongestPath line span before after ∧
      '.' :: path = spelling (before ++ span.text line :: after) ∧
      ∀ name ∈ before ++ span.text line :: after, ∃ place, RefersAt line place name := by
  obtain ⟨m, hfind, rfl⟩ := Option.map_eq_some_iff.1 h
  have hinside := List.find?_some hfind
  obtain ⟨front, names, rest, hpath, rfl⟩ := mem_ofLine.1 (List.mem_of_find?_eq_some hfind)
  rw [Bool.and_eq_true, decide_eq_true_eq, decide_eq_true_eq] at hinside
  obtain ⟨before, after, rfl, hbehind, hahead⟩ :=
    exists_segment hrun hpath hinside.1 hinside.2
  refine ⟨before, after, isLongestPath_of_isWhole hpath hbehind hahead, ?_,
    fun name hname => hpath.refersAt hname⟩
  obtain ⟨name, more, hcons⟩ := List.exists_cons_of_ne_nil hpath.path.ne_nil
  rw [matchOf, hcons, spelling_cons, List.tail_cons]

/-- A segment of a path follows a point. -/
lemma PathThrough.followsPoint (h : PathThrough line span before after) :
    FollowsPoint line span := by
  have hword := h.identifiers (span.text line) (List.mem_append_right _ List.mem_cons_self)
  exact ⟨(List.suffix_append _ _).trans h.behind, hword.1⟩

/-- A path is found around every word that follows a point and starts like a name. -/
lemma exists_pathAround? (hrun : span.IsRun isIdentChar line) (h : FollowsPoint line span) :
    ∃ path, pathAround? line span = some path := by
  obtain ⟨⟨head, hhead⟩, hstarts⟩ := h
  have hlt := hrun.start_lt_stop
  have hle := hrun.stop_le_length
  have hword : IsIdentifier (span.text line) := ⟨hstarts, fun _ => hrun.accept_of_mem⟩
  obtain ⟨later, rest, hlater, hpath⟩ := exists_isPath hword hrun.endsName
  have hline : line = head ++ (spelling (span.text line :: later) ++ rest) := by
    conv_lhs =>
      rw [← List.take_append_drop span.start line, ← hhead, ← hrun.text_append_drop, hlater]
    simp
  obtain ⟨front, earlier, rfl, -, hfound⟩ := exists_found hpath hline
  have htext := hrun.length_text
  have hlength := congrArg List.length hhead
  rw [List.length_take_of_le (by omega), List.length_append, List.length_append,
    List.length_singleton] at hlength
  rw [← Option.isSome_iff_exists, pathAround?, Option.isSome_map, List.find?_isSome]
  refine ⟨_, hfound, ?_⟩
  rw [Bool.and_eq_true, decide_eq_true_eq, decide_eq_true_eq]
  simp only [matchOf, spelling_append, spelling_cons, List.length_append, List.length_cons]
  omega

/-! What is shown. -/

variable {registry : Registry}

/-- On a word that is neither a function nor of the language, what is shown is the path. -/
lemma wordContents?_of_other
    (hregistry : registry.contains (String.ofList (span.text line)) = false)
    (hkeyword : String.ofList (span.text line) ∉ keywordDocs.map Prod.fst) :
    wordContents? registry line span = (pathAround? line span).map pathContents := by
  have hget : registry.get? (String.ofList (span.text line)) = none := by
    rwa [Registry.contains, Option.isSome_eq_false_iff, Option.isNone_iff_eq_none] at hregistry
  have hdoc := doc?_eq_none_iff.2 hkeyword
  rw [wordContents?]
  simp only [hget, hdoc]

/--
On a word that is neither a function nor a word of the language a path is shown exactly if the word
follows a point and starts with a letter or an underscore. It is the longest path on the line of
which the word is a segment, the range is that of the word, and each segment of it is one of the
fields that are offered in the document.
-/
theorem at?_field_path (registry : Registry) (text : List Char) (number : Int) (line : List Char)
    (span : Span) (column : Nat) (hline : line? text number = some line)
    (hrun : span.IsRun isIdentChar line) (hstart : span.start ≤ column)
    (hstop : column ≤ span.stop)
    (hregistry : registry.contains (String.ofList (span.text line)) = false)
    (hkeyword : String.ofList (span.text line) ∉ keywordDocs.map Prod.fst) :
    (FollowsPoint line span → ∃ before after path, IsLongestPath line span before after ∧
      '.' :: path = spelling (before ++ span.text line :: after) ∧
      at? registry text number column =
        some ⟨pathContents path, .onLine number span.start span.stop⟩ ∧
      ∀ name ∈ before ++ span.text line :: after,
        String.ofList name ∈ (Completion.fields text).map (·.label)) ∧
    (¬ FollowsPoint line span → at? registry text number column = none) := by
  have hshown : at? registry text number column = (pathAround? line span).map fun path =>
      ⟨pathContents path, .onLine number span.start span.stop⟩ := by
    rw [at?_ofNat hline, onLine?_of_word hrun hstart hstop,
      wordContents?_of_other hregistry hkeyword, Option.map_map, Option.map_map]
    rfl
  refine ⟨?_, ?_⟩
  · intro hpoint
    obtain ⟨path, hpath⟩ := exists_pathAround? hrun hpoint
    obtain ⟨before, after, hlongest, hspelling, hrefers⟩ := exists_of_pathAround? hrun hpath
    refine ⟨before, after, path, hlongest, hspelling, by rw [hshown, hpath, Option.map_some], ?_⟩
    intro name hname
    obtain ⟨place, hplace⟩ := hrefers name hname
    rw [Completion.mem_labels, String.toList_ofList]
    exact .inr (refersAt_of_mem_lines (mem_lines_of_line? hline) hplace)
  · intro hpoint
    cases hpath : pathAround? line span with
    | none => rw [hshown, hpath, Option.map_none]
    | some path =>
      obtain ⟨before, after, hlongest, -⟩ := exists_of_pathAround? hrun hpath
      exact absurd (hlongest.through.followsPoint) hpoint

/-- On a segment of a path behind two points, and on a number behind its last point. -/
theorem at?_field_path_segment :
    let text := "if ok\n.x..user.name_1.2".toList
    let line := ".x..user.name_1.2".toList
    let shown : Hover := ⟨pathContents "user.name_1".toList, .onLine 1 9 15⟩
    line? text 1 = some line ∧ FollowsPoint line ⟨9, 15⟩ ∧ at? .empty text 1 12 = some shown ∧
      (∃ before after path, IsLongestPath line ⟨9, 15⟩ before after ∧
        '.' :: path = spelling (before ++ Span.text ⟨9, 15⟩ line :: after) ∧
        at? .empty text 1 12 = some ⟨pathContents path, .onLine 1 9 15⟩ ∧
        ∀ name ∈ before ++ Span.text ⟨9, 15⟩ line :: after,
          String.ofList name ∈ (Completion.fields text).map (·.label)) ∧
      ¬ FollowsPoint line ⟨16, 17⟩ ∧ at? .empty text 1 17 = none := by
  intro text line shown
  have hline : line? text 1 = some line := by decide
  have hname : Span.IsRun isIdentChar line ⟨9, 15⟩ :=
    (Span.isRun_of_touching? (show Span.touching? _ _ 12 = _ by decide)).1
  have hnumber : Span.IsRun isIdentChar line ⟨16, 17⟩ :=
    (Span.isRun_of_touching? (show Span.touching? _ _ 17 = _ by decide)).1
  have hfollows : FollowsPoint line ⟨9, 15⟩ := ⟨by decide, 'n', rfl, by decide⟩
  have hnot : ¬ FollowsPoint line ⟨16, 17⟩ := by
    intro h
    obtain ⟨-, c, hc, hstart⟩ := h
    cases hc
    exact absurd hstart (by decide)
  obtain ⟨hpath, -⟩ := at?_field_path .empty text 1 line ⟨9, 15⟩ 12 hline hname (by decide)
    (by decide) (by decide) (by decide)
  obtain ⟨-, hnone⟩ := at?_field_path .empty text 1 line ⟨16, 17⟩ 17 hline hnumber (by decide)
    (by decide) (by decide) (by decide)
  exact ⟨hline, hfollows, by decide, hpath hfollows, hnot, hnone hnot⟩

end Remap.Hover
