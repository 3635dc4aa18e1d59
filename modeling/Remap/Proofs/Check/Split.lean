import Remap.Proofs.CallSite.Split
import Remap.Proofs.Check.Fallible

/-!
# Unhandled calls around a call

A call splits the line that it is on: what handles another call on the line stands in front of the
call or after it, since neither a binding nor a fallback can hold a parenthesis. So the unhandled
calls on the line are the ones in front of the call, the call if it is unhandled itself, and the
ones after it, further on; how the call is written does not matter to the others.
-/

namespace Remap

open Text

variable {line front back tail name blanks before after : List Char}

/-! Bindings. -/

namespace Binding

/-- The start of a binding, up to its equals sign. -/
def IsHead (head : List Char) : Prop :=
  ∃ first gap gap' second gap'' : List Char,
    head = first ++ (gap ++ ',' :: (gap' ++ (second ++ gap''))) ∧ IsName first ∧ AllBlank gap ∧
      AllBlank gap' ∧ IsName second ∧ AllBlank gap''

/-- A binding is a head and an equals sign that no second one follows. -/
lemma spelled_iff {text rest : List Char} :
    Spelled text rest ↔
      ∃ head, IsHead head ∧ text = head ++ '=' :: rest ∧ rest.head? ≠ some '=' := by
  refine ⟨?_, ?_⟩
  · intro h
    obtain ⟨first, gap, gap', second, gap'', rfl, hname, hgap, hgap', hname', hgap'', hne⟩ := h
    exact ⟨_, ⟨first, gap, gap', second, gap'', rfl, hname, hgap, hgap', hname', hgap''⟩,
      by simp, hne⟩
  · intro h
    obtain ⟨head, ⟨first, gap, gap', second, gap'', rfl, hname, hgap, hgap', hname', hgap''⟩, rfl,
      hne⟩ := h
    exact ⟨first, gap, gap', second, gap'', by simp, hname, hgap, hgap', hname', hgap'', hne⟩

/-- Where a binding ends: its parts, and where they stand. -/
lemma endsAt_iff {stop : Nat} :
    EndsAt line stop ↔ ∃ before head rest, line = before ++ (head ++ '=' :: rest) ∧
      IsBoundary before.getLast? ∧ IsHead head ∧ rest.head? ≠ some '=' ∧
        stop = before.length + (head.length + 1) := by
  refine ⟨?_, ?_⟩
  · intro h
    obtain ⟨before, text, rest, rfl, hb, hspelled, hstop⟩ := h
    obtain ⟨head, hhead, rfl, hne⟩ := spelled_iff.1 hspelled
    refine ⟨before, head, rest, rfl, hb, hhead, hne, ?_⟩
    simp only [List.length_append, List.length_cons] at hstop
    omega
  · intro h
    obtain ⟨before, head, rest, rfl, hb, hhead, hne, rfl⟩ := h
    refine ⟨before, _, rest, rfl, hb, spelled_iff.2 ⟨head, hhead, rfl, hne⟩, ?_⟩
    simp only [List.length_append, List.length_cons]
    omega

/-- A binding ends on its line. -/
lemma EndsAt.le_length {stop : Nat} (h : EndsAt line stop) : stop ≤ line.length := by
  obtain ⟨before, text, rest, -, -, -, hstop⟩ := h
  omega

/-- The start of a binding holds word characters, blanks and a comma. -/
lemma IsHead.char {head : List Char} (h : IsHead head) {c : Char} (hc : c ∈ head) :
    isWord c = true ∨ isBlank c = true ∨ c = ',' := by
  obtain ⟨first, gap, gap', second, gap'', rfl, hname, hgap, hgap', hname', hgap''⟩ := h
  simp only [List.mem_append, List.mem_cons] at hc
  obtain hc | hc | rfl | hc | hc | hc := hc
  · exact .inl (hname.2 c hc)
  · exact .inr (.inl (hgap c hc))
  · exact .inr (.inr rfl)
  · exact .inr (.inl (hgap' c hc))
  · exact .inl (hname'.2 c hc)
  · exact .inr (.inl (hgap'' c hc))

/-- No parenthesis stands in a binding. -/
lemma IsHead.paren_notMem {head : List Char} (h : IsHead head) : '(' ∉ head ++ ['='] := by
  intro hmem
  obtain hmem | hmem := List.mem_append.1 hmem
  · exact absurd (h.char hmem) (by decide)
  · exact absurd (List.mem_singleton.1 hmem) (by decide)

/-- A text without equals signs at the end of a line makes no binding and ends none. -/
lemma endsAt_append_of_notMem {stop : Nat} (h : '=' ∉ tail) :
    EndsAt (front ++ tail) stop ↔ EndsAt front stop := by
  rw [endsAt_iff, endsAt_iff]
  refine ⟨?_, ?_⟩
  · intro hends
    obtain ⟨before, head, rest, heq, hb, hhead, hne, hstop⟩ := hends
    rw [← List.append_assoc] at heq
    obtain ⟨more, rfl, rfl⟩ := split_of_notMem_tail h heq
    exact ⟨before, head, more, List.append_assoc _ _ _, hb, hhead,
      (head?_append_of_notMem h).1 hne, hstop⟩
  · intro hends
    obtain ⟨before, head, rest, rfl, hb, hhead, hne, hstop⟩ := hends
    exact ⟨before, head, rest ++ tail, by simp, hb, hhead, (head?_append_of_notMem h).2 hne, hstop⟩

/-- The bindings around a parenthesis. -/
lemma endsAt_append_paren {stop : Nat} :
    EndsAt (front ++ '(' :: back) stop ↔
      EndsAt front stop ∨ ∃ n, EndsAt back n ∧ stop = front.length + 1 + n := by
  simp only [endsAt_iff]
  refine ⟨?_, ?_⟩
  · intro h
    obtain ⟨before, head, rest, heq, hb, hhead, hne, hstop⟩ := h
    have hline : before ++ ((head ++ ['=']) ++ rest) = front ++ '(' :: back := by
      rw [heq]
      simp
    obtain ⟨more, rfl, rfl⟩ | ⟨more, rfl, rfl⟩ := split_of_notMem hhead.paren_notMem hline
    · refine .inl ⟨before, head, more, by simp, hb, hhead, ?_, hstop⟩
      cases more with
      | nil => exact nofun
      | cons c more => exact hne
    · refine .inr ⟨more.length + (head.length + 1), ⟨more, head, rest, by simp, ?_, hhead, hne,
        rfl⟩, ?_⟩
      · cases more with
        | nil => exact nofun
        | cons c more =>
          rwa [List.getLast?_append_of_ne_nil _ (List.cons_ne_nil _ _),
            List.getLast?_cons_cons] at hb
      · simp only [List.length_append, List.length_cons] at hstop
        omega
  · rintro (⟨before, head, rest, rfl, hb, hhead, hne, hstop⟩ |
      ⟨n, ⟨before, head, rest, rfl, hb, hhead, hne, rfl⟩, rfl⟩)
    · refine ⟨before, head, rest ++ '(' :: back, by simp, hb, hhead, ?_, hstop⟩
      cases rest with
      | nil => simp
      | cons c rest => exact hne
    · refine ⟨front ++ '(' :: before, head, rest, by simp, ?_, hhead, hne, ?_⟩
      · rw [List.getLast?_append_of_ne_nil _ (List.cons_ne_nil _ _)]
        cases before with
        | nil =>
          intro c hc
          cases hc
          decide
        | cons c before => rwa [List.getLast?_cons_cons]
      · simp only [List.length_append, List.length_cons]
        omega

/-- The bindings on a line around a call. -/
lemma endsAt_around {abort : Bool} {stop : Nat} (hname : IsIdentifier name)
    (hblanks : AllBlank blanks) :
    EndsAt (before ++ (CallSite.spelling name abort blanks ++ after)) stop ↔
      EndsAt before stop ∨ ∃ n, EndsAt after n ∧
        stop = before.length + (CallSite.spelling name abort blanks).length + n := by
  have hcall := CallSite.notMem_call abort (by decide : CallSite.isCallChar '=' = false) hname
    hblanks
  rw [CallSite.append_spelling, endsAt_append_paren, endsAt_append_of_notMem hcall]
  simp only [CallSite.spelling, List.length_append, List.length_singleton, Nat.add_assoc]

end Binding

/-! The fallback. -/

namespace Check

/-- A doubled character around a text that does not hold it. -/
lemma doubled_infix_append_cons {c d : Char} (hne : c ≠ d) :
    [d, d] <:+: front ++ c :: back ↔ [d, d] <:+: front ∨ [d, d] <:+: back := by
  refine ⟨?_, ?_⟩
  · intro h
    obtain ⟨start, rest, heq⟩ := h
    rw [List.append_assoc] at heq
    have hc : c ∉ [d, d] := by simp [hne]
    obtain ⟨more, rfl, -⟩ | ⟨more, -, rfl⟩ := split_of_notMem hc heq
    · exact .inl ⟨start, more, List.append_assoc _ _ _⟩
    · exact .inr ⟨more, rest, List.append_assoc _ _ _⟩
  · rintro (h | h)
    · exact h.trans (List.prefix_append front (c :: back)).isInfix
    · exact h.trans ((List.suffix_cons c back).trans (List.suffix_append front _)).isInfix

/-- A doubled character is not found in a tail without it. -/
lemma doubled_infix_append {d : Char} (h : d ∉ tail) :
    [d, d] <:+: front ++ tail ↔ [d, d] <:+: front := by
  refine ⟨?_, fun hfront => hfront.trans (List.prefix_append front tail).isInfix⟩
  intro hinfix
  obtain ⟨start, rest, heq⟩ := hinfix
  have hline : front ++ tail = (start ++ [d]) ++ d :: rest := by
    rw [← heq]
    simp
  obtain ⟨more, rfl, -⟩ := split_of_notMem_tail h hline
  exact ⟨start, more, by simp⟩

/-- A line around a call holds a fallback exactly if one of its other parts does. -/
lemma hasFallback_around (abort : Bool) (hname : IsIdentifier name) (hblanks : AllBlank blanks) :
    hasFallback (before ++ (CallSite.spelling name abort blanks ++ after)) =
      (hasFallback before || hasFallback after) := by
  have hcall := CallSite.notMem_call abort (by decide : CallSite.isCallChar '?' = false) hname
    hblanks
  rw [Bool.eq_iff_iff, Bool.or_eq_true, hasFallback, hasFallback, hasFallback, occurs_iff,
    occurs_iff, occurs_iff, CallSite.append_spelling, doubled_infix_append_cons (by decide),
    doubled_infix_append hcall]

/-! Bindings in front of a column. -/

section

variable (abort : Bool) (hname : IsIdentifier name) (hblanks : AllBlank blanks)
include hname hblanks

/-- Up to a call only the bindings in front of it count. -/
lemma any_stops_before {column : Nat} (hle : column ≤ before.length) :
    (Binding.stops (before ++ (CallSite.spelling name abort blanks ++ after))).any
      (· ≤ column) = (Binding.stops before).any (· ≤ column) := by
  have hlength : 0 < (CallSite.spelling name abort blanks).length :=
    List.length_pos_iff.2 (List.append_ne_nil_of_right_ne_nil _ (List.cons_ne_nil _ _))
  rw [Bool.eq_iff_iff]
  simp only [List.any_eq_true, Binding.mem_stops, Binding.endsAt_around hname hblanks,
    decide_eq_true_eq]
  refine ⟨?_, ?_⟩
  · rintro ⟨stop, h | ⟨n, -, rfl⟩, hstop⟩
    · exact ⟨stop, h, hstop⟩
    · omega
  · rintro ⟨stop, h, hstop⟩
    exact ⟨stop, .inl h, hstop⟩

/-- After a call every binding in front of it counts, too. -/
lemma any_stops_after (column : Nat) :
    (Binding.stops (before ++ (CallSite.spelling name abort blanks ++ after))).any
      (· ≤ column + (before.length + (CallSite.spelling name abort blanks).length)) =
      (!(Binding.stops before).isEmpty || (Binding.stops after).any (· ≤ column)) := by
  rw [Bool.eq_iff_iff]
  simp only [Bool.or_eq_true, Bool.not_eq_true', List.isEmpty_eq_false_iff_exists_mem,
    List.any_eq_true, Binding.mem_stops, Binding.endsAt_around hname hblanks, decide_eq_true_eq]
  refine ⟨?_, ?_⟩
  · rintro ⟨stop, h | ⟨n, h, rfl⟩, hle⟩
    · exact .inl ⟨stop, h⟩
    · exact .inr ⟨n, h, by omega⟩
  · rintro (⟨stop, h⟩ | ⟨n, h, hle⟩)
    · have hlength := h.le_length
      exact ⟨stop, .inl h, by omega⟩
    · exact ⟨_, .inr ⟨n, h, rfl⟩, by omega⟩

end

/-! What the checks find around a call. -/

section

variable (registry : Registry) (before after : List Char)

/-- The unhandled calls in front of a call. -/
def unhandledBefore : List CallSite :=
  (CallSite.ofLine before).filter fun site => isFallible registry site &&
    isUnhandled (hasFallback before || hasFallback after) (Binding.stops before) site

/-- The unhandled calls after a call, with the columns counted from its end. -/
def unhandledAfter : List CallSite :=
  (CallSite.ofLine after).filter fun site => isFallible registry site &&
    isUnhandled (hasFallback before || hasFallback after || !(Binding.stops before).isEmpty)
      (Binding.stops after) site

/-- The call sites of unknown functions. -/
def unknownSites (line : List Char) : List CallSite :=
  (CallSite.ofLine line).filter fun site =>
    !(registry.contains site.name || keywords.contains site.name)

variable {before} (abort : Bool) (number : Int)

/-- The unknown calls of a line are those before a call, the call, and those after it. -/
lemma unknownFunctions_around (hb : IsBoundary before.getLast?) (hname : IsIdentifier name)
    (hblanks : AllBlank blanks) :
    unknownFunctions registry (before ++ (CallSite.spelling name abort blanks ++ after)) number =
      (unknownSites registry before ++
        ([CallSite.placed name abort blanks before.length].filter (fun site =>
          !(registry.contains site.name || keywords.contains site.name)) ++
        (unknownSites registry after).map (CallSite.shift
          (before.length + (CallSite.spelling name abort blanks).length)))).map
        (unknown registry number) := by
  rw [unknownFunctions, CallSite.ofLine_around abort hb hname hblanks, List.filter_append,
    ← List.singleton_append, List.filter_append, List.filter_map]
  rfl

/-- The unhandled calls of a line are those before a call, the call, and those after it. -/
lemma fallibleCalls_around (hb : IsBoundary before.getLast?) (hname : IsIdentifier name)
    (hblanks : AllBlank blanks) :
    fallibleCalls registry (before ++ (CallSite.spelling name abort blanks ++ after)) number =
      (unhandledBefore registry before after ++
        ([CallSite.placed name abort blanks before.length].filter (fun site =>
          isFallible registry site && isUnhandled (hasFallback before || hasFallback after)
            (Binding.stops before) site) ++
        (unhandledAfter registry before after).map (CallSite.shift
          (before.length + (CallSite.spelling name abort blanks).length)))).map
        (unhandled number) := by
  rw [fallibleCalls, CallSite.ofLine_around abort hb hname hblanks, List.filter_append,
    ← List.singleton_append, List.filter_append, List.filter_map,
    hasFallback_around abort hname hblanks, unhandledBefore, unhandledAfter]
  congr 2
  · apply List.filter_congr
    intro site hsite
    have hwritten := CallSite.mem_ofLine.1 hsite
    rw [isUnhandled, any_stops_before abort hname hblanks, isUnhandled]
    exact hwritten.start_lt_stop.le.trans hwritten.stop_le_length
  congr 1
  · apply List.filter_congr
    intro site hsite
    rw [List.mem_singleton.1 hsite, isUnhandled, any_stops_before abort hname hblanks, isUnhandled]
    exact Nat.le_refl _
  · congr 1
    apply List.filter_congr
    intro site _
    rw [Function.comp_apply, isUnhandled, isUnhandled, CallSite.shift,
      any_stops_after abort hname hblanks]
    simp only [Bool.or_assoc]
    rfl

end

end Check

end Remap
