import Mathlib.Data.List.Sort
import Remap.Proofs.CallSite.Columns
import Remap.Proofs.Check.Margin

/-!
# Call sites on a line in parts

The calls on a line are put together from the calls on its parts, where no call lies across a seam.
A call is such a part itself, as no other call overlaps it: `ofLine_around` lists the calls in front
of it, the call, and the calls after it, further on.
-/

namespace Remap

open Text

namespace CallSite

variable {site : CallSite} {line front back : List Char}

namespace WrittenOn

/-- A call site is not empty. -/
lemma start_lt_stop (h : site.WrittenOn line) : site.start < site.stop := by
  obtain ⟨before, name, blanks, after, -, -, -, -, -, -, hstop⟩ := h
  omega

/-- A call site goes on behind the name. -/
lemma nameStop_lt_stop (h : site.WrittenOn line) : site.nameStop < site.stop := by
  have hparen := h.inColumns.paren.1
  omega

/-- A call site ends on its line. -/
lemma stop_le_length (h : site.WrittenOn line) : site.stop ≤ line.length := by
  obtain ⟨before, name, blanks, after, rfl, -, -, -, -, hstart, hstop⟩ := h
  simp only [List.length_append, List.length_cons] at hstop ⊢
  omega

/-- Two calls on a line are the same, or one ends before the other one starts. -/
lemma apart {other : CallSite} (h : site.WrittenOn line) (h' : other.WrittenOn line) :
    site = other ∨ site.stop ≤ other.start ∨ other.stop ≤ site.start := by
  rw [← mem_ofLine] at h h'
  have hpair : (ofLine line).Pairwise
      fun a b => a = b ∨ a.stop ≤ b.start ∨ b.stop ≤ a.start :=
    (pairwise_ofLine line).imp fun hab => .inr (.inl hab.2)
  apply hpair.forall_of_forall_of_flip _ _ h h'
  · exact fun _ _ => .inl rfl
  · exact hpair.imp fun hab => hab.imp Eq.symm Or.symm

/-- A call in the front part of a line. -/
lemma append (h : site.WrittenOn front) (back : List Char) : site.WrittenOn (front ++ back) := by
  obtain ⟨before, name, blanks, after, rfl, hsite⟩ := h
  exact ⟨before, name, blanks, after ++ back, by simp, hsite⟩

/-- A call that ends in the front part of a line is written there. -/
lemma of_append (h : site.WrittenOn (front ++ back)) (hle : site.stop ≤ front.length) :
    site.WrittenOn front := by
  obtain ⟨before, name, blanks, after, heq, hb, hname, hblanks, hsite, hstart, hstop⟩ := h
  have hline : before ++ (name ++ bang site.abort ++ blanks ++ ['(']) ++ after = front ++ back := by
    rw [heq]
    simp
  have hprefix : before ++ (name ++ bang site.abort ++ blanks ++ ['(']) <+: front := by
    refine List.prefix_of_prefix_length_le ⟨after, hline⟩ (List.prefix_append front back) ?_
    rw [List.length_append, List.length_append, List.length_singleton]
    omega
  obtain ⟨more, rfl⟩ := hprefix
  exact ⟨before, name, blanks, more, by simp, hb, hname, hblanks, hsite, hstart, hstop⟩

/-- A call in the back part of a line. -/
lemma shift (h : site.WrittenOn back) (hb : IsBoundary front.getLast?) :
    (site.shift front.length).WrittenOn (front ++ back) := by
  obtain ⟨before, name, blanks, after, rfl, hb', hname, hblanks, hsite, hstart, hstop⟩ := h
  refine ⟨front ++ before, name, blanks, after, by simp [CallSite.shift], ?_, hname, hblanks,
    hsite, ?_, ?_⟩
  · cases before with
    | nil => rwa [List.append_nil]
    | cons c before => rwa [List.getLast?_append_of_ne_nil _ (List.cons_ne_nil c before)]
  · rw [List.length_append, CallSite.shift, hstart, Nat.add_comm]
  · simp only [CallSite.shift]
    omega

/-- A call that starts in the back part of a line is written there, so many columns earlier. -/
lemma of_shift (h : site.WrittenOn (front ++ back)) (hle : front.length ≤ site.start) :
    ∃ moved : CallSite, moved.WrittenOn back ∧ site = moved.shift front.length := by
  obtain ⟨before, name, blanks, after, heq, hb, hname, hblanks, hsite, hstart, hstop⟩ := h
  obtain ⟨more, rfl⟩ : front <+: before :=
    List.prefix_of_prefix_length_le (List.prefix_append front back) ⟨_, heq.symm⟩ (hstart ▸ hle)
  rw [List.append_assoc, List.append_cancel_left_eq] at heq
  rw [List.length_append] at hstart
  refine ⟨{ site with start := more.length, stop := site.stop - front.length },
    ⟨more, name, blanks, after, heq, ?_, hname, hblanks, hsite, rfl, ?_⟩, ?_⟩
  · cases more with
    | nil => exact nofun
    | cons c more => rwa [List.getLast?_append_of_ne_nil _ (List.cons_ne_nil c more)] at hb
  · dsimp only
    omega
  · obtain ⟨siteName, abort, start, stop⟩ := site
    dsimp only at hstart hstop
    rw [CallSite.shift, CallSite.mk.injEq]
    dsimp only
    exact ⟨rfl, rfl, by omega, by omega⟩

end WrittenOn

/-- The call sites of a line are the only list of the calls on it from left to right. -/
lemma ofLine_eq {sites : List CallSite} (hpair : sites.Pairwise fun a b => a.start < b.start)
    (hmem : ∀ site, site ∈ sites ↔ site.WrittenOn line) : ofLine line = sites := by
  have : Std.Antisymm fun a b : CallSite => a.start < b.start :=
    ⟨fun a b hab hba => absurd hab (Nat.lt_asymm hba)⟩
  have : Std.Irrefl fun a b : CallSite => a.start < b.start := ⟨fun a => Nat.lt_irrefl a.start⟩
  apply List.Pairwise.eq_of_mem_iff ((pairwise_ofLine line).imp fun h => h.1) hpair
  intro site
  rw [mem_ofLine, hmem]

/-- Where no call lies across the seam, the calls on a line are those of its two parts. -/
lemma ofLine_append (hb : IsBoundary front.getLast?)
    (hside : ∀ site : CallSite, site.WrittenOn (front ++ back) →
      site.stop ≤ front.length ∨ front.length ≤ site.start) :
    ofLine (front ++ back) = ofLine front ++ (ofLine back).map (shift front.length) := by
  apply ofLine_eq
  · rw [List.pairwise_append, List.pairwise_map]
    refine ⟨(pairwise_ofLine front).imp fun h => h.1, ?_, ?_⟩
    · exact (pairwise_ofLine back).imp fun h => Nat.add_lt_add_right h.1 _
    · intro a ha b hb
      obtain ⟨b, -, rfl⟩ := List.mem_map.1 hb
      rw [mem_ofLine] at ha
      exact Nat.lt_of_lt_of_le ha.start_lt_stop
        (ha.stop_le_length.trans (Nat.le_add_left _ b.start))
  · intro site
    rw [List.mem_append, List.mem_map, mem_ofLine]
    refine ⟨?_, ?_⟩
    · rintro (h | ⟨moved, hmoved, rfl⟩)
      · exact h.append back
      · exact (mem_ofLine.1 hmoved).shift hb
    · intro h
      obtain hle | hle := hside site h
      · exact .inl (h.of_append hle)
      · obtain ⟨moved, hmoved, rfl⟩ := h.of_shift hle
        exact .inr ⟨moved, mem_ofLine.2 hmoved, rfl⟩

/-- A text without parentheses at the end of a line makes no call. -/
lemma ofLine_append_of_notMem (h : '(' ∉ back) : ofLine (front ++ back) = ofLine front := by
  apply ofLine_eq ((pairwise_ofLine front).imp fun h => h.1)
  intro site
  rw [mem_ofLine]
  refine ⟨fun hfront => hfront.append back, ?_⟩
  intro hsite
  have hparen := hsite.inColumns.paren.2
  apply hsite.of_append
  by_contra hlt
  rw [List.getElem?_append_right (by omega)] at hparen
  exact h (List.mem_of_getElem? hparen)

/-! A call and what stands around it. -/

/-- A call up to its parenthesis. -/
def spelling (name : List Char) (abort : Bool) (blanks : List Char) : List Char :=
  name ++ bang abort ++ blanks ++ ['(']

/-- The call site of a call that starts in a column. -/
def placed (name : List Char) (abort : Bool) (blanks : List Char) (start : Nat) : CallSite :=
  ⟨String.ofList name, abort, start, start + (spelling name abort blanks).length⟩

variable {name blanks before after : List Char} (abort : Bool)

/-- A call on a line ends with its parenthesis. -/
lemma append_spelling :
    before ++ (spelling name abort blanks ++ after) =
      (before ++ (name ++ bang abort ++ blanks)) ++ '(' :: after := by
  simp [spelling]

/-- A call that is put on a line is written there. -/
lemma writtenOn_placed (hb : IsBoundary before.getLast?) (hname : IsIdentifier name)
    (hblanks : AllBlank blanks) (after : List Char) :
    (placed name abort blanks before.length).WrittenOn
      (before ++ (spelling name abort blanks ++ after)) := by
  refine ⟨before, name, blanks, after, ?_, hb, hname, hblanks, rfl, rfl, ?_⟩
  · simp [spelling, placed]
  · simp only [placed, spelling, List.length_append, List.length_singleton]

/-- A line on which a call is written, in parts. -/
lemma WrittenOn.exists_around (h : site.WrittenOn line) :
    ∃ before name blanks after : List Char, IsBoundary before.getLast? ∧ IsIdentifier name ∧
      AllBlank blanks ∧ line = before ++ (spelling name site.abort blanks ++ after) ∧
      site = placed name site.abort blanks before.length := by
  obtain ⟨siteName, abort, start, stop⟩ := site
  obtain ⟨before, name, blanks, after, rfl, hb, hname, hblanks, hsite, hstart, hstop⟩ := h
  dsimp only at hsite hstart hstop
  subst hsite hstart hstop
  refine ⟨before, name, blanks, after, hb, hname, hblanks, by simp [spelling], ?_⟩
  simp only [placed, spelling, List.length_append, List.length_singleton]

/-- A character that may stand in a call before its parenthesis. -/
def isCallChar (c : Char) : Bool :=
  isIdentChar c || c == '!' || isBlank c

/-- Before its parenthesis a call has only characters of calls. -/
lemma isCallChar_of_mem {c : Char} (hname : IsIdentifier name) (hblanks : AllBlank blanks)
    (h : c ∈ name ++ bang abort ++ blanks) : isCallChar c = true := by
  rw [List.mem_append, List.mem_append] at h
  rw [isCallChar, Bool.or_eq_true, Bool.or_eq_true, beq_iff_eq]
  refine h.imp (fun h => h.imp (hname.2 c) ?_) (hblanks c)
  intro hbang
  cases abort with
  | true => exact List.mem_singleton.1 hbang
  | false => cases hbang

/-- Another character does not stand in a call before its parenthesis. -/
lemma notMem_call {c : Char} (hc : isCallChar c = false) (hname : IsIdentifier name)
    (hblanks : AllBlank blanks) : c ∉ name ++ bang abort ++ blanks := by
  intro h
  rw [isCallChar_of_mem abort hname hblanks h] at hc
  cases hc

/-- A call lies on one side of a character that no call holds. -/
lemma WrittenOn.beside {c : Char} (hc : isCallChar c = false) (hparen : c ≠ '(')
    (h : site.WrittenOn (front ++ c :: back)) :
    site.stop ≤ front.length ∨ front.length < site.start := by
  obtain ⟨before, name, blanks, after, -, hname, hblanks, hline, hsite⟩ := h.exists_around
  have hcall : c ∉ spelling name site.abort blanks := by
    rw [spelling, List.mem_append, List.mem_singleton, not_or]
    exact ⟨notMem_call site.abort hc hname hblanks, hparen⟩
  rw [hsite]
  obtain ⟨more, rfl, -⟩ | ⟨more, rfl, -⟩ := split_of_notMem hcall hline.symm
  · refine .inl ?_
    simp only [placed, List.length_append]
    omega
  · refine .inr ?_
    simp only [placed, List.length_append, List.length_cons]
    omega

/-- A call alone on a line is the only one there. -/
lemma ofLine_spelling (hname : IsIdentifier name) (hblanks : AllBlank blanks) :
    ofLine (spelling name abort blanks) = [placed name abort blanks 0] := by
  have hcall := @writtenOn_placed name blanks [] abort nofun hname hblanks []
  rw [List.nil_append, List.append_nil] at hcall
  apply ofLine_eq (List.pairwise_singleton _ _)
  intro site
  rw [List.mem_singleton]
  refine ⟨fun h => h ▸ hcall, ?_⟩
  intro h
  obtain heq | hle | hle := h.apart hcall
  · exact heq
  · exact absurd h.start_lt_stop (Nat.not_lt.2 (hle.trans (Nat.zero_le _)))
  -- the call takes the whole text
  · have hlt := h.start_lt_stop
    have hlength := h.stop_le_length
    simp only [placed] at hle
    omega

/-- The calls on a line around one of them. -/
lemma ofLine_around (hb : IsBoundary before.getLast?) (hname : IsIdentifier name)
    (hblanks : AllBlank blanks) (after : List Char) :
    ofLine (before ++ (spelling name abort blanks ++ after)) =
      ofLine before ++ placed name abort blanks before.length ::
        (ofLine after).map (shift (before.length + (spelling name abort blanks).length)) := by
  have hcall := writtenOn_placed abort hb hname hblanks
  have hparen : IsBoundary (before ++ spelling name abort blanks).getLast? := by
    rw [spelling, ← List.append_assoc, List.getLast?_concat]
    intro c hc
    cases hc
    decide
  have hfront : ofLine (before ++ spelling name abort blanks) =
      ofLine before ++ [placed name abort blanks before.length] := by
    rw [ofLine_append hb, ofLine_spelling abort hname hblanks]
    · simp [shift, placed, Nat.add_comm]
    · intro site h
      have hcall := hcall []
      rw [List.append_nil] at hcall
      obtain rfl | hle | hle := h.apart hcall
      · exact .inr (Nat.le_refl _)
      · exact .inl hle
      · exact .inr (Nat.le_trans (Nat.le_add_right _ _) hle)
  rw [← List.append_assoc, ofLine_append hparen, hfront, List.append_assoc,
    List.singleton_append, List.length_append]
  intro site h
  rw [List.append_assoc] at h
  rw [List.length_append]
  obtain rfl | hle | hle := h.apart (hcall after)
  · exact .inl (Nat.le_refl _)
  · exact .inl (Nat.le_trans hle (Nat.le_add_right _ _))
  · exact .inr hle

end CallSite

end Remap
