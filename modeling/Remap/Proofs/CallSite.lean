import Remap.CallSite
import Remap.Proofs.Pairwise
import Remap.Proofs.Text.Parts
import Remap.Proofs.Text.Search
import Remap.Proofs.Text.Word

/-!
# The grammar of call sites

A call site as it is written on a line, and the search for call sites, which finds exactly those
that are written there, from left to right. No call site starts inside another one, up to its
opening parenthesis, so the search passes over none.
-/

namespace Remap.CallSite

open Text

/-- The bang of a call that aborts on failure. -/
def bang (abort : Bool) : List Char :=
  if abort then ['!'] else []

/--
The call site is written on the line: at a word boundary an identifier, a bang if the call aborts,
blanks, and an opening parenthesis.
-/
def WrittenOn (site : CallSite) (line : List Char) : Prop :=
  ∃ before name blanks after : List Char,
    line = before ++ (name ++ bang site.abort ++ blanks ++ '(' :: after) ∧
      IsBoundary before.getLast? ∧ IsIdentifier name ∧ AllBlank blanks ∧
      site.name = String.ofList name ∧ site.start = before.length ∧
      site.stop = site.start + ((name ++ bang site.abort ++ blanks).length + 1)

/-- The start of a text that the reader takes for a call site. -/
def Spelled (text : List Char) (size : Nat) (value : String × Bool) : Prop :=
  ∃ name blanks after : List Char,
    text = name ++ bang value.2 ++ blanks ++ '(' :: after ∧ IsIdentifier name ∧
      AllBlank blanks ∧ value.1 = String.ofList name ∧
      size = (name ++ bang value.2 ++ blanks).length + 1

/-- A parenthesis is not blank. -/
lemma isBlank_paren : isBlank '(' = false := by decide

/-- A parenthesis is not part of an identifier. -/
lemma isIdentChar_paren : isIdentChar '(' = false := by decide

/-- What follows the name of a call site does not go on with it. -/
lemma isIdentChar_head_rest {abort : Bool} {blanks after : List Char} (h : AllBlank blanks) :
    ∀ c, (bang abort ++ blanks ++ '(' :: after).head? = some c → isIdentChar c = false := by
  intro c hc
  cases abort with
  | true =>
    cases hc
    decide
  | false =>
    cases blanks with
    | nil =>
      cases hc
      exact isIdentChar_paren
    | cons b blanks =>
      cases hc
      exact isIdentChar_eq_false_of_isBlank (h _ (by simp))

/-- A text that starts with a parenthesis does not start with a blank. -/
lemma isBlank_head_paren {after : List Char} :
    ∀ c, ('(' :: after).head? = some c → isBlank c = false := by
  intro c hc
  cases hc
  exact isBlank_paren

/-- Without a bang, what follows the name of a call site starts with a blank or the parenthesis. -/
lemma head_blanks_ne_bang {blanks after : List Char} (h : AllBlank blanks) :
    ((blanks ++ '(' :: after).head? == some '!') = false := by
  cases blanks with
  | nil => rfl
  | cons b blanks =>
    have hb : b ≠ '!' := by
      intro e
      have hblank := h b (by simp)
      rw [e] at hblank
      exact absurd hblank (by decide)
    simpa using hb

/-- The reader takes what is spelled as a call site. -/
lemma read_of_spelled {before : Option Char} (hb : IsBoundary before) {text : List Char}
    {size : Nat} {value : String × Bool} (h : Spelled text size value) :
    read before text = some (size, value) := by
  obtain ⟨name, abort⟩ := value
  obtain ⟨chars, blanks, after, rfl, hname, hblanks, rfl, rfl⟩ := h
  obtain ⟨⟨c, hc, hstart⟩, hchars⟩ := hname
  have hrest := @isIdentChar_head_rest abort blanks after hblanks
  have htake := takeWhile_run hchars hrest
  have hdrop := dropWhile_run hchars hrest
  have htrim : trimStart (blanks ++ '(' :: after) = '(' :: after :=
    trimStart_run hblanks isBlank_head_paren
  have hlead : leadingBlanks (blanks ++ '(' :: after) = blanks.length :=
    leadingBlanks_run hblanks isBlank_head_paren
  cases chars with
  | nil => cases hc
  | cons d chars =>
    cases hc
    simp only [List.append_assoc] at htake hdrop ⊢
    rw [List.cons_append] at htake hdrop ⊢
    simp only [read, hstart, isBoundary_iff.1 hb, htake, hdrop]
    cases abort with
    | true =>
      simp [bang, htrim, hlead]
      omega
    | false =>
      have hplain : (if false = true then ['!'] else []) ++ (blanks ++ '(' :: after) =
        blanks ++ '(' :: after := rfl
      simp only [bang, hplain, head_blanks_ne_bang hblanks]
      simp [htrim, hlead]
      omega

/-- A text whose first character after blanks is a parenthesis is blanks and a parenthesis. -/
lemma eq_blanks_paren {text : List Char} (h : (trimStart text).head? = some '(') :
    ∃ after, text = text.takeWhile isBlank ++ '(' :: after := by
  cases ht : trimStart text with
  | nil => simp [ht] at h
  | cons c after =>
    rw [ht] at h
    cases h
    exact ⟨after, by rw [← ht, takeWhile_append_trimStart]⟩

/-- The reader takes nothing else, and only at a word boundary. -/
lemma spelled_of_read {before : Option Char} {text : List Char} {size : Nat}
    {value : String × Bool} (h : read before text = some (size, value)) :
    IsBoundary before ∧ Spelled text size value := by
  cases text with
  | nil => cases h
  | cons c rest =>
    rw [read] at h
    split at h
    case isFalse => cases h
    case isTrue hstart =>
      rw [Bool.and_eq_true, Bool.not_eq_true'] at hstart
      refine ⟨isBoundary_iff.2 hstart.2, ?_⟩
      have hsplit : (c :: rest).takeWhile isIdentChar ++ (c :: rest).dropWhile isIdentChar =
        c :: rest := List.takeWhile_append_dropWhile
      have hname : IsIdentifier ((c :: rest).takeWhile isIdentChar) := by
        refine ⟨⟨c, ?_, hstart.1⟩, fun d hd => List.mem_takeWhile_imp hd⟩
        rw [List.takeWhile_cons, if_pos (isIdentChar_of_isIdentStart hstart.1), List.head?_cons]
      -- what the reader does next depends on the name and on the text after it only
      generalize (c :: rest).takeWhile isIdentChar = name at h hsplit hname
      generalize (c :: rest).dropWhile isIdentChar = tail at h hsplit
      cases htail : tail.head? == some '!' with
      | true =>
        simp only [htail, if_true, beq_iff_eq, Option.ite_none_right_eq_some] at h
        obtain ⟨hparen, heq⟩ := h
        obtain ⟨after, hafter⟩ := eq_blanks_paren hparen
        obtain ⟨more, rfl⟩ : ∃ more, tail = '!' :: more := by
          cases tail with
          | nil => cases htail
          | cons d more =>
            simp only [List.head?_cons, beq_iff_eq, Option.some.injEq] at htail
            exact ⟨more, by rw [htail]⟩
        rw [List.tail_cons] at hafter heq
        cases heq
        refine ⟨name, more.takeWhile isBlank, after, ?_, hname, allBlank_takeWhile _, rfl, ?_⟩
        · rw [← hsplit, List.append_assoc, List.append_assoc, ← hafter]
          rfl
        · simp [bang, leadingBlanks]
          omega
      | false =>
        simp only [htail, Bool.false_eq_true, if_false, beq_iff_eq,
          Option.ite_none_right_eq_some] at h
        obtain ⟨hparen, heq⟩ := h
        obtain ⟨after, hafter⟩ := eq_blanks_paren hparen
        cases heq
        refine ⟨name, tail.takeWhile isBlank, after, ?_, hname, allBlank_takeWhile _, rfl, ?_⟩
        · rw [← hsplit, List.append_assoc, List.append_assoc, ← hafter]
          rfl
        · simp [bang, leadingBlanks]

/-- What the reader takes, and where. -/
lemma read_eq_some_iff {before : Option Char} {text : List Char} {size : Nat}
    {value : String × Bool} :
    read before text = some (size, value) ↔ IsBoundary before ∧ Spelled text size value :=
  ⟨spelled_of_read, fun h => read_of_spelled h.1 h.2⟩

/-- A call site starts with a name. -/
lemma Spelled.startsName {text : List Char} {size : Nat} {value : String × Bool}
    (h : Spelled text size value) : StartsName text := by
  obtain ⟨name, blanks, after, rfl, hname, -, -, -⟩ := h
  rw [List.append_assoc, List.append_assoc]
  exact hname.isName.startsName _

/-- After the name of a call site, up to its parenthesis, no identifier starts. -/
lemma isIdentStart_of_mem_gap (abort : Bool) {blanks : List Char} (h : AllBlank blanks) :
    ∀ c ∈ bang abort ++ blanks ++ ['('], isIdentStart c = false := by
  intro c hc
  simp only [List.mem_append, List.mem_singleton] at hc
  obtain (hbang | hblank) | rfl := hc
  · cases abort with
    | true =>
      rw [List.mem_singleton.1 hbang]
      decide
    | false => cases hbang
  · exact isIdentStart_eq_false_of_isBlank (h c hblank)
  · decide

/-- No call site starts inside another one. -/
lemma separated_read : Separated read where
  nil _ := rfl
  apart {before inner after size value} hne hread hlt := by
    obtain ⟨-, name, blanks, more, htext, hname, hblanks, -, rfl⟩ := spelled_of_read hread
    have hgap := isIdentStart_of_mem_gap value.2 hblanks
    cases hr : read inner.getLast? after with
    | none => rfl
    | some found =>
      obtain ⟨hb, hspelled⟩ := spelled_of_read hr
      have htext' : inner ++ after = name ++ (bang value.2 ++ blanks ++ ['(']) ++ more := by
        rw [htext]
        simp
      have hlt' : inner.length < (name ++ (bang value.2 ++ blanks ++ ['('])).length := by
        simpa [Nat.add_assoc] using hlt
      exact absurd hspelled.startsName
        (not_startsName_inside hname.isName.2 hgap htext' hne hlt' hb)

/-- The search finds exactly the call sites that are written on the line. -/
lemma mem_ofLine {site : CallSite} {line : List Char} :
    site ∈ ofLine line ↔ site.WrittenOn line := by
  simp only [ofLine, List.mem_map, mem_findAll separated_read, read_eq_some_iff]
  refine ⟨?_, ?_⟩
  · intro h
    obtain ⟨m, ⟨before, text, rfl, hstart, size, ⟨hb, hspelled⟩, hstop⟩, rfl⟩ := h
    obtain ⟨name, blanks, after, rfl, hname, hblanks, hvalue, rfl⟩ := hspelled
    exact ⟨before, name, blanks, after, rfl, hb, hname, hblanks, hvalue, hstart, hstop⟩
  · intro h
    obtain ⟨before, name, blanks, after, rfl, hb, hname, hblanks, hvalue, hstart, hstop⟩ := h
    refine ⟨⟨site.start, site.stop, site.name, site.abort⟩, ⟨before, _, rfl, hstart, _, ⟨hb, ?_⟩,
      hstop⟩, rfl⟩
    exact ⟨name, blanks, after, rfl, hname, hblanks, hvalue, rfl⟩

/-- Call sites come from left to right, and each one ends before the next one starts. -/
lemma pairwise_ofLine (line : List Char) :
    (ofLine line).Pairwise fun a b => a.start < b.start ∧ a.stop ≤ b.start := by
  rw [ofLine, List.pairwise_map]
  exact pairwise_findAll read line

/-- No parenthesis stands in the name of a call or in its bang. -/
lemma paren_notMem_name {name : List Char} (hname : IsIdentifier name) (abort : Bool) :
    '(' ∉ name ++ bang abort := by
  intro h
  obtain h | h := List.mem_append.1 h
  · have hparen := hname.2 '(' h
    rw [isIdentChar_paren] at hparen
    cases hparen
  · cases abort with
    | true => exact absurd (List.mem_singleton.1 h) (by decide)
    | false => cases h

/-- Where nothing else opens a parenthesis, a call site starts with the call at the start. -/
lemma start_of_mem_call {name after : List Char} {abort : Bool} (hname : IsIdentifier name)
    (hafter : '(' ∉ after) {site : CallSite}
    (h : site ∈ ofLine (name ++ bang abort ++ '(' :: after)) : site.start = 0 := by
  obtain ⟨before, name', blanks, after', heq, hb, hname', hblanks, hsite, hstart, -⟩ :=
    mem_ofLine.1 h
  cases before with
  | nil => exact hstart
  | cons c before =>
    have hgap := isIdentStart_of_mem_gap abort (nofun : AllBlank [])
    rw [List.append_nil] at hgap
    have hspelled : Spelled (name' ++ bang site.abort ++ blanks ++ '(' :: after') _
      (site.name, site.abort) := ⟨name', blanks, after', rfl, hname', hblanks, hsite, rfl⟩
    have hline : c :: before ++ (name' ++ bang site.abort ++ blanks ++ '(' :: after') =
        name ++ (bang abort ++ ['(']) ++ after := by
      rw [← heq]
      simp only [List.append_assoc, List.singleton_append]
    -- both have the only parenthesis, so that the site would start inside the call
    rw [← List.append_assoc,
      List.append_cons_inj_of_notMem (paren_notMem_name hname abort) hafter] at heq
    have hlength := congrArg List.length heq.1
    have hlt : (c :: before).length < (name ++ (bang abort ++ ['('])).length := by
      simp only [List.length_append, List.length_singleton] at hlength ⊢
      omega
    exact absurd hspelled.startsName
      (not_startsName_inside hname.isName.2 hgap hline (List.cons_ne_nil c before) hlt hb)

/-- Where nothing else opens a parenthesis, the call at the start is the only call site. -/
lemma ofLine_call {name after : List Char} (abort : Bool) (hname : IsIdentifier name)
    (hafter : '(' ∉ after) :
    ofLine (name ++ bang abort ++ '(' :: after) =
      [⟨String.ofList name, abort, 0, (name ++ bang abort).length + 1⟩] := by
  have hmem : (⟨String.ofList name, abort, 0, (name ++ bang abort).length + 1⟩ : CallSite) ∈
      ofLine (name ++ bang abort ++ '(' :: after) := by
    refine mem_ofLine.2 ⟨[], name, [], after, ?_, nofun, hname, nofun, rfl, rfl, ?_⟩
    · rw [List.append_nil, List.nil_append]
    · rw [List.append_nil, Nat.zero_add]
  have hall : (ofLine (name ++ bang abort ++ '(' :: after)).filter (·.start = 0) =
      ofLine (name ++ bang abort ++ '(' :: after) := by
    rw [List.filter_eq_self]
    intro site hsite
    exact decide_eq_true (start_of_mem_call hname hafter hsite)
  rw [← hall]
  apply filter_eq_singleton (pairwise_ofLine _) _ hmem rfl
  -- of two sites one would start further right
  intro a b ha hb hlt
  rw [decide_eq_true_iff] at ha hb
  exact Nat.ne_of_lt hlt.1 (ha.trans hb.symm)

end Remap.CallSite
