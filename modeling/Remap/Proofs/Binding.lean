import Remap.CallSite
import Remap.Proofs.Text.Parts
import Remap.Proofs.Text.Search
import Remap.Proofs.Text.Word

/-!
# The grammar of bindings

A binding of a result and an error as it is written on a line. The reader takes what is spelled as
a binding and nothing else. Inside a binding another one could only start with the second name,
which is followed by an equals sign and not by a comma; so bindings never overlap, and the search
for them passes over none. `endsBefore_exact` says what this means for a column: a binding is found
before it exactly if one is written before it.
-/

namespace Remap.Binding

open Text

/-- The text starts with a binding and goes on with the rest. -/
def Spelled (text rest : List Char) : Prop :=
  ∃ first gap gap' second gap'' : List Char,
    text = first ++ (gap ++ ',' :: (gap' ++ (second ++ (gap'' ++ '=' :: rest)))) ∧
      IsName first ∧ AllBlank gap ∧ AllBlank gap' ∧ IsName second ∧ AllBlank gap'' ∧
      rest.head? ≠ some '='

/-- A binding, which starts at a word boundary, is written on the line up to a column. -/
def EndsAt (line : List Char) (stop : Nat) : Prop :=
  ∃ before text rest : List Char,
    line = before ++ text ∧ IsBoundary before.getLast? ∧ Spelled text rest ∧
      stop + rest.length = line.length

/-- A binding is written on the line from a column, at a word boundary, up to another one. -/
def WrittenOn (line : List Char) (start stop : Nat) : Prop :=
  ∃ before text rest : List Char,
    line = before ++ text ∧ IsBoundary before.getLast? ∧ Spelled text rest ∧
      start = before.length ∧ stop + rest.length = line.length

/-! The parts of a binding. -/

/-- A name starts with a character that may start an identifier. -/
lemma head?_any_iff {text : List Char} :
    text.head?.any isIdentStart = true ↔ StartsName text := by
  cases text <;> simp [StartsName]

/-- A name that no word character follows is read as a whole. -/
lemma identifier?_of_name {name rest : List Char} (h : IsName name)
    (hrest : ∀ c, rest.head? = some c → isWord c = false) :
    identifier? (name ++ rest) = some (name, rest) := by
  have hstart := head?_any_iff.2 (h.startsName rest)
  rw [identifier?, if_pos hstart, takeWhile_run h.2 hrest, dropWhile_run h.2 hrest]

/-- What is read as an identifier is a name at the start of the text. -/
lemma name_of_identifier? {text name rest : List Char}
    (h : identifier? text = some (name, rest)) : text = name ++ rest ∧ IsName name := by
  rw [identifier?] at h
  split at h
  case isFalse => cases h
  case isTrue hstart =>
    cases h
    refine ⟨List.takeWhile_append_dropWhile.symm, ?_, fun c hc => List.mem_takeWhile_imp hc⟩
    obtain ⟨c, hc, hcs⟩ := head?_any_iff.1 hstart
    cases text with
    | nil => cases hc
    | cons d text =>
      cases hc
      exact ⟨c, by rw [List.takeWhile_cons, if_pos (isWord_of_isIdentStart hcs),
        List.head?_cons], hcs⟩

/-- A sign is read behind blanks. -/
lemma afterSign?_eq_some_iff {sign : Char} (hs : isBlank sign = false) {text rest : List Char} :
    afterSign? sign text = some rest ↔ ∃ gap, AllBlank gap ∧ text = gap ++ sign :: rest := by
  refine ⟨?_, ?_⟩
  · intro h
    rw [afterSign?] at h
    split at h
    next c more htrim =>
      rw [Option.ite_none_right_eq_some] at h
      obtain ⟨rfl, heq⟩ := h
      cases heq
      refine ⟨text.takeWhile isBlank, fun c hc => List.mem_takeWhile_imp hc, ?_⟩
      rw [← htrim, takeWhile_append_trimStart]
    next => cases h
  · intro h
    obtain ⟨gap, hgap, rfl⟩ := h
    have hhead : ∀ c, (sign :: rest).head? = some c → isBlank c = false := by
      intro c hc
      cases hc
      exact hs
    rw [afterSign?, trimStart_run hgap hhead]
    exact if_pos rfl

/-- A comma is not blank. -/
lemma isBlank_comma : isBlank ',' = false := by decide

/-- An equals sign is not blank. -/
lemma isBlank_equals : isBlank '=' = false := by decide

/-- After blanks and a sign that is not of a word, no word goes on. -/
lemma isWord_head_gap {sign : Char} (hs : isWord sign = false) {gap rest : List Char}
    (h : AllBlank gap) : ∀ c, (gap ++ sign :: rest).head? = some c → isWord c = false := by
  intro c hc
  cases gap with
  | nil =>
    cases hc
    exact hs
  | cons b gap =>
    cases hc
    exact isWord_eq_false_of_isBlank (h _ (by simp))

/-- A name does not start with a blank. -/
lemma isBlank_head_name {name rest : List Char} (h : IsName name) :
    ∀ c, (name ++ rest).head? = some c → isBlank c = false := by
  intro c hc
  obtain ⟨d, hd, hstart⟩ := h.startsName rest
  rw [hd] at hc
  cases hc
  exact isBlank_eq_false_of_isWord (isWord_of_isIdentStart hstart)

/-- What follows a binding at the start of a text. -/
lemma rest?_eq_some_iff {text rest : List Char} :
    rest? text = some rest ↔ Spelled text rest := by
  refine ⟨?_, ?_⟩
  · intro h
    simp only [rest?, Option.bind_eq_bind, Option.bind_eq_some_iff, Prod.exists] at h
    obtain ⟨first, text₁, hfirst, text₂, hcomma, second, text₃, hsecond, text₄, hequals, h⟩ := h
    rw [Option.ite_none_left_eq_some] at h
    obtain ⟨hne, heq⟩ := h
    cases heq
    obtain ⟨rfl, hname⟩ := name_of_identifier? hfirst
    obtain ⟨gap, hgap, rfl⟩ := (afterSign?_eq_some_iff isBlank_comma).1 hcomma
    obtain ⟨htrim, hname'⟩ := name_of_identifier? hsecond
    obtain ⟨gap'', hgap'', rfl⟩ := (afterSign?_eq_some_iff isBlank_equals).1 hequals
    refine ⟨first, gap, text₂.takeWhile isBlank, second, gap'', ?_, hname, hgap,
      fun c hc => List.mem_takeWhile_imp hc, hname', hgap'', hne⟩
    rw [← htrim, takeWhile_append_trimStart]
  · intro h
    obtain ⟨first, gap, gap', second, gap'', rfl, hname, hgap, hgap', hname', hgap'', hne⟩ := h
    have hfirst := @identifier?_of_name first
      (gap ++ ',' :: (gap' ++ (second ++ (gap'' ++ '=' :: rest)))) hname
      (isWord_head_gap (by decide) hgap)
    have hcomma := (afterSign?_eq_some_iff isBlank_comma).2
      ⟨gap, hgap, (rfl : gap ++ ',' :: (gap' ++ (second ++ (gap'' ++ '=' :: rest))) = _)⟩
    have htrim : trimStart (gap' ++ (second ++ (gap'' ++ '=' :: rest))) =
        second ++ (gap'' ++ '=' :: rest) := trimStart_run hgap' (isBlank_head_name hname')
    have hsecond := @identifier?_of_name second (gap'' ++ '=' :: rest) hname'
      (isWord_head_gap (by decide) hgap'')
    have hequals := (afterSign?_eq_some_iff isBlank_equals).2
      ⟨gap'', hgap'', (rfl : gap'' ++ '=' :: rest = _)⟩
    simp only [rest?, hfirst, hcomma, htrim, hsecond, hequals, Option.bind_eq_bind,
      Option.bind_some, if_neg hne]

/-- A binding starts with a name. -/
lemma Spelled.startsName {text rest : List Char} (h : Spelled text rest) : StartsName text := by
  obtain ⟨first, gap, gap', second, gap'', rfl, hname, -⟩ := h
  exact hname.startsName _

/-- What the reader takes, and where. -/
lemma read_eq_some_iff {before : Option Char} {text : List Char} {size : Nat} {value : Unit} :
    read before text = some (size, value) ↔
      IsBoundary before ∧ ∃ rest, Spelled text rest ∧ size = text.length - rest.length := by
  rw [read, Option.ite_none_right_eq_some, Bool.and_eq_true, Bool.not_eq_true', head?_any_iff,
    ← isBoundary_iff, Option.map_eq_some_iff]
  simp only [rest?_eq_some_iff]
  refine ⟨?_, ?_⟩
  · intro h
    obtain ⟨⟨-, hb⟩, rest, hspelled, heq⟩ := h
    cases heq
    exact ⟨hb, rest, hspelled, rfl⟩
  · intro h
    obtain ⟨hb, rest, hspelled, rfl⟩ := h
    exact ⟨⟨hspelled.startsName, hb⟩, rest, hspelled, rfl⟩

/-! Bindings do not overlap. -/

/-- No binding starts with a name that is followed by an equals sign. -/
lemma not_spelled_of_equals {name gap after rest : List Char} (hname : IsName name)
    (hgap : AllBlank gap) : ¬ Spelled (name ++ (gap ++ '=' :: after)) rest := by
  intro h
  have hfirst := @identifier?_of_name name (gap ++ '=' :: after) hname
    (isWord_head_gap (by decide) hgap)
  have htrim : trimStart (gap ++ '=' :: after) = '=' :: after := by
    apply trimStart_run hgap
    intro c hc
    cases hc
    exact isBlank_equals
  have hcomma : afterSign? ',' (gap ++ '=' :: after) = none := by
    rw [afterSign?, htrim]
    exact if_neg (by decide)
  rw [← rest?_eq_some_iff] at h
  simp [rest?, hfirst, hcomma] at h

/-- Blanks, a sign and more blanks hold no start of a name. -/
lemma isIdentStart_of_mem_gap {sign : Char} (hs : isIdentStart sign = false)
    {gap gap' : List Char} (h : AllBlank gap) (h' : AllBlank gap') :
    ∀ c ∈ gap ++ sign :: gap', isIdentStart c = false := by
  intro c hc
  rw [List.mem_append, List.mem_cons] at hc
  obtain hc | rfl | hc := hc
  · exact isIdentStart_eq_false_of_isBlank (h c hc)
  · exact hs
  · exact isIdentStart_eq_false_of_isBlank (h' c hc)

/-- No binding starts inside another one. -/
lemma not_spelled_inside {inner after text rest more : List Char} (hne : inner ≠ [])
    (htext : inner ++ after = text) (h : Spelled text rest)
    (hlt : inner.length < text.length - rest.length) (hb : IsBoundary inner.getLast?) :
    ¬ Spelled after more := by
  obtain ⟨first, gap, gap', second, gap'', rfl, hname, hgap, hgap', hname', hgap'', -⟩ := h
  have hwords := hname.2
  have hgaps := @isIdentStart_of_mem_gap ',' (by decide) gap gap' hgap hgap'
  have hgaps' := @isIdentStart_of_mem_gap '=' (by decide) gap'' [] hgap'' (by simp [AllBlank])
  -- the match is the run of the first name with its gap, and the run of the second with its own
  have htext₁ : inner ++ after = first ++ (gap ++ ',' :: gap') ++
      (second ++ (gap'' ++ '=' :: rest)) := by
    rw [htext]
    simp
  by_cases hlt₁ : inner.length < (first ++ (gap ++ ',' :: gap')).length
  · intro hmore
    exact not_startsName_inside hwords hgaps htext₁ hne hlt₁ hb hmore.startsName
  -- from the second name on: right at its start an equals sign comes in place of the comma
  · obtain ⟨tail, hinner⟩ : first ++ (gap ++ ',' :: gap') <+: inner :=
      List.prefix_of_prefix_length_le ⟨_, htext₁.symm⟩ ⟨_, rfl⟩ (Nat.le_of_not_lt hlt₁)
    rw [← hinner, List.append_assoc, List.append_cancel_left_eq] at htext₁
    cases htail : tail with
    | nil =>
      rw [htail, List.nil_append] at htext₁
      rw [htext₁]
      exact not_spelled_of_equals hname' hgap''
    | cons c tail' =>
      intro hmore
      have hne' : tail ≠ [] := by simp [htail]
      have hlast : inner.getLast? = tail.getLast? := by
        rw [← hinner, List.getLast?_append_of_ne_nil _ hne']
      have htext₂ : tail ++ after = second ++ (gap'' ++ ['=']) ++ rest := by
        rw [htext₁]
        simp
      have hlt₂ : tail.length < (second ++ (gap'' ++ ['='])).length := by
        rw [← hinner] at hlt
        simp only [List.length_append, List.length_cons, List.length_nil] at hlt ⊢
        omega
      rw [hlast] at hb
      exact not_startsName_inside hname'.2 hgaps' htext₂ hne' hlt₂ hb hmore.startsName

/-- No binding starts inside another one. -/
lemma separated_read : Separated read where
  nil _ := rfl
  apart {before inner after size value} hne hread hlt := by
    obtain ⟨-, rest, hspelled, rfl⟩ := read_eq_some_iff.1 hread
    cases hr : read inner.getLast? after with
    | none => rfl
    | some found =>
      obtain ⟨hb, more, hmore, -⟩ := read_eq_some_iff.1 hr
      exact absurd hmore (not_spelled_inside hne rfl hspelled hlt hb)

/-- What follows a binding is shorter than the text. -/
lemma Spelled.length_lt {text rest : List Char} (h : Spelled text rest) :
    rest.length < text.length := by
  obtain ⟨first, gap, gap', second, gap'', rfl, -⟩ := h
  simp only [List.length_append, List.length_cons]
  omega

/-- The search finds exactly the bindings that are written on the line. -/
lemma mem_findAll_read {line : List Char} {start stop : Nat} :
    ⟨start, stop, ()⟩ ∈ findAll read line ↔ WrittenOn line start stop := by
  rw [mem_findAll separated_read]
  simp only [read_eq_some_iff]
  refine ⟨?_, ?_⟩
  · intro h
    obtain ⟨before, text, rfl, rfl, size, ⟨hb, rest, hspelled, rfl⟩, rfl⟩ := h
    have hlt := hspelled.length_lt
    refine ⟨before, text, rest, rfl, hb, hspelled, rfl, ?_⟩
    rw [List.length_append]
    omega
  · intro h
    obtain ⟨before, text, rest, rfl, hb, hspelled, rfl, hstop⟩ := h
    have hlt := hspelled.length_lt
    rw [List.length_append] at hstop
    refine ⟨before, text, rfl, rfl, _, ⟨hb, rest, hspelled, rfl⟩, ?_⟩
    omega

/-- A binding is written up to a column exactly if one ends there. -/
lemma exists_writtenOn {line : List Char} {stop : Nat} :
    (∃ start, WrittenOn line start stop) ↔ EndsAt line stop := by
  refine ⟨?_, ?_⟩
  · intro h
    obtain ⟨start, before, text, rest, hline, hb, hspelled, -, hstop⟩ := h
    exact ⟨before, text, rest, hline, hb, hspelled, hstop⟩
  · intro h
    obtain ⟨before, text, rest, hline, hb, hspelled, hstop⟩ := h
    exact ⟨before.length, before, text, rest, hline, hb, hspelled, rfl, hstop⟩

/-- The search finds exactly the columns up to which a binding is written. -/
lemma mem_stops {line : List Char} {stop : Nat} : stop ∈ stops line ↔ EndsAt line stop := by
  rw [stops, List.mem_map, ← exists_writtenOn]
  refine ⟨?_, ?_⟩
  · intro h
    obtain ⟨⟨start, stop, value⟩, hm, rfl⟩ := h
    exact ⟨start, mem_findAll_read.1 hm⟩
  · intro h
    obtain ⟨start, hwritten⟩ := h
    exact ⟨_, mem_findAll_read.2 hwritten, rfl⟩

/-! Bindings in front of a column. -/

/-- The test for a binding before a column says whether one ends there. -/
lemma endsBefore_iff {line : List Char} {column : Int} :
    endsBefore line column = true ↔ ∃ stop : Nat, EndsAt line stop ∧ (stop : Int) ≤ column := by
  rw [endsBefore, List.any_eq_true]
  simp only [mem_stops, decide_eq_true_eq]

/-- What is found before a column is found before every column further right. -/
lemma endsBefore_mono {line : List Char} {column column' : Int} (hle : column ≤ column')
    (h : endsBefore line column = true) : endsBefore line column' = true := by
  obtain ⟨stop, hends, hstop⟩ := endsBefore_iff.1 h
  exact endsBefore_iff.2 ⟨stop, hends, Int.le_trans hstop hle⟩

/--
Whether a binding ends before a column is answered exactly. A binding is found there if and only if
one is written on the line up to that column or further left; the search finds every binding of the
line, each one once and apart from the others; and what is found before a column is found before
every column further right.
-/
theorem endsBefore_exact (line : List Char) :
    (∀ column : Int, endsBefore line column = true ↔
      ∃ start stop : Nat, WrittenOn line start stop ∧ (stop : Int) ≤ column) ∧
      (∀ start stop : Nat, ⟨start, stop, ()⟩ ∈ findAll read line ↔ WrittenOn line start stop) ∧
      (findAll read line).Pairwise (fun a b => a.start < b.start ∧ a.stop ≤ b.start) ∧
      ∀ column column' : Int, column ≤ column' → endsBefore line column = true →
        endsBefore line column' = true := by
  refine ⟨?_, fun start stop => mem_findAll_read, pairwise_findAll read line,
    fun column column' hle h => endsBefore_mono hle h⟩
  intro column
  rw [endsBefore_iff, exists_comm]
  simp only [exists_and_right, exists_writtenOn]

/-- The first of three names takes no part in a binding, and hides none of the two on the line. -/
theorem endsBefore_exact_three_names :
    stops "a, b, c = d, e = 1".toList = [9, 16] ∧
      endsBefore "a, b, c = d, e = 1".toList 8 = false ∧
      (∃ start stop : Nat,
        WrittenOn "a, b, c = d, e = 1".toList start stop ∧ (stop : Int) ≤ 9) ∧
      (9 : Int) ≤ 12 ∧ endsBefore "a, b, c = d, e = 1".toList 9 = true ∧
      endsBefore "a, b, c = d, e = 1".toList 12 = true := by
  have hfound : endsBefore "a, b, c = d, e = 1".toList 9 = true := by decide +kernel
  obtain ⟨hexact, -, -, hmono⟩ := endsBefore_exact "a, b, c = d, e = 1".toList
  exact ⟨by decide +kernel, by decide +kernel, (hexact 9).1 hfound, by decide, hfound,
    hmono 9 12 (by decide) hfound⟩

end Remap.Binding
