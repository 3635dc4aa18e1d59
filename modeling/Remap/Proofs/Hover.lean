import Mathlib.Data.List.TakeWhile
import Remap.Hover

/-!
# The token under the cursor

A token is a run of word characters, or of operator characters, that goes on at neither end. A
cursor touches it anywhere from its start to its end, and no other token of the same kind at the
same time; so what is shown is the same wherever the cursor stands on the token. `at?_about_token`
says so, and which token it is that something is shown about.
-/

namespace Remap.Hover

open Text

variable {accept : Char → Bool} {line : List Char} {column : Nat}

/-- There is an accepted character at a column of a text. -/
def AcceptedAt (accept : Char → Bool) (text : List Char) (column : Nat) : Prop :=
  ∃ c, text[column]? = some c ∧ accept c = true

/-- There is an accepted character on the right of the cursor or on the left of it. -/
def Touches (accept : Char → Bool) (line : List Char) (column : Nat) : Prop :=
  AcceptedAt accept line column ∨ ∃ left, left + 1 = column ∧ AcceptedAt accept line left

/-- The span is a run of accepted characters that goes on at neither end. -/
structure Span.IsRun (accept : Char → Bool) (line : List Char) (span : Span) : Prop where
  start_lt_stop : span.start < span.stop
  accepted : ∀ column, span.start ≤ column → column < span.stop → AcceptedAt accept line column
  starts : ∀ left, left + 1 = span.start → ¬ AcceptedAt accept line left
  stops : ¬ AcceptedAt accept line span.stop

/-- An accepted character stands on the line. -/
lemma AcceptedAt.lt_length (h : AcceptedAt accept line column) : column < line.length := by
  obtain ⟨c, hc, -⟩ := h
  exact (List.getElem?_eq_some_iff.1 hc).1

/-- A column that touches a run is not past the end of the line. -/
lemma Touches.le_length (h : Touches accept line column) : column ≤ line.length := by
  obtain h | ⟨left, rfl, h⟩ := h
  · exact Nat.le_of_lt h.lt_length
  · exact h.lt_length

/-! What is taken from a line. -/

/-- In the first column the first character is accepted. -/
lemma acceptedAt_cons_zero {c : Char} {rest : List Char} :
    AcceptedAt accept (c :: rest) 0 ↔ accept c = true := by
  simp [AcceptedAt]

/-- In a later column a character of the rest is accepted. -/
lemma acceptedAt_cons_succ {c : Char} {rest : List Char} :
    AcceptedAt accept (c :: rest) (column + 1) ↔ AcceptedAt accept rest column := by
  rw [AcceptedAt, List.getElem?_cons_succ, AcceptedAt]

/-- What is taken from the start of a text are accepted characters, up to one that is not. -/
lemma acceptedAt_takeWhile (accept : Char → Bool) (text : List Char) :
    (∀ i < (text.takeWhile accept).length, AcceptedAt accept text i) ∧
      ¬ AcceptedAt accept text (text.takeWhile accept).length := by
  induction text with
  | nil =>
    refine ⟨fun i hi => absurd hi (Nat.not_lt_zero i), ?_⟩
    intro h
    exact absurd h.lt_length (Nat.lt_irrefl 0)
  | cons c rest ih =>
    by_cases hc : accept c = true
    · rw [List.takeWhile_cons_of_pos hc, List.length_cons, acceptedAt_cons_succ]
      refine ⟨?_, ih.2⟩
      intro i hi
      cases i with
      | zero => exact acceptedAt_cons_zero.2 hc
      | succ i => exact acceptedAt_cons_succ.2 (ih.1 i (Nat.lt_of_succ_lt_succ hi))
    · rw [List.takeWhile_cons_of_neg hc, List.length_nil, acceptedAt_cons_zero]
      exact ⟨fun i hi => absurd hi (Nat.not_lt_zero i), hc⟩

/-- The columns of the rest of a line are counted from there. -/
lemma acceptedAt_drop {i : Nat} :
    AcceptedAt accept (line.drop column) i ↔ AcceptedAt accept line (column + i) := by
  rw [AcceptedAt, List.getElem?_drop, AcceptedAt]

/-- Backwards from a column, the characters before it. -/
lemma acceptedAt_reverse_take (hcolumn : column ≤ line.length) {i : Nat} (hi : i < column) :
    AcceptedAt accept (line.take column).reverse i ↔ AcceptedAt accept line (column - 1 - i) := by
  have hlength : (line.take column).length = column := List.length_take_of_le hcolumn
  rw [AcceptedAt, List.getElem?_reverse (by rwa [hlength]), hlength,
    List.getElem?_take_of_lt (by omega), AcceptedAt]

/-- Up to a column stand as many accepted characters as are taken backwards from it. -/
lemma run_behind (hcolumn : column ≤ line.length) {n : Nat}
    (h : ((line.take column).reverse.takeWhile accept).length = n) :
    n ≤ column ∧ (∀ i, column - n ≤ i → i < column → AcceptedAt accept line i) ∧
      ∀ left, left + 1 = column - n → ¬ AcceptedAt accept line left := by
  obtain ⟨hrun, hend⟩ := acceptedAt_takeWhile accept (line.take column).reverse
  have hle := (List.takeWhile_prefix accept (l := (line.take column).reverse)).length_le
  rw [List.length_reverse, List.length_take_of_le hcolumn] at hle
  rw [h] at hrun hend hle
  refine ⟨hle, ?_, ?_⟩
  · intro i hi hi'
    have hfound := hrun (column - 1 - i) (by omega)
    rw [acceptedAt_reverse_take hcolumn (by omega)] at hfound
    rwa [show column - 1 - (column - 1 - i) = i by omega] at hfound
  · intro left hleft
    rw [acceptedAt_reverse_take hcolumn (by omega)] at hend
    rwa [show column - 1 - n = left by omega] at hend

/-- From a column on stand as many accepted characters as are taken from there. -/
lemma run_ahead {n : Nat} (h : ((line.drop column).takeWhile accept).length = n) :
    (∀ i, column ≤ i → i < column + n → AcceptedAt accept line i) ∧
      ¬ AcceptedAt accept line (column + n) := by
  obtain ⟨hrun, hend⟩ := acceptedAt_takeWhile accept (line.drop column)
  rw [h] at hrun hend
  rw [acceptedAt_drop] at hend
  refine ⟨?_, hend⟩
  intro i hi hi'
  have hfound := hrun (i - column) (by omega)
  rw [acceptedAt_drop] at hfound
  rwa [Nat.add_sub_cancel' hi] at hfound

/-! The run that a cursor touches. -/

namespace Span

variable {span other : Span}

/-- A run ends on its line. -/
lemma IsRun.stop_le_length (h : span.IsRun accept line) : span.stop ≤ line.length := by
  have hlt := h.start_lt_stop
  have hlast := (h.accepted (span.stop - 1) (by omega) (by omega)).lt_length
  omega

/-- Each column of a run, the one behind it included, touches the run. -/
lemma IsRun.touches (h : span.IsRun accept line) (hstart : span.start ≤ column)
    (hstop : column ≤ span.stop) : Touches accept line column := by
  obtain hlt | rfl := Nat.lt_or_eq_of_le hstop
  · exact .inl (h.accepted column hstart hlt)
  · have hlt := h.start_lt_stop
    exact .inr ⟨span.stop - 1, by omega, h.accepted (span.stop - 1) (by omega) (by omega)⟩

/-- Of two runs that a cursor touches neither starts further left. -/
lemma IsRun.start_le (h : span.IsRun accept line) (h' : other.IsRun accept line)
    (hcolumn : column ≤ span.stop) (hstart : other.start ≤ column) : other.start ≤ span.start := by
  by_contra hlt
  exact h'.starts (other.start - 1) (by omega) (h.accepted _ (by omega) (by omega))

/-- Of two runs that a cursor touches neither ends further right. -/
lemma IsRun.le_stop (h : span.IsRun accept line) (h' : other.IsRun accept line)
    (hcolumn : span.start ≤ column) (hstop : column ≤ other.stop) : span.stop ≤ other.stop := by
  by_contra hlt
  exact h'.stops (h.accepted _ (by omega) (by omega))

/-- A cursor touches one run only. -/
lemma IsRun.unique (h : span.IsRun accept line) (h' : other.IsRun accept line)
    (hstart : span.start ≤ column) (hstop : column ≤ span.stop)
    (hstart' : other.start ≤ column) (hstop' : column ≤ other.stop) : span = other := by
  have hle := h.start_le h' hstop hstart'
  have hge := h'.start_le h hstop' hstart
  have hle' := h.le_stop h' hstart hstop'
  have hge' := h'.le_stop h hstart' hstop
  obtain ⟨start, stop⟩ := span
  obtain ⟨start', stop'⟩ := other
  dsimp only at hle hge hle' hge'
  rw [Nat.le_antisymm hge hle, Nat.le_antisymm hle' hge']

/-- What is found at a column is a run that the cursor touches. -/
lemma isRun_of_touching? (h : touching? accept line column = some span) :
    span.IsRun accept line ∧ span.start ≤ column ∧ column ≤ span.stop := by
  rw [touching?, Option.ite_none_left_eq_some] at h
  obtain ⟨hlength, h⟩ := h
  dsimp only at h
  rw [Option.ite_none_left_eq_some] at h
  obtain ⟨hne, heq⟩ := h
  cases heq
  obtain ⟨hle, hbehind, hstart⟩ := @run_behind accept _ _ (Nat.le_of_not_lt hlength) _ rfl
  obtain ⟨hahead, hstop⟩ := @run_ahead accept line column _ rfl
  refine ⟨⟨?_, ?_, hstart, hstop⟩, Nat.sub_le _ _, Nat.le_add_right _ _⟩
  · dsimp only
    omega
  -- the characters up to the cursor are read backwards, those behind it forwards
  · intro i hi hi'
    obtain hlt | hge := Nat.lt_or_ge i column
    · exact hbehind i hi hlt
    · exact hahead i hge hi'

/-- Nothing is found exactly at a column next to which no accepted character stands. -/
lemma touching?_eq_none_iff :
    touching? accept line column = none ↔ ¬ Touches accept line column := by
  refine ⟨?_, ?_⟩
  · intro h htouches
    have hcolumn := htouches.le_length
    rw [touching?, if_neg (Nat.not_lt.2 hcolumn)] at h
    dsimp only at h
    rw [ite_eq_left_iff] at h
    have hzero := of_not_not fun hne => Option.some_ne_none _ (h hne)
    obtain ⟨hbehind, hahead⟩ := Nat.add_eq_zero_iff.1 hzero
    obtain haccepted | ⟨left, hleft, haccepted⟩ := htouches
    · exact (run_ahead hahead).2 haccepted
    · exact (run_behind hcolumn hbehind).2.2 left hleft haccepted
  · intro h
    cases hfound : touching? accept line column with
    | none => rfl
    | some span =>
      obtain ⟨hrun, hstart, hstop⟩ := isRun_of_touching? hfound
      exact absurd (hrun.touches hstart hstop) h

/-- The search around a cursor finds the run that the cursor touches. -/
lemma touching?_eq_some_iff :
    touching? accept line column = some span ↔
      span.IsRun accept line ∧ span.start ≤ column ∧ column ≤ span.stop := by
  refine ⟨isRun_of_touching?, ?_⟩
  intro h
  obtain ⟨hrun, hstart, hstop⟩ := h
  cases hfound : touching? accept line column with
  | none => exact absurd (hrun.touches hstart hstop) (touching?_eq_none_iff.1 hfound)
  | some other =>
    obtain ⟨hrun', hstart', hstop'⟩ := isRun_of_touching? hfound
    rw [hrun.unique hrun' hstart hstop hstart' hstop']

end Span

/-! What is shown. -/

/-- The cursor stands at a column of the line of a document. -/
def StandsOn (text : List Char) (number character : Int) (line : List Char) (column : Nat) : Prop :=
  line? text number = some line ∧ character = column ∧ column ≤ line.length

/--
The token that a cursor touches: a run of word characters or, only where no such character stands
next to the cursor, one of operator characters.
-/
structure IsToken (line : List Char) (column : Nat) (span : Span) : Prop where
  start_le : span.start ≤ column
  le_stop : column ≤ span.stop
  run : span.IsRun isIdentChar line ∨
    ¬ Touches isIdentChar line column ∧ span.IsRun isOperatorChar line

variable {registry : Registry} {text : List Char} {number : Int} {span : Span}

/-- A token ends on its line. -/
lemma IsToken.stop_le_length (h : IsToken line column span) : span.stop ≤ line.length := by
  obtain hrun | ⟨-, hrun⟩ := h.run
  · exact hrun.stop_le_length
  · exact hrun.stop_le_length

/-- The token is a word that names a function or is one of the language, or it is an operator. -/
def IsDocumented (registry : Registry) (line : List Char) (span : Span) : Prop :=
  span.IsRun isIdentChar line ∧ (registry.contains (String.ofList (span.text line)) = true ∨
    String.ofList (span.text line) ∈ keywordDocs.map Prod.fst) ∨
  span.IsRun isOperatorChar line ∧ String.ofList (span.text line) ∈ operatorDocs.map Prod.fst

/-- A name without documentation is not among the documented ones. -/
lemma doc?_eq_none_iff {docs : List (String × String)} {name : String} :
    doc? docs name = none ↔ name ∉ docs.map Prod.fst := by
  rw [doc?, Option.map_eq_none_iff, List.find?_eq_none, List.mem_map]
  refine ⟨?_, ?_⟩
  · intro h hmem
    obtain ⟨doc, hdoc, rfl⟩ := hmem
    exact h doc hdoc (beq_self_eq_true _)
  · intro h doc hdoc heq
    exact h ⟨doc, hdoc, beq_iff_eq.1 heq⟩

/-- A documented name has its documentation. -/
lemma exists_doc? {docs : List (String × String)} {name : String} (h : name ∈ docs.map Prod.fst) :
    ∃ doc, doc? docs name = some doc := by
  rw [← Option.ne_none_iff_exists', ne_eq, doc?_eq_none_iff, not_not]
  exact h

/-- Something is known of a function and of a word of the language. -/
lemma exists_wordContents? (h : registry.contains (String.ofList (span.text line)) = true ∨
    String.ofList (span.text line) ∈ keywordDocs.map Prod.fst) :
    ∃ contents, wordContents? registry line span = some contents := by
  rw [wordContents?]
  cases hget : registry.get? (String.ofList (span.text line)) with
  | some spec => exact ⟨_, rfl⟩
  | none =>
    obtain hcontains | hkeyword := h
    · rw [Registry.contains, hget] at hcontains
      cases hcontains
    · obtain ⟨doc, hdoc⟩ := exists_doc? hkeyword
      exact ⟨keywordContents (String.ofList (span.text line)) doc, by simp only [hdoc]⟩

/-- No character of an operator is one of a word. -/
lemma isIdentChar_eq_false_of_isOperatorChar {c : Char} (h : isOperatorChar c = true) :
    isIdentChar c = false := by
  simp only [isOperatorChar, Bool.or_eq_true, beq_iff_eq] at h
  obtain (((rfl | rfl) | rfl) | rfl) | rfl := h
  all_goals decide

/-- No token is a word and an operator. -/
lemma Span.IsRun.not_isRun_operator (h : span.IsRun isIdentChar line) :
    ¬ span.IsRun isOperatorChar line := by
  intro h'
  obtain ⟨c, hc, hword⟩ := h.accepted span.start (Nat.le_refl _) h.start_lt_stop
  obtain ⟨d, hd, hoperator⟩ := h'.accepted span.start (Nat.le_refl _) h.start_lt_stop
  rw [hc] at hd
  cases hd
  rw [isIdentChar_eq_false_of_isOperatorChar hoperator] at hword
  cases hword

/-- On a word, what is known of the word is shown. -/
lemma onLine?_of_word (hrun : span.IsRun isIdentChar line) (hstart : span.start ≤ column)
    (hstop : column ≤ span.stop) :
    onLine? registry line column =
      (wordContents? registry line span).map fun contents => (contents, span) := by
  rw [onLine?, Span.touching?_eq_some_iff.2 ⟨hrun, hstart, hstop⟩]

/-- Where no word is touched, what is known of the operator is shown. -/
lemma onLine?_of_operator (hword : ¬ Touches isIdentChar line column)
    (hrun : span.IsRun isOperatorChar line) (hstart : span.start ≤ column)
    (hstop : column ≤ span.stop) :
    onLine? registry line column =
      (operatorContents? line span).map fun contents => (contents, span) := by
  rw [onLine?, Span.touching?_eq_none_iff.2 hword,
    Span.touching?_eq_some_iff.2 ⟨hrun, hstart, hstop⟩]

/-- What is shown is about the token that the cursor touches. -/
lemma isToken_of_onLine? {contents : String}
    (h : onLine? registry line column = some (contents, span)) : IsToken line column span := by
  rw [onLine?] at h
  split at h
  case h_1 word hword =>
    obtain ⟨_, -, heq⟩ := Option.map_eq_some_iff.1 h
    cases heq
    obtain ⟨hrun, hstart, hstop⟩ := Span.touching?_eq_some_iff.1 hword
    exact ⟨hstart, hstop, .inl hrun⟩
  case h_2 hword =>
    split at h
    case h_1 operator hoperator =>
      obtain ⟨_, -, heq⟩ := Option.map_eq_some_iff.1 h
      cases heq
      obtain ⟨hrun, hstart, hstop⟩ := Span.touching?_eq_some_iff.1 hoperator
      exact ⟨hstart, hstop, .inr ⟨Span.touching?_eq_none_iff.1 hword, hrun⟩⟩
    case h_2 => cases h

/-- On a token that is documented something is shown. -/
lemma exists_onLine? (htoken : IsToken line column span) (h : IsDocumented registry line span) :
    ∃ shown, onLine? registry line column = some shown := by
  obtain hword | ⟨hnone, hoperator⟩ := htoken.run
  · obtain ⟨-, hknown⟩ | ⟨hoperator, -⟩ := h
    · obtain ⟨contents, hcontents⟩ := exists_wordContents? hknown
      rw [onLine?_of_word hword htoken.start_le htoken.le_stop, hcontents]
      exact ⟨(contents, span), rfl⟩
    · exact absurd hoperator hword.not_isRun_operator
  · obtain ⟨hword, -⟩ | ⟨-, hknown⟩ := h
    · exact absurd (hword.touches htoken.start_le htoken.le_stop) hnone
    · obtain ⟨doc, hdoc⟩ := exists_doc? hknown
      rw [onLine?_of_operator hnone hoperator htoken.start_le htoken.le_stop, operatorContents?,
        hdoc]
      exact ⟨(_, span), rfl⟩

/-- On one token the same is shown everywhere. -/
lemma onLine?_congr {p q : Nat} (hp : IsToken line p span) (hq : IsToken line q span) :
    onLine? registry line p = onLine? registry line q := by
  obtain hword | ⟨hnone, hoperator⟩ := hp.run
  · rw [onLine?_of_word hword hp.start_le hp.le_stop, onLine?_of_word hword hq.start_le hq.le_stop]
  · obtain hword | ⟨hnone', -⟩ := hq.run
    · exact absurd (hword.touches hp.start_le hp.le_stop) hnone
    · rw [onLine?_of_operator hnone hoperator hp.start_le hp.le_stop,
        onLine?_of_operator hnone' hoperator hq.start_le hq.le_stop]

/-- What is shown, with its range on a line. -/
def onRow (number : Int) (shown : String × Span) : Hover :=
  ⟨shown.1, .onLine number shown.2.start shown.2.stop⟩

/-- What is shown for a column depends on the line and is put in its row. -/
lemma at?_ofNat (hline : line? text number = some line) (column : Nat) :
    at? registry text number column = (onLine? registry line column).map (onRow number) := by
  show at? registry text number (Int.ofNat column) = _
  simp only [at?, hline]
  rfl

/-- Something is shown only in the document, about the token there. -/
lemma exists_of_at? {character : Int} {hover : Hover}
    (h : at? registry text number character = some hover) :
    ∃ line column span, StandsOn text number character line column ∧
      IsToken line column span ∧ hover.range = .onLine number span.start span.stop := by
  cases hline : line? text number with
  | none => simp [at?, hline] at h
  | some line =>
    cases character with
    | negSucc n => simp [at?, hline] at h
    | ofNat column =>
      rw [show Int.ofNat column = column from rfl, at?_ofNat hline] at h
      obtain ⟨⟨contents, span⟩, hshown, rfl⟩ := Option.map_eq_some_iff.1 h
      have htoken := isToken_of_onLine? hshown
      have hcolumn := Nat.le_trans htoken.le_stop htoken.stop_le_length
      exact ⟨line, column, span, ⟨hline, rfl, hcolumn⟩, htoken, rfl⟩

/--
What is shown at a cursor is about the token that the cursor touches, the range is the token on the
line of the cursor, within the line, and all cursors on one token see the same. Something is shown
on every function, word of the language and operator, and nothing outside the document.
-/
theorem at?_about_token (registry : Registry) (text : List Char) (number : Int) :
    (∀ character hover, at? registry text number character = some hover →
      ∃ line column span, StandsOn text number character line column ∧
        IsToken line column span ∧ span.stop ≤ line.length ∧
        hover.range = .onLine number span.start span.stop) ∧
    (∀ line span (p q : Nat), line? text number = some line → IsToken line p span →
      IsToken line q span → at? registry text number p = at? registry text number q) ∧
    (∀ line span (p : Nat), line? text number = some line → IsToken line p span →
      IsDocumented registry line span → ∃ hover, at? registry text number p = some hover) ∧
    ∀ character, (¬ ∃ line column, StandsOn text number character line column) →
      at? registry text number character = none := by
  refine ⟨?_, ?_, ?_, ?_⟩
  · intro character hover h
    obtain ⟨line, column, span, hstands, htoken, hrange⟩ := exists_of_at? h
    exact ⟨line, column, span, hstands, htoken, htoken.stop_le_length, hrange⟩
  · intro line span p q hline hp hq
    rw [at?_ofNat hline, at?_ofNat hline, onLine?_congr hp hq]
  · intro line span p hline hp hdocumented
    obtain ⟨shown, hshown⟩ := exists_onLine? hp hdocumented
    rw [at?_ofNat hline, hshown]
    exact ⟨onRow number shown, rfl⟩
  · intro character houtside
    rw [Option.eq_none_iff_forall_ne_some]
    intro hover h
    obtain ⟨line, column, -, hstands, -⟩ := exists_of_at? h
    exact houtside ⟨line, column, hstands⟩

/-- Two cursors on an operator that stands right behind a word, and one behind the line. -/
theorem at?_about_token_comparison :
    let text := ".a\nif!= b".toList
    let line := "if!= b".toList
    let shown : Hover := ⟨operatorContents "!=" "Inequality comparison operator", .onLine 1 2 4⟩
    line? text 1 = some line ∧ at? .empty text 1 3 = some shown ∧
      (∃ line column span, StandsOn text 1 3 line column ∧ IsToken line column span ∧
        span.stop ≤ line.length ∧ shown.range = .onLine 1 span.start span.stop) ∧
      IsToken line 3 ⟨2, 4⟩ ∧ IsToken line 4 ⟨2, 4⟩ ∧
      at? .empty text 1 3 = at? .empty text 1 4 ∧
      IsDocumented .empty line ⟨2, 4⟩ ∧ (∃ hover, at? .empty text 1 4 = some hover) ∧
      (¬ ∃ line column, StandsOn text 1 7 line column) ∧ at? .empty text 1 7 = none := by
  intro text line shown
  obtain ⟨htoken, hsame, hknown, hnone⟩ := at?_about_token .empty text 1
  have hline : line? text 1 = some line := by decide
  have hshown : at? .empty text 1 3 = some shown := by decide
  have hrun : Span.IsRun isOperatorChar line ⟨2, 4⟩ :=
    (Span.isRun_of_touching? (show Span.touching? _ _ 3 = _ by decide)).1
  have hinner : IsToken line 3 ⟨2, 4⟩ :=
    ⟨by decide, by decide, .inr ⟨Span.touching?_eq_none_iff.1 (by decide), hrun⟩⟩
  have hend : IsToken line 4 ⟨2, 4⟩ :=
    ⟨by decide, by decide, .inr ⟨Span.touching?_eq_none_iff.1 (by decide), hrun⟩⟩
  have hdocumented : IsDocumented .empty line ⟨2, 4⟩ := .inr ⟨hrun, by decide⟩
  have houtside : ¬ ∃ line column, StandsOn text 1 7 line column := by
    intro h
    obtain ⟨other, column, hother, hcolumn, hle⟩ := h
    rw [hline] at hother
    cases hother
    have hlength : line.length = 6 := by decide
    omega
  exact ⟨hline, hshown, htoken 3 shown hshown, hinner, hend, hsame line _ 3 4 hline hinner hend,
    hdocumented, hknown line _ 4 hline hend hdocumented, houtside, hnone 7 houtside⟩

end Remap.Hover
