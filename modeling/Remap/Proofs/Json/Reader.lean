import Mathlib.Data.List.TakeWhile
import Remap.Json.Reader

/-!
# What the reader of JSON refuses

Every reader goes on with a part at the end of the text that it is given, so what it meets there
stands in the text. `holdsLong_of_ofText` says that a text is only refused for the length of an
integer if it holds such an integer, and `ofText_of_digits` that an integer of that length is
refused.
-/

namespace Remap.Json

variable {text rest : List Char}

/--
An integer with so many digits, more than can be read, is written in the text: a longest run of
digits that does not start with zero.
-/
def HoldsLong (text : List Char) (digits : Nat) : Prop :=
  ∃ before run after : List Char, text = before ++ (run ++ after) ∧ run.length = digits ∧
    maxDigits < digits ∧ (∀ c ∈ run, c.isDigit = true) ∧ run.head? ≠ some '0' ∧
    ∀ c, after.head? = some c → c.isDigit = false

/-- What is written at the end of a text is written in it. -/
lemma HoldsLong.of_suffix {digits : Nat} (h : HoldsLong rest digits) (hrest : rest <:+ text) :
    HoldsLong text digits := by
  obtain ⟨before, run, after, rfl, hrun⟩ := h
  obtain ⟨front, rfl⟩ := hrest
  exact ⟨front ++ before, run, after, (List.append_assoc _ _ _).symm, hrun⟩

/-- What a reader may answer about a text. -/
inductive Answers (text : List Char) : Except ReadError (Json × List Char) → Prop where
  | ok {value : Json} {rest : List Char} : rest <:+ text → Answers text (.ok (value, rest))
  | malformed : Answers text (.error .malformed)
  | tooLong {digits : Nat} : HoldsLong text digits → Answers text (.error (.integerTooLong digits))

/-- A reader may answer about a text what it answers about its end. -/
lemma Answers.of_suffix {result : Except ReadError (Json × List Char)} (h : Answers rest result)
    (hrest : rest <:+ text) : Answers text result := by
  cases h with
  | ok hsuffix => exact .ok (hsuffix.trans hrest)
  | malformed => exact .malformed
  | tooLong hlong => exact .tooLong (hlong.of_suffix hrest)

/-! White space and strings. -/

/-- Skipping space leaves the end of the text. -/
lemma skipSpace_suffix (text : List Char) : skipSpace text <:+ text :=
  List.dropWhile_suffix _

/-- What follows the first character after white space is an end of the text. -/
lemma suffix_of_skipSpace {c : Char} (h : skipSpace text = c :: rest) : rest <:+ text := by
  have hsuffix := skipSpace_suffix text
  rw [h] at hsuffix
  exact (List.suffix_cons c rest).trans hsuffix

/-- What follows a string is an end of the text. -/
lemma readString_suffix {found value : Wide}
    (h : readString found text = some (value, rest)) : rest <:+ text := by
  fun_induction readString found text with
  | case3 found a b c d more unit hunit ih =>
    exact (ih h).trans (List.suffix_append ['\\', 'u', a, b, c, d] more)
  | case5 found e more hne c hc ih =>
    exact (ih h).trans (List.suffix_append ['\\', e] more)
  | case6 =>
    cases h
    exact List.suffix_cons _ _
  | case8 found c more hne hne' hquote hcontrol ih =>
    exact (ih h).trans (List.suffix_cons c more)
  -- the reader gives up
  | _ => cases h

/-! Numbers. -/

/-- The digits at the start of a text, and what follows them. -/
lemma readDigits_eq_some {run : List Char} (h : readDigits text = some (run, rest)) :
    text = run ++ rest ∧ (∀ c ∈ run, c.isDigit = true) ∧
      ∀ c, rest.head? = some c → c.isDigit = false := by
  rw [readDigits] at h
  simp only [Option.ite_none_left_eq_some, Option.some.injEq, Prod.mk.injEq] at h
  obtain ⟨-, rfl, rfl⟩ := h
  refine ⟨List.takeWhile_append_dropWhile.symm, fun c hc => List.mem_takeWhile_imp hc, ?_⟩
  intro c hc
  have hnot := List.head?_dropWhile_not Char.isDigit text
  rw [hc] at hnot
  simpa using hnot

/-- Reading a fraction leaves the end of the text. -/
lemma readFraction_suffix (text : List Char) : (readFraction text).2 <:+ text := by
  unfold readFraction
  split
  case h_1 more =>
    cases hdigits : readDigits more with
    | none => exact List.suffix_rfl
    | some found =>
      obtain ⟨heq, -⟩ := readDigits_eq_some hdigits
      rw [heq]
      exact ((List.suffix_append _ _).trans (List.suffix_cons _ _))
  case h_2 => exact List.suffix_rfl

/-- Reading an exponent leaves the end of the text. -/
lemma readExponent_suffix (text : List Char) : (readExponent text).2 <:+ text := by
  unfold readExponent
  split
  case h_1 e more =>
    split
    case isTrue =>
      dsimp only
      split
      case h_1 run rest hdigits =>
        obtain ⟨heq, -⟩ := readDigits_eq_some hdigits
        -- the sign, if there is one, stands before the digits
        refine List.IsSuffix.trans ⟨run, heq.symm⟩ ?_
        refine List.IsSuffix.trans ?_ (List.suffix_cons e more)
        split
        · exact List.suffix_cons _ _
        · exact List.suffix_cons _ _
        · exact List.suffix_rfl
      case h_2 => exact List.suffix_rfl
    case isFalse => exact List.suffix_rfl
  case h_2 => exact List.suffix_rfl

/-- A run of digits is refused exactly if it is too long. -/
lemma integer_eq_error_iff {negative : Bool} {run : List Char} {error : ReadError} :
    integer negative run = .error error ↔
      maxDigits < run.length ∧ error = .integerTooLong run.length := by
  rw [integer]
  split
  case isTrue hlong =>
    simp [hlong, eq_comm]
  case isFalse hlong =>
    simp [hlong]

/-- Reading a number without a sign has an answer. -/
lemma answers_readUnsigned (negative : Bool) (text : List Char) :
    Answers text (readUnsigned negative text) := by
  unfold readUnsigned
  split
  case h_1 => exact .malformed
  case h_2 run more hdigits =>
    obtain ⟨heq, hrun, hmore⟩ := readDigits_eq_some hdigits
    dsimp only
    generalize hwhole : (if run.head? = some '0' then ['0'] else run) = whole
    have hrest : (readExponent (readFraction (text.drop whole.length)).2).2 <:+ text :=
      (readExponent_suffix _).trans ((readFraction_suffix _).trans (List.drop_suffix _ _))
    split
    case isTrue =>
      cases hint : integer negative whole with
      | error error =>
        obtain ⟨hlong, rfl⟩ := integer_eq_error_iff.1 hint
        have hzero : run.head? ≠ some '0' := by
          intro hhead
          rw [if_pos hhead] at hwhole
          rw [← hwhole] at hlong
          exact absurd hlong (by decide)
        rw [if_neg hzero] at hwhole
        subst hwhole
        exact .tooLong ⟨[], run, more, heq, rfl, hlong, hrun, hzero, hmore⟩
      | ok value => exact .ok hrest
    case isFalse => exact .ok hrest

/-- Reading a word leaves the end of the text. -/
lemma afterWord?_suffix {word : String} (h : afterWord? word text = some rest) :
    rest <:+ text := by
  rw [afterWord?, Option.ite_none_right_eq_some] at h
  obtain ⟨-, heq⟩ := h
  cases heq
  exact List.drop_suffix _ _

/-- Reading a word has an answer. -/
lemma answers_readWord (word : String) (value : Json) (text : List Char) :
    Answers text (readWord word value text) := by
  rw [readWord]
  split
  case h_1 rest hrest => exact .ok (afterWord?_suffix hrest)
  case h_2 => exact .malformed

/-- Reading a scalar has an answer. -/
lemma answers_readScalar (text : List Char) : Answers text (readScalar text) := by
  unfold readScalar
  split
  case h_1 => exact answers_readWord _ _ _
  case h_2 => exact answers_readWord _ _ _
  case h_3 => exact answers_readWord _ _ _
  case h_4 => exact answers_readWord _ _ _
  case h_5 => exact answers_readWord _ _ _
  case h_6 rest =>
    have hrest : rest <:+ '-' :: rest := List.suffix_cons _ _
    split
    case h_1 more hmore => exact .ok ((afterWord?_suffix hmore).trans hrest)
    case h_2 => exact (answers_readUnsigned true rest).of_suffix hrest
  case h_7 => exact answers_readUnsigned false text

/-! Values. -/

/-- The readers of values, items and fields, with the same fuel. -/
structure AnswersAt (fuel : Nat) : Prop where
  value : ∀ text, Answers text (readValue fuel text)
  items : ∀ found text, Answers text (readItems fuel found text)
  fields : ∀ found text, Answers text (readFields fuel found text)

/-- With one more step reading a value has an answer. -/
lemma AnswersAt.value_succ {fuel : Nat} (h : AnswersAt fuel) (text : List Char) :
    Answers text (readValue (fuel + 1) text) := by
  rw [readValue]
  split
  case h_1 rest hspace =>
    split
    case h_1 => exact .malformed
    case h_2 chars more hstring =>
      exact .ok ((readString_suffix hstring).trans (suffix_of_skipSpace hspace))
  case h_2 rest hspace =>
    split
    case h_1 more hclose =>
      exact .ok ((suffix_of_skipSpace hclose).trans (suffix_of_skipSpace hspace))
    case h_2 =>
      exact (h.items _ _).of_suffix ((skipSpace_suffix rest).trans (suffix_of_skipSpace hspace))
  case h_3 rest hspace =>
    split
    case h_1 more hclose =>
      exact .ok ((suffix_of_skipSpace hclose).trans (suffix_of_skipSpace hspace))
    case h_2 =>
      exact (h.fields _ _).of_suffix ((skipSpace_suffix rest).trans (suffix_of_skipSpace hspace))
  case h_4 => exact (answers_readScalar _).of_suffix (skipSpace_suffix text)

/-- What a reader answers about a text that it goes on with after another reader. -/
lemma Answers.of_ok {value : Json} (h : Answers text (.ok (value, rest))) : rest <:+ text := by
  cases h with
  | ok hsuffix => exact hsuffix

/-- With one more step reading items has an answer. -/
lemma AnswersAt.items_succ {fuel : Nat} (h : AnswersAt fuel) (found : List Json)
    (text : List Char) : Answers text (readItems (fuel + 1) found text) := by
  rw [readItems]
  have hvalue := h.value text
  cases hread : readValue fuel text with
  | error error =>
    rw [hread] at hvalue
    exact hvalue
  | ok read =>
    obtain ⟨value, rest⟩ := read
    rw [hread] at hvalue
    have hrest := hvalue.of_ok
    dsimp only
    split
    case h_1 more hspace =>
      exact (h.items _ _).of_suffix ((suffix_of_skipSpace hspace).trans hrest)
    case h_2 more hspace => exact .ok ((suffix_of_skipSpace hspace).trans hrest)
    case h_3 => exact .malformed

/-- With one more step reading fields has an answer. -/
lemma AnswersAt.fields_succ {fuel : Nat} (h : AnswersAt fuel) (found : List (Wide × Json))
    (text : List Char) : Answers text (readFields (fuel + 1) found text) := by
  rw [readFields]
  split
  case h_2 => exact .malformed
  case h_1 rest hspace =>
    split
    case h_1 => exact .malformed
    case h_2 name more hname =>
      split
      case h_2 => exact .malformed
      case h_1 after hcolon =>
        have hafter : after <:+ text := (suffix_of_skipSpace hcolon).trans
          ((readString_suffix hname).trans (suffix_of_skipSpace hspace))
        have hvalue := (h.value after).of_suffix hafter
        cases hread : readValue fuel after with
        | error error =>
          rw [hread] at hvalue
          exact hvalue
        | ok read =>
          obtain ⟨value, last⟩ := read
          rw [hread] at hvalue
          have hlast := hvalue.of_ok
          dsimp only
          split
          case h_1 next hnext =>
            exact (h.fields _ _).of_suffix ((suffix_of_skipSpace hnext).trans hlast)
          case h_2 next hnext => exact .ok ((suffix_of_skipSpace hnext).trans hlast)
          case h_3 => exact .malformed

/-- The readers go on with ends of the text, however much fuel there is. -/
lemma answersAt (fuel : Nat) : AnswersAt fuel := by
  induction fuel with
  | zero =>
    refine ⟨?_, ?_, ?_⟩
    · intro text
      rw [readValue]
      exact .malformed
    · intro found text
      rw [readItems]
      exact .malformed
    · intro found text
      rw [readFields]
      exact .malformed
  | succ fuel ih => exact ⟨ih.value_succ, ih.items_succ, ih.fields_succ⟩

/-- A text that is refused for the length of an integer holds one of that length. -/
lemma holdsLong_of_ofText {digits : Nat} (h : ofText text = .error (.integerTooLong digits)) :
    HoldsLong text digits := by
  rw [ofText] at h
  have hvalue := (answersAt (2 * text.length + 2)).value text
  cases hread : readValue (2 * text.length + 2) text with
  | error error =>
    rw [hread] at h hvalue
    cases h
    cases hvalue with
    | tooLong hlong => exact hlong
  | ok read =>
    rw [hread] at h
    dsimp only at h
    split at h <;> cases h

/-! A text that is an integer. -/

/-- A text of digits is read as a whole. -/
lemma readDigits_of_digits (hdigits : ∀ c ∈ text, c.isDigit = true) (hne : text ≠ []) :
    readDigits text = some (text, []) := by
  have htake : text.takeWhile Char.isDigit = text := List.takeWhile_eq_self_iff.2 hdigits
  have hdrop : text.dropWhile Char.isDigit = [] := List.dropWhile_eq_nil_iff.2 hdigits
  rw [readDigits, htake, hdrop, if_neg]
  rwa [List.isEmpty_iff]

/-- Digits without a zero at their start are read as an integer. -/
lemma readUnsigned_of_digits (hdigits : ∀ c ∈ text, c.isDigit = true) (hne : text ≠ [])
    (hzero : text.head? ≠ some '0') (negative : Bool) :
    readUnsigned negative text = (integer negative text).map (·, []) := by
  rw [readUnsigned, readDigits_of_digits hdigits hne]
  simp [hzero, readFraction, readExponent]

/-- A digit starts nothing but a number. -/
lemma readScalar_of_digit {c : Char} (hc : c.isDigit = true) (rest : List Char) :
    readScalar (c :: rest) = readUnsigned false (c :: rest) := by
  unfold readScalar
  split
  case h_7 => rfl
  all_goals
    rename_i heq
    cases heq
    exact absurd hc (by decide)

/-- Nothing is skipped before a digit. -/
lemma skipSpace_of_digit {c : Char} (hc : c.isDigit = true) (rest : List Char) :
    skipSpace (c :: rest) = c :: rest := by
  rw [skipSpace, List.dropWhile_cons_of_neg]
  intro hspace
  simp only [Bool.or_eq_true, beq_iff_eq] at hspace
  obtain ((rfl | rfl) | rfl) | rfl := hspace <;> exact absurd hc (by decide)

/-- A value that starts with a digit is read as a number. -/
lemma readValue_of_digit {c : Char} (hc : c.isDigit = true) (rest : List Char) (fuel : Nat) :
    readValue (fuel + 1) (c :: rest) = readUnsigned false (c :: rest) := by
  rw [readValue, skipSpace_of_digit hc]
  split
  case h_4 => exact readScalar_of_digit hc rest
  all_goals
    rename_i heq
    cases heq
    exact absurd hc (by decide)

/-- An integer that is too long is refused, with the number of its digits. -/
lemma ofText_of_digits (hdigits : ∀ c ∈ text, c.isDigit = true) (hzero : text.head? ≠ some '0')
    (hlong : maxDigits < text.length) : ofText text = .error (.integerTooLong text.length) := by
  have hint : integer false text = .error (.integerTooLong text.length) :=
    integer_eq_error_iff.2 ⟨hlong, rfl⟩
  cases text with
  | nil => cases hlong
  | cons c rest =>
    have hc := hdigits c List.mem_cons_self
    rw [ofText, readValue_of_digit hc, readUnsigned_of_digits hdigits (List.cons_ne_nil c rest)
      hzero, hint]
    rfl

end Remap.Json
