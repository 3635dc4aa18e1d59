import Mathlib.Data.List.Basic
import Remap.Json.Lenient
import Remap.Proofs.Json.Reader
import Remap.Proofs.Text.Parts

/-!
# Numbers as they are written

The parts of a written number, and the number that they stand for. A reader takes from the start of
a text as much as can belong to the number, so what it takes is such a number, and a number that is
written there is taken if the text does not go on with a digit, a point or an exponent:
`readUnsigned_sound` and `readUnsigned_of_denotes` are these two sides for the numbers of JSON.
-/

namespace Remap.Json

variable {text rest digits run : List Char} {negative : Bool} {c : Char}

/-! The parts of a number. -/

/-- Nothing but decimal digits. -/
def AllDigits (text : List Char) : Prop :=
  ∀ c ∈ text, c.isDigit = true

/-- A sign, or none. -/
inductive IsSign : Bool → List Char → Prop where
  | none : IsSign false []
  | plus : IsSign false ['+']
  | minus : IsSign true ['-']

/-- Digits before the point: a single zero, or no zero at the start. -/
structure IsWhole (digits : List Char) : Prop where
  ne_nil : digits ≠ []
  all : AllDigits digits
  zero : digits.head? = some '0' → digits = ['0']

/-- A point with digits after it, or nothing. -/
inductive IsFraction : List Char → List Char → Prop where
  | none : IsFraction [] []
  | point {digits : List Char} : digits ≠ [] → AllDigits digits → IsFraction ('.' :: digits) digits

/-- The letter of an exponent, a sign and digits, or nothing. -/
inductive IsExponent : List Char → Option Int → Prop where
  | none : IsExponent [] none
  | power {e : Char} {negative : Bool} {sign digits : List Char} :
    e = 'e' ∨ e = 'E' → IsSign negative sign → digits ≠ [] → AllDigits digits →
      IsExponent (e :: (sign ++ digits))
        (some (if negative then -(naturalOf digits : Int) else naturalOf digits))

/--
What a number in JSON stands for, its minus aside: an integer without a fraction and an exponent,
and otherwise the binary number that is nearest.
-/
inductive Unsigned (negative : Bool) : List Char → Json → Prop where
  | int {whole : List Char} : IsWhole whole → whole.length ≤ maxDigits →
      Unsigned negative whole
        (.int (if negative then -(naturalOf whole : Int) else naturalOf whole))
  | float {whole fraction digits exponent : List Char} {power : Option Int} :
      IsWhole whole → IsFraction fraction digits → IsExponent exponent power →
      fraction ≠ [] ∨ exponent ≠ [] →
        Unsigned negative (whole ++ (fraction ++ exponent))
          (.float (.ofDecimal negative (naturalOf (whole ++ digits))
            (power.getD 0 - digits.length)))

/-! What follows a part. -/

/-- The text does not start with a digit. -/
def NoDigit (text : List Char) : Prop :=
  ∀ c, text.head? = some c → c.isDigit = false

/-- A number does not go on in the text. -/
def EndsNumber (text : List Char) : Prop :=
  ∀ c, text.head? = some c → c.isDigit = false ∧ c ≠ '.' ∧ c ≠ 'e' ∧ c ≠ 'E'

/-- What ends a number does not start with a digit. -/
lemma EndsNumber.noDigit (h : EndsNumber text) : NoDigit text :=
  fun c hc => (h c hc).1

/-- A number ends at the end of the text. -/
lemma endsNumber_nil : EndsNumber [] :=
  nofun

/-- Digits start with a digit. -/
lemma AllDigits.head (h : AllDigits text) (hc : text.head? = some c) : c.isDigit = true :=
  h c (List.mem_of_head? hc)

/-- No digit is at the start of two texts put together if none is at the start of either. -/
lemma NoDigit.append {front : List Char} (hfront : NoDigit front) (hrest : NoDigit rest) :
    NoDigit (front ++ rest) := by
  cases front with
  | nil => exact hrest
  | cons c front => exact fun d hd => hfront d hd

/-- A fraction does not start with a digit. -/
lemma IsFraction.noDigit {fraction : List Char} (h : IsFraction fraction digits) :
    NoDigit fraction := by
  intro c hc
  cases h with
  | none => cases hc
  | point =>
    cases hc
    rfl

/-- An exponent starts with its letter. -/
lemma IsExponent.head {power : Option Int} (h : IsExponent text power) (hc : text.head? = some c) :
    c = 'e' ∨ c = 'E' := by
  cases h with
  | none => cases hc
  | power he =>
    cases hc
    exact he

/-- An exponent does not start with a digit. -/
lemma IsExponent.noDigit {power : Option Int} (h : IsExponent text power) : NoDigit text := by
  intro c hc
  obtain rfl | rfl := h.head hc <;> rfl

/-! Signs. -/

/-- The sign that is read is at the start of the text. -/
lemma readSign_sound (text : List Char) :
    ∃ sign, IsSign (readSign text).1 sign ∧ text = sign ++ (readSign text).2 := by
  unfold readSign
  split
  case h_1 => exact ⟨['-'], .minus, rfl⟩
  case h_2 => exact ⟨['+'], .plus, rfl⟩
  case h_3 => exact ⟨[], .none, rfl⟩

/-- A sign is read as such where no other sign follows. -/
lemma readSign_of_isSign {sign : List Char} (hsign : IsSign negative sign)
    (hrest : ∀ c, rest.head? = some c → c ≠ '-' ∧ c ≠ '+') :
    readSign (sign ++ rest) = (negative, rest) := by
  cases hsign with
  | plus => rfl
  | minus => rfl
  | none =>
    rw [List.nil_append]
    unfold readSign
    split
    case h_1 => exact absurd rfl (hrest _ rfl).1
    case h_2 => exact absurd rfl (hrest _ rfl).2
    case h_3 => rfl

/-- A digit is no sign. -/
lemma ne_sign_of_isDigit (h : c.isDigit = true) : c ≠ '-' ∧ c ≠ '+' := by
  refine ⟨?_, ?_⟩ <;> rintro rfl <;> exact absurd h (by decide)

/-! Runs of digits. -/

/-- Read are all digits at the start of the text. -/
lemma readDigits_eq_some_iff :
    readDigits text = some (run, rest) ↔
      text = run ++ rest ∧ run ≠ [] ∧ AllDigits run ∧ NoDigit rest := by
  refine ⟨?_, ?_⟩
  · intro h
    obtain ⟨htext, hrun, hrest⟩ := readDigits_eq_some h
    refine ⟨htext, ?_, hrun, hrest⟩
    rintro rfl
    rw [readDigits] at h
    simp only [Option.ite_none_left_eq_some, Option.some.injEq, Prod.mk.injEq] at h
    exact h.1 (List.isEmpty_iff.2 h.2.1)
  · rintro ⟨rfl, hne, hrun, hrest⟩
    rw [readDigits, Text.takeWhile_run hrun hrest, Text.dropWhile_run hrun hrest, if_neg]
    rwa [List.isEmpty_iff]

/-- No digits are read if the text does not start with one. -/
lemma readDigits_eq_none_iff : readDigits text = none ↔ NoDigit text := by
  cases text with
  | nil => exact iff_of_true rfl nofun
  | cons c text =>
    rw [readDigits]
    by_cases hc : c.isDigit = true
    · simp [NoDigit, hc]
    · simp [NoDigit, hc]

/-! Fractions and exponents. -/

/-- A fraction is empty if it has no digits. -/
lemma IsFraction.eq_nil_iff {fraction : List Char} (h : IsFraction fraction digits) :
    fraction = [] ↔ digits = [] := by
  cases h with
  | none => exact Iff.rfl
  | point hne => exact iff_of_false (List.cons_ne_nil _ _) hne

/-- An exponent is empty if it has no power. -/
lemma IsExponent.eq_nil_iff {power : Option Int} (h : IsExponent text power) :
    text = [] ↔ power = Option.none := by
  cases h with
  | none => simp
  | power => simp

/-- What is read as a fraction is one. -/
lemma readFraction_sound (text : List Char) :
    ∃ fraction, text = fraction ++ (readFraction text).2 ∧
      IsFraction fraction (readFraction text).1 := by
  unfold readFraction
  split
  case h_1 more =>
    cases hdigits : readDigits more with
    | none => exact ⟨[], rfl, .none⟩
    | some found =>
      obtain ⟨rfl, hne, hall, -⟩ := readDigits_eq_some_iff.1 hdigits
      exact ⟨_, rfl, .point hne hall⟩
  case h_2 => exact ⟨[], rfl, .none⟩

/-- A fraction is read as a whole if neither a digit nor a point follows it. -/
lemma readFraction_of_isFraction {fraction : List Char} (h : IsFraction fraction digits)
    (hdigit : NoDigit rest) (hpoint : ∀ c, rest.head? = some c → c ≠ '.') :
    readFraction (fraction ++ rest) = (digits, rest) := by
  cases h with
  | none =>
    rw [List.nil_append]
    unfold readFraction
    split
    case h_1 => exact absurd rfl (hpoint _ rfl)
    case h_2 => rfl
  | point hne hall =>
    rw [List.cons_append, readFraction, readDigits_eq_some_iff.2 ⟨rfl, hne, hall, hdigit⟩]
    rfl

/-- An exponent is read by its letter, its sign and its digits. -/
lemma readExponent_cons (e : Char) (text : List Char) :
    readExponent (e :: text) =
      if e = 'e' ∨ e = 'E' then
        (readDigits (readSign text).2).elim (none, e :: text) fun found =>
          (some (if (readSign text).1 then -(naturalOf found.1 : Int) else naturalOf found.1),
            found.2)
      else (none, e :: text) := by
  fun_cases readSign text with
  | case1 more => cases hdigits : readDigits more <;> simp [readExponent.eq_def, hdigits]
  | case2 more => cases hdigits : readDigits more <;> simp [readExponent.eq_def, hdigits]
  | case3 text hminus hplus =>
    cases hdigits : readDigits text <;> simp [readExponent.eq_def, hdigits]

/-- What is read as an exponent is one. -/
lemma readExponent_sound (text : List Char) :
    ∃ exponent, text = exponent ++ (readExponent text).2 ∧
      IsExponent exponent (readExponent text).1 := by
  cases text with
  | nil => exact ⟨[], rfl, .none⟩
  | cons e text =>
    rw [readExponent_cons]
    split
    case isFalse => exact ⟨[], rfl, .none⟩
    case isTrue he =>
      obtain ⟨sign, hsign, htext⟩ := readSign_sound text
      cases hdigits : readDigits (readSign text).2 with
      | none => exact ⟨[], rfl, .none⟩
      | some found =>
        obtain ⟨hrest, hne, hall, -⟩ := readDigits_eq_some_iff.1 hdigits
        refine ⟨e :: (sign ++ found.1), ?_, .power he hsign hne hall⟩
        rw [List.cons_append, List.append_assoc]
        exact congrArg (e :: ·) (htext.trans (congrArg (sign ++ ·) hrest))

/-- An exponent is read as a whole if neither a digit nor its letter follows it. -/
lemma readExponent_of_isExponent {exponent : List Char} {power : Option Int}
    (h : IsExponent exponent power) (hdigit : NoDigit rest)
    (hletter : ∀ c, rest.head? = some c → c ≠ 'e' ∧ c ≠ 'E') :
    readExponent (exponent ++ rest) = (power, rest) := by
  cases h with
  | none =>
    rw [List.nil_append]
    cases rest with
    | nil => rfl
    | cons c rest =>
      rw [readExponent_cons, if_neg (not_or.2 (hletter c rfl))]
  | @power e negative sign digits he hsign hne hall =>
    have hdigits : readDigits (digits ++ rest) = some (digits, rest) :=
      readDigits_eq_some_iff.2 ⟨rfl, hne, hall, hdigit⟩
    have hread : readSign (sign ++ (digits ++ rest)) = (negative, digits ++ rest) := by
      refine readSign_of_isSign hsign ?_
      intro c hc
      rw [List.head?_append_of_ne_nil digits hne] at hc
      exact ne_sign_of_isDigit (hall.head hc)
    rw [List.cons_append, List.append_assoc, readExponent_cons, if_pos he, hread, hdigits]
    rfl

/-! Numbers. -/

/-- A text that starts with a digit starts with the whole part of a number. -/
lemma exists_whole (h : ¬ NoDigit text) :
    ∃ whole more, text = whole ++ more ∧ IsWhole whole ∧ (whole = ['0'] ∨ NoDigit more) := by
  cases hdigits : readDigits text with
  | none => exact absurd (readDigits_eq_none_iff.1 hdigits) h
  | some found =>
    obtain ⟨rfl, hne, hall, hmore⟩ := readDigits_eq_some_iff.1 hdigits
    by_cases hzero : found.1.head? = some '0'
    · obtain ⟨others, hothers⟩ : ∃ others, found.1 = '0' :: others := List.head?_eq_some_iff.1 hzero
      refine ⟨['0'], others ++ found.2, ?_, ⟨List.cons_ne_nil _ _, ?_, fun _ => rfl⟩, .inl rfl⟩
      · rw [hothers]
        rfl
      · intro c hc
        rw [List.mem_singleton.1 hc]
        rfl
    · exact ⟨found.1, found.2, rfl, ⟨hne, hall, fun h => absurd h hzero⟩, .inr hmore⟩

/-- A number is read by its whole part, its fraction and its exponent. -/
lemma readUnsigned_append {whole more : List Char} (hwhole : IsWhole whole)
    (hmore : whole = ['0'] ∨ NoDigit more) (negative : Bool) :
    readUnsigned negative (whole ++ more) =
      let fraction := readFraction more
      let exponent := readExponent fraction.2
      if fraction.1 = [] ∧ exponent.1 = none then (integer negative whole).map (·, exponent.2)
      else
        .ok (.float (.ofDecimal negative (naturalOf (whole ++ fraction.1))
          (exponent.1.getD 0 - fraction.1.length)), exponent.2) := by
  obtain ⟨all, others, hdigits, hhead⟩ : ∃ all others,
      readDigits (whole ++ more) = some (all, others) ∧
        (if all.head? = some '0' then ['0'] else all) = whole := by
    obtain rfl | hmore := hmore
    · refine ⟨'0' :: more.takeWhile Char.isDigit, more.dropWhile Char.isDigit, ?_, rfl⟩
      rw [readDigits, List.singleton_append, List.takeWhile_cons_of_pos rfl,
        List.dropWhile_cons_of_pos rfl]
      rfl
    · refine ⟨whole, more, readDigits_eq_some_iff.2 ⟨rfl, hwhole.ne_nil, hwhole.all, hmore⟩, ?_⟩
      split
      case isTrue hzero => exact (hwhole.zero hzero).symm
      case isFalse => rfl
  rw [readUnsigned, hdigits]
  simp only [hhead, List.drop_left, List.isEmpty_iff, Option.isNone_iff_eq_none]

/-- What is read as a number is one. -/
lemma readUnsigned_sound {value : Json} (h : readUnsigned negative text = .ok (value, rest)) :
    ∃ front, text = front ++ rest ∧ Unsigned negative front value := by
  by_cases hdigit : NoDigit text
  · rw [readUnsigned, readDigits_eq_none_iff.2 hdigit] at h
    cases h
  obtain ⟨whole, more, rfl, hwhole, hmore⟩ := exists_whole hdigit
  obtain ⟨fraction, hfraction, hdigits⟩ := readFraction_sound more
  obtain ⟨exponent, hexponent, hpower⟩ := readExponent_sound (readFraction more).2
  rw [hexponent] at hfraction
  rw [readUnsigned_append hwhole hmore] at h
  dsimp only at h
  split at h
  case isTrue hnone =>
    rw [hdigits.eq_nil_iff.2 hnone.1, hpower.eq_nil_iff.2 hnone.2] at hfraction
    rw [integer] at h
    split at h
    case isTrue => cases h
    case isFalse hshort =>
      cases h
      exact ⟨whole, congrArg (whole ++ ·) hfraction, .int hwhole (Nat.le_of_not_lt hshort)⟩
  case isFalse hsome =>
    cases h
    refine ⟨whole ++ (fraction ++ exponent), ?_, .float hwhole hdigits hpower ?_⟩
    · rw [List.append_assoc, List.append_assoc]
      exact congrArg (whole ++ ·) hfraction
    · rwa [← hdigits.eq_nil_iff, ← hpower.eq_nil_iff, not_and_or] at hsome

/-- A number is read where it ends. -/
lemma readUnsigned_of_unsigned {front : List Char} {value : Json}
    (h : Unsigned negative front value) (hrest : EndsNumber rest) :
    readUnsigned negative (front ++ rest) = .ok (value, rest) := by
  cases h with
  | int hwhole hshort =>
    have hfraction : readFraction rest = ([], rest) :=
      readFraction_of_isFraction .none hrest.noDigit fun c hc => (hrest c hc).2.1
    have hexponent : readExponent rest = (none, rest) :=
      readExponent_of_isExponent .none hrest.noDigit fun c hc => (hrest c hc).2.2
    rw [readUnsigned_append hwhole (.inr hrest.noDigit), hfraction]
    dsimp only
    rw [hexponent, if_pos ⟨rfl, rfl⟩, integer, if_neg (Nat.not_lt.2 hshort)]
    rfl
  | @float whole fraction digits exponent power hwhole hdigits hpower hsome =>
    have hafter : NoDigit (exponent ++ rest) := hpower.noDigit.append hrest.noDigit
    have hmore : NoDigit (fraction ++ (exponent ++ rest)) := hdigits.noDigit.append hafter
    have hpoint : ∀ c, (exponent ++ rest).head? = some c → c ≠ '.' := by
      intro c hc
      obtain hnil | hne := eq_or_ne exponent []
      · rw [hnil, List.nil_append] at hc
        exact (hrest c hc).2.1
      · rw [List.head?_append_of_ne_nil exponent hne] at hc
        obtain rfl | rfl := hpower.head hc <;> decide
    have hfraction :
        readFraction (fraction ++ (exponent ++ rest)) = (digits, exponent ++ rest) :=
      readFraction_of_isFraction hdigits hafter hpoint
    have hexponent : readExponent (exponent ++ rest) = (power, rest) :=
      readExponent_of_isExponent hpower hrest.noDigit fun c hc => (hrest c hc).2.2
    rw [List.append_assoc, List.append_assoc, readUnsigned_append hwhole (.inr hmore), hfraction]
    dsimp only
    rw [hexponent, if_neg]
    rwa [← hdigits.eq_nil_iff, ← hpower.eq_nil_iff, not_and_or]

end Remap.Json
