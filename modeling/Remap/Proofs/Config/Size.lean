import Mathlib.Algebra.Group.Nat.Defs
import Remap.Config
import Remap.Proofs.Json.Lenient

/-!
# Sizes of indentation

A size of indentation is a whole number from 1 to 8. In a string it is one digit: zeros may stand
before it, with underscores among them, and a fraction of nothing but zeros after it.
`indentOfJson?_eq_some_iff` says that the reader takes these values and no others.
-/

namespace Remap

namespace Json

variable {text rest digits : List Char} {n : Nat}

/-! A single digit. -/

/-- A digit alone is a whole number. -/
lemma isWhole_digit (hn : n < 10) : IsWhole [Nat.digitChar n] := by
  refine ⟨List.cons_ne_nil _ _, ?_, ?_⟩
  · intro c hc
    rw [List.mem_singleton.1 hc, Nat.isDigit_digitChar]
    exact decide_eq_true hn
  · intro hzero
    rw [List.head?_cons, Option.some.injEq] at hzero
    rw [hzero]

/-- The value of digits by the first of them. -/
lemma naturalOf_cons (c : Char) (more : List Char) :
    naturalOf (c :: more) = 10 ^ more.length * (c.toNat - 48) + naturalOf more := by
  have hzero : '0'.toNat = 48 := rfl
  rw [naturalOf, Nat.ofDigitChars_cons, Nat.ofDigitChars_eq_ofDigitChars_zero, hzero, Nat.mul_zero,
    Nat.zero_add, naturalOf]

/-- The digit of a positive number is not zero. -/
lemma digitChar_ne_zero (hn : 1 ≤ n) : Nat.digitChar n ≠ '0' := by
  rw [Ne, Nat.digitChar_eq_zero]
  omega

/-- A digit stands for its number. -/
lemma naturalOf_digit (hn : n < 10) : naturalOf [Nat.digitChar n] = n := by
  have hnil : naturalOf [] = 0 := rfl
  rw [naturalOf_cons, Nat.toNat_digitChar_of_lt_ten hn, List.length_nil, hnil]
  omega

/-- Digits that stand for a small number are one digit, as zeros do not stand before it. -/
lemma IsWhole.eq_digit (h : IsWhole text) (hn : naturalOf text < 10) :
    text = [Nat.digitChar (naturalOf text)] := by
  obtain ⟨c, more, rfl⟩ := List.exists_cons_of_ne_nil h.ne_nil
  have hdigit : 48 ≤ c.toNat ∧ c.toNat ≤ 57 :=
    Char.isDigit_iff_toNat.1 (h.all c List.mem_cons_self)
  have hmore : more = [] := by
    by_contra hne
    have hzero : c.toNat ≠ 48 := by
      intro hc
      have hchar : c = '0' := Char.toNat_inj.1 hc
      have heq := h.zero (congrArg some hchar)
      rw [List.cons.injEq] at heq
      exact hne heq.2
    have hpos : 0 < c.toNat - 48 := by omega
    have hten : 10 ≤ 10 ^ more.length :=
      Nat.le_self_pow (List.length_eq_zero_iff.not.2 hne) 10
    have hlarge := Nat.le_mul_of_pos_right (10 ^ more.length) hpos
    rw [naturalOf_cons] at hn
    omega
  subst hmore
  have hvalue : naturalOf [c] = c.toNat - 48 := by
    rw [naturalOf_cons, List.length_nil, Nat.pow_zero, Nat.one_mul]
    rfl
  rw [hvalue, List.cons.injEq]
  refine ⟨Char.toNat_inj.1 ?_, rfl⟩
  rw [Nat.toNat_digitChar_of_lt_ten (by omega)]
  omega

/-- What is read as a positive integer is digits. -/
lemma readScalar_pos {value : Int} (h : readScalar text = .ok (.int value, [])) (hpos : 0 < value) :
    IsWhole text ∧ value = naturalOf text := by
  have hword : ∀ word other, readWord word other text = .ok (.int value, []) →
      other = .int value := by
    intro word other hread
    rw [readWord] at hread
    split at hread
    · cases hread
      rfl
    · cases hread
  have hunsigned : ∀ (negative : Bool) (rest : List Char),
      readUnsigned negative rest = .ok (.int value, []) →
        IsWhole rest ∧ negative = false ∧ value = naturalOf rest := by
    intro negative rest hread
    obtain ⟨front, rfl, hfront⟩ := readUnsigned_sound hread
    rw [List.append_nil]
    generalize hvalue : Json.int value = other at hfront
    cases hfront with
    | float => cases hvalue
    | int hwhole hshort =>
      cases hvalue
      cases negative with
      | false => exact ⟨hwhole, rfl, rfl⟩
      | true =>
        rw [if_pos rfl] at hpos
        omega
  unfold readScalar at h
  split at h
  case h_6 rest =>
    split at h
    case h_1 => cases h
    case h_2 => cases (hunsigned true rest h).2.1
  case h_7 =>
    obtain ⟨hwhole, -, hvalue⟩ := hunsigned false text h
    exact ⟨hwhole, hvalue⟩
  all_goals cases hword _ _ h

end Json

namespace Config

open Json

/-- Zeros before a digit, with underscores among them after the first. -/
inductive LeadingZeros : List Char → Prop where
  | none : LeadingZeros []
  | zeros {more : List Char} : (∀ c ∈ more, c = '0' ∨ c = '_') → LeadingZeros ('0' :: more)

/-- A point with zeros after it, or nothing. -/
inductive ZeroFraction : List Char → Prop where
  | none : ZeroFraction []
  | zeros {more : List Char} : more ≠ [] → (∀ c ∈ more, c = '0') → ZeroFraction ('.' :: more)

/-- What counts as a size of indentation, and as which one. -/
inductive IsSize : Json → Int → Prop where
  | int {n : Nat} : 1 ≤ n → n ≤ 8 → IsSize (.int n) n
  | bool : IsSize (.bool true) 1
  | float {n : Nat} : 1 ≤ n → n ≤ 8 → IsSize (.float (.finite false (n * Binary64.unit))) n
  | str {text : String} {before sign zeros fraction after : List Char} {n : Nat} :
      1 ≤ n → n ≤ 8 →
      text.toList =
        before ++ ((sign ++ (zeros ++ Nat.digitChar n :: fraction)) ++ after) →
      AllMargin before → IsSign false sign → LeadingZeros zeros → ZeroFraction fraction →
      AllMargin after → IsSize (.str text) n

/-! What is taken off a numeral. -/

variable {text rest fraction : List Char} {d : Char}

/-- Leading zeros are zeros and underscores. -/
lemma LeadingZeros.eq_zero_or {zeros : List Char} (h : LeadingZeros zeros) :
    ∀ c ∈ zeros, c = '0' ∨ c = '_' := by
  cases h with
  | none => nofun
  | zeros hmore => exact List.forall_mem_cons.2 ⟨.inl rfl, hmore⟩

/-- A text with a zero at its start is zeros and what follows them. -/
lemma exists_leadingZeros (h : text.head? = some '0') :
    ∃ zeros rest, LeadingZeros zeros ∧ zeros ≠ [] ∧ text = zeros ++ rest ∧
      ∀ c, rest.head? = some c → ¬ (c = '0' ∨ c = '_') := by
  obtain ⟨more, rfl⟩ := List.head?_eq_some_iff.1 h
  refine ⟨'0' :: more.takeWhile fun c => decide (c = '0' ∨ c = '_'),
    more.dropWhile fun c => decide (c = '0' ∨ c = '_'), ?_, List.cons_ne_nil _ _, ?_, ?_⟩
  · refine .zeros fun c hc => ?_
    have hfiller := List.mem_takeWhile_imp hc
    exact of_decide_eq_true hfiller
  · rw [List.cons_append, List.takeWhile_append_dropWhile]
  · intro c hc
    have hnot := List.head?_dropWhile_not (fun c => decide (c = '0' ∨ c = '_')) more
    rw [hc] at hnot
    exact of_decide_eq_false hnot

/-- Leading zeros are dropped, but for the last of them before a point or the end. -/
lemma dropZeros_append {zeros : List Char} (hzeros : LeadingZeros zeros) (hne : zeros ≠ [])
    (hrest : ∀ c, rest.head? = some c → ¬ (c = '0' ∨ c = '_')) :
    dropZeros (zeros ++ rest) =
      if rest = [] ∨ rest.head? = some '.' then zeros.getLast?.toList ++ rest else rest := by
  have hhead : (zeros ++ rest).head? = some '0' := by
    cases hzeros with
    | none => exact absurd rfl hne
    | zeros => rfl
  have htake : (zeros ++ rest).takeWhile (fun c => c == '0' || c == '_') = zeros := by
    refine Text.takeWhile_run ?_ ?_
    · intro c hc
      simpa using hzeros.eq_zero_or c hc
    · intro c hc
      simpa using hrest c hc
  rw [dropZeros, if_pos hhead, htake]
  dsimp only
  rw [List.drop_left]

/-- A digit other than zero is left over behind the zeros. -/
lemma dropZeros_eq_cons_iff (hd : d.isDigit = true) (hzero : d ≠ '0') :
    dropZeros text = d :: fraction ↔
      ∃ zeros, LeadingZeros zeros ∧ text = zeros ++ d :: fraction := by
  have hkept : ¬ (d = '0' ∨ d = '_') := by
    refine not_or.2 ⟨hzero, ?_⟩
    rintro rfl
    cases hd
  refine ⟨?_, ?_⟩
  · intro h
    by_cases hhead : text.head? = some '0'
    case neg => exact ⟨[], .none, by rwa [dropZeros, if_neg hhead] at h⟩
    obtain ⟨zeros, rest, hzeros, hne, rfl, hrest⟩ := exists_leadingZeros hhead
    rw [dropZeros_append hzeros hne hrest] at h
    split at h
    case isTrue =>
      -- what stays of the zeros is one of them
      rw [List.getLast?_eq_some_getLast hne, Option.toList_some, List.singleton_append,
        List.cons.injEq] at h
      exact absurd (hzeros.eq_zero_or d (h.1 ▸ List.getLast_mem hne)) hkept
    case isFalse => exact ⟨zeros, hzeros, h ▸ rfl⟩
  · rintro ⟨zeros, hzeros, rfl⟩
    obtain rfl | hne := eq_or_ne zeros []
    · rw [List.nil_append, dropZeros, if_neg]
      exact fun hhead => hzero (Option.some.inj hhead)
    · rw [dropZeros_append hzeros hne, if_neg]
      · refine not_or.2 ⟨List.cons_ne_nil _ _, fun hpoint => ?_⟩
        rw [Option.some.inj hpoint] at hd
        cases hd
      · rintro _ ⟨⟩
        exact hkept

/-- A single digit is left over before the fraction. -/
lemma dropZeroFraction_eq_singleton_iff (hd : d ≠ '.') :
    dropZeroFraction text = [d] ↔ ∃ fraction, ZeroFraction fraction ∧ text = d :: fraction := by
  unfold dropZeroFraction
  generalize hp : (fun c : Char => decide (c ≠ '.')) = p
  have hpoint : ¬ p '.' = true := by
    rw [← hp]
    exact Bool.false_ne_true
  have hkept : p d = true := by
    rw [← hp]
    exact decide_eq_true hd
  refine ⟨?_, ?_⟩
  · intro h
    split at h
    case h_1 zeros hdrop =>
      split at h
      case isTrue hzeros =>
        refine ⟨'.' :: zeros, .zeros hzeros.1 ?_, ?_⟩
        · intro c hc
          exact beq_iff_eq.1 (List.all_eq_true.1 hzeros.2 c hc)
        · rw [← List.takeWhile_append_dropWhile (p := p) (l := text), h, hdrop,
            List.singleton_append]
      case isFalse => exact ⟨[], .none, h⟩
    case h_2 => exact ⟨[], .none, h⟩
  · rintro ⟨fraction, hfraction, rfl⟩
    rw [List.dropWhile_cons_of_pos hkept, List.takeWhile_cons_of_pos hkept]
    cases hfraction with
    | none => rfl
    | zeros hne hall =>
      rw [List.dropWhile_cons_of_neg hpoint, List.takeWhile_cons_of_neg hpoint]
      exact if_pos ⟨hne, List.all_eq_true.2 fun c hc => beq_iff_eq.2 (hall c hc)⟩

/-- A single character is left over only of itself, as no underscore stands at an end. -/
lemma ungroup?_eq_singleton_iff (hd : d ≠ '_') : ungroup? text = some [d] ↔ text = [d] := by
  rw [ungroup?_eq_some_iff]
  refine ⟨?_, ?_⟩
  · rintro ⟨hgrouped, hfilter⟩
    obtain ⟨front, back, rfl, hfront, -, hback⟩ := List.filter_eq_cons_iff.1 hfilter.symm
    have hunderscore : ∀ c : Char, ¬ decide (c ≠ '_') = true → c = '_' := by
      intro c hc
      simpa using hc
    have hfirst : front = [] := by
      cases front with
      | nil => rfl
      | cons c front =>
        have hc := hunderscore c (hfront c List.mem_cons_self)
        exact absurd (congrArg some hc) hgrouped.first
    have hlast : back = [] := by
      by_contra hne
      have hc := hunderscore _ (List.filter_eq_nil_iff.1 hback _ (List.getLast_mem hne))
      refine hgrouped.last ?_
      rw [List.getLast?_append, List.getLast?_cons_of_ne_nil hne,
        List.getLast?_eq_some_getLast hne, hc]
      rfl
    rw [hfirst, hlast, List.nil_append]
  · rintro rfl
    refine ⟨⟨?_, ?_, ?_⟩, ?_⟩
    · exact fun h => hd (Option.some.inj h)
    · exact fun h => hd (Option.some.inj h)
    · intro front back h
      have hlength := congrArg List.length h
      simp only [List.length_append, List.length_cons, List.length_nil] at hlength
      omega
    · simp [hd]

/-- An integer is read from a numeral that starts with a digit and is well grouped. -/
lemma intOfNumeral?_eq_some_iff {text : String} {negative : Bool} {value : Int}
    (hsign : readSign (numeral text) = (negative, rest)) :
    intOfNumeral? text = some value ↔
      rest.head?.any Char.isDigit = true ∧
        ∃ digits, ungroup? (dropZeroFraction (dropZeros rest)) = some digits ∧
          readScalar (if negative then '-' :: digits else digits) = .ok (.int value, []) ∧
          (if negative then '-' :: digits else digits).length ≤ maxDigits := by
  unfold intOfNumeral?
  rw [hsign]
  simp only [Bool.not_eq_eq_eq_not, Bool.not_true, Option.pure_def, Option.bind_eq_bind,
    Option.bind_none, Option.ite_none_left_eq_some, Bool.not_eq_false, Option.bind_eq_some_iff]
  refine and_congr_right fun _ => exists_congr fun digits => and_congr_right fun _ => ?_
  generalize (if negative = true then '-' :: digits else digits) = signed
  refine ⟨?_, ?_⟩
  · intro h
    split at h
    case h_1 hread =>
      rw [Option.ite_none_right_eq_some, Option.some.injEq] at h
      obtain ⟨hlength, rfl⟩ := h
      exact ⟨hread, hlength⟩
    case h_2 => cases h
  · rintro ⟨hread, hlength⟩
    rw [hread]
    exact if_pos hlength

/-- Leading zeros and a digit start with a digit. -/
lemma LeadingZeros.isDigit_head {zeros : List Char} (hzeros : LeadingZeros zeros)
    (hd : d.isDigit = true) : (zeros ++ d :: rest).head?.any Char.isDigit = true := by
  cases hzeros with
  | none => exact hd
  | zeros => rfl

/-- No white space stands inside a size. -/
lemma isMargin_of_mem_size {sign zeros : List Char} (hsign : IsSign false sign)
    (hzeros : LeadingZeros zeros) (hd : d.isDigit = true) (hfraction : ZeroFraction fraction) :
    ∀ c ∈ sign ++ (zeros ++ d :: fraction), isMargin c = false := by
  intro c hc
  rw [List.mem_append, List.mem_append, List.mem_cons] at hc
  obtain hc | hc | rfl | hc := hc
  · exact (hsign.isPart hc).plain.1
  · obtain rfl | rfl := hzeros.eq_zero_or c hc <;> decide
  · exact (IsPart.plain (.inl hd)).1
  · cases hfraction with
    | none => cases hc
    | zeros hne hall =>
      obtain rfl | hc := List.mem_cons.1 hc
      · decide
      · rw [hall c hc]
        decide

/-- A digit is read as its number. -/
lemma readScalar_digit {n : Nat} (hn : n < 10) :
    readScalar [Nat.digitChar n] = .ok (.int n, []) := by
  have hwhole := isWhole_digit hn
  have hunsigned : Unsigned false [Nat.digitChar n] (.int (naturalOf [Nat.digitChar n])) :=
    .int hwhole (Nat.succ_le_succ (Nat.zero_le _))
  rw [readScalar_of_digit (hwhole.all _ List.mem_cons_self)]
  have hread := readUnsigned_of_unsigned hunsigned endsNumber_nil
  rwa [List.append_nil, naturalOf_digit hn] at hread

/-- A digit is not another character. -/
lemma ne_of_isDigit {c : Char} (hd : d.isDigit = true) (hc : c.isDigit = false) : d ≠ c := by
  rintro rfl
  rw [hd] at hc
  cases hc

/-- A digit is left over exactly of a size, with the zeros and the fraction that may stand there. -/
lemma ungroup?_eq_digit_iff (hd : d.isDigit = true) (hzero : d ≠ '0') :
    ungroup? (dropZeroFraction (dropZeros text)) = some [d] ↔
      ∃ zeros fraction, LeadingZeros zeros ∧ ZeroFraction fraction ∧
        text = zeros ++ d :: fraction := by
  rw [ungroup?_eq_singleton_iff (ne_of_isDigit hd rfl),
    dropZeroFraction_eq_singleton_iff (ne_of_isDigit hd rfl)]
  simp only [dropZeros_eq_cons_iff hd hzero]
  refine ⟨?_, ?_⟩
  · rintro ⟨fraction, hfraction, zeros, hzeros, htext⟩
    exact ⟨zeros, fraction, hzeros, hfraction, htext⟩
  · rintro ⟨zeros, fraction, hzeros, hfraction, htext⟩
    exact ⟨fraction, hfraction, zeros, hzeros, htext⟩

/-- What is read as a size is one digit, with what may stand beside it. -/
lemma isSize_of_intOfNumeral? {text : String} {n : Nat} (hlow : 1 ≤ n) (hhigh : n ≤ 8)
    (h : intOfNumeral? text = some (n : Int)) : IsSize (.str text) n := by
  have hten : n < 10 := by omega
  have hd : (Nat.digitChar n).isDigit = true := (isWhole_digit hten).all _ List.mem_cons_self
  obtain ⟨sign, hsign, htext⟩ := readSign_sound (numeral text)
  obtain ⟨before, after, hbefore, hafter, hmargins⟩ := numeral_sound text
  generalize hsigned : readSign (numeral text) = signed at hsign htext
  obtain ⟨negative, rest⟩ := signed
  obtain ⟨-, digits, hdigits, hread, -⟩ := (intOfNumeral?_eq_some_iff hsigned).1 h
  obtain ⟨hwhole, hvalue⟩ := readScalar_pos hread (by omega)
  cases negative with
  | true => exact absurd (hwhole.all '-' List.mem_cons_self) (by decide)
  | false =>
    have hnatural : naturalOf digits = n := (Int.ofNat_inj.1 hvalue).symm
    have hdigit := IsWhole.eq_digit hwhole (hnatural.trans_lt hten)
    rw [if_neg Bool.false_ne_true, hnatural] at hdigit
    rw [hdigit, ungroup?_eq_digit_iff hd (digitChar_ne_zero hlow)] at hdigits
    obtain ⟨zeros, fraction, hzeros, hfraction, rfl⟩ := hdigits
    rw [htext] at hmargins
    exact .str hlow hhigh hmargins hbefore hsign hzeros hfraction hafter

/-- One digit, with what may stand beside it, is read as a size. -/
lemma intOfNumeral?_of_digit {text : String} {before sign zeros fraction after : List Char}
    {n : Nat} (hlow : 1 ≤ n) (hhigh : n ≤ 8)
    (htext : text.toList = before ++ ((sign ++ (zeros ++ Nat.digitChar n :: fraction)) ++ after))
    (hbefore : AllMargin before) (hsign : IsSign false sign) (hzeros : LeadingZeros zeros)
    (hfraction : ZeroFraction fraction) (hafter : AllMargin after) :
    intOfNumeral? text = some (n : Int) := by
  have hten : n < 10 := by omega
  have hd : (Nat.digitChar n).isDigit = true := (isWhole_digit hten).all _ List.mem_cons_self
  have hhead : (zeros ++ Nat.digitChar n :: fraction).head?.any Char.isDigit = true :=
    hzeros.isDigit_head hd
  have hnumeral := numeral_of_margins htext hbefore hafter
    (isMargin_of_mem_size hsign hzeros hd hfraction)
  have hread : readSign (numeral text) = (false, zeros ++ Nat.digitChar n :: fraction) := by
    rw [hnumeral]
    refine readSign_of_isSign hsign fun c hc => ne_sign_of_isDigit ?_
    rwa [hc] at hhead
  refine (intOfNumeral?_eq_some_iff hread).2 ⟨hhead, [Nat.digitChar n], ?_, ?_, ?_⟩
  · exact (ungroup?_eq_digit_iff hd (digitChar_ne_zero hlow)).2
      ⟨zeros, fraction, hzeros, hfraction, rfl⟩
  · exact readScalar_digit hten
  · exact Nat.succ_le_succ (Nat.zero_le _)

/-- The reader takes a value as a size exactly if it counts as one. -/
lemma indentOfJson?_eq_some_iff {value : Json} {size : Int} :
    indentOfJson? value = some size ↔ IsSize value size := by
  rw [indentOfJson?, Option.filter_eq_some_iff, Bool.and_eq_true, decide_eq_true_iff,
    decide_eq_true_iff]
  have hbits : ∀ n : Nat, n ≤ 8 → n < Nat.pow 2 63 := by
    intro n hn
    exact hn.trans_lt (by decide)
  refine ⟨?_, ?_⟩
  · rintro ⟨hread, hlow, hhigh⟩
    obtain ⟨n, rfl⟩ := Int.eq_ofNat_of_zero_le (show 0 ≤ size by omega)
    have hlow' : 1 ≤ n := by omega
    have hhigh' : n ≤ 8 := by omega
    cases value with
    | null => cases hread
    | bool value =>
      cases value with
      | false =>
        cases hread
        cases hlow'
      | true =>
        cases hread
        exact .bool
    | int m =>
      cases hread
      exact .int hlow' hhigh'
    | float x =>
      rw [asInt?, Binary64.toInt?_eq_some_iff hlow' (hbits n hhigh')] at hread
      rw [hread]
      exact .float hlow' hhigh'
    | str string =>
      obtain ⟨text, htext, hnumber⟩ := Option.bind_eq_some_iff.1 hread
      rw [Wide.text?_eq_some_iff.1 htext]
      exact isSize_of_intOfNumeral? hlow' hhigh' hnumber
    | arr items => cases hread
    | obj fields => cases hread
  · intro h
    cases h with
    | int hlow hhigh => exact ⟨rfl, by omega, by omega⟩
    | bool => exact ⟨rfl, by decide, by decide⟩
    | float hlow hhigh =>
      refine ⟨?_, by omega, by omega⟩
      rw [asInt?, Binary64.toInt?_eq_some_iff hlow (hbits _ hhigh)]
    | str hlow hhigh htext hbefore hsign hzeros hfraction hafter =>
      refine ⟨?_, by omega, by omega⟩
      rw [asInt?, Wide.text?_ofString, Option.bind_some]
      exact intOfNumeral?_of_digit hlow hhigh htext hbefore hsign hzeros hfraction hafter

end Config

end Remap
