/-!
# Binary floating-point numbers

The numbers of the 64-bit binary format as exact values: every finite one is a whole number of
ticks of 2⁻¹⁰⁷⁴, the distance between the smallest two. Fractions and decimals are rounded to the
nearest number of the format, a tie going to the even neighbour, and what lies beyond the largest
one is infinite.
-/

namespace Remap

/-- A number of the 64-bit binary format. -/
inductive Binary64 where
  /-- The number of ticks, taken negative or not; zero has both signs. -/
  | finite (negative : Bool) (ticks : Nat)
  | infinite (negative : Bool)
  | nan
  deriving DecidableEq, Repr

namespace Binary64

/-- The number of ticks in one unit. -/
def unit : Nat :=
  Nat.pow 2 1074

/-- The quotient rounded to the nearest whole number, a tie to the even one. -/
def roundDiv (num den : Nat) : Nat :=
  let quotient := num / den
  let rest := num % den
  if 2 * rest < den then quotient
  else if den < 2 * rest then quotient + 1
  else quotient + quotient % 2

/--
The ticks nearest to a fraction of ticks: whole numbers of 53 binary digits, followed by as many
zeros as the size of the fraction asks for.
-/
def roundTicks (num den : Nat) : Nat :=
  let quotient := num / den
  let shift := quotient.log2 - 52
  roundDiv num (den * Nat.pow 2 shift) * Nat.pow 2 shift

/-- The number nearest to a fraction. -/
def ofRatio (negative : Bool) (num den : Nat) : Binary64 :=
  let ticks := roundTicks (num * unit) den
  if ticks < Nat.pow 2 1024 * unit then finite negative ticks else infinite negative

/--
The number nearest to `digits · 10 ^ exponent`. Exponents so large or so small that the answer
does not depend on the digits are settled before the power is taken.
-/
def ofDecimal (negative : Bool) (digits : Nat) (exponent : Int) : Binary64 :=
  if digits = 0 then finite negative 0
  else
    match exponent with
    | .ofNat up =>
      if 400 < up then infinite negative else ofRatio negative (digits * Nat.pow 10 up) 1
    | .negSucc down =>
      if digits.log2 + 1077 < 3 * (down + 1) then finite negative 0
      else ofRatio negative digits (Nat.pow 10 (down + 1))

/-- The number, unless it is infinite. -/
def bounded? : Binary64 → Option Binary64
  | infinite _ => none
  | number => some number

/-- The number nearest to an integer, unless the integer is too large for the format. -/
def ofInt? (n : Int) : Option Binary64 :=
  (ofRatio (decide (n < 0)) n.natAbs 1).bounded?

/-- The integer that the number equals, if there is one and it has at most 63 binary digits. -/
def toInt? : Binary64 → Option Int
  | finite negative ticks =>
    if ticks % unit = 0 ∧ ticks / unit < Nat.pow 2 63 then
      some (if negative then -(ticks / unit : Nat) else (ticks / unit : Nat))
    else none
  | _ => none

/-- The number is zero or more; a number that is not one is neither. -/
def isNonneg : Binary64 → Bool
  | finite negative ticks => !negative || ticks == 0
  | infinite negative => !negative
  | nan => false

/-- The unit is positive. -/
theorem unit_pos : 0 < unit := by
  decide +kernel

/-- The numbers that equal a positive integer. -/
theorem toInt?_eq_some_iff {x : Binary64} {n : Nat} (hpos : 0 < n) (hbits : n < Nat.pow 2 63) :
    x.toInt? = some (n : Int) ↔ x = finite false (n * unit) := by
  have hunit := unit_pos
  cases x with
  | finite negative ticks =>
    rw [toInt?, Option.ite_none_right_eq_some, Option.some.injEq, finite.injEq]
    generalize unit = one at hunit
    refine ⟨?_, ?_⟩
    · rintro ⟨⟨hwhole, -⟩, hvalue⟩
      cases negative with
      | true =>
        rw [if_pos rfl] at hvalue
        generalize ticks / one = quotient at hvalue
        omega
      | false =>
        rw [if_neg Bool.false_ne_true, Int.ofNat_inj] at hvalue
        rw [← hvalue, Nat.div_mul_cancel (Nat.dvd_of_mod_eq_zero hwhole)]
        exact ⟨rfl, rfl⟩
    · rintro ⟨rfl, rfl⟩
      rw [Nat.mul_mod_left, Nat.mul_div_cancel n hunit]
      exact ⟨⟨rfl, hbits⟩, rfl⟩
  | infinite negative => exact iff_of_false nofun nofun
  | nan => exact iff_of_false nofun nofun

/-- A bounded number is any number but the infinite ones. -/
theorem bounded?_eq_some_iff {x y : Binary64} :
    y.bounded? = some x ↔ y = x ∧ ∀ negative, x ≠ infinite negative := by
  cases y with
  | infinite negative =>
    refine iff_of_false nofun ?_
    rintro ⟨rfl, hne⟩
    exact hne negative rfl
  | _ =>
    rw [bounded?, Option.some.injEq]
    · refine (and_iff_left_of_imp ?_).symm
      rintro rfl
      nofun
    · nofun

end Binary64

end Remap
