import Mathlib.Data.List.TakeWhile
import Remap.Text.Class

/-!
# Words and blanks

Word characters and blanks are apart, so that a run of one ends where a run of the other starts.
-/

namespace Remap.Text

/-- The numbers of the letters lie in two ranges. -/
lemma toNat_of_isAlpha {c : Char} (h : c.isAlpha = true) :
    (65 ≤ c.toNat ∧ c.toNat ≤ 90) ∨ (97 ≤ c.toNat ∧ c.toNat ≤ 122) := by
  have hcase : c.isUpper = true ∨ c.isLower = true := Bool.or_eq_true_iff.1 h
  refine hcase.imp (fun hupper => ?_) fun hlower => ?_
  · have hvals : 65 ≤ c.val ∧ c.val ≤ 90 := of_decide_eq_true hupper
    exact hvals
  · exact (Bool.and_eq_true_iff.1 hlower).imp of_decide_eq_true of_decide_eq_true

/-- An identifier of ASCII characters. -/
def IsIdentifier (name : List Char) : Prop :=
  (∃ c, name.head? = some c ∧ isIdentStart c = true) ∧ ∀ c ∈ name, isIdentChar c = true

/-- Whether a name is an identifier can be decided. -/
lemma isIdentifier_iff (name : List Char) :
    IsIdentifier name ↔ name.head?.any isIdentStart = true ∧ name.all isIdentChar = true := by
  rw [IsIdentifier, Option.any_eq_true, List.all_eq_true]

instance (name : List Char) : Decidable (IsIdentifier name) :=
  decidable_of_iff _ (isIdentifier_iff name).symm

/-- A name that starts like an identifier and goes on with any word characters. -/
def IsName (name : List Char) : Prop :=
  (∃ c, name.head? = some c ∧ isIdentStart c = true) ∧ ∀ c ∈ name, isWord c = true

/-- All characters are blank. -/
def AllBlank (text : List Char) : Prop :=
  ∀ c ∈ text, isBlank c = true

/-- The blanks at the start of a text are blank. -/
lemma allBlank_takeWhile (text : List Char) : AllBlank (text.takeWhile isBlank) :=
  fun _ hc => List.mem_takeWhile_imp hc

/-- A word ends before a place, so that another one may start there. -/
def IsBoundary (before : Option Char) : Prop :=
  ∀ c, before = some c → isWord c = false

/-- The numbers of the blanks. -/
def blankNumbers : List Nat :=
  List.range' 0x09 5 ++ List.range' 0x1C 5 ++ [0x85, 0xA0, 0x1680] ++ List.range' 0x2000 11 ++
    [0x2028, 0x2029, 0x202F, 0x205F, 0x3000]

/-- The numbers of the blanks are listed. -/
lemma toNat_mem_blankNumbers {c : Char} (h : isBlank c = true) : c.toNat ∈ blankNumbers := by
  simp only [isBlank, Bool.or_eq_true, Bool.and_eq_true, decide_eq_true_eq, beq_iff_eq] at h
  simp only [blankNumbers, List.mem_append, List.mem_range'_1, List.mem_cons, List.not_mem_nil,
    or_false]
  omega

/-- No blank is a word character. -/
lemma isWord_eq_false_of_isBlank {c : Char} (h : isBlank c = true) : isWord c = false := by
  have hall : ∀ n ∈ blankNumbers, isWord (Char.ofNat n) = false := by decide +kernel
  have hc := hall c.toNat (toNat_mem_blankNumbers h)
  rwa [Char.ofNat_toNat] at hc

/-- A character that starts an identifier is a word character. -/
lemma isWord_of_isIdentStart {c : Char} (h : isIdentStart c = true) : isWord c = true :=
  isWord_of_isIdentChar (isIdentChar_of_isIdentStart h)

/-- A blank starts no identifier. -/
lemma isIdentStart_eq_false_of_isBlank {c : Char} (h : isBlank c = true) :
    isIdentStart c = false := by
  have hw := isWord_eq_false_of_isBlank h
  cases hc : isIdentStart c with
  | false => rfl
  | true => simp [isWord_of_isIdentStart hc] at hw

/-- A blank does not stand in an identifier. -/
lemma isIdentChar_eq_false_of_isBlank {c : Char} (h : isBlank c = true) :
    isIdentChar c = false := by
  have hw := isWord_eq_false_of_isBlank h
  cases hc : isIdentChar c with
  | false => rfl
  | true => simp [isWord_of_isIdentChar hc] at hw

/-- A word character is not blank. -/
lemma isBlank_eq_false_of_isWord {c : Char} (h : isWord c = true) : isBlank c = false := by
  cases hc : isBlank c with
  | false => rfl
  | true => simp [isWord_eq_false_of_isBlank hc] at h

/-- An identifier is a name. -/
lemma IsIdentifier.isName {name : List Char} (h : IsIdentifier name) : IsName name :=
  ⟨h.1, fun c hc => isWord_of_isIdentChar (h.2 c hc)⟩

/-- A text starts with a character that may start an identifier. -/
def StartsName (text : List Char) : Prop :=
  ∃ c, text.head? = some c ∧ isIdentStart c = true

/-- A name at the start of a text starts a name. -/
lemma IsName.startsName {name : List Char} (h : IsName name) (rest : List Char) :
    StartsName (name ++ rest) := by
  obtain ⟨⟨c, hc, hstart⟩, -⟩ := h
  exact ⟨c, by rw [List.head?_append, hc]; rfl, hstart⟩

/-- A boundary is no word character. -/
lemma isBoundary_iff {before : Option Char} :
    IsBoundary before ↔ before.any isWord = false := by
  cases before <;> simp [IsBoundary]

/--
Inside a run of word characters, and in what follows it without the start of an identifier, no
identifier starts.
-/
lemma not_startsName_inside {run gap rest inner after : List Char}
    (hrun : ∀ c ∈ run, isWord c = true) (hgap : ∀ c ∈ gap, isIdentStart c = false)
    (h : inner ++ after = run ++ gap ++ rest) (hne : inner ≠ [])
    (hlt : inner.length < (run ++ gap).length) (hb : IsBoundary inner.getLast?) :
    ¬ StartsName after := by
  intro h'
  obtain ⟨c, hc, hstart⟩ := h'
  rw [List.append_assoc] at h
  rw [List.length_append] at hlt
  obtain ⟨more, rfl, -⟩ | ⟨more, rfl, hmore⟩ := List.append_eq_append_iff.1 h
  · have hmem : inner.getLast hne ∈ inner ++ more :=
      List.mem_append_left _ (List.getLast_mem hne)
    have hfalse := hb _ (List.getLast?_eq_some_getLast hne)
    rw [hrun _ hmem] at hfalse
    cases hfalse
  · rw [List.length_append] at hlt
    obtain ⟨tail, rfl, -⟩ | ⟨tail, rfl, hafter⟩ := List.append_eq_append_iff.1 hmore
    · rw [List.length_append] at hlt
      omega
    · cases tail with
      | nil => simp at hlt
      | cons d tail =>
        rw [hafter, List.cons_append, List.head?_cons] at hc
        cases hc
        have hfalse := hgap c (by simp)
        rw [hstart] at hfalse
        cases hfalse

end Remap.Text
