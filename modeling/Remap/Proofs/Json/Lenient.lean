import Remap.Proofs.Json.Numeral
import Remap.Proofs.Text.Wide
import Remap.Proofs.Text.Word

/-!
# Numbers

Which values count as a number, and as which one. A number in a string is written in decimal digits
or as a word, with white space around it or with single underscores inside. `asNumber?_eq_some_iff`
says that the reader takes these values and no others.
-/

namespace Remap.Json

variable {text rest : List Char} {negative : Bool} {c : Char} {x : Binary64}

/-! Characters of numerals. -/

/-- A character that can stand in a numeral. -/
def IsPart (c : Char) : Prop :=
  c.isDigit = true ∨ c.isAlpha = true ∨ c = '+' ∨ c = '-' ∨ c = '.'

/--
The characters of numerals lie between the plus sign and the letter z, without the underscore.
-/
lemma IsPart.code (h : IsPart c) : 0x2B ≤ c.toNat ∧ c.toNat ≤ 0x7A ∧ c.toNat ≠ 0x5F := by
  obtain hdigit | halpha | rfl | rfl | rfl := h
  · have hrange : 48 ≤ c.toNat ∧ c.toNat ≤ 57 := Char.isDigit_iff_toNat.1 hdigit
    omega
  · have hrange := Text.toNat_of_isAlpha halpha
    omega
  all_goals decide

/-- White space and underscores do not stand in a numeral. -/
lemma IsPart.plain (h : IsPart c) : isMargin c = false ∧ c ≠ '_' := by
  obtain ⟨hlow, hhigh, hne⟩ := h.code
  refine ⟨?_, ?_⟩
  · simp only [isMargin, Text.isBlank]
    simp
    omega
  · rintro rfl
    exact hne rfl

/-- A letter is not a digit. -/
lemma not_isDigit_of_isAlpha (h : c.isAlpha = true) : c.isDigit = false := by
  have hrange := Text.toNat_of_isAlpha h
  refine Bool.eq_false_iff.2 fun hdigit => ?_
  have hdigits : 48 ≤ c.toNat ∧ c.toNat ≤ 57 := Char.isDigit_iff_toNat.1 hdigit
  omega

/-- A character of which the lower case is a letter is one. -/
lemma isAlpha_of_toLower {d : Char} (h : c.toLower = d) (hd : d.isAlpha = true) :
    c.isAlpha = true := by
  by_cases hupper : c.isUpper = true
  · exact Bool.or_eq_true_iff.2 (.inl hupper)
  · have hsame : c.toLower = c := dif_neg fun hrange => hupper (decide_eq_true hrange)
    rwa [← h, hsame] at hd

/-! Numerals. -/

/--
A number written out, and the binary number that it stands for: digits with a point among them or
beside them and with an exponent, or a word in upper or in lower case.
-/
inductive IsNumeral : List Char → Binary64 → Prop where
  | decimal {negative : Bool} {sign whole point fraction exponent : List Char}
      {power : Option Int} :
      IsSign negative sign → AllDigits whole → AllDigits fraction → whole ++ fraction ≠ [] →
      point = ['.'] ∨ (point = [] ∧ fraction = []) → IsExponent exponent power →
        IsNumeral (sign ++ (whole ++ (point ++ (fraction ++ exponent))))
          (.ofDecimal negative (naturalOf (whole ++ fraction)) (power.getD 0 - fraction.length))
  | infinite {negative : Bool} {sign word : List Char} :
      IsSign negative sign →
      word.map Char.toLower = "inf".toList ∨ word.map Char.toLower = "infinity".toList →
        IsNumeral (sign ++ word) (.infinite negative)
  | nan {negative : Bool} {sign word : List Char} :
      IsSign negative sign → word.map Char.toLower = "nan".toList →
        IsNumeral (sign ++ word) .nan

/-- Digits can stand in a numeral. -/
lemma AllDigits.isPart (h : AllDigits text) (hc : c ∈ text) : IsPart c :=
  .inl (h c hc)

/-- A sign can stand in a numeral. -/
lemma IsSign.isPart {sign : List Char} (h : IsSign negative sign) (hc : c ∈ sign) : IsPart c := by
  cases h with
  | none => cases hc
  | plus =>
    rw [List.mem_singleton.1 hc]
    exact .inr (.inr (.inl rfl))
  | minus =>
    rw [List.mem_singleton.1 hc]
    exact .inr (.inr (.inr (.inl rfl)))

/-- The characters of an exponent can stand in a numeral. -/
lemma IsExponent.isPart {power : Option Int} (h : IsExponent text power) (hc : c ∈ text) :
    IsPart c := by
  cases h with
  | none => cases hc
  | power he hsign hne hall =>
    obtain rfl | hc := List.mem_cons.1 hc
    · obtain rfl | rfl := he <;> exact .inr (.inl rfl)
    · obtain hc | hc := List.mem_append.1 hc
      · exact hsign.isPart hc
      · exact hall.isPart hc

/-- A word of which the lower case has only letters has only letters. -/
lemma isAlpha_of_word {word lower : List Char} (h : word.map Char.toLower = lower)
    (hlower : lower.all Char.isAlpha = true) (hc : c ∈ word) : c.isAlpha = true := by
  refine isAlpha_of_toLower rfl (List.all_eq_true.1 hlower _ ?_)
  rw [← h]
  exact List.mem_map_of_mem hc

/-- The characters of a numeral can stand in one. -/
lemma IsNumeral.isPart (h : IsNumeral text x) (hc : c ∈ text) : IsPart c := by
  cases h with
  | decimal hsign hwhole hfraction hne hpoint hpower =>
    simp only [List.mem_append] at hc
    obtain hc | hc | hc | hc | hc := hc
    · exact hsign.isPart hc
    · exact hwhole.isPart hc
    · obtain rfl | ⟨rfl, -⟩ := hpoint
      · rw [List.mem_singleton.1 hc]
        exact .inr (.inr (.inr (.inr rfl)))
      · cases hc
    · exact hfraction.isPart hc
    · exact hpower.isPart hc
  | infinite hsign hword =>
    obtain hc | hc := List.mem_append.1 hc
    · exact hsign.isPart hc
    · obtain hword | hword := hword
      · exact .inr (.inl (isAlpha_of_word hword (by decide) hc))
      · exact .inr (.inl (isAlpha_of_word hword (by decide) hc))
  | nan hsign hword =>
    obtain hc | hc := List.mem_append.1 hc
    · exact hsign.isPart hc
    · exact .inr (.inl (isAlpha_of_word hword (by decide) hc))

/-- The digits at the start of a text are all digits. -/
lemma allDigits_takeWhile (text : List Char) : AllDigits (text.takeWhile Char.isDigit) :=
  fun _ hc => List.mem_takeWhile_imp hc

/-- What follows the digits at the start of a text does not start with one. -/
lemma noDigit_dropWhile (text : List Char) : NoDigit (text.dropWhile Char.isDigit) := by
  intro c hc
  have hnot := List.head?_dropWhile_not Char.isDigit text
  rw [hc] at hnot
  simpa using hnot

/-- A text is digits, a point with digits after it if there is one, and what follows. -/
lemma exists_decimal (text : List Char) :
    ∃ whole point fraction after, text = whole ++ (point ++ (fraction ++ after)) ∧
      AllDigits whole ∧ AllDigits fraction ∧ NoDigit after ∧
      (point = ['.'] ∨ (point = [] ∧ fraction = [] ∧ after.head? ≠ some '.')) := by
  have htext := List.takeWhile_append_dropWhile (p := Char.isDigit) (l := text)
  by_cases hpoint : (text.dropWhile Char.isDigit).head? = some '.'
  · obtain ⟨more, hmore⟩ := List.head?_eq_some_iff.1 hpoint
    refine ⟨_, ['.'], more.takeWhile Char.isDigit, more.dropWhile Char.isDigit, ?_,
      allDigits_takeWhile text, allDigits_takeWhile more, noDigit_dropWhile more, .inl rfl⟩
    rw [List.takeWhile_append_dropWhile, List.singleton_append, ← hmore, htext]
  · exact ⟨_, [], [], _, htext.symm, allDigits_takeWhile text, nofun, noDigit_dropWhile text,
      .inr ⟨rfl, rfl, hpoint⟩⟩

/-- A numeral is read by its sign, the digits before and after the point, and its exponent. -/
lemma numberOfDigits?_append {whole point fraction after : List Char}
    (hsign : readSign text = (negative, whole ++ (point ++ (fraction ++ after))))
    (hwhole : AllDigits whole) (hfraction : AllDigits fraction) (hafter : NoDigit after)
    (hpoint : point = ['.'] ∨ (point = [] ∧ fraction = [] ∧ after.head? ≠ some '.')) :
    numberOfDigits? text =
      if whole = [] ∧ fraction = [] then numberOfWord? negative (point ++ after)
      else if (readExponent after).2 = [] then
        some (.ofDecimal negative (naturalOf (whole ++ fraction))
          ((readExponent after).1.getD 0 - fraction.length))
      else none := by
  have hrest : NoDigit (point ++ (fraction ++ after)) := by
    obtain rfl | ⟨rfl, rfl, -⟩ := hpoint
    · intro c hc
      cases hc
      rfl
    · exact hafter
  rw [numberOfDigits?, hsign]
  dsimp only
  rw [Text.takeWhile_run hwhole hrest, Text.dropWhile_run hwhole hrest]
  obtain rfl | ⟨rfl, rfl, hhead⟩ := hpoint
  · rw [List.singleton_append]
    simp only [Text.takeWhile_run hfraction hafter, Text.dropWhile_run hfraction hafter,
      List.isEmpty_iff]
    split
    case isTrue hnone => rw [hnone.1, hnone.2]; rfl
    case isFalse => rfl
  · rw [List.nil_append, List.nil_append]
    split
    case h_1 => exact absurd rfl hhead
    case h_2 =>
      simp only [List.isEmpty_iff]
      split
      case isTrue hnone => rw [hnone.1]; rfl
      case isFalse => rfl

/-- The words for numbers are those for infinity and for no number. -/
lemma numberOfWord?_eq_some_iff {word : List Char} :
    numberOfWord? negative word = some x ↔
      ((word.map Char.toLower = "inf".toList ∨ word.map Char.toLower = "infinity".toList) ∧
        x = .infinite negative) ∨ (word.map Char.toLower = "nan".toList ∧ x = .nan) := by
  have hword : ∀ name : String, String.ofList (word.map Char.toLower) = name ↔
      word.map Char.toLower = name.toList := by
    intro name
    rw [← String.toList_inj, String.toList_ofList]
  simp only [numberOfWord?, hword]
  split
  case isTrue hinf =>
    have hnan : word.map Char.toLower ≠ "nan".toList := by
      intro h
      rw [h] at hinf
      revert hinf
      decide
    simp only [hinf, hnan, true_and, false_and, or_false, Option.some.injEq]
    exact eq_comm
  case isFalse hinf =>
    simp only [hinf, false_and, false_or, Option.ite_none_right_eq_some, Option.some.injEq]
    exact and_congr_right fun _ => eq_comm

/-- The sign before a word is read, as a letter is no sign, and no digit. -/
lemma readSign_append_word {sign word : List Char} (hsign : IsSign negative sign)
    (hword : ∀ c ∈ word, c.isAlpha = true) :
    readSign (sign ++ word) = (negative, word) ∧ NoDigit word ∧ word.head? ≠ some '.' := by
  have hhead : ∀ c, word.head? = some c → c.isAlpha = true :=
    fun c hc => hword c (List.mem_of_head? hc)
  refine ⟨readSign_of_isSign hsign ?_, ?_, ?_⟩
  · intro c hc
    refine ⟨?_, ?_⟩ <;> rintro rfl <;> exact absurd (hhead _ hc) (by decide)
  · intro c hc
    exact not_isDigit_of_isAlpha (hhead c hc)
  · intro hpoint
    exact absurd (hhead _ hpoint) (by decide)

/-- A sign and a word of letters are read as the word. -/
lemma numberOfDigits?_word {sign word : List Char} (hsign : IsSign negative sign)
    (hword : ∀ c ∈ word, c.isAlpha = true) :
    numberOfDigits? (sign ++ word) = numberOfWord? negative word := by
  obtain ⟨hread, hdigit, hpoint⟩ := readSign_append_word hsign hword
  have hempty : AllDigits [] := nofun
  have hparts : readSign (sign ++ word) = (negative, [] ++ ([] ++ ([] ++ word))) := hread
  rw [numberOfDigits?_append hparts hempty hempty hdigit (.inr ⟨rfl, rfl, hpoint⟩),
    if_pos ⟨rfl, rfl⟩]
  rfl

/-- A numeral is read as what it stands for. -/
lemma IsNumeral.numberOfDigits? (h : IsNumeral text x) :
    Json.numberOfDigits? text = some x := by
  cases h with
  | @decimal negative sign whole point fraction exponent power hsign hwhole hfraction hne hpoint
      hpower =>
    have hread : readSign (sign ++ (whole ++ (point ++ (fraction ++ exponent)))) =
        (negative, whole ++ (point ++ (fraction ++ exponent))) := by
      refine readSign_of_isSign hsign ?_
      intro c hc
      by_cases hnil : whole = []
      · subst hnil
        obtain rfl | ⟨rfl, rfl⟩ := hpoint
        · cases hc
          decide
        · exact absurd rfl hne
      · rw [List.head?_append_of_ne_nil whole hnil] at hc
        exact ne_sign_of_isDigit (hwhole.head hc)
    have hexponent : readExponent exponent = (power, []) := by
      have hread : readExponent (exponent ++ []) = (power, []) :=
        readExponent_of_isExponent hpower nofun nofun
      rwa [List.append_nil] at hread
    rw [numberOfDigits?_append hread hwhole hfraction hpower.noDigit, hexponent, if_neg]
    · rfl
    · rwa [← List.append_eq_nil_iff]
    · refine hpoint.imp_right fun h => ⟨h.1, h.2, ?_⟩
      intro hhead
      obtain h | h := hpower.head hhead <;> cases h
  | @infinite negative sign word hsign hword =>
    have hall : ∀ c ∈ word, c.isAlpha = true := by
      intro c hc
      obtain hword | hword := hword
      · exact isAlpha_of_word hword (by decide) hc
      · exact isAlpha_of_word hword (by decide) hc
    rw [numberOfDigits?_word hsign hall]
    exact numberOfWord?_eq_some_iff.2 (.inl ⟨hword, rfl⟩)
  | nan hsign hword =>
    rw [numberOfDigits?_word hsign fun c hc => isAlpha_of_word hword (by decide) hc]
    exact numberOfWord?_eq_some_iff.2 (.inr ⟨hword, rfl⟩)

/-- The numbers that are read are those that numerals stand for. -/
lemma numberOfDigits?_eq_some_iff : Json.numberOfDigits? text = some x ↔ IsNumeral text x := by
  refine ⟨?_, IsNumeral.numberOfDigits?⟩
  intro h
  obtain ⟨sign, hsign, htext⟩ := readSign_sound text
  obtain ⟨whole, point, fraction, after, hrest, hwhole, hfraction, hafter, hpoint⟩ :=
    exists_decimal (readSign text).2
  have hread : readSign text = ((readSign text).1, whole ++ (point ++ (fraction ++ after))) := by
    rw [← hrest]
  rw [numberOfDigits?_append hread hwhole hfraction hafter hpoint] at h
  rw [htext, hrest]
  split at h
  case isTrue hnone =>
    obtain ⟨rfl, rfl⟩ := hnone
    obtain ⟨hword, rfl⟩ | ⟨hword, rfl⟩ := numberOfWord?_eq_some_iff.1 h
    · exact .infinite hsign hword
    · exact .nan hsign hword
  case isFalse hsome =>
    obtain ⟨exponent, hexponent, hpower⟩ := readExponent_sound after
    rw [Option.ite_none_right_eq_some, Option.some.injEq] at h
    obtain ⟨hnil, rfl⟩ := h
    rw [hnil, List.append_nil] at hexponent
    subst hexponent
    refine .decimal hsign hwhole hfraction ?_ ?_ hpower
    · rwa [Ne, List.append_eq_nil_iff]
    · exact hpoint.imp_right fun h => ⟨h.1, h.2.1⟩

/-! White space around a numeral. -/

/-- Nothing but the white space that can stand around a numeral. -/
def AllMargin (text : List Char) : Prop :=
  ∀ c ∈ text, isMargin c = true

/-- A text is its numeral between margins. -/
lemma numeral_sound (text : String) :
    ∃ before after, AllMargin before ∧ AllMargin after ∧
      text.toList = before ++ (numeral text ++ after) := by
  refine ⟨text.toList.takeWhile isMargin,
    ((text.toList.dropWhile isMargin).reverse.takeWhile isMargin).reverse, ?_, ?_, ?_⟩
  · exact fun c hc => List.mem_takeWhile_imp hc
  · exact fun c hc => List.mem_takeWhile_imp (List.mem_reverse.1 hc)
  · rw [numeral, ← List.reverse_append, List.takeWhile_append_dropWhile, List.reverse_reverse,
      List.takeWhile_append_dropWhile]

/-- The numeral between margins is what has none. -/
lemma numeral_of_margins {text : String} {before body after : List Char}
    (htext : text.toList = before ++ (body ++ after)) (hbefore : AllMargin before)
    (hafter : AllMargin after) (hbody : ∀ c ∈ body, isMargin c = false) :
    numeral text = body := by
  have hhead : ∀ c, (body.reverse.head? = some c ∨ body.head? = some c) → isMargin c = false := by
    intro c hc
    refine hbody c ?_
    obtain hc | hc := hc
    · exact List.mem_reverse.1 (List.mem_of_head? hc)
    · exact List.mem_of_head? hc
  obtain rfl | hne := eq_or_ne body []
  · have hnothing : (before ++ after).dropWhile isMargin = [] :=
      List.dropWhile_eq_nil_iff.2 (List.forall_mem_append.2 ⟨hbefore, hafter⟩)
    rw [numeral, htext, List.nil_append, hnothing]
    rfl
  · rw [numeral, htext, Text.dropWhile_run hbefore, List.reverse_append, Text.dropWhile_run,
      List.reverse_reverse]
    · exact fun c hc => hafter c (List.mem_reverse.1 hc)
    · exact fun c hc => hhead c (.inl hc)
    · intro c hc
      rw [List.head?_append_of_ne_nil body hne] at hc
      exact hhead c (.inr hc)

/-! Underscores among digits. -/

/-- Every underscore stands between two other characters. -/
structure Grouped (text : List Char) : Prop where
  first : text.head? ≠ some '_'
  last : text.getLast? ≠ some '_'
  single : ∀ front back, text ≠ front ++ '_' :: '_' :: back

/-- Two characters are neighbours if one stands behind the other. -/
lemma mem_zip_tail_iff {a b : Char} :
    (a, b) ∈ text.zip text.tail ↔ ∃ front back, text = front ++ a :: b :: back := by
  induction text with
  | nil => simp
  | cons c text ih =>
    cases text with
    | nil =>
      refine iff_of_false nofun ?_
      rintro ⟨front, back, h⟩
      have hlength := congrArg List.length h
      simp only [List.length_append, List.length_cons, List.length_nil] at hlength
      omega
    | cons d text =>
      rw [List.tail_cons] at ih ⊢
      rw [List.zip_cons_cons, List.mem_cons, ih]
      refine ⟨?_, ?_⟩
      · rintro (h | ⟨front, back, h⟩)
        · cases h
          exact ⟨[], text, rfl⟩
        · exact ⟨c :: front, back, congrArg (c :: ·) h⟩
      · rintro ⟨front, back, h⟩
        cases front with
        | nil =>
          cases h
          exact .inl rfl
        | cons e front =>
          rw [List.cons_append, List.cons.injEq] at h
          exact .inr ⟨front, back, h.2⟩

/-- A text that is well grouped loses its underscores. -/
lemma ungroup?_eq_some_iff {out : List Char} :
    ungroup? text = some out ↔ Grouped text ∧ out = text.filter (· ≠ '_') := by
  rw [ungroup?, Option.ite_none_left_eq_some, Option.some.injEq, not_or, not_or, mem_zip_tail_iff]
  refine and_congr ?_ eq_comm
  refine ⟨?_, ?_⟩
  · rintro ⟨hfirst, hlast, hsingle⟩
    exact ⟨hfirst, hlast, fun front back h => hsingle ⟨front, back, h⟩⟩
  · intro h
    exact ⟨h.first, h.last, fun ⟨front, back, heq⟩ => h.single front back heq⟩

/-! Numbers. -/

/-- What counts as a number in a string: a numeral in white space, or one with underscores. -/
inductive IsNumberText : List Char → Binary64 → Prop where
  | plain {before body after : List Char} {x : Binary64} :
      AllMargin before → AllMargin after → IsNumeral body x →
        IsNumberText (before ++ (body ++ after)) x
  | grouped {text : List Char} {x : Binary64} :
      Grouped text → IsNumeral (text.filter (· ≠ '_')) x → IsNumberText text x

/-- What counts as a number, and as which one. An integer has to be in the range of the format. -/
inductive IsNumber : Json → Binary64 → Prop where
  | int {n : Int} {x : Binary64} :
      Binary64.ofRatio (decide (n < 0)) n.natAbs 1 = x → (∀ negative, x ≠ .infinite negative) →
        IsNumber (.int n) x
  | bool (value : Bool) :
      IsNumber (.bool value) (.finite false (if value then Binary64.unit else 0))
  | float (x : Binary64) : IsNumber (.float x) x
  | str {text : String} {x : Binary64} : IsNumberText text.toList x → IsNumber (.str text) x

/-- An underscore is no white space. -/
lemma AllMargin.notMem_underscore (h : AllMargin text) : '_' ∉ text :=
  fun hc => absurd (h _ hc) (by decide)

/-- No underscore stands in a numeral. -/
lemma IsNumeral.notMem_underscore (h : IsNumeral text x) : '_' ∉ text :=
  fun hc => (h.isPart hc).plain.2 rfl

/-- A text with underscores is a number if it is well grouped and one without them. -/
lemma isNumberText_iff_of_mem (h : '_' ∈ text) :
    IsNumberText text x ↔ Grouped text ∧ IsNumeral (text.filter (· ≠ '_')) x := by
  refine ⟨?_, fun h => .grouped h.1 h.2⟩
  intro hnumber
  cases hnumber with
  | plain hbefore hafter hbody =>
    obtain hmem | hmem := List.mem_append.1 h
    · exact absurd hmem hbefore.notMem_underscore
    · obtain hmem | hmem := List.mem_append.1 hmem
      · exact absurd hmem hbody.notMem_underscore
      · exact absurd hmem hafter.notMem_underscore
  | grouped hgrouped hbody => exact ⟨hgrouped, hbody⟩

/-- A text without underscores is a number if it is a numeral between margins. -/
lemma isNumberText_iff_of_notMem (h : '_' ∉ text) :
    IsNumberText text x ↔
      ∃ before body after, AllMargin before ∧ AllMargin after ∧ IsNumeral body x ∧
        text = before ++ (body ++ after) := by
  refine ⟨?_, ?_⟩
  · intro hnumber
    cases hnumber with
    | plain hbefore hafter hbody => exact ⟨_, _, _, hbefore, hafter, hbody, rfl⟩
    | grouped hgrouped hbody =>
      have hall : ∀ c ∈ text, decide (c ≠ '_') = true := by
        intro c hc
        refine decide_eq_true ?_
        rintro rfl
        exact h hc
      rw [List.filter_eq_self.2 hall] at hbody
      refine ⟨[], text, [], nofun, nofun, hbody, ?_⟩
      rw [List.append_nil, List.nil_append]
  · rintro ⟨before, body, after, hbefore, hafter, hbody, rfl⟩
    exact .plain hbefore hafter hbody

/-- The numbers that are read from texts are those that the texts stand for. -/
lemma numberOfNumeral?_eq_some_iff {text : String} :
    numberOfNumeral? text = some x ↔ IsNumberText text.toList x := by
  rw [numberOfNumeral?]
  split
  case isTrue hunderscore =>
    rw [isNumberText_iff_of_mem (List.contains_iff_mem.1 hunderscore)]
    simp only [Option.bind_eq_some_iff, ungroup?_eq_some_iff, numberOfDigits?_eq_some_iff]
    refine ⟨?_, ?_⟩
    · rintro ⟨-, ⟨hgrouped, rfl⟩, h⟩
      exact ⟨hgrouped, h⟩
    · rintro ⟨hgrouped, h⟩
      exact ⟨_, ⟨hgrouped, rfl⟩, h⟩
  case isFalse hunderscore =>
    rw [List.contains_iff_mem] at hunderscore
    rw [isNumberText_iff_of_notMem hunderscore, numberOfDigits?_eq_some_iff]
    refine ⟨?_, ?_⟩
    · intro h
      obtain ⟨before, after, hbefore, hafter, htext⟩ := numeral_sound text
      exact ⟨before, _, after, hbefore, hafter, h, htext⟩
    · rintro ⟨before, body, after, hbefore, hafter, h, htext⟩
      rwa [numeral_of_margins htext hbefore hafter fun c hc => (h.isPart hc).plain.1]

/-- The reader takes a value as a number exactly if it counts as one. -/
lemma asNumber?_eq_some_iff {value : Json} : value.asNumber? = some x ↔ IsNumber value x := by
  refine ⟨?_, ?_⟩
  · intro h
    cases value with
    | null => cases h
    | bool value =>
      cases h
      exact .bool value
    | int n =>
      rw [asNumber?, Binary64.ofInt?, Binary64.bounded?_eq_some_iff] at h
      exact .int h.1 h.2
    | float value =>
      cases h
      exact .float x
    | str string =>
      obtain ⟨text, htext, hnumber⟩ := Option.bind_eq_some_iff.1 h
      rw [Wide.text?_eq_some_iff.1 htext]
      exact .str (numberOfNumeral?_eq_some_iff.1 hnumber)
    | arr items => cases h
    | obj fields => cases h
  · intro h
    cases h with
    | int hx hne =>
      rw [asNumber?, Binary64.ofInt?, Binary64.bounded?_eq_some_iff]
      exact ⟨hx, hne⟩
    | bool value => rfl
    | float => rfl
    | @str text _ h =>
      rw [asNumber?, Wide.text?_ofString, Option.bind_some]
      exact numberOfNumeral?_eq_some_iff.2 h

end Remap.Json
