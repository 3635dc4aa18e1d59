import Remap.Proofs.Json.Reader
import Remap.Proofs.Text.Wide

/-!
# The inside of a string

What can stand between two quotes, and the code points that it stands for; the surrogate pairs among
them are joined to give the string. The reader stops at the first quote that is not escaped, so
`readString_sound` and `IsString.readString` say that it takes the inside of a string and nothing
else.
-/

namespace Remap.Json

variable {text rest : List Char}

/-- What stands between the quotes of a string, and the code points that it stands for. -/
inductive InString : List Char → Wide → Prop where
  | nil : InString [] []
  | plain {c : Char} {body : List Char} {points : Wide} :
      c ≠ '"' → c ≠ '\\' → 0x20 ≤ c.toNat → InString body points →
        InString (c :: body) (.char c :: points)
  | escape {e c : Char} {body : List Char} {points : Wide} :
      escaped? e = some c → InString body points →
        InString ('\\' :: e :: body) (.char c :: points)
  | unit {a b c d : Char} {unit : Nat} {body : List Char} {points : Wide} :
      codeUnit? a b c d = some unit → InString body points →
        InString ('\\' :: 'u' :: a :: b :: c :: d :: body) (.ofUnit unit :: points)

/-- What stands between the quotes of a string, and the string. -/
inductive IsString : List Char → Wide → Prop where
  | mk {body : List Char} {points value : Wide} :
      InString body points → Wide.Joined points value → IsString body value

/-- What was found before a code point and after it, put together. -/
lemma reverse_cons_append {α : Type} (c : α) (found more : List α) :
    (c :: found).reverse ++ more = found.reverse ++ c :: more := by
  rw [List.reverse_cons, List.append_assoc, List.singleton_append]

/-- What is read up to the closing quote is added to the code points found before. -/
lemma readString_inside {found value : Wide} (h : readString found text = some (value, rest)) :
    ∃ body points, text = body ++ '"' :: rest ∧ InString body points ∧
      value = Wide.joinPairs (found.reverse ++ points) := by
  fun_induction readString found text with
  | case3 found a b c d more unit hunit ih =>
    obtain ⟨body, points, rfl, hbody, rfl⟩ := ih h
    exact ⟨_, _, rfl, .unit hunit hbody, by rw [reverse_cons_append]⟩
  | case5 found e more hne c hc ih =>
    obtain ⟨body, points, rfl, hbody, rfl⟩ := ih h
    exact ⟨_, _, rfl, .escape hc hbody, by rw [reverse_cons_append]⟩
  | case6 found more =>
    cases h
    exact ⟨[], [], rfl, .nil, by rw [List.append_nil]⟩
  | case8 found c more hne hne' hquote hcontrol ih =>
    obtain ⟨body, points, rfl, hbody, rfl⟩ := ih h
    -- a backslash would be the last character, and no quote would follow
    have hslash : c ≠ '\\' := by
      intro hc
      cases body with
      | nil => exact hne' _ _ hc rfl
      | cons e body => exact hne' _ _ hc rfl
    exact ⟨_, _, rfl, .plain hquote hslash (Nat.le_of_not_lt hcontrol) hbody,
      by rw [reverse_cons_append]⟩
  -- the reader gives up
  | _ => cases h

/-- The code points up to the closing quote are added to those found before. -/
lemma InString.readString {body : List Char} {points : Wide} (h : InString body points)
    (found : Wide) (rest : List Char) :
    readString found (body ++ '"' :: rest) =
      some (Wide.joinPairs (found.reverse ++ points), rest) := by
  induction h generalizing found with
  | nil =>
    rw [List.nil_append, List.append_nil, Json.readString.eq_def]
    rfl
  | @plain c body points hquote hslash hcontrol _ ih =>
    rw [List.cons_append, ← reverse_cons_append, ← ih, Json.readString.eq_def]
    simp [hslash, hquote, Nat.not_lt.2 hcontrol]
  | @escape e c body points he _ ih =>
    rw [List.cons_append, List.cons_append, ← reverse_cons_append, ← ih, Json.readString]
    · rw [he]
    · -- the letter of a code unit is no escape of its own
      rintro a b c d more rfl
      cases he
  | @unit a b c d unit body points hunit _ ih =>
    simp only [List.cons_append]
    rw [← reverse_cons_append, ← ih, Json.readString, hunit]

/-- What is read up to the closing quote is the inside of a string. -/
lemma readString_sound {value : Wide} (h : readString [] text = some (value, rest)) :
    ∃ body, text = body ++ '"' :: rest ∧ IsString body value := by
  obtain ⟨body, points, htext, hbody, hvalue⟩ := readString_inside h
  exact ⟨body, htext, .mk hbody (Wide.joinPairs_iff.2 hvalue.symm)⟩

/-- The inside of a string is read up to the closing quote. -/
lemma IsString.readString {body : List Char} {value : Wide} (h : IsString body value)
    (rest : List Char) : readString [] (body ++ '"' :: rest) = some (value, rest) := by
  obtain ⟨hbody, hjoined⟩ := h
  rw [hbody.readString, List.reverse_nil, List.nil_append, Wide.joinPairs_iff.1 hjoined]

end Remap.Json
