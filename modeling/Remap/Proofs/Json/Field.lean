import Mathlib.Data.List.Basic
import Remap.Json.Lenient

/-!
# Fields of an object

A field that may be absent: of several with its name the last one counts, and what it holds counts
as something or spoils the object. `optional?_eq_some_iff` says of any reader of which it is known
what it takes that the field is read as what it says.
-/

namespace Remap.Json

variable {α : Type} {fields : List (Wide × Json)} {name : Wide} {value : Json} {usual a : α}
  {read : Json → Option α} {Counts : Json → α → Prop}

/-- The field with this name holds the value: no other one with the name follows it. -/
def Holds (fields : List (Wide × Json)) (name : Wide) (value : Json) : Prop :=
  ∃ before after, fields = before ++ (name, value) :: after ∧ ∀ field ∈ after, field.1 ≠ name

/-- There is no field with this name. -/
def Lacks (fields : List (Wide × Json)) (name : Wide) : Prop :=
  ∀ field ∈ fields, field.1 ≠ name

/-- What a field says, if it counts as something, or what it usually is, if there is none. -/
inductive Says (fields : List (Wide × Json)) (name : Wide) (usual : α)
    (Counts : Json → α → Prop) : α → Prop where
  | absent : Lacks fields name → Says fields name usual Counts usual
  | present {value : Json} {a : α} : Holds fields name value → Counts value a →
      Says fields name usual Counts a

/-- There is such a field, and its value counts as nothing. -/
def Spoiled (fields : List (Wide × Json)) (name : Wide) (Counts : Json → α → Prop) : Prop :=
  ∃ value, Holds fields name value ∧ ∀ a, ¬ Counts value a

/-- A field says the usual value, or one that it holds. -/
lemma Says.eq_usual_or (h : Says fields name usual Counts a) :
    a = usual ∨ ∃ value, Holds fields name value ∧ Counts value a := by
  cases h with
  | absent => exact .inl rfl
  | present hholds hcounts => exact .inr ⟨_, hholds, hcounts⟩

/-- What is found under a name is what the last field with it holds. -/
lemma field?_eq_some_iff : (obj fields).field? name = some value ↔ Holds fields name value := by
  simp only [field?, Option.map_eq_some_iff, List.find?_eq_some_iff_append, beq_iff_eq,
    Bool.not_eq_true', beq_eq_false_iff_ne]
  refine ⟨?_, ?_⟩
  · rintro ⟨⟨_, _⟩, ⟨rfl, after, before, hfields, hafter⟩, rfl⟩
    refine ⟨before.reverse, after.reverse, ?_, ?_⟩
    · rw [← List.reverse_reverse fields, hfields, List.reverse_append, List.reverse_cons,
        List.append_assoc, List.singleton_append]
    · exact fun field hfield => hafter field (List.mem_reverse.1 hfield)
  · rintro ⟨before, after, rfl, hafter⟩
    refine ⟨(name, value), ⟨rfl, after.reverse, before.reverse, ?_, ?_⟩, rfl⟩
    · rw [List.reverse_append, List.reverse_cons, List.append_assoc, List.singleton_append]
    · exact fun field hfield => hafter field (List.mem_reverse.1 hfield)

/-- Nothing is found under a name if no field has it. -/
lemma field?_eq_none_iff : (obj fields).field? name = none ↔ Lacks fields name := by
  simp only [field?, Option.map_eq_none_iff, List.find?_eq_none, List.mem_reverse, beq_iff_eq]
  exact Iff.rfl

/-- A field that may be absent is read as what it says. -/
lemma optional?_eq_some_iff (hread : ∀ value a, read value = some a ↔ Counts value a) :
    (obj fields).optional? name usual read = some a ↔ Says fields name usual Counts a := by
  rw [optional?]
  refine ⟨?_, ?_⟩
  · intro h
    cases hfield : (obj fields).field? name with
    | none =>
      rw [hfield] at h
      cases h
      exact .absent (field?_eq_none_iff.1 hfield)
    | some value =>
      rw [hfield] at h
      exact .present (field?_eq_some_iff.1 hfield) ((hread value a).1 h)
  · intro h
    cases h with
    | absent hlacks => rw [field?_eq_none_iff.2 hlacks]
    | present hholds hcounts =>
      rw [field?_eq_some_iff.2 hholds]
      exact (hread _ a).2 hcounts

/-- A field says something, or is spoiled. -/
lemma says_or_spoiled (fields : List (Wide × Json)) (name : Wide) (usual : α)
    (Counts : Json → α → Prop) :
    (∃ a, Says fields name usual Counts a) ∨ Spoiled fields name Counts := by
  cases hfield : (obj fields).field? name with
  | none => exact .inl ⟨usual, .absent (field?_eq_none_iff.1 hfield)⟩
  | some value =>
    have hholds := field?_eq_some_iff.1 hfield
    by_cases hcounts : ∃ a, Counts value a
    · obtain ⟨a, ha⟩ := hcounts
      exact .inl ⟨a, .present hholds ha⟩
    · exact .inr ⟨value, hholds, not_exists.1 hcounts⟩

/-- A spoiled field says nothing. -/
lemma Spoiled.not_says (h : Spoiled fields name Counts) : ¬ Says fields name usual Counts a := by
  obtain ⟨value, hholds, hnothing⟩ := h
  rw [← field?_eq_some_iff] at hholds
  intro hsays
  cases hsays with
  | absent hlacks =>
    rw [field?_eq_none_iff.2 hlacks] at hholds
    cases hholds
  | present hholds' hcounts =>
    rw [field?_eq_some_iff.2 hholds', Option.some.injEq] at hholds
    exact hnothing a (hholds ▸ hcounts)

/-! Texts. -/

/-- What counts as a text: a string. -/
def IsText (value : Json) (text : Wide) : Prop :=
  value = .str text

/-- What counts as a list of texts: an array of strings. -/
def IsTexts (value : Json) (texts : List Wide) : Prop :=
  value = .arr (texts.map .str)

/-- What counts as a text that may be missing: a string, or null. -/
inductive IsNullableText : Json → Option Wide → Prop where
  | null : IsNullableText .null none
  | str (text : Wide) : IsNullableText (.str text) (some text)

/-- A text is what a string holds. -/
lemma asWide?_eq_some_iff {text : Wide} : value.asWide? = some text ↔ IsText value text := by
  refine ⟨?_, ?_⟩
  · intro h
    cases value <;> cases h
    rfl
  · rintro rfl
    rfl

/-- Values are read as texts if all of them are strings. -/
lemma mapM_asWide?_eq_some_iff {items : List Json} {texts : List Wide} :
    items.mapM asWide? = some texts ↔ items = texts.map .str := by
  induction items generalizing texts with
  | nil => cases texts <;> simp
  | cons value items ih =>
    simp only [List.mapM_cons, Option.bind_eq_bind, Option.bind_eq_some_iff, asWide?_eq_some_iff,
      ih, Option.pure_def, Option.some.injEq]
    refine ⟨?_, ?_⟩
    · rintro ⟨text, rfl, more, rfl, rfl⟩
      rfl
    · intro h
      cases texts with
      | nil => cases h
      | cons text more =>
        rw [List.map_cons, List.cons.injEq] at h
        exact ⟨text, h.1, more, h.2, rfl⟩

/-- A list of texts is what an array of strings holds. -/
lemma asListOf?_asWide?_eq_some_iff {texts : List Wide} :
    value.asListOf? asWide? = some texts ↔ IsTexts value texts := by
  refine ⟨?_, ?_⟩
  · intro h
    cases value with
    | arr items => exact congrArg Json.arr (mapM_asWide?_eq_some_iff.1 h)
    | _ => cases h
  · rintro rfl
    exact mapM_asWide?_eq_some_iff.2 rfl

/-- A text or nothing is what a string or null holds. -/
lemma asNullable?_asWide?_eq_some_iff {text : Option Wide} :
    value.asNullable? asWide? = some text ↔ IsNullableText value text := by
  refine ⟨?_, ?_⟩
  · intro h
    cases value with
    | null =>
      cases h
      exact .null
    | str value =>
      cases h
      exact .str value
    | _ => cases h
  · intro h
    cases h with
    | null => rfl
    | str => rfl

end Remap.Json
