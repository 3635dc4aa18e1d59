import Remap.Completion
import Remap.Function.Explanation
import Remap.Hover
import Remap.Proofs.Check.Fallible
import Remap.Proofs.Registry
import Remap.Proofs.Text.Position

/-!
# Where functions are looked up

Completion, hover, the check of calls and explanations each find the functions of a registry in
their own way: as a list of items, as the word under the cursor, as the name of a call site, by the
name itself. `lookups_agree` says that they agree on which functions there are and on what is known
of them, but that the explanation takes an empty registry for the standard one.
-/

namespace Remap

open Text

variable {registry : Registry} {name : String}

namespace Registry

/-- A registry contains what it has a definition of. -/
lemma contains_iff : registry.contains name = true ↔ ∃ spec, registry.get? name = some spec := by
  rw [contains, Option.isSome_iff_exists]

end Registry

/-! Completion. -/

namespace Completion

variable {text : List Char} {line character : Int}

/-- The items offer a function under the name. -/
def Offers (items : List CompletionItem) (name : String) : Prop :=
  ∃ item ∈ items, item.kind = .function ∧ item.label = name

/-- An item for a function, wherever it is offered, is made for a function of the registry. -/
lemma exists_spec_of_mem_items {item : CompletionItem}
    (h : item ∈ items registry text line character) (hkind : item.kind = .function) :
    ∃ spec ∈ registry.specs, item = .ofFunction spec := by
  rw [items] at h
  split at h
  · obtain h | h := List.mem_append.1 h
    · obtain ⟨field, -, rfl⟩ := List.mem_map.1 h
      cases hkind
    · obtain ⟨field, -, rfl⟩ := List.mem_map.1 h
      cases hkind
  · obtain h | h := List.mem_append.1 h
    · obtain h | h := List.mem_append.1 h
      · obtain ⟨spec, hspec, rfl⟩ := List.mem_map.1 h
        exact ⟨spec, hspec, rfl⟩
      · obtain ⟨word, -, rfl⟩ := List.mem_map.1 h
        cases hkind
    · obtain ⟨type, -, rfl⟩ := List.mem_map.1 h
      cases hkind

/-- Every function of the registry is offered, except after a point. -/
lemma ofFunction_mem_items {spec : FunctionSpec} (hspec : spec ∈ registry.specs)
    (h : (lineBefore text line character).getLast? ≠ some '.') :
    .ofFunction spec ∈ items registry text line character := by
  rw [items, if_neg h, words]
  exact List.mem_append_left _ (List.mem_append_left _ (List.mem_map_of_mem hspec))

/-- Unless a point stands before the cursor, the functions of the registry are offered. -/
lemma offers_items_iff (h : (lineBefore text line character).getLast? ≠ some '.') :
    Offers (items registry text line character) name ↔ registry.contains name = true := by
  rw [Registry.contains_iff]
  refine ⟨?_, ?_⟩
  · intro hoffers
    obtain ⟨item, hitem, hkind, rfl⟩ := hoffers
    obtain ⟨spec, hspec, rfl⟩ := exists_spec_of_mem_items hitem hkind
    exact ⟨spec, Registry.get?_of_mem hspec⟩
  · intro hget
    obtain ⟨spec, hspec⟩ := hget
    exact ⟨.ofFunction spec, ofFunction_mem_items (Registry.mem_of_get? hspec) h, rfl,
      Registry.name_of_get? hspec⟩

/-- Under the name of a function nothing but this function is offered. -/
lemma eq_ofFunction_of_mem_items {spec : FunctionSpec} (hspec : registry.get? name = some spec)
    {item : CompletionItem} (h : item ∈ items registry text line character)
    (hkind : item.kind = .function) (hlabel : item.label = name) : item = .ofFunction spec := by
  obtain ⟨found, hfound, rfl⟩ := exists_spec_of_mem_items h hkind
  have hget := Registry.get?_of_mem hfound
  rw [show found.name = name from hlabel, hspec] at hget
  cases hget
  rfl

end Completion

/-! Hover. -/

namespace Hover

/-- What is shown is the documentation of a function with the name. -/
def Documents (hover : Option Hover) (name : String) : Prop :=
  ∃ (spec : FunctionSpec) (range : Range), spec.name = name ∧
    hover = some ⟨functionContents spec, range⟩

/-- A line of accepted characters is touched as a whole at its start. -/
lemma touching?_whole {accept : Char → Bool} {line : List Char} (hne : line ≠ [])
    (h : ∀ c ∈ line, accept c = true) :
    Span.touching? accept line 0 = some ⟨0, line.length⟩ := by
  have hafter : line.takeWhile accept = line := List.takeWhile_eq_self_iff.2 h
  have hpos : line.length ≠ 0 := fun hzero => hne (List.length_eq_zero_iff.1 hzero)
  rw [Span.touching?, if_neg (Nat.not_lt_zero _)]
  simp [hafter, hpos]

/-- The whole span of a line is its text. -/
lemma text_whole (line : List Char) : Span.text ⟨0, line.length⟩ line = line := by
  rw [Span.text, List.drop_zero, Nat.sub_zero, List.take_length]

/-- What is shown on a document that is a name is what is known of the name. -/
lemma at?_name (registry : Registry) (hname : IsIdentifier name.toList) :
    at? registry name.toList 0 0 =
      (wordContents? registry name.toList ⟨0, name.toList.length⟩).map
        fun contents => ⟨contents, .onLine 0 0 name.toList.length⟩ := by
  obtain ⟨⟨c, hc, -⟩, hchars⟩ := hname
  have hne : name.toList ≠ [] := by
    intro hnil
    rw [hnil] at hc
    cases hc
  have hfeed : '\n' ∉ name.toList := fun h => absurd (hchars '\n' h) (by decide)
  have hline : line? name.toList 0 = some name.toList := by
    show (lines name.toList)[0]? = some name.toList
    rw [lines_of_notMem hfeed]
    rfl
  simp only [at?, hline, onLine?, touching?_whole hne hchars, Option.map_map]
  rfl

/-- The documentation of a function starts with code, and nothing else does. -/
lemma head?_functionContents (spec : FunctionSpec) :
    (functionContents spec).toList.head? = some '`' := by
  unfold functionContents
  simp only [String.toList_append, List.head?_append]
  rfl

/-- The text about a keyword starts in bold. -/
lemma head?_keywordContents (word doc : String) :
    (keywordContents word doc).toList.head? = some '*' := by
  unfold keywordContents
  simp only [String.toList_append, List.head?_append]
  rfl

/-- The text about a path starts in bold. -/
lemma head?_pathContents (path : List Char) : (pathContents path).toList.head? = some '*' := by
  unfold pathContents
  simp only [String.toList_append, List.head?_append]
  rfl

/-- A function of the registry is shown with its own text. -/
lemma wordContents?_of_get? {spec : FunctionSpec} (h : registry.get? name = some spec) :
    wordContents? registry name.toList ⟨0, name.toList.length⟩ = some (functionContents spec) := by
  rw [wordContents?, text_whole, String.ofList_toList]
  simp only [h]

/-- What is shown for another word starts in bold. -/
lemma head?_wordContents? (h : registry.get? name = none) {contents : String}
    (hcontents : wordContents? registry name.toList ⟨0, name.toList.length⟩ = some contents) :
    contents.toList.head? = some '*' := by
  rw [wordContents?, text_whole, String.ofList_toList] at hcontents
  simp only [h] at hcontents
  split at hcontents
  · cases hcontents
    exact head?_keywordContents _ _
  · obtain ⟨path, -, rfl⟩ := Option.map_eq_some_iff.1 hcontents
    exact head?_pathContents path

/-- Hovering over a name documents a function if the registry contains it. -/
lemma documents_at?_iff (hname : IsIdentifier name.toList) :
    Documents (at? registry name.toList 0 0) name ↔ registry.contains name = true := by
  rw [Registry.contains_iff, at?_name registry hname]
  refine ⟨?_, ?_⟩
  · intro h
    obtain ⟨spec, range, -, h⟩ := h
    obtain ⟨contents, hcontents, heq⟩ := Option.map_eq_some_iff.1 h
    rw [← Option.isSome_iff_exists, Option.isSome_iff_ne_none]
    intro hnone
    have hhead := head?_wordContents? hnone hcontents
    rw [(Hover.mk.inj heq).1, head?_functionContents] at hhead
    cases hhead
  · intro h
    obtain ⟨spec, hspec⟩ := h
    rw [wordContents?_of_get? hspec]
    exact ⟨spec, _, Registry.name_of_get? hspec, rfl⟩

end Hover

/-! The check of calls. -/

namespace Check

/-- A call of a name that is no word of the language is not reported exactly if it is known. -/
lemma unknownFunctions_call_eq_nil_iff (hname : IsIdentifier name.toList)
    (hkeyword : name ∉ keywords) (number : Int) :
    unknownFunctions registry (name.toList ++ ['(']) number = [] ↔
      registry.contains name = true := by
  have hsites := CallSite.ofLine_call false hname (List.not_mem_nil (a := '('))
  rw [CallSite.bang, if_neg Bool.false_ne_true, List.append_nil, String.ofList_toList] at hsites
  have hcontains : keywords.contains name = false := by
    rw [List.contains_eq_mem]
    exact decide_eq_false hkeyword
  rw [unknownFunctions, hsites, List.map_eq_nil_iff, List.filter_eq_nil_iff,
    List.forall_mem_singleton, hcontains, Bool.or_false, Bool.not_eq_true', Bool.not_eq_false]

end Check

/-! Explanations. -/

namespace Registry

/-- The explanation of a function starts with a heading. -/
lemma head?_explanation (spec : FunctionSpec) : spec.explanation.toList.head? = some '#' := by
  unfold FunctionSpec.explanation
  simp only [String.toList_append, List.head?_append]
  rfl

/-- A name is explained if it is in the registry, or in the standard one for an empty registry. -/
lemma explain_ne_iff :
    registry.explain name ≠ "Unknown function: " ++ name ↔
      registry.orStandard.contains name = true := by
  rw [explain, contains]
  cases registry.orStandard.get? name with
  | none => exact ⟨fun h => absurd rfl h, fun h => absurd h Bool.false_ne_true⟩
  | some spec =>
    refine ⟨fun _ => rfl, ?_⟩
    intro _ h
    have hhead := head?_explanation spec
    rw [show spec.explanation = "Unknown function: " ++ name from h, String.toList_append,
      List.head?_append] at hhead
    cases hhead

/-- A registry with functions stands for itself. -/
lemma orStandard_of_ne_nil (h : registry.specs ≠ []) : registry.orStandard = registry := by
  rw [orStandard, if_neg (by rwa [List.isEmpty_iff])]

/-- The standard registry stands for an empty one. -/
lemma orStandard_of_nil (h : registry.specs = []) : registry.orStandard = standard := by
  rw [orStandard, if_pos (by rwa [List.isEmpty_iff])]

/-- A function of the registry is explained. -/
lemma explain_of_get? {spec : FunctionSpec} (h : registry.get? name = some spec) :
    registry.explain name = spec.explanation := by
  have hne : registry.specs ≠ [] := List.ne_nil_of_mem (mem_of_get? h)
  rw [explain, orStandard_of_ne_nil hne, h]

end Registry

/--
Which functions there are is the same for completion, hover and the check of calls, and for
explanations with a registry that is not empty; an empty one is taken for the standard one there.
Of a function in the registry all of them use the description that its name leads to.
-/
theorem lookups_agree (registry : Registry) (name : String) (text : List Char)
    (line character number : Int) (hname : IsIdentifier name.toList)
    (hplace : (Completion.lineBefore text line character).getLast? ≠ some '.') :
    (Completion.Offers (Completion.items registry text line character) name ↔
      registry.contains name = true) ∧
    (Hover.Documents (Hover.at? registry name.toList 0 0) name ↔
      registry.contains name = true) ∧
    (name ∉ Check.keywords →
      (Check.unknownFunctions registry (name.toList ++ ['(']) number = [] ↔
        registry.contains name = true)) ∧
    (registry.specs ≠ [] →
      (registry.explain name ≠ "Unknown function: " ++ name ↔
        registry.contains name = true)) ∧
    (registry.specs = [] →
      (registry.explain name ≠ "Unknown function: " ++ name ↔
        Registry.standard.contains name = true)) ∧
    ∀ spec, registry.get? name = some spec →
      (∀ item ∈ Completion.items registry text line character,
        item.kind = .function → item.label = name → item = .ofFunction spec) ∧
      Hover.at? registry name.toList 0 0 =
        some ⟨Hover.functionContents spec, .onLine 0 0 name.toList.length⟩ ∧
      registry.explain name = spec.explanation := by
  refine ⟨Completion.offers_items_iff hplace, Hover.documents_at?_iff hname, ?_, ?_, ?_, ?_⟩
  · intro hkeyword
    exact Check.unknownFunctions_call_eq_nil_iff hname hkeyword number
  · intro hne
    rw [Registry.explain_ne_iff, Registry.orStandard_of_ne_nil hne]
  · intro hnil
    rw [Registry.explain_ne_iff, Registry.orStandard_of_nil hnil]
  · intro spec hspec
    refine ⟨?_, ?_, Registry.explain_of_get? hspec⟩
    · intro item hitem hkind hlabel
      exact Completion.eq_ofFunction_of_mem_items hspec hitem hkind hlabel
    · rw [Hover.at?_name registry hname, Hover.wordContents?_of_get? hspec]
      rfl

/-- A function of a registry without the standard ones. -/
theorem lookups_agree_fetch :
    let fetch : FunctionSpec :=
      ⟨"fetch", .event, true, [.required "url" "string"], "any", "Fetches a page.", none⟩
    let registry := Registry.empty.insert fetch
    IsIdentifier "fetch".toList ∧
      (Completion.lineBefore ".a".toList 0 2).getLast? ≠ some '.' ∧
      Completion.Offers (Completion.items registry ".a".toList 0 2) "fetch" ∧
      Hover.at? registry "fetch".toList 0 0 =
        some ⟨Hover.functionContents fetch, .onLine 0 0 5⟩ ∧
      registry.explain "fetch" = fetch.explanation := by
  intro fetch registry
  have hget : registry.get? "fetch" = some fetch := by decide
  obtain ⟨hoffers, -, -, -, -, hspec⟩ :=
    lookups_agree registry "fetch" ".a".toList 0 2 0 (by decide) (by decide)
  obtain ⟨-, hhover, hexplain⟩ := hspec fetch hget
  exact ⟨by decide, by decide, hoffers.2 (Registry.contains_iff.2 ⟨fetch, hget⟩), hhover, hexplain⟩

/-- A standard function is explained although the registry, an empty one, does not have it. -/
theorem explain_of_empty :
    IsIdentifier "upcase".toList ∧
      ¬ (Registry.empty.explain "upcase" ≠ "Unknown function: upcase" ↔
        Registry.empty.contains "upcase" = true) := by
  refine ⟨by decide, ?_⟩
  have hexplained : Registry.empty.explain "upcase" ≠ "Unknown function: upcase" := by
    apply Registry.explain_ne_iff.2
    rw [Registry.orStandard_of_nil rfl, Registry.standard, Registry.contains,
      Registry.get?_ofList]
    decide +kernel
  intro h
  exact absurd (h.1 hexplained) (by decide)

end Remap
