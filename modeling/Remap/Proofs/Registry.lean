import Remap.Function.Registry
import Remap.Proofs.Pairwise

/-!
# Names in a registry

A name leads to the only description in the registry that has it. When descriptions are laid over a
registry, a name leads to the last of them that has the name, and where none of them has it to what
it led to before.
-/

namespace Remap

namespace FunctionSpec

/-- The description is the last one with its name in a list. -/
def IsLastIn (spec : FunctionSpec) (specs : List FunctionSpec) : Prop :=
  ∃ before after, specs = before ++ spec :: after ∧ spec.name ∉ after.map (·.name)

/-- A name that some description has is that of a last one. -/
lemma exists_isLastIn {specs : List FunctionSpec} {name : String}
    (h : name ∈ specs.map (·.name)) :
    ∃ spec : FunctionSpec, spec.IsLastIn specs ∧ spec.name = name := by
  induction specs with
  | nil => cases h
  | cons first rest ih =>
    by_cases hrest : name ∈ rest.map (·.name)
    · obtain ⟨spec, hlast, hname⟩ := ih hrest
      obtain ⟨before, after, rfl, hnone⟩ := hlast
      exact ⟨spec, ⟨first :: before, after, rfl, hnone⟩, hname⟩
    · cases h with
      | head => exact ⟨first, ⟨[], rest, rfl, hrest⟩, rfl⟩
      | tail _ h => exact absurd h hrest

end FunctionSpec

namespace Registry

variable {r : Registry} {extra : List FunctionSpec} {name : String}

/-! One registry. -/

/-- What is found under a name is in the registry. -/
lemma mem_of_get? {spec : FunctionSpec} (h : r.get? name = some spec) : spec ∈ r.specs :=
  List.mem_of_find?_eq_some h

/-- What is found under a name has it. -/
lemma name_of_get? {spec : FunctionSpec} (h : r.get? name = some spec) : spec.name = name := by
  rw [get?] at h
  have hname := List.find?_some h
  exact eq_of_beq hname

/-- A description is the only one with its name. -/
lemma filter_name_of_mem {spec : FunctionSpec} (h : spec ∈ r.specs) :
    r.specs.filter (·.name == spec.name) = [spec] := by
  have hpair : r.specs.Pairwise fun a b => a.name ≠ b.name := List.pairwise_map.1 r.nodup
  apply filter_eq_singleton hpair _ h (beq_self_eq_true spec.name)
  intro a b ha hb hne
  exact hne ((eq_of_beq ha).trans (eq_of_beq hb).symm)

/-- A definition of the registry is found under its name. -/
lemma get?_of_mem {spec : FunctionSpec} (h : spec ∈ r.specs) : r.get? spec.name = some spec := by
  rw [get?, ← List.head?_filter, filter_name_of_mem h]
  rfl

/-! Descriptions laid over a registry. -/

/-- A name leads to the last description that has it, or else to what it led to before. -/
lemma get?_merge (r : Registry) (extra : List FunctionSpec) (name : String) :
    (r.merge extra).get? name =
      (extra.reverse.find? (·.name == name)).or (r.get? name) := by
  induction extra generalizing r with
  | nil => rfl
  | cons spec rest ih =>
    rw [merge_cons, ih, get?_insert, List.reverse_cons, List.find?_append, Option.or_assoc,
      List.find?_singleton]
    simp only [beq_iff_eq, @eq_comm _ spec.name]
    by_cases h : name = spec.name
    · rw [if_pos h, if_pos h, Option.some_or]
    · rw [if_neg h, if_neg h, Option.none_or]

/-- A name that none of the descriptions has leads to what it did before. -/
lemma get?_merge_of_notMem (h : name ∉ extra.map (·.name)) (r : Registry) :
    (r.merge extra).get? name = r.get? name := by
  have hnone : extra.reverse.find? (·.name == name) = none := by
    rw [List.find?_eq_none]
    intro spec hspec hname
    rw [List.mem_reverse] at hspec
    exact h (List.mem_map.2 ⟨spec, hspec, eq_of_beq hname⟩)
  rw [get?_merge, hnone, Option.none_or]

/-- The last description with a name is the one that the name leads to. -/
lemma get?_merge_of_isLastIn {spec : FunctionSpec} (h : spec.IsLastIn extra) (r : Registry) :
    (r.merge extra).get? spec.name = some spec := by
  obtain ⟨before, after, rfl, hnone⟩ := h
  rw [merge_append, merge_cons, get?_merge_of_notMem hnone, get?_insert, if_pos rfl]

/-- A name that a description has leads to the last one that has it. -/
lemma get?_merge_eq_some_iff {spec : FunctionSpec} (h : name ∈ extra.map (·.name)) :
    (r.merge extra).get? name = some spec ↔ spec.IsLastIn extra ∧ spec.name = name := by
  refine ⟨?_, ?_⟩
  · intro hget
    obtain ⟨last, hlast, rfl⟩ := FunctionSpec.exists_isLastIn h
    rw [get?_merge_of_isLastIn hlast] at hget
    cases hget
    exact ⟨hlast, rfl⟩
  · intro hspec
    obtain ⟨hlast, rfl⟩ := hspec
    exact get?_merge_of_isLastIn hlast r

/-- The functions that are described are known afterwards. -/
lemma contains_merge_of_mem (h : name ∈ extra.map (·.name)) (r : Registry) :
    (r.merge extra).contains name = true := by
  obtain ⟨last, hlast, rfl⟩ := FunctionSpec.exists_isLastIn h
  rw [contains, get?_merge_of_isLastIn hlast]
  rfl

/-- Of the others those are known that were known before. -/
lemma contains_merge_of_notMem (h : name ∉ extra.map (·.name)) (r : Registry) :
    (r.merge extra).contains name = r.contains name := by
  rw [contains, get?_merge_of_notMem h, contains]

/-! Registries of listed descriptions. -/

/-- Under a name the last definition of a list with this name is found. -/
lemma get?_ofList (specs : List FunctionSpec) (name : String) :
    (ofList specs).get? name = specs.reverse.find? (·.name == name) := by
  rw [ofList, get?_merge]
  exact Option.or_none

/-- A registry holds nothing but the descriptions that it is made of. -/
lemma mem_of_mem_ofList {spec : FunctionSpec} (h : spec ∈ (ofList extra).specs) :
    spec ∈ extra := by
  have hget := get?_of_mem h
  rw [get?_ofList] at hget
  exact List.mem_reverse.1 (List.mem_of_find?_eq_some hget)

end Registry

end Remap
