import Mathlib.Data.Finset.Card
import Remap.Proofs.Registry

/-!
# Registries of repeated descriptions

A list in which names repeat makes a registry that has each name once. `ofList_exact` says which
registry: a name stands where it first appears in the list and leads to the last description that
has it, and what else is read off a registry goes by these last descriptions alone.
-/

namespace Remap.Registry

variable {r : Registry} {name : String}

/-! Names. -/

/-- No name stands twice in a registry. -/
lemma nodup_names (r : Registry) : r.names.Nodup :=
  r.nodup

/-- A name keeps its place when it is defined again; a new one comes last. -/
lemma names_insert (r : Registry) (spec : FunctionSpec) :
    (r.insert spec).names =
      if spec.name ∈ r.names then r.names else r.names ++ [spec.name] :=
  map_name_upsert spec r.specs

/-- The names that were there stay in front; the others follow as they first appear. -/
lemma names_merge (r : Registry) (extra : List FunctionSpec) :
    (r.merge extra).names = firstSeen (r.names ++ extra.map (·.name)) := by
  induction extra using List.reverseRecOn with
  | nil => rw [merge_nil, List.map_nil, List.append_nil, firstSeen_of_nodup r.nodup_names]
  | append_singleton extra spec ih =>
    rw [merge_append, merge_cons, merge_nil, names_insert, ih, List.map_append, List.map_singleton,
      ← List.append_assoc, firstSeen_concat]
    simp only [mem_firstSeen]

/-- The names of a list stand where they first appear. -/
lemma names_ofList (specs : List FunctionSpec) :
    (ofList specs).names = firstSeen (specs.map (·.name)) :=
  names_merge empty specs

/-- Nothing is found under a name that the registry does not have. -/
lemma get?_eq_none_iff : r.get? name = none ↔ name ∉ r.names := by
  rw [← contains_eq_true_iff, contains, Bool.not_eq_true, Option.isSome_eq_false_iff,
    Option.isNone_iff_eq_none]

/-! What is read off a registry. -/

/-- The descriptions are what the names lead to, in order. -/
lemma map_get?_names (r : Registry) : r.names.map r.get? = r.specs.map some := by
  rw [names, List.map_map]
  apply List.map_congr_left
  intro spec hspec
  exact get?_of_mem hspec

/-- The fallible names are those of fallible definitions, in the same order. -/
lemma fallibleNames_eq_filter (r : Registry) :
    r.fallibleNames = r.names.filter fun name => (r.get? name).any (·.fallible) := by
  rw [fallibleNames, names, List.filter_map]
  apply congrArg (List.map _)
  apply List.filter_congr
  intro spec hspec
  rw [Function.comp_apply, get?_of_mem hspec, Option.any_some]

/-- The size of a registry counts the distinct names. -/
lemma size_ofList (specs : List FunctionSpec) :
    (ofList specs).size = (specs.map (·.name)).toFinset.card := by
  have hnames : (ofList specs).names.toFinset = (specs.map (·.name)).toFinset := by
    ext name
    rw [names_ofList, List.mem_toFinset, List.mem_toFinset, mem_firstSeen]
  rw [← hnames, List.toFinset_card_of_nodup (nodup_names _), names, List.length_map, size]

/-- A name leads to the last description that has it. -/
lemma get?_ofList_eq_some_iff {specs : List FunctionSpec} {spec : FunctionSpec} :
    (ofList specs).get? name = some spec ↔ spec.IsLastIn specs ∧ spec.name = name := by
  refine ⟨?_, ?_⟩
  · intro h
    have hmem : name ∈ specs.map (·.name) :=
      List.mem_map.2 ⟨spec, mem_of_mem_ofList (mem_of_get? h), name_of_get? h⟩
    exact (get?_merge_eq_some_iff hmem).1 h
  · intro h
    obtain ⟨hlast, rfl⟩ := h
    exact get?_merge_of_isLastIn hlast empty

/--
A registry that is made of a list has the names in the list, each once and in the order of their
first appearances. A name leads to the last description that has it, and to none if no description
does. The descriptions come in the order of the names, the fallible names are those of which the
last description is fallible, and there are as many functions as there are distinct names.
-/
theorem ofList_exact (specs : List FunctionSpec) :
    let r := ofList specs
    let given := specs.map (·.name)
    r.names.Nodup ∧
      (∀ name, name ∈ r.names ↔ name ∈ given) ∧
      r.names.Pairwise (fun name other => given.idxOf name < given.idxOf other) ∧
      (∀ name spec, r.get? name = some spec ↔ spec.IsLastIn specs ∧ spec.name = name) ∧
      (∀ name, r.get? name = none ↔ name ∉ given) ∧
      r.specs.map some = r.names.map r.get? ∧
      r.fallibleNames = r.names.filter (fun name => (r.get? name).any (·.fallible)) ∧
      r.size = given.toFinset.card := by
  intro r given
  have hnames : r.names = firstSeen given := names_ofList specs
  have hmem : ∀ name, name ∈ r.names ↔ name ∈ given := by
    intro name
    rw [hnames, mem_firstSeen]
  refine ⟨r.nodup_names, hmem, ?_, ?_, ?_, ?_, ?_, ?_⟩
  · rw [hnames]
    exact pairwise_firstSeen given
  · intro name spec
    exact get?_ofList_eq_some_iff
  · intro name
    rw [get?_eq_none_iff, hmem]
  · exact (map_get?_names r).symm
  · exact fallibleNames_eq_filter r
  · exact size_ofList specs

end Remap.Registry
