import Remap.Function.Basic
import Remap.Function.Catalog.Codec
import Remap.Function.Catalog.Coercion
import Remap.Function.Catalog.Collection
import Remap.Function.Catalog.Parse
import Remap.Function.Catalog.System
import Remap.Function.Catalog.Text
import Remap.Tally

/-!
# Registries of functions

A registry is a list of descriptions with distinct names. Descriptions are laid over it one by one,
and the standard registry is that of the functions that every program can call.
-/

namespace Remap

/-!
## Registries of functions

A registry is a list of function descriptions with pairwise distinct names. A description that is
put in takes the place of the one with the same name, or comes last if there is none; so a name
keeps its first position and its last description, and `get?_insert` says what each name leads to
afterwards. Descriptions are laid over a registry by putting them in one after another.
-/

/-- The list with `spec` in the place of the entry with the same name, or at the end. -/
def upsert (spec : FunctionSpec) : List FunctionSpec → List FunctionSpec
  | [] => [spec]
  | s :: rest => if s.name = spec.name then spec :: rest else s :: upsert spec rest

/-- A definition keeps the place of the one that it replaces; a new one comes last. -/
theorem map_name_upsert (spec : FunctionSpec) (specs : List FunctionSpec) :
    (upsert spec specs).map (·.name) =
      if spec.name ∈ specs.map (·.name) then specs.map (·.name)
      else specs.map (·.name) ++ [spec.name] := by
  induction specs with
  | nil => simp [upsert]
  | cons s rest ih =>
    by_cases h : s.name = spec.name
    · simp [upsert, h]
    · have h' : spec.name ≠ s.name := fun e => h e.symm
      rw [upsert, if_neg h, List.map_cons, ih]
      by_cases hm : spec.name ∈ rest.map (·.name)
      · simp [hm]
      · simp only [hm, if_false, List.map_cons, List.mem_cons, h', or_self, List.cons_append]

/-- Names stay distinct when a definition is put in. -/
theorem nodup_upsert {spec : FunctionSpec} {specs : List FunctionSpec}
    (h : (specs.map (·.name)).Nodup) : ((upsert spec specs).map (·.name)).Nodup := by
  rw [map_name_upsert]
  split
  · exact h
  · next hm =>
    rw [List.nodup_append]
    refine ⟨h, by simp, ?_⟩
    intro a ha b hb e
    rw [List.mem_singleton] at hb
    exact hm (hb ▸ e ▸ ha)

/-- A list of function descriptions with distinct names. -/
structure Registry where
  specs : List FunctionSpec
  nodup : (specs.map (·.name)).Nodup

namespace Registry

/-- The registry of no functions. -/
def empty : Registry :=
  ⟨[], List.nodup_nil⟩

/-- Puts a description in the place of the one with the same name, or at the end. -/
def insert (r : Registry) (spec : FunctionSpec) : Registry :=
  ⟨upsert spec r.specs, nodup_upsert r.nodup⟩

/-- Lays a list of descriptions over the registry. -/
def merge (r : Registry) (extra : List FunctionSpec) : Registry :=
  extra.foldl insert r

/-- The registry of a list of descriptions, in which names may repeat. -/
def ofList (specs : List FunctionSpec) : Registry :=
  empty.merge specs

/-- The description of the function with a name. -/
def get? (r : Registry) (name : String) : Option FunctionSpec :=
  r.specs.find? fun spec => spec.name == name

/-- The function is in the registry. -/
def contains (r : Registry) (name : String) : Bool :=
  (r.get? name).isSome

/-- The names in order. -/
def names (r : Registry) : List String :=
  r.specs.map (·.name)

/-- The number of functions. -/
def size (r : Registry) : Nat :=
  r.specs.length

/-- The names of the fallible functions in order. -/
def fallibleNames (r : Registry) : List String :=
  (r.specs.filter (·.fallible)).map (·.name)

/-- The categories in the order in which they first appear. -/
def categories (r : Registry) : List Category :=
  firstSeen (r.specs.map (·.category))

/-- The functions of a category in order. -/
def byCategory (r : Registry) (category : Category) : List FunctionSpec :=
  r.specs.filter fun spec => spec.category == category

/-- The definitions after one more is put in. -/
@[simp] theorem specs_insert (r : Registry) (spec : FunctionSpec) :
    (r.insert spec).specs = upsert spec r.specs := rfl

/-- After a description is put in, its name leads to it and every other name to what it did. -/
theorem get?_insert (r : Registry) (spec : FunctionSpec) (name : String) :
    (r.insert spec).get? name = if name = spec.name then some spec else r.get? name := by
  simp only [get?, specs_insert]
  induction r.specs with
  | nil =>
    by_cases h : name = spec.name
    · simp [upsert, h]
    · have h' : ¬ spec.name = name := fun e => h e.symm
      simp [upsert, h, h']
  | cons s rest ih =>
    by_cases hs : s.name = spec.name
    · by_cases h : name = spec.name
      · simp [upsert, hs, h]
      · have h' : ¬ spec.name = name := fun e => h e.symm
        simp [upsert, hs, h, h']
    · by_cases h : name = spec.name
      · have hn : ¬ s.name = name := fun e => hs (e.trans h)
        simpa [upsert, hs, hn, h] using ih
      · by_cases hn : s.name = name
        · simp [upsert, hn, h]
        · simpa [upsert, hs, hn, h] using ih

/-- A registry knows the functions that it names. -/
theorem contains_eq_true_iff {r : Registry} {name : String} :
    r.contains name = true ↔ name ∈ r.names := by
  simp only [contains, get?, List.find?_isSome, beq_iff_eq, names, List.mem_map]

/-- Two batches of definitions are merged one after the other. -/
theorem merge_append (r : Registry) (a b : List FunctionSpec) :
    r.merge (a ++ b) = (r.merge a).merge b :=
  List.foldl_append

/-- Merging nothing changes nothing. -/
@[simp] theorem merge_nil (r : Registry) : r.merge [] = r := rfl

/-- The first definition of a batch is put in first. -/
theorem merge_cons (r : Registry) (spec : FunctionSpec) (extra : List FunctionSpec) :
    r.merge (spec :: extra) = (r.insert spec).merge extra := rfl

end Registry

/-!
## The standard functions

The registry of the functions that every program can call.
-/

/-- The descriptions of the standard functions. -/
def Catalog.standard : List FunctionSpec :=
  parsing ++ coercion ++ conversion ++ text ++ codec ++ hash ++ typeChecks ++ collection ++
    timestamp ++ address ++ randomness ++ environment ++ debugging

/-- The registry of the standard functions. -/
def Registry.standard : Registry :=
  .ofList Catalog.standard

end Remap
