import Remap.Proofs.Analyzer
import Remap.Proofs.Registry.Definition

/-!
# Laying descriptions over one another

To lay descriptions over a registry is to make one of its descriptions and these. So they can be
laid over it in parts, a second time changes nothing, and neither do the registry's own. Two lists
that share no name can be laid over it in either order: the names that were there stay where they
are, and all names lead to the same, which is what the checks of calls go by. `merge_laws` puts this
together.
-/

namespace Remap

namespace Registry

variable {r r' : Registry} {a b extra : List FunctionSpec} {name : String}

/-- A registry is given by its names in order and by what they lead to. -/
lemma eq_of_names_of_get? (hnames : r.names = r'.names)
    (hget : ∀ name ∈ r.names, r.get? name = r'.get? name) : r = r' := by
  have hspecs : r.specs.map some = r'.specs.map some := by
    rw [← map_get?_names, ← map_get?_names, ← hnames]
    exact List.map_congr_left hget
  have heq : r.specs = r'.specs :=
    List.map_injective_iff.2 (Option.some_injective FunctionSpec) hspecs
  cases r
  cases r'
  cases heq
  rfl

/-! Descriptions that a registry has. -/

/-- A definition of a registry is the last one with its name there. -/
lemma isLastIn_of_mem {spec : FunctionSpec} (h : spec ∈ r.specs) : spec.IsLastIn r.specs := by
  obtain ⟨before, after, heq⟩ := List.append_of_mem h
  refine ⟨before, after, heq, ?_⟩
  have hnodup := r.nodup
  rw [heq, List.map_append, List.map_cons] at hnodup
  have hafter := (List.nodup_append.1 hnodup).2.1
  exact (List.nodup_cons.1 hafter).1

/-- A name that a registry has leads to what it leads to there once this is laid over another. -/
lemma get?_merge_specs (h : name ∈ r.names) (r' : Registry) :
    (r'.merge r.specs).get? name = r.get? name := by
  obtain ⟨spec, hspec, rfl⟩ := List.mem_map.1 h
  rw [get?_merge_of_isLastIn (isLastIn_of_mem hspec), get?_of_mem hspec]

/-- The descriptions of a registry make this registry. -/
lemma ofList_specs (r : Registry) : ofList r.specs = r := by
  have hnames : (ofList r.specs).names = r.names := by
    rw [names_ofList]
    exact firstSeen_of_nodup r.nodup_names
  apply eq_of_names_of_get? hnames
  intro name hname
  rw [hnames] at hname
  exact get?_merge_specs hname empty

/-- What is made by laying descriptions over a registry is made of all of them. -/
lemma merge_eq_ofList (r : Registry) (extra : List FunctionSpec) :
    r.merge extra = ofList (r.specs ++ extra) := by
  rw [ofList, merge_append]
  exact congrArg (merge · extra) (ofList_specs r).symm

/-! The names. -/

/-- Descriptions of functions that are known add no names. -/
lemma names_merge_of_subset (h : ∀ name ∈ extra.map (·.name), name ∈ r.names) :
    (r.merge extra).names = r.names := by
  rw [names_merge, firstSeen_append_of_subset h, firstSeen_of_nodup r.nodup_names]

/-- The names after a merge are those from before and those of the extra functions. -/
lemma mem_names_merge :
    name ∈ (r.merge extra).names ↔ name ∈ r.names ∨ name ∈ extra.map (·.name) := by
  rw [names_merge, mem_firstSeen, List.mem_append]

/-- The names from before stay in front. -/
lemma names_prefix_merge (r : Registry) (extra : List FunctionSpec) :
    r.names <+: (r.merge extra).names := by
  have hstart := firstSeen_prefix_append r.names (extra.map (·.name))
  rwa [firstSeen_of_nodup r.nodup_names, ← names_merge] at hstart

/-- A name that was there stays where it is. -/
lemma idxOf_names_merge (h : name ∈ r.names) (extra : List FunctionSpec) :
    (r.merge extra).names.idxOf name = r.names.idxOf name := by
  obtain ⟨rest, hrest⟩ := names_prefix_merge r extra
  rw [← hrest, List.idxOf_append_of_mem h]

/-- A name from before keeps its place through two merges. -/
lemma idxOf_names_merge_merge (h : name ∈ r.names) (a b : List FunctionSpec) :
    ((r.merge a).merge b).names.idxOf name = r.names.idxOf name := by
  rw [← merge_append, idxOf_names_merge h]

/-! Descriptions that are laid over a registry twice. -/

/-- Merging a registry into itself changes nothing. -/
lemma merge_specs (r : Registry) : r.merge r.specs = r := by
  have hnames : (r.merge r.specs).names = r.names := names_merge_of_subset fun _ h => h
  apply eq_of_names_of_get? hnames
  intro name hname
  rw [hnames] at hname
  exact get?_merge_specs hname r

/-- Merging the same functions twice is merging them once. -/
lemma merge_merge_self (r : Registry) (a : List FunctionSpec) :
    (r.merge a).merge a = r.merge a := by
  apply eq_of_names_of_get?
  · apply names_merge_of_subset
    intro name h
    exact mem_names_merge.2 (.inr h)
  · intro name _
    rw [get?_merge, get?_merge r, ← Option.or_assoc, Option.or_self]

/-! Lists that share no name. -/

/-- Each name leads to the same in whichever order the lists are laid over a registry. -/
lemma get?_merge_comm (h : (a.map (·.name)).Disjoint (b.map (·.name))) (r : Registry)
    (name : String) : ((r.merge a).merge b).get? name = ((r.merge b).merge a).get? name := by
  by_cases ha : name ∈ a.map (·.name)
  · have hb : name ∉ b.map (·.name) := fun hb => h ha hb
    rw [get?_merge_of_notMem hb, get?_merge r a, get?_merge (r.merge b) a,
      get?_merge_of_notMem hb]
  · rw [get?_merge_of_notMem ha, get?_merge r b, get?_merge (r.merge a) b,
      get?_merge_of_notMem ha]

end Registry

/-! The checks of calls go by what the names lead to. -/

namespace Check

open Analyzer

variable {r r' : Registry}

/-- The unhandled calls depend on what is found under each name alone. -/
lemma fallibleCalls_congr (h : ∀ name, r.get? name = r'.get? name) (line : List Char)
    (number : Int) : fallibleCalls r line number = fallibleCalls r' line number := by
  have hfallible : isFallible r = isFallible r' := by
    funext site
    rw [isFallible, isFallible, h]
  rw [fallibleCalls, fallibleCalls, hfallible]

/-- The places of unknown calls depend on what is found under each name alone. -/
lemma ranges_unknownFunctions_congr (h : ∀ name, r.get? name = r'.get? name) (line : List Char)
    (number : Int) :
    (unknownFunctions r line number).map (·.range) =
      (unknownFunctions r' line number).map (·.range) := by
  have hcontains : ∀ name, r.contains name = r'.contains name := by
    intro name
    rw [Registry.contains, Registry.contains, h]
  simp only [unknownFunctions, List.map_map, hcontains]
  rfl

/-- In a document the unhandled calls depend on what is found under each name alone. -/
lemma flagged_missing_congr (h : ∀ name, r.get? name = r'.get? name) (text : List Char) :
    flagged r text Code.missingErrorHandling.id = flagged r' text Code.missingErrorHandling.id := by
  rw [flagged_missingErrorHandling, flagged_missingErrorHandling]
  apply List.flatMap_congr
  intro place _
  exact fallibleCalls_congr h place.1 place.2

/-- In a document the places of unknown calls depend on what is found under each name alone. -/
lemma ranges_flagged_unknown_congr (h : ∀ name, r.get? name = r'.get? name) (text : List Char) :
    (flagged r text Code.unknownFunction.id).map (·.range) =
      (flagged r' text Code.unknownFunction.id).map (·.range) := by
  rw [flagged_unknownFunction, flagged_unknownFunction, List.map_flatMap, List.map_flatMap]
  apply List.flatMap_congr
  intro place _
  exact ranges_unknownFunctions_congr h place.1 place.2

end Check

namespace Registry

open Analyzer

/--
Descriptions laid over a registry make the registry of its own and these. They can be laid over it
in parts; a second time changes nothing; and neither do its own. If two lists share no name, then in
either order each name leads to the same, each name of the registry has the same position, the same
calls are reported as unhandled, and calls at the same places as ones of unknown functions.
-/
theorem merge_laws (r : Registry) (a b : List FunctionSpec) :
    r.merge a = ofList (r.specs ++ a) ∧
      (r.merge a).merge b = r.merge (a ++ b) ∧
      (r.merge a).merge a = r.merge a ∧
      r.merge r.specs = r ∧
      ((a.map (·.name)).Disjoint (b.map (·.name)) →
        let there := (r.merge a).merge b
        let back := (r.merge b).merge a
        (∀ name, there.get? name = back.get? name) ∧
          (∀ name ∈ r.names, there.names.idxOf name = r.names.idxOf name ∧
            back.names.idxOf name = r.names.idxOf name) ∧
          ∀ text,
            (flagged there text Code.unknownFunction.id).map (·.range) =
                (flagged back text Code.unknownFunction.id).map (·.range) ∧
              flagged there text Code.missingErrorHandling.id =
                flagged back text Code.missingErrorHandling.id) := by
  refine ⟨merge_eq_ofList r a, (merge_append r a b).symm, merge_merge_self r a, merge_specs r, ?_⟩
  intro hdisjoint there back
  have hget : ∀ name, there.get? name = back.get? name := get?_merge_comm hdisjoint r
  refine ⟨hget, ?_, ?_⟩
  · intro name hname
    exact ⟨idxOf_names_merge_merge hname a b, idxOf_names_merge_merge hname b a⟩
  · intro text
    exact ⟨Check.ranges_flagged_unknown_congr hget text, Check.flagged_missing_congr hget text⟩

/-- Two functions laid over a third one in either order; their own order is the only difference. -/
theorem merge_laws_either_order :
    let fetch : FunctionSpec := ⟨"fetch", .event, true, [], "any", "Fetches a page.", none⟩
    let keep : FunctionSpec := ⟨"keep", .event, false, [], "any", "Keeps an event.", none⟩
    let r := empty.insert ⟨"drop", .event, false, [], "null", "Drops an event.", none⟩
    let there := (r.merge [fetch]).merge [keep]
    let back := (r.merge [keep]).merge [fetch]
    ([fetch].map (·.name)).Disjoint ([keep].map (·.name)) ∧
      there.names ≠ back.names ∧
      (∀ name, there.get? name = back.get? name) ∧
      there.names.idxOf "drop" = r.names.idxOf "drop" ∧
      back.names.idxOf "drop" = r.names.idxOf "drop" ∧
      flagged there ".a = fetch(.b)".toList Code.missingErrorHandling.id =
        flagged back ".a = fetch(.b)".toList Code.missingErrorHandling.id := by
  intro fetch keep r there back
  have hdisjoint : ([fetch].map (·.name)).Disjoint ([keep].map (·.name)) :=
    List.disjoint_singleton.2 (by decide)
  obtain ⟨-, -, -, -, horder⟩ := merge_laws r [fetch] [keep]
  obtain ⟨hget, hposition, hflagged⟩ := horder hdisjoint
  obtain ⟨hthere, hback⟩ := hposition "drop" (by decide)
  exact ⟨hdisjoint, by decide, hget, hthere, hback, (hflagged _).2⟩

end Registry

end Remap
