import Remap.Completion
import Remap.Proofs.FieldPath
import Remap.Proofs.Pairwise

/-!
# The fields that are offered

After a point the fields are offered that events usually have, and behind them those that the
document refers to. `fields_exact` says which these are, and that each is offered once, in the order
in which the document first refers to them.
-/

namespace Remap.Completion

open Text FieldPath

variable {text : List Char}

/-- The document refers to one field before it refers to the other for the first time. -/
def FirstBefore (text : List Char) (name other : String) : Prop :=
  ∃ place, RefersAt text place name.toList ∧
    ∀ place', RefersAt text place' other.toList → place < place'

/-- The fields that are offered are the common ones, then those that the document refers to. -/
lemma map_label_fields (text : List Char) :
    (fields text).map (·.label) = commonFields ++ referencedFields text := by
  rw [fields, List.map_append, List.map_map, List.map_map]
  exact congrArg₂ (· ++ ·) (List.map_id' _) (List.map_id' _)

/-- A field is offered if it is not a common one and the document refers to it. -/
lemma mem_referencedFields {name : String} :
    name ∈ referencedFields text ↔
      name ∉ commonFields ∧ ∃ place, RefersAt text place name.toList := by
  rw [referencedFields, mem_firstSeen, List.mem_filter, mem_names, Bool.not_eq_true',
    List.contains_eq_mem, decide_eq_false_iff_not, and_comm]

/-- A field is offered if it is a common one or the document refers to it. -/
lemma mem_labels {name : String} :
    name ∈ (fields text).map (·.label) ↔
      name ∈ commonFields ∨ ∃ place, RefersAt text place name.toList := by
  rw [map_label_fields, List.mem_append, mem_referencedFields]
  tauto

/-- The fields that the document refers to come in the order of their first references. -/
lemma pairwise_referencedFields (text : List Char) :
    (referencedFields text).Pairwise (FirstBefore text) := by
  have hpair := (pairwise_findAll readName text).filter
    fun found => !commonFields.contains (String.ofList found.value)
  rw [referencedFields, names, List.filter_map]
  apply (pairwise_firstSeen _).imp_of_mem
  intro name other hname hother hlt
  obtain ⟨m, hm, rfl, hall⟩ := exists_before_of_idxOf_lt hpair hlt
  refine ⟨m.start, ?_, ?_⟩
  · exact exists_mem_findAll_iff.1 ⟨m, (List.mem_filter.1 hm).1, rfl, String.toList_ofList.symm⟩
  · intro place' hrefers
    obtain ⟨b, hb, rfl, hvalue⟩ := exists_mem_findAll_iff.2 hrefers
    have hname : String.ofList b.value = other := by rw [hvalue, String.ofList_toList]
    -- the other field is none of the common ones, so that its references are all looked at
    rw [mem_firstSeen] at hother
    obtain ⟨c, hc, hcother⟩ := List.mem_map.1 hother
    have huncommon := (List.mem_filter.1 hc).2
    rw [Function.comp_apply, hcother, ← hname] at huncommon
    exact (hall b (List.mem_filter.2 ⟨hb, huncommon⟩) hname).1

/-- No field is offered twice. -/
lemma nodup_labels (text : List Char) : ((fields text).map (·.label)).Nodup := by
  rw [map_label_fields, List.nodup_append]
  refine ⟨by decide, nodup_firstSeen _, ?_⟩
  intro name hname other hother heq
  exact (mem_referencedFields.1 hother).1 (heq ▸ hname)

/--
The fields that are offered are pairwise distinct: the common ones in their order, and then exactly
those others that the document refers to, in the order of their first references. A document refers
to a field where the longest run of identifier characters behind a point is its name and starts with
a letter or an underscore.
-/
theorem fields_exact (text : List Char) :
    ((fields text).map (·.label)).Nodup ∧
      ∃ referenced, (fields text).map (·.label) = commonFields ++ referenced ∧
        (∀ name, name ∈ referenced ↔
          name ∉ commonFields ∧ ∃ place, RefersAt text place name.toList) ∧
        referenced.Pairwise (FirstBefore text) :=
  ⟨nodup_labels text, referencedFields text, map_label_fields text,
    fun _ => mem_referencedFields, pairwise_referencedFields text⟩

/-- Of a chain each name is a field of its own, and a digit behind a point starts none. -/
example : referencedFields ".b.a..1c = .b.\u00e9 + .message._d".toList = ["b", "a", "_d"] := by
  decide

end Remap.Completion
