import Mathlib.Algebra.GroupWithZero.Nat
import Mathlib.Data.List.Basic
import Remap.Function.Explanation
import Remap.Proofs.Pairwise

/-!
# Functions by category

The categories of a registry part its functions: put together in the order of the categories, the
functions of each are those of the registry, each once, and within a category in the order of the
registry. `categories_partition` says so, and that the list of all functions shows them in these
groups, of which the list for one category shows one.
-/

namespace Remap

/-! Lists in groups of one key. -/

section

variable {α β : Type} [DecidableEq β] {key : α → β} {keys : List β} {xs : List α}

/-- Of groups in a row, those with one key are the group of this key if it is among the keys. -/
lemma filter_flatMap_groups (hkeys : keys.Nodup) (xs : List α) (k : β) :
    (keys.flatMap fun k => xs.filter fun x => key x == k).filter (fun x => key x == k) =
      if k ∈ keys then xs.filter fun x => key x == k else [] := by
  induction keys with
  | nil => rfl
  | cons first rest ih =>
    obtain ⟨hfirst, hrest⟩ := List.nodup_cons.1 hkeys
    rw [List.flatMap_cons, List.filter_append, ih hrest, List.filter_filter]
    by_cases h : k = first
    · subst h
      simp only [hfirst, Bool.and_self, if_false, List.append_nil, List.mem_cons_self, if_true]
    · have hnone : xs.filter (fun x => key x == k && key x == first) = [] := by
        rw [List.filter_eq_nil_iff]
        intro x _ hx
        rw [Bool.and_eq_true, beq_iff_eq, beq_iff_eq] at hx
        exact h (hx.1.symm.trans hx.2)
      simp only [hnone, List.nil_append, List.mem_cons, h, false_or]

/-- If no key is left out, groups in a row are with regard to one key in the order of the list. -/
lemma filter_flatMap_groups_of_all (hkeys : keys.Nodup) (hall : ∀ x ∈ xs, key x ∈ keys) (k : β) :
    (keys.flatMap fun k => xs.filter fun x => key x == k).filter (fun x => key x == k) =
      xs.filter fun x => key x == k := by
  rw [filter_flatMap_groups hkeys]
  split
  case isTrue => rfl
  case isFalse hk =>
    symm
    rw [List.filter_eq_nil_iff]
    intro x hx hkey
    exact hk (eq_of_beq hkey ▸ hall x hx)

/-- If no key is left out, groups in a row hold what the list holds. -/
lemma perm_flatMap_groups [DecidableEq α] (hkeys : keys.Nodup) (hall : ∀ x ∈ xs, key x ∈ keys) :
    (keys.flatMap fun k => xs.filter fun x => key x == k).Perm xs := by
  rw [List.perm_iff_count]
  intro x
  -- the members that equal one member are all in the group of its key
  have hcount : ∀ ys : List α, ys.count x = (ys.filter fun y => key y == key x).count x :=
    fun ys => (List.count_filter (p := fun y => key y == key x) (beq_self_eq_true (key x))).symm
  rw [hcount, filter_flatMap_groups_of_all hkeys hall, ← hcount]

end

/-! The list of functions. -/

/-- A function in a list of functions. -/
def FunctionSpec.item (spec : FunctionSpec) : String :=
  "- `" ++ spec.signature ++ "`: " ++ spec.description ++ "\n"

/-- The functions that a list shows under a category. -/
structure FunctionGroup where
  category : Category
  functions : List FunctionSpec

namespace FunctionGroup

/-- The heading with the number of functions, and one item for each of them. -/
def text (g : FunctionGroup) : String :=
  "\n## " ++ g.category.name ++ " (" ++ toString g.functions.length ++ ")\n" ++
    String.join (g.functions.map FunctionSpec.item)

/-- A list of functions in groups, under the number of all functions. -/
def listing (total : Nat) (groups : List FunctionGroup) : String :=
  "# VRL Functions (" ++ toString total ++ " total)\n" ++ String.join (groups.map text)

end FunctionGroup

namespace Registry

variable {r : Registry} {c : Category}

/-- The functions of a category. -/
def group (r : Registry) (c : Category) : FunctionGroup :=
  ⟨c, r.byCategory c⟩

/-! Categories. -/

/-- No category is listed twice. -/
lemma nodup_categories (r : Registry) : r.categories.Nodup :=
  nodup_firstSeen _

/-- Listed are the categories of the functions. -/
lemma mem_categories : c ∈ r.categories ↔ ∃ spec ∈ r.specs, spec.category = c := by
  rw [categories, mem_firstSeen, List.mem_map]

/-- The category of each function is listed. -/
lemma category_mem_categories : ∀ spec ∈ r.specs, spec.category ∈ r.categories :=
  fun spec h => mem_categories.2 ⟨spec, h, rfl⟩

/-- The functions of a category have it. -/
lemma category_of_mem_byCategory {spec : FunctionSpec} (h : spec ∈ r.byCategory c) :
    spec.category = c :=
  eq_of_beq (List.mem_filter.1 h).2

/-- A category that is not listed has no functions. -/
lemma byCategory_eq_nil (h : c ∉ r.categories) : r.byCategory c = [] := by
  rw [byCategory, List.filter_eq_nil_iff]
  intro spec hspec hc
  exact h (mem_categories.2 ⟨spec, hspec, eq_of_beq hc⟩)

/-- The categories together have each function once. -/
lemma perm_flatMap_byCategory (r : Registry) : (r.categories.flatMap r.byCategory).Perm r.specs :=
  perm_flatMap_groups r.nodup_categories category_mem_categories

/-! Lists. -/

/-- The text of a group is the section of its category. -/
lemma text_group (r : Registry) (c : Category) : (r.group c).text = r.categorySection c := by
  unfold FunctionGroup.text categorySection
  rfl

/-- The listing is made of the groups of its categories. -/
lemma listing_eq (r : Registry) (categories : List Category) :
    r.listing categories = FunctionGroup.listing r.size (categories.map r.group) := by
  have htext : FunctionGroup.text ∘ r.group = r.categorySection := funext r.text_group
  unfold listing FunctionGroup.listing
  rw [List.map_map, htext]

/-- The whole listing has a group for each category. -/
lemma list_all (r : Registry) :
    r.list "" = FunctionGroup.listing r.size (r.categories.map r.group) := by
  have hempty : "".isEmpty = true := by decide
  rw [list, if_pos hempty, listing_eq]

/-- A category is the only one with its name. -/
lemma filter_name_categories (h : c ∈ r.categories) :
    r.categories.filter (fun d => d.name == c.name) = [c] := by
  apply filter_eq_singleton r.nodup_categories _ h (beq_self_eq_true c.name)
  intro d e hd he hne
  exact hne (Category.name_injective ((eq_of_beq hd).trans (eq_of_beq he).symm))

/-- The listing of one category has its group alone. -/
lemma list_name (h : c ∈ r.categories) :
    r.list c.name = FunctionGroup.listing r.size [r.group c] := by
  have hname : ¬ c.name.isEmpty = true := by
    cases c <;> decide
  rw [list, if_neg hname, filter_name_categories h]
  exact r.listing_eq [c]

/--
The categories of a registry are those of its functions, each once and in the order of their first
appearances. Put together, the functions of the categories are those of the registry, and with
regard to one category they are in the order of the registry; other categories have no functions.
So the list of all functions shows each of them once, in groups of which the numbers add up to the
number above them, and the list for one category shows its group under the same number.
-/
theorem categories_partition (r : Registry) :
    let given := r.specs.map (·.category)
    let together := r.categories.flatMap r.byCategory
    let groups := r.categories.map r.group
    r.categories.Nodup ∧
      (∀ c, c ∈ r.categories ↔ ∃ spec ∈ r.specs, spec.category = c) ∧
      r.categories.Pairwise (fun c d => given.idxOf c < given.idxOf d) ∧
      (∀ c, ∀ spec ∈ r.byCategory c, spec.category = c) ∧
      together.Perm r.specs ∧
      (∀ c, together.filter (·.category == c) = r.specs.filter (·.category == c)) ∧
      (∀ c, c ∉ r.categories → r.byCategory c = []) ∧
      r.list "" = FunctionGroup.listing r.size groups ∧
      (groups.flatMap (·.functions)).Perm r.specs ∧
      (groups.map (·.functions.length)).sum = r.size ∧
      ∀ c ∈ r.categories, r.list c.name = FunctionGroup.listing r.size [r.group c] := by
  intro given together groups
  have hperm : together.Perm r.specs := perm_flatMap_byCategory r
  have hgroups : groups.flatMap (·.functions) = together := List.flatMap_map ..
  refine ⟨r.nodup_categories, fun c => mem_categories, pairwise_firstSeen given,
    fun c spec => category_of_mem_byCategory, hperm, ?_, fun c => byCategory_eq_nil, r.list_all,
    ?_, ?_, fun c => list_name⟩
  · intro c
    exact filter_flatMap_groups_of_all r.nodup_categories category_mem_categories c
  · rw [hgroups]
    exact hperm
  · rw [← List.length_flatMap, hgroups]
    exact hperm.length_eq

end Registry

end Remap
