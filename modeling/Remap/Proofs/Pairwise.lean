import Mathlib.Data.List.Basic
import Mathlib.Data.List.Induction
import Remap.Tally

/-!
# Lists in order

Of a list whose members are in an order, at most one member can have a property that no two members
in order share; so a member that has it is the only one, and the first one that is found. The
distinct members of a list are in the order in which they first appear in it.
-/

namespace Remap

variable {α : Type} {R : α → α → Prop} {p : α → Bool} {xs : List α}

/-- Of a list in order, at most one member has a property that allows no order. -/
lemma length_filter_le_one (hpair : xs.Pairwise R)
    (hp : ∀ x y, p x = true → p y = true → ¬ R x y) : (xs.filter p).length ≤ 1 := by
  have hpair' : (xs.filter p).Pairwise R := hpair.filter p
  have hall : ∀ x ∈ xs.filter p, p x = true := fun x hx => (List.mem_filter.1 hx).2
  cases h : xs.filter p with
  | nil => exact Nat.zero_le 1
  | cons a rest =>
    rw [h] at hpair' hall
    cases rest with
    | nil => exact Nat.le_refl 1
    | cons b rest =>
      have hab := List.rel_of_pairwise_cons hpair' (List.mem_cons_self)
      exact absurd hab (hp a b (hall a (by simp)) (hall b (by simp)))

/-- Of a list in order, a member is the only one with a property that allows no order. -/
lemma filter_eq_singleton {a : α} (hpair : xs.Pairwise R)
    (hp : ∀ x y, p x = true → p y = true → ¬ R x y) (ha : a ∈ xs) (hpa : p a = true) :
    xs.filter p = [a] := by
  have hmem : a ∈ xs.filter p := List.mem_filter.2 ⟨ha, hpa⟩
  have hone : (xs.filter p).length = 1 :=
    Nat.le_antisymm (length_filter_le_one hpair hp) (List.length_pos_of_mem hmem)
  obtain ⟨b, hb⟩ := List.length_eq_one_iff.1 hone
  rw [hb] at hmem ⊢
  rw [List.mem_singleton.1 hmem]

/-- The numbers that items are given grow. -/
lemma pairwise_zipIdx (xs : List α) (n : Nat) :
    (xs.zipIdx n).Pairwise fun a b => a.2 < b.2 := by
  apply List.pairwise_map.1
  rw [List.zipIdx_map_snd]
  exact List.pairwise_lt_range'

/-! First appearances. -/

variable [DecidableEq α]

/-- One more member is seen unless it has been before. -/
lemma firstSeen_concat (xs : List α) (x : α) :
    firstSeen (xs ++ [x]) = if x ∈ xs then firstSeen xs else firstSeen xs ++ [x] := by
  have hmem : x ∈ xs.foldl see [] ↔ x ∈ xs := by simp [mem_foldl_see]
  rw [firstSeen, List.foldl_append, List.foldl_cons, List.foldl_nil, see, firstSeen]
  simp only [hmem]
  split
  · rfl
  · exact List.reverse_cons

/-- A list without repetitions is as it is seen. -/
lemma firstSeen_of_nodup {xs : List α} (h : xs.Nodup) : firstSeen xs = xs := by
  induction xs using List.reverseRecOn with
  | nil => rfl
  | append_singleton xs x ih =>
    obtain ⟨hxs, -, hne⟩ := List.nodup_append.1 h
    have hx : x ∉ xs := fun hmem => hne x hmem x (List.mem_singleton_self x) rfl
    rw [firstSeen_concat, if_neg hx, ih hxs]

/-- What has been seen stays in front when more members follow. -/
lemma firstSeen_prefix_append (xs ys : List α) : firstSeen xs <+: firstSeen (xs ++ ys) := by
  induction ys using List.reverseRecOn with
  | nil => simp only [List.append_nil, List.prefix_refl]
  | append_singleton ys y ih =>
    rw [← List.append_assoc, firstSeen_concat]
    split
    case isTrue => exact ih
    case isFalse => exact ih.trans (List.prefix_append _ _)

/-- Members that have been seen add nothing. -/
lemma firstSeen_append_of_subset {xs ys : List α} (h : ∀ y ∈ ys, y ∈ xs) :
    firstSeen (xs ++ ys) = firstSeen xs := by
  induction ys using List.reverseRecOn with
  | nil => rw [List.append_nil]
  | append_singleton ys y ih =>
    rw [List.forall_mem_append, List.forall_mem_singleton] at h
    obtain ⟨hys, hy⟩ := h
    rw [← List.append_assoc, firstSeen_concat, if_pos (List.mem_append_left ys hy)]
    exact ih hys

/-- The distinct members come in the order of their first appearances. -/
lemma pairwise_firstSeen (xs : List α) :
    (firstSeen xs).Pairwise fun x y => xs.idxOf x < xs.idxOf y := by
  induction xs using List.reverseRecOn with
  | nil => exact .nil
  | append_singleton xs x ih =>
    -- what was there before has the first appearance that it had
    have hkeep : (firstSeen xs).Pairwise fun y z => (xs ++ [x]).idxOf y < (xs ++ [x]).idxOf z := by
      apply ih.imp_of_mem
      intro y z hy hz hlt
      rwa [List.idxOf_append_of_mem (mem_firstSeen.1 hy),
        List.idxOf_append_of_mem (mem_firstSeen.1 hz)]
    rw [firstSeen_concat]
    split
    case isTrue => exact hkeep
    case isFalse hx =>
      rw [List.pairwise_append]
      refine ⟨hkeep, List.pairwise_singleton _ _, ?_⟩
      intro y hy z hz
      rw [mem_firstSeen] at hy
      rw [List.mem_singleton.1 hz, List.idxOf_append_of_mem hy, List.idxOf_append_of_notMem hx]
      have hlt := List.idxOf_lt_length_iff.2 hy
      omega

/-- What appears first among the images of a list in order has a preimage before all others. -/
lemma exists_before_of_idxOf_lt {β : Type} {S : β → β → Prop} {f : β → α} {ys : List β} {x y : α}
    (hpair : ys.Pairwise S) (h : (ys.map f).idxOf x < (ys.map f).idxOf y) :
    ∃ a ∈ ys, f a = x ∧ ∀ b ∈ ys, f b = y → S a b := by
  induction ys with
  | nil => exact absurd h (Nat.lt_irrefl _)
  | cons b ys ih =>
    obtain ⟨hb, hpair⟩ := List.pairwise_cons.1 hpair
    rw [List.map_cons] at h
    by_cases hy : f b = y
    · rw [hy, List.idxOf_cons_self] at h
      exact absurd h (Nat.not_lt_zero _)
    · rw [List.idxOf_cons_ne _ hy] at h
      by_cases hx : f b = x
      · refine ⟨b, List.mem_cons_self, hx, List.forall_mem_cons.2 ⟨fun heq => absurd heq hy, ?_⟩⟩
        intro c hc _
        exact hb c hc
      · rw [List.idxOf_cons_ne _ hx] at h
        obtain ⟨a, ha, hax, hall⟩ := ih hpair (Nat.lt_of_succ_lt_succ h)
        exact ⟨a, List.mem_cons_of_mem b ha, hax,
          List.forall_mem_cons.2 ⟨fun heq => absurd heq hy, hall⟩⟩

end Remap
