import Mathlib.Algebra.BigOperators.Group.List.Lemmas
import Mathlib.Algebra.GroupWithZero.Nat
import Remap.Proofs.Pairwise

/-!
# Counting first appearances

A tally names each member of a list once, in the order of their first appearances, with the number
of times that it appears; these numbers add up to the length of the list. It is gathered by one more
appearance at a time, and what one appearance does to counts without repetitions (`bump_map`) gives
the counts of the whole list (`tally_eq`).
-/

namespace Remap

variable {α : Type} [DecidableEq α]

/-- The members of a list in the order of their first appearances, each with its count. -/
structure IsTally (xs : List α) (counts : List (α × Nat)) : Prop where
  nodup : (counts.map Prod.fst).Nodup
  mem : ∀ x, x ∈ counts.map Prod.fst ↔ x ∈ xs
  order : (counts.map Prod.fst).Pairwise fun x y => xs.idxOf x < xs.idxOf y
  count : ∀ p ∈ counts, p.2 = xs.count p.1
  total : (counts.map Prod.snd).sum = xs.length

/-! One more appearance. -/

/-- A member that is counted gets one more, and no other member does. -/
lemma bump_map_of_mem {members : List α} (hnodup : members.Nodup) (count : α → Nat) {x : α}
    (hx : x ∈ members) :
    bump (members.map fun y => (y, count y)) x =
      members.map fun y => (y, count y + if x = y then 1 else 0) := by
  induction members with
  | nil => cases hx
  | cons y rest ih =>
    obtain ⟨hy, hrest⟩ := List.nodup_cons.1 hnodup
    rw [List.map_cons, List.map_cons, bump]
    by_cases hyx : y = x
    · subst hyx
      rw [if_pos rfl, if_pos rfl]
      congr 1
      apply List.map_congr_left
      intro z hz
      have hne : y ≠ z := fun heq => hy (heq ▸ hz)
      rw [if_neg hne, Nat.add_zero]
    · rw [if_neg hyx, if_neg (Ne.symm hyx), Nat.add_zero]
      obtain rfl | hx := List.mem_cons.1 hx
      · exact absurd rfl hyx
      · rw [ih hrest hx]

/-- A member that is not counted yet is counted behind all others, once. -/
lemma bump_map_of_notMem {members : List α} (count : α → Nat) {x : α} (hx : x ∉ members) :
    bump (members.map fun y => (y, count y)) x =
      (members.map fun y => (y, count y)) ++ [(x, 1)] := by
  induction members with
  | nil => rfl
  | cons y rest ih =>
    rw [List.mem_cons, not_or] at hx
    rw [List.map_cons, bump, if_neg (Ne.symm hx.1), ih hx.2, List.cons_append]

/-! The whole list. -/

/-- One more member is counted after the others. -/
lemma tally_concat (xs : List α) (x : α) : tally (xs ++ [x]) = bump (tally xs) x := by
  rw [tally, List.foldl_append, List.foldl_cons, List.foldl_nil, tally]

/-- The members have the counts that they have in the list. -/
lemma tally_eq (xs : List α) : tally xs = (firstSeen xs).map fun x => (x, xs.count x) := by
  induction xs using List.reverseRecOn with
  | nil => rfl
  | append_singleton xs x ih =>
    have hcount : ∀ y, (xs ++ [x]).count y = xs.count y + if x = y then 1 else 0 := by
      intro y
      rw [List.count_append, List.count_singleton]
      simp only [beq_iff_eq]
    rw [tally_concat, ih, firstSeen_concat]
    simp only [hcount]
    split
    case isTrue hx =>
      exact bump_map_of_mem (nodup_firstSeen xs) _ (mem_firstSeen.2 hx)
    case isFalse hx =>
      rw [bump_map_of_notMem _ (mt mem_firstSeen.1 hx), List.map_append, List.map_singleton,
        if_pos rfl, List.count_eq_zero_of_not_mem hx]
      congr 1
      apply List.map_congr_left
      intro y hy
      have hne : x ≠ y := fun heq => hx (heq ▸ mem_firstSeen.1 hy)
      rw [if_neg hne, Nat.add_zero]

/-- The members that are counted are those that have been seen, in their order. -/
lemma map_fst_tally (xs : List α) : (tally xs).map Prod.fst = firstSeen xs := by
  rw [tally_eq, List.map_map]
  exact List.map_id _

/-- What is gathered appearance by appearance is the tally of the list. -/
lemma isTally_tally (xs : List α) : IsTally xs (tally xs) where
  nodup := by
    rw [map_fst_tally]
    exact nodup_firstSeen xs
  mem x := by rw [map_fst_tally, mem_firstSeen]
  order := by
    rw [map_fst_tally]
    exact pairwise_firstSeen xs
  count p hp := by
    rw [tally_eq] at hp
    obtain ⟨x, -, rfl⟩ := List.mem_map.1 hp
    rfl
  total := by
    have hperm : (firstSeen xs).Perm xs.dedup :=
      (List.perm_ext_iff_of_nodup (nodup_firstSeen xs) xs.nodup_dedup).2 fun x => by
        rw [mem_firstSeen, List.mem_dedup]
    rw [tally_eq, List.map_map, ← List.sum_map_count_dedup_eq_length xs]
    exact (hperm.map _).sum_eq

end Remap
