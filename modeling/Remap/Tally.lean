/-!
# First appearances

The distinct members of a list in the order in which they first appear, alone or with the number
of times that each appears. Both are gathered member by member. `mem_firstSeen` says that nothing is
lost, and `nodup_firstSeen` that nothing is repeated.
-/

namespace Remap

variable {α : Type} [DecidableEq α]

/-- Adds a member to those seen so far, the last one first, unless it is among them. -/
def see (seen : List α) (x : α) : List α :=
  if x ∈ seen then seen else x :: seen

/-- The list without its repetitions, each member where it is first seen. -/
def firstSeen (xs : List α) : List α :=
  (xs.foldl see []).reverse

/-- Counts one more appearance: at the member, or behind all members if it is a new one. -/
def bump (counts : List (α × Nat)) (x : α) : List (α × Nat) :=
  match counts with
  | [] => [(x, 1)]
  | (y, n) :: rest => if y = x then (y, n + 1) :: rest else (y, n) :: bump rest x

/-- The distinct members with the number of times that each appears. -/
def tally (xs : List α) : List (α × Nat) :=
  xs.foldl bump []

/-- Seen is what has been seen before or stands in the list. -/
theorem mem_foldl_see {x : α} (xs seen : List α) :
    x ∈ xs.foldl see seen ↔ x ∈ seen ∨ x ∈ xs := by
  induction xs generalizing seen with
  | nil => simp
  | cons y ys ih =>
    rw [List.foldl_cons, ih, see]
    split
    · next h =>
      rw [List.mem_cons]
      constructor
      · rintro (hx | hx)
        · exact .inl hx
        · exact .inr (.inr hx)
      · rintro (hx | rfl | hx)
        · exact .inl hx
        · exact .inl h
        · exact .inr hx
    · simp only [List.mem_cons]
      rw [or_comm (a := x = y), or_assoc]

/-- Nothing is seen twice. -/
theorem nodup_foldl_see {xs seen : List α} (h : seen.Nodup) : (xs.foldl see seen).Nodup := by
  induction xs generalizing seen with
  | nil => exact h
  | cons y ys ih =>
    apply ih
    rw [see]
    split
    · exact h
    · next hy => exact List.nodup_cons.2 ⟨hy, h⟩

/-- Nothing is lost. -/
@[simp] theorem mem_firstSeen {x : α} {xs : List α} : x ∈ firstSeen xs ↔ x ∈ xs := by
  simp [firstSeen, mem_foldl_see]

/-- Nothing is repeated. -/
theorem nodup_firstSeen (xs : List α) : (firstSeen xs).Nodup := by
  rw [firstSeen, List.Nodup, List.pairwise_reverse]
  exact (nodup_foldl_see List.nodup_nil).imp Ne.symm

end Remap
