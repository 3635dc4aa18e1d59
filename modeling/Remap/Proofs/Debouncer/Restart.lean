import Remap.Proofs.Debouncer.WellFormed

/-!
# Starting over with another delay

A debouncer that starts over holds the same calls for the same keys, in the same order. Each has a
new timer, which is due after the new delay, counted from the moment of the restart.
-/

namespace Remap.Debouncer

variable {α : Type} {d : Debouncer α}

/-- The calls with new timers, which start at a number and are due at a moment. -/
def renewed (entries : List (String × α)) (timer : Nat) (due : Time) : List (Pending α) :=
  (entries.zipIdx timer).map fun e => ⟨e.1.1, e.2, due, e.1.2⟩

/-- Calls for new keys, scheduled one after another, come after those that wait. -/
lemma pending_scheduleAll (entries : List (String × α)) (hkeys : (entries.map Prod.fst).Nodup)
    (hnew : ∀ entry ∈ entries, ∀ p ∈ d.pending, p.key ≠ entry.1) :
    (entries.foldl (fun d entry => d.schedule entry.1 entry.2) d).pending =
      d.pending ++ renewed entries d.started (d.now.after (.ofSeconds d.delay)) := by
  induction entries generalizing d with
  | nil => exact (List.append_nil _).symm
  | cons entry rest ih =>
    obtain ⟨hfirst, hrest⟩ := List.nodup_cons.1 hkeys
    -- no call waits for a new key, so scheduling takes none away
    have hothers : d.others entry.1 = d.pending := by
      apply List.filter_eq_self.2
      intro p hp
      exact bne_iff_ne.2 (hnew entry List.mem_cons_self p hp)
    have hpending : (d.schedule entry.1 entry.2).pending =
        d.pending ++ [d.newTimer entry.1 entry.2] := by
      rw [schedule, hothers]
    rw [List.foldl_cons, ih hrest, hpending, List.append_assoc]
    · rfl
    · intro e he p hp
      rw [hpending] at hp
      obtain hp | hp := List.mem_append.1 hp
      · exact hnew e (List.mem_cons_of_mem _ he) p hp
      · rw [List.mem_singleton.1 hp]
        intro heq
        exact hfirst (List.mem_map.2 ⟨e, he, heq.symm⟩)

/-- What stays the same when entries are asked for again, and how many timers start. -/
lemma frame_scheduleAll (entries : List (String × α)) (d : Debouncer α) :
    let after := entries.foldl (fun d entry => d.schedule entry.1 entry.2) d
    after.delay = d.delay ∧ after.now = d.now ∧ after.ran = d.ran ∧
      after.started = d.started + entries.length := by
  induction entries generalizing d with
  | nil => exact ⟨rfl, rfl, rfl, rfl⟩
  | cons entry rest ih =>
    obtain ⟨hdelay, hnow, hran, hstarted⟩ := ih (d.schedule entry.1 entry.2)
    refine ⟨hdelay, hnow, hran, hstarted.trans ?_⟩
    rw [List.length_cons]
    show d.started + 1 + rest.length = d.started + (rest.length + 1)
    omega

/-- A restart sets the delay and starts one timer for each call that was pending. -/
lemma frame_restart (d : Debouncer α) (delay : Binary64) :
    (d.restart delay).delay = delay ∧ (d.restart delay).now = d.now ∧
      (d.restart delay).ran = d.ran ∧
        (d.restart delay).started = d.started + d.pending.length := by
  obtain ⟨hdelay, hnow, hran, hstarted⟩ :=
    frame_scheduleAll d.dropped { d.cancelAll with delay := delay }
  refine ⟨hdelay, hnow, hran, hstarted.trans ?_⟩
  rw [dropped, List.length_map]
  rfl

/-- The calls that wait after a restart are those that waited before, with new timers. -/
lemma WellFormed.pending_restart (hd : d.WellFormed) (delay : Binary64) :
    (d.restart delay).pending =
      renewed d.dropped d.started (d.now.after (.ofSeconds delay)) := by
  rw [Debouncer.restart, pending_scheduleAll]
  · rfl
  · rw [dropped, List.map_map]
    exact hd.keys
  · intro entry _ p hp
    cases hp

/-- The renewed calls have new timers, one due time, and the old keys and calls. -/
lemma mem_renewed {entries : List (String × α)} {timer : Nat} {due : Time} {q : Pending α} :
    q ∈ renewed entries timer due →
      timer ≤ q.timer ∧ q.due = due ∧ (q.key, q.call) ∈ entries := by
  intro hq
  obtain ⟨⟨entry, n⟩, hmem, rfl⟩ := List.mem_map.1 hq
  have hindex := List.mk_mem_zipIdx_iff_le_and_getElem?_sub.1 hmem
  exact ⟨hindex.1, rfl, List.mem_of_getElem? hindex.2⟩

/-- A call that waits after a restart waited before. -/
lemma WellFormed.mem_restart (hd : d.WellFormed) {delay : Binary64} {q : Pending α}
    (hq : q ∈ (d.restart delay).pending) :
    d.started ≤ q.timer ∧ q.due = d.now.after (.ofSeconds delay) ∧
      ∃ p ∈ d.pending, p.key = q.key ∧ p.call = q.call := by
  rw [hd.pending_restart] at hq
  obtain ⟨htimer, hdue, hentry⟩ := mem_renewed hq
  obtain ⟨p, hp, heq⟩ := List.mem_map.1 hentry
  obtain ⟨hkey, hcall⟩ := Prod.mk.inj heq
  exact ⟨htimer, hdue, p, hp, hkey, hcall⟩

/-- A call that waits before a restart waits after it. -/
lemma WellFormed.exists_mem_restart (hd : d.WellFormed) (delay : Binary64) {p : Pending α}
    (hp : p ∈ d.pending) :
    ∃ timer, ⟨p.key, timer, d.now.after (.ofSeconds delay), p.call⟩ ∈
      (d.restart delay).pending := by
  have hentry : (p.key, p.call) ∈ d.dropped := List.mem_map.2 ⟨p, hp, rfl⟩
  obtain ⟨i, hi⟩ := List.mem_iff_getElem?.1 hentry
  refine ⟨d.started + i, ?_⟩
  rw [hd.pending_restart]
  refine List.mem_map.2 ⟨((p.key, p.call), d.started + i), ?_, rfl⟩
  rw [List.mk_mem_zipIdx_iff_le_and_getElem?_sub]
  refine ⟨Nat.le_add_right _ _, ?_⟩
  rw [Nat.add_sub_cancel_left]
  exact hi

end Remap.Debouncer
