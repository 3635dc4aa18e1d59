import Mathlib.Data.List.Nodup
import Remap.Debouncer.Basic

/-!
# Well-formed debouncers

A debouncer holds one call for a key, and every call that it holds has a timer of its own, which has
been started and has not run. Every operation keeps this. So a timer finds the one call that waits
for it, and a call that waits can be run by its timer.
-/

namespace Remap.Debouncer

variable {α : Type} {d : Debouncer α}

/-- The calls that wait have keys and timers of their own, and their timers can run. -/
structure WellFormed (d : Debouncer α) : Prop where
  keys : (d.pending.map Pending.key).Nodup
  timers : d.pending.Pairwise fun p q => p.timer < q.timer
  started : ∀ p ∈ d.pending, p.timer < d.started
  waiting : ∀ p ∈ d.pending, p.timer ∉ d.ran
  ran : ∀ timer ∈ d.ran, timer < d.started

namespace WellFormed

/-- A debouncer is well-formed at the start. -/
lemma start (delay : Binary64) : WellFormed (start delay : Debouncer α) where
  keys := List.nodup_nil
  timers := List.Pairwise.nil
  started := nofun
  waiting := nofun
  ran := nofun

/-- Dropping calls keeps a debouncer well-formed. -/
lemma drop (hd : d.WellFormed) {rest : List (Pending α)} (hrest : rest.Sublist d.pending) :
    WellFormed { d with pending := rest } where
  keys := hd.keys.sublist (hrest.map _)
  timers := hd.timers.sublist hrest
  started p hp := hd.started p (hrest.subset hp)
  waiting p hp := hd.waiting p (hrest.subset hp)
  ran := hd.ran

/-- Asking for a call keeps a debouncer well-formed. -/
lemma schedule (hd : d.WellFormed) (key : String) (call : α) :
    WellFormed (d.schedule key call) where
  keys := by
    show ((d.others key ++ [d.newTimer key call]).map Pending.key).Nodup
    rw [List.map_append, List.nodup_append']
    refine ⟨hd.keys.sublist (List.filter_sublist.map _), List.nodup_singleton _, ?_⟩
    intro k hk hkey
    obtain ⟨p, hp, rfl⟩ := List.mem_map.1 hk
    exact (mem_others.1 hp).2 (List.mem_singleton.1 hkey)
  timers := by
    show (d.others key ++ [d.newTimer key call]).Pairwise _
    rw [List.pairwise_append]
    refine ⟨hd.timers.sublist List.filter_sublist, List.pairwise_singleton _ _, ?_⟩
    intro p hp q hq
    rw [List.mem_singleton.1 hq]
    exact hd.started p (mem_others.1 hp).1
  started p hp := by
    obtain hp | hp := List.mem_append.1 hp
    · exact Nat.lt_succ_of_lt (hd.started p (mem_others.1 hp).1)
    · rw [List.mem_singleton.1 hp]
      exact Nat.lt_succ_self _
  waiting p hp := by
    obtain hp | hp := List.mem_append.1 hp
    · exact hd.waiting p (mem_others.1 hp).1
    · rw [List.mem_singleton.1 hp]
      intro hran
      exact Nat.lt_irrefl _ (hd.ran _ hran)
  ran timer hran := Nat.lt_succ_of_lt (hd.ran timer hran)

/-- A request keeps a debouncer well-formed. -/
lemma handle (hd : d.WellFormed) (request : Request α) : WellFormed (d.handle request) := by
  cases request with
  | schedule key call => exact hd.schedule key call
  | cancel key => exact hd.drop List.filter_sublist
  | cancelAll => exact hd.drop (List.nil_sublist _)

/-- A timer that can run keeps a debouncer well-formed. -/
lemma release (hd : d.WellFormed) {timer : Nat} (hrun : d.canRun timer = true) :
    WellFormed (d.release timer) where
  keys := hd.keys.sublist (List.filter_sublist.map _)
  timers := hd.timers.sublist List.filter_sublist
  started p hp := hd.started p (List.mem_of_mem_filter hp)
  waiting p hp := by
    obtain ⟨hmem, hne⟩ := List.mem_filter.1 hp
    intro hran
    obtain heq | hran := List.mem_cons.1 hran
    · exact bne_iff_ne.1 hne heq
    · exact hd.waiting p hmem hran
  ran t ht := by
    obtain rfl | ht := List.mem_cons.1 ht
    · exact of_decide_eq_true (Bool.and_eq_true_iff.1 hrun).1
    · exact hd.ran t ht

/-- A timer that runs out keeps a debouncer well-formed. -/
lemma expire (hd : d.WellFormed) (timer : Nat) : WellFormed (d.expire timer).1 := by
  rw [Debouncer.expire]
  split
  case isTrue hrun => exact hd.release hrun
  case isFalse => exact hd

/-- Requests one after the other keep a debouncer well-formed. -/
lemma perform (hd : d.WellFormed) (actions : List (Action α)) : WellFormed (d.perform actions) := by
  induction actions generalizing d with
  | nil => exact hd
  | cons action rest ih =>
    cases action with
    | ask request => exact ih (hd.handle request)
    | fail => exact hd

/-- A timer that fires keeps a debouncer well-formed. -/
lemma fire (hd : d.WellFormed) (b : Behaviour α) (timer : Nat) :
    WellFormed (d.fire b timer).1 := by
  have hexpire := hd.expire timer
  rw [Debouncer.fire]
  cases hcall : d.expire timer with
  | mk next call =>
    rw [hcall] at hexpire
    cases call with
    | none => exact hexpire
    | some p => exact hexpire.perform _

/-- Waiting keeps a debouncer well-formed. -/
lemma wait (hd : d.WellFormed) (moment : Time) : WellFormed { d with now := moment } :=
  ⟨hd.keys, hd.timers, hd.started, hd.waiting, hd.ran⟩

/-- Asking for several calls keeps a debouncer well-formed. -/
lemma scheduleAll (hd : d.WellFormed) (entries : List (String × α)) :
    WellFormed (entries.foldl (fun d entry => d.schedule entry.1 entry.2) d) := by
  induction entries generalizing d with
  | nil => exact hd
  | cons entry rest ih => exact ih (hd.schedule entry.1 entry.2)

/-- A restart keeps a debouncer well-formed. -/
lemma restart (hd : d.WellFormed) (delay : Binary64) : WellFormed (d.restart delay) := by
  apply scheduleAll
  have hdrop := hd.drop (List.nil_sublist _)
  exact ⟨hdrop.keys, hdrop.timers, hdrop.started, hdrop.waiting, hdrop.ran⟩

/-- A call that waits can be run by its timer. -/
lemma canRun (hd : d.WellFormed) {p : Pending α} (hp : p ∈ d.pending) :
    d.canRun p.timer = true := by
  rw [Debouncer.canRun, Bool.and_eq_true, decide_eq_true_eq, Bool.not_eq_true',
    List.contains_eq_mem, decide_eq_false_iff_not]
  exact ⟨hd.started p hp, hd.waiting p hp⟩

/-- No two pending calls have the same timer. -/
lemma eq_of_timer (hd : d.WellFormed) {p q : Pending α} (hp : p ∈ d.pending) (hq : q ∈ d.pending)
    (h : p.timer = q.timer) : p = q := by
  have htimers : (d.pending.map Pending.timer).Nodup := by
    rw [List.nodup_iff_pairwise_ne, List.pairwise_map]
    exact hd.timers.imp Nat.ne_of_lt
  exact List.inj_on_of_nodup_map htimers hp hq h

/-- No two pending calls have the same key. -/
lemma eq_of_key (hd : d.WellFormed) {p q : Pending α} (hp : p ∈ d.pending) (hq : q ∈ d.pending)
    (h : p.key = q.key) : p = q :=
  List.inj_on_of_nodup_map hd.keys hp hq h

/-- A timer finds the call that waits for it. -/
lemma held?_eq_some_iff (hd : d.WellFormed) {timer : Nat} {p : Pending α} :
    d.held? timer = some p ↔ p ∈ d.pending ∧ p.timer = timer := by
  refine ⟨?_, ?_⟩
  · intro hp
    have htimer : p.timer = timer := by simpa using List.find?_some hp
    exact ⟨List.mem_of_find?_eq_some hp, htimer⟩
  · intro h
    obtain ⟨hmem, htimer⟩ := h
    have hsome : (d.held? timer).isSome = true :=
      List.find?_isSome.2 ⟨p, hmem, beq_iff_eq.2 htimer⟩
    obtain ⟨q, hq⟩ := Option.isSome_iff_exists.1 hsome
    have hqtimer : q.timer = timer := by simpa using List.find?_some hq
    rw [hq, hd.eq_of_timer (List.mem_of_find?_eq_some hq) hmem (hqtimer.trans htimer.symm)]

/-- A timer for which no call waits finds none. -/
lemma held?_eq_none {timer : Nat} (h : ∀ p ∈ d.pending, p.timer ≠ timer) :
    d.held? timer = none := by
  rw [Debouncer.held?, List.find?_eq_none]
  intro p hp heq
  exact h p hp (beq_iff_eq.1 heq)

end WellFormed

end Remap.Debouncer
