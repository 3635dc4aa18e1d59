import Remap.Proofs.Debouncer.History
import Remap.Proofs.Debouncer.WellFormed

/-!
# The state of a debouncer and its history

A debouncer agrees with a history if its state is what the history tells: it holds the calls that
wait, and knows the timers that have been started and that have run. Each operation on the debouncer
keeps the agreement with one more event.
-/

namespace Remap.Debouncer

open History

variable {α : Type} {d : Debouncer α} {h : List (Event α)} {key : String} {timer : Nat} {call : α}

/-- The debouncer holds a call for its key and its timer. -/
def Holds (d : Debouncer α) (key : String) (timer : Nat) (call : α) : Prop :=
  ∃ due, ⟨key, timer, due, call⟩ ∈ d.pending

/-- The debouncer is in the state that the history tells. -/
structure Agrees (h : List (Event α)) (d : Debouncer α) : Prop where
  wellFormed : d.WellFormed
  started : d.started = timerCount h
  ran : ∀ timer, timer ∈ d.ran ↔ timer ∈ firings h
  once : (firings h).Nodup
  holds : ∀ key timer call, d.Holds key timer call ↔ Waits h key timer call

/-- A cancellation takes away the call of its key and no other. -/
lemma holds_cancel {k : String} :
    (d.cancel k).Holds key timer call ↔ d.Holds key timer call ∧ key ≠ k := by
  refine ⟨?_, ?_⟩
  · intro hw
    obtain ⟨due, hdue⟩ := hw
    obtain ⟨hmem, hne⟩ := mem_others.1 hdue
    exact ⟨⟨due, hmem⟩, hne⟩
  · intro hw
    obtain ⟨⟨due, hmem⟩, hne⟩ := hw
    exact ⟨due, mem_others.2 ⟨hmem, hne⟩⟩

/-- A call that is asked for takes the place of the one held for its key. -/
lemma holds_schedule {k : String} {c : α} :
    (d.schedule k c).Holds key timer call ↔
      d.Holds key timer call ∧ key ≠ k ∨ k = key ∧ timer = d.started ∧ c = call := by
  refine ⟨?_, ?_⟩
  · intro hw
    obtain ⟨due, hdue⟩ := hw
    obtain hmem | hmem := List.mem_append.1 hdue
    · exact .inl (holds_cancel.1 ⟨due, hmem⟩)
    · cases List.mem_singleton.1 hmem
      exact .inr ⟨rfl, rfl, rfl⟩
  · intro hor
    obtain hold | ⟨rfl, rfl, rfl⟩ := hor
    · obtain ⟨due, hmem⟩ := holds_cancel.2 hold
      exact ⟨due, List.mem_append_left _ hmem⟩
    · exact ⟨_, List.mem_append_right _ (List.mem_singleton.2 rfl)⟩

/-- A timer that runs takes its call away and no other. -/
lemma holds_release {t : Nat} :
    (d.release t).Holds key timer call ↔ d.Holds key timer call ∧ timer ≠ t := by
  simp only [Holds, release, List.mem_filter, bne_iff_ne, ne_eq, exists_and_right]

/-- A key is pending if a call is held for it. -/
lemma isPending_iff : d.isPending key = true ↔ ∃ timer call, d.Holds key timer call := by
  rw [isPending, List.any_eq_true]
  refine ⟨?_, ?_⟩
  · intro hw
    obtain ⟨p, hp, hkey⟩ := hw
    rw [← beq_iff_eq.1 hkey]
    exact ⟨p.timer, p.call, p.due, hp⟩
  · intro hw
    obtain ⟨timer, call, due, hdue⟩ := hw
    exact ⟨_, hdue, beq_iff_eq.2 rfl⟩

/-- Dropped are all calls that are held. -/
lemma mem_dropped : (key, call) ∈ d.dropped ↔ ∃ timer, d.Holds key timer call := by
  rw [dropped, List.mem_map]
  refine ⟨?_, ?_⟩
  · intro hw
    obtain ⟨p, hp, heq⟩ := hw
    cases heq
    exact ⟨p.timer, p.due, hp⟩
  · intro hw
    obtain ⟨timer, due, hdue⟩ := hw
    exact ⟨_, hdue, rfl⟩

/-- At the start nothing has happened and nothing is held. -/
lemma agrees_start (delay : Binary64) : Agrees [] (start delay : Debouncer α) where
  wellFormed := .start delay
  started := rfl
  ran _ := Iff.rfl
  once := List.nodup_nil
  holds key timer call := by
    refine ⟨?_, ?_⟩
    · intro hw
      obtain ⟨due, hdue⟩ := hw
      cases hdue
    · intro hw
      obtain ⟨before, after, hsplit, _⟩ := hw
      cases before <;> cases hsplit

namespace Agrees

/-- No timer runs when something is asked. -/
lemma of_asked (ha : Agrees h d) {request : Request α} {after : Debouncer α}
    (hafter : after.WellFormed) (hran : after.ran = d.ran)
    (hstarted : after.started = timerCount (h ++ [.asked request]))
    (hholds : ∀ key timer call,
      after.Holds key timer call ↔ Waits (h ++ [.asked request]) key timer call) :
    Agrees (h ++ [.asked request]) after := by
  have hfirings : firings (h ++ [.asked request]) = firings h := by
    rw [firings_concat]
    exact List.append_nil _
  refine ⟨hafter, hstarted, ?_, ?_, hholds⟩
  · rw [hfirings, hran]
    exact ha.ran
  · rw [hfirings]
    exact ha.once

/-- A request changes what is held as its record in the history says. -/
lemma handle (ha : Agrees h d) (request : Request α) :
    Agrees (h ++ [.asked request]) (d.handle request) := by
  have hafter := ha.wellFormed.handle request
  cases request with
  | schedule k c =>
    apply ha.of_asked hafter rfl
    · rw [timerCount_concat, ← ha.started]
      rfl
    · intro key timer call
      show (d.schedule k c).Holds key timer call ↔ _
      rw [holds_schedule, waits_concat, ha.holds, ha.started]
      simp only [Event.asked.injEq, Request.schedule.injEq, Event.Displaces, reduceCtorEq, ne_eq,
        not_false_eq_true, implies_true, and_true]
      grind
  | cancel k =>
    apply ha.of_asked hafter rfl
    · rw [timerCount_concat, ← ha.started]
      rfl
    · intro key timer call
      show (d.cancel k).Holds key timer call ↔ _
      rw [holds_cancel, waits_concat, ha.holds]
      simp only [Event.asked.injEq, reduceCtorEq, false_and, false_or, Event.Displaces, ne_eq,
        not_false_eq_true, implies_true, and_true, eq_comm]
  | cancelAll =>
    apply ha.of_asked hafter rfl
    · rw [timerCount_concat, ← ha.started]
      rfl
    · intro key timer call
      rw [waits_concat]
      refine ⟨?_, ?_⟩
      · intro hheld
        obtain ⟨due, hdue⟩ := hheld
        cases hdue
      · intro hor
        obtain ⟨he, -⟩ | ⟨-, hdisplaced, -⟩ := hor
        · cases he
        · exact absurd trivial hdisplaced

/-- A timer that has not been started, or has run, does not run. -/
lemma canRun_iff (ha : Agrees h d) {timer : Nat} :
    d.canRun timer = true ↔ timer < timerCount h ∧ timer ∉ firings h := by
  rw [canRun, Bool.and_eq_true, decide_eq_true_eq, Bool.not_eq_true', List.contains_eq_mem,
    decide_eq_false_iff_not, ha.started, ha.ran]

/-- A firing changes what is held as its record in the history says. -/
lemma release (ha : Agrees h d) {timer : Nat} (hrun : d.canRun timer = true) :
    Agrees (h ++ [.fired timer (d.held? timer)]) (d.release timer) := by
  have hfirings : firings (h ++ [.fired timer (d.held? timer)]) = firings h ++ [timer] :=
    firings_concat _ _
  refine ⟨ha.wellFormed.release hrun, ?_, ?_, ?_, ?_⟩
  · rw [timerCount_concat, ← ha.started]
    rfl
  · intro other
    rw [hfirings, List.mem_append, List.mem_singleton, ← ha.ran, or_comm]
    exact List.mem_cons
  · rw [hfirings, ← List.concat_eq_append]
    exact ha.once.concat (ha.canRun_iff.1 hrun).2
  · intro key other call
    rw [holds_release, waits_concat, ← ha.holds]
    refine ⟨?_, ?_⟩
    · intro hw
      obtain ⟨hold, hne⟩ := hw
      refine .inr ⟨hold, id, ?_⟩
      intro p hp
      exact hne (Event.fired.inj hp).1.symm
    · intro hor
      obtain ⟨he, -⟩ | ⟨hold, -, hran⟩ := hor
      · cases he
      · refine ⟨hold, ?_⟩
        intro heq
        obtain ⟨due, hdue⟩ := hold
        -- if it were the timer that runs, it would have found this call
        exact hran _ (by rw [ha.wellFormed.held?_eq_some_iff.2 ⟨hdue, heq⟩, heq])

/-- Waiting changes nothing that the history tells. -/
lemma wait (ha : Agrees h d) (moment : Time) : Agrees h { d with now := moment } :=
  ⟨ha.wellFormed.wait moment, ha.started, ha.ran, ha.once, ha.holds⟩

end Agrees

end Remap.Debouncer
