import Mathlib.Data.List.Induction
import Remap.Debouncer.Machine

/-!
# The history of a debouncer

What can be read off the events of a run alone: how many timers have been started, which of them
have run, and which calls wait. A call waits if it has been scheduled and nothing later has taken
its place, dropped it, or run it. `waits_concat` says what one more event changes in this.
-/

namespace Remap

namespace Event

variable {α : Type}

/-- The event takes away the call that waits for a key: another one takes its place, or none. -/
def Displaces (key : String) : Event α → Prop
  | .asked (.schedule k _) => k = key
  | .asked (.cancel k) => k = key
  | .asked .cancelAll => True
  | .fired _ _ => False

/-- The event starts a timer. -/
def starts : Event α → Bool
  | .asked (.schedule _ _) => true
  | _ => false

/-- The timer that runs in an event. -/
def timer? : Event α → Option Nat
  | .asked _ => none
  | .fired timer _ => some timer

end Event

namespace History

variable {α : Type} {h before after : List (Event α)} {key : String} {timer : Nat} {call : α}

/-- The number of timers started so far, which is the number of the next one. -/
def timerCount (h : List (Event α)) : Nat :=
  h.countP Event.starts

/-- The timers that have run, in order. -/
def firings (h : List (Event α)) : List Nat :=
  h.filterMap Event.timer?

/--
The call that was scheduled with a timer waits for its key: since then nothing has been scheduled or
cancelled for the key, not all calls have been dropped, and the call has not started to run.
-/
def Waits (h : List (Event α)) (key : String) (timer : Nat) (call : α) : Prop :=
  ∃ before after, h = before ++ .asked (.schedule key call) :: after ∧ timerCount before = timer ∧
    (∀ e ∈ after, ¬ e.Displaces key) ∧ ∀ p, .fired timer (some p) ∉ after

/-- One more event starts one more timer or none. -/
lemma timerCount_concat (h : List (Event α)) (e : Event α) :
    timerCount (h ++ [e]) = timerCount h + if e.starts then 1 else 0 := by
  rw [timerCount, List.countP_append, List.countP_singleton]
  rfl

/-- One more event adds its firing, if it is one. -/
lemma firings_concat (h : List (Event α)) (e : Event α) :
    firings (h ++ [e]) = firings h ++ e.timer?.toList := by
  rw [firings, List.filterMap_append]
  cases e <;> rfl

/-- The firings are the events in which a timer fires. -/
lemma mem_firings : timer ∈ firings h ↔ ∃ ran, .fired timer ran ∈ h := by
  rw [firings, List.mem_filterMap]
  refine ⟨?_, ?_⟩
  · intro hw
    obtain ⟨e, he, htimer⟩ := hw
    cases e with
    | asked request => cases htimer
    | fired t ran =>
      cases htimer
      exact ⟨ran, he⟩
  · intro hw
    obtain ⟨ran, hran⟩ := hw
    exact ⟨_, hran, rfl⟩

/-- Up to the event that starts a timer, fewer timers have been started than up to a later one. -/
lemma timerCount_lt_of_split {request : String × α} {middle : List (Event α)} :
    timerCount before <
      timerCount (before ++ .asked (.schedule request.1 request.2) :: middle) := by
  rw [timerCount, timerCount, List.countP_append, List.countP_cons_of_pos rfl]
  omega

/-- A timer is started by one event. -/
lemma split_unique {before' after' : List (Event α)} {key' : String} {call' : α}
    (h : before ++ .asked (.schedule key call) :: after =
      before' ++ .asked (.schedule key' call') :: after')
    (hstarted : timerCount before = timerCount before') :
    before = before' ∧ key = key' ∧ call = call' ∧ after = after' := by
  obtain ⟨gap, hbefore, hgap⟩ | ⟨gap, hbefore, hgap⟩ := List.append_eq_append_iff.1 h
  · cases gap with
    | nil =>
      cases hgap
      exact ⟨by simpa using hbefore.symm, rfl, rfl, rfl⟩
    | cons e gap =>
      cases hgap
      have hlt := @timerCount_lt_of_split _ before (key, call) gap
      rw [hbefore] at hstarted
      exact absurd hstarted (Nat.ne_of_lt hlt)
  · cases gap with
    | nil =>
      cases hgap
      exact ⟨by simpa using hbefore, rfl, rfl, rfl⟩
    | cons e gap =>
      cases hgap
      have hlt := @timerCount_lt_of_split _ before' (key', call') gap
      rw [hbefore] at hstarted
      exact absurd hstarted.symm (Nat.ne_of_lt hlt)

/-- Every timer that has been started was started by an event that schedules a call. -/
lemma exists_split_of_lt_timerCount (hlt : timer < timerCount h) :
    ∃ before key call after,
      h = before ++ .asked (.schedule key call) :: after ∧ timerCount before = timer := by
  induction h using List.reverseRecOn with
  | nil => cases hlt
  | append_singleton h e ih =>
    by_cases hold : timer < timerCount h
    · obtain ⟨before, key, call, after, rfl, hstarted⟩ := ih hold
      exact ⟨before, key, call, after ++ [e], by simp, hstarted⟩
    · -- the timer is the one that the last event starts
      rw [timerCount_concat] at hlt
      cases e with
      | asked request =>
        cases request with
        | schedule key call =>
          refine ⟨h, key, call, [], rfl, ?_⟩
          simp only [Event.starts, if_true] at hlt
          omega
        | cancel key => exact absurd hlt hold
        | cancelAll => exact absurd hlt hold
      | fired t ran => exact absurd hlt hold

/--
After one more event the calls wait that waited before, unless the event displaces or runs them, and
the call that the event schedules.
-/
lemma waits_concat {e : Event α} :
    Waits (h ++ [e]) key timer call ↔
      e = .asked (.schedule key call) ∧ timer = timerCount h ∨
        Waits h key timer call ∧ ¬ e.Displaces key ∧ ∀ p, e ≠ .fired timer (some p) := by
  refine ⟨?_, ?_⟩
  · intro hw
    obtain ⟨before, after, hsplit, hstarted, hkeep, hfired⟩ := hw
    -- the last event is either the one that schedules the call or one after it
    cases after using List.reverseRecOn with
    | nil =>
      obtain ⟨rfl, he⟩ := List.append_inj' hsplit rfl
      cases he
      exact .inl ⟨rfl, hstarted.symm⟩
    | append_singleton after last =>
      rw [← List.cons_append, ← List.append_assoc] at hsplit
      obtain ⟨rfl, he⟩ := List.append_inj' hsplit rfl
      cases he
      refine .inr ⟨⟨before, after, rfl, hstarted, ?_, ?_⟩, hkeep e (by simp), ?_⟩
      · intro x hx
        exact hkeep x (by simp [hx])
      · intro p hp
        exact hfired p (by simp [hp])
      · intro p hp
        exact hfired p (by simp [hp])
  · intro hor
    obtain ⟨rfl, rfl⟩ | ⟨⟨before, after, rfl, hstarted, hkeep, hfired⟩, hlast, hran⟩ := hor
    · exact ⟨h, [], rfl, rfl, nofun, nofun⟩
    · refine ⟨before, after ++ [e], by simp, hstarted, ?_, ?_⟩
      · intro x hx
        obtain hx | hx := List.mem_append.1 hx
        · exact hkeep x hx
        · rw [List.mem_singleton.1 hx]
          exact hlast
      · intro p hp
        obtain hp | hp := List.mem_append.1 hp
        · exact hfired p hp
        · exact hran p (List.mem_singleton.1 hp).symm

end History

end Remap
