import Remap.Proofs.Debouncer.Advance
import Remap.Proofs.Debouncer.LatestCall

/-!
# Calls that run without interruption

A timer that is run together with its call, and time that passes with the calls that become due, are
runs of the machine in which nothing comes between the parts of a call. So what holds of all runs
holds of a debouncer that is used in this way.
-/

namespace Remap

variable {α : Type}

/-- The call that starts to run in an event. -/
def Event.call? : Event α → Option (Pending α)
  | .asked _ => none
  | .fired _ ran => ran

namespace Machine

variable {b : Behaviour α} {d : Debouncer α}

/-- Without actions left nothing is running. -/
lemma leave_idle_nil (timer : Nat) : (idle d).leave timer [] = idle d := by
  rw [leave, idle, Machine.mk.injEq]
  refine ⟨rfl, ?_⟩
  funext other
  exact ite_self _

/-- What a timer leaves to be done is replaced as a whole. -/
lemma leave_leave (s : Machine α) (timer : Nat) (first second : List (Action α)) :
    (s.leave timer first).leave timer second = s.leave timer second := by
  rw [leave, leave, Machine.mk.injEq]
  refine ⟨rfl, ?_⟩
  funext other
  by_cases hother : other = timer
  · simp only [leave, if_pos hother]
  · simp only [leave, if_neg hother]

/-- A call that has started can run to its end, and no other call starts meanwhile. -/
lemma exists_run_perform (b : Behaviour α) (d : Debouncer α) (timer : Nat)
    (actions : List (Action α)) :
    ∃ steps, ((idle d).leave timer actions).run b steps = idle (d.perform actions) ∧
      (((idle d).leave timer actions).history b steps).filterMap Event.call? = [] := by
  induction actions generalizing d with
  | nil => exact ⟨[], leave_idle_nil timer, rfl⟩
  | cons action rest ih =>
    have hleft : ((idle d).leave timer (action :: rest)).left timer = action :: rest := if_pos rfl
    cases action with
    | ask request =>
      have hstep : ((idle d).leave timer (.ask request :: rest)).step b (.resume timer) =
          ((idle (d.handle request)).leave timer rest, [.asked request]) := by
        rw [step, hleft]
        exact congrArg (·, _) (leave_leave (idle (d.handle request)) timer _ _)
      obtain ⟨steps, hrun, hcalls⟩ := ih (d.handle request)
      refine ⟨.resume timer :: steps, ?_, ?_⟩
      · rw [run_cons, hstep]
        exact hrun
      · rw [history, hstep]
        exact hcalls
    | fail =>
      have hstep : ((idle d).leave timer (.fail :: rest)).step b (.resume timer) =
          (idle d, []) := by
        rw [step, hleft]
        exact congrArg (·, _) ((leave_leave _ _ _ _).trans (leave_idle_nil timer))
      refine ⟨[.resume timer], ?_, ?_⟩
      · rw [run_cons, hstep]
        rfl
      · rw [history, hstep]
        rfl

/-- A timer that is run together with its call is a run of the machine. -/
theorem exists_run_fire (b : Behaviour α) (d : Debouncer α) (timer : Nat) :
    ∃ steps, (idle d).run b steps = idle (d.fire b timer).1 ∧
      ((idle d).history b steps).filterMap Event.call? = (d.fire b timer).2.toList := by
  by_cases hrun : d.canRun timer = true
  · cases hheld : d.held? timer with
    | none =>
      have hstep : (idle d).step b (.fire timer) =
          (idle (d.release timer), [.fired timer none]) := by
        simp only [step, launch, idle, Debouncer.expire, hrun, hheld, if_true]
        rfl
      refine ⟨[.fire timer], ?_, ?_⟩
      · rw [run_cons, hstep, Debouncer.fire, Debouncer.expire, if_pos hrun, hheld]
        rfl
      · rw [history, hstep, Debouncer.fire, Debouncer.expire, if_pos hrun, hheld]
        rfl
    | some p =>
      have hstep : (idle d).step b (.fire timer) =
          ((idle (d.release timer)).leave timer (b.actions p), [.fired timer (some p)]) := by
        simp only [step, launch, idle, Debouncer.expire, hrun, hheld, if_true]
        rfl
      obtain ⟨steps, hperform, hcalls⟩ :=
        exists_run_perform b (d.release timer) timer (b.actions p)
      refine ⟨.fire timer :: steps, ?_, ?_⟩
      · rw [run_cons, hstep, Debouncer.fire, Debouncer.expire, if_pos hrun, hheld]
        exact hperform
      · rw [history, hstep, Debouncer.fire, Debouncer.expire, if_pos hrun, hheld,
          List.filterMap_append, hcalls]
        rfl
  · refine ⟨[], ?_, ?_⟩
    · rw [Debouncer.fire, Debouncer.expire, if_neg hrun]
      rfl
    · rw [Debouncer.fire, Debouncer.expire, if_neg hrun]
      rfl

/-- What the debouncer runs by itself is a run of the machine, with the same calls. -/
lemma exists_run_runDue (b : Behaviour α) (hd : d.WellFormed) (target : Time) (fuel : Nat) :
    ∃ steps, (idle d).run b steps = idle (d.runDue b target fuel).1 ∧
      ((idle d).history b steps).filterMap Event.call? = (d.runDue b target fuel).2 := by
  induction fuel generalizing d with
  | zero => exact ⟨[], rfl, rfl⟩
  | succ fuel ih =>
    rw [Debouncer.runDue]
    cases hnext : d.next? target with
    | none => exact ⟨[], rfl, rfl⟩
    | some p =>
      -- the clock goes on to the time of the call, which then runs from start to end
      have hwait := hd.wait p.due
      have hp := (Debouncer.next?_spec hnext).1
      obtain ⟨first, hfirst, hcall⟩ := exists_run_fire b { d with now := p.due } p.timer
      obtain ⟨rest, hrest, hcalls⟩ := ih (hwait.fire b p.timer)
      refine ⟨.wait p.due :: (first ++ rest), ?_, ?_⟩
      · rw [run_cons, run_append]
        show ((idle { d with now := p.due }).run b first).run b rest = _
        rw [hfirst, hrest]
      · show ((idle { d with now := p.due }).history b (first ++ rest)).filterMap _ = _
        rw [history_append, List.filterMap_append, hcall, hfirst, hcalls]
        simp only [hwait.fire_of_mem b hp]
        rfl

/-- Time that passes, with the calls that become due, is a run of the machine. -/
theorem exists_run_advance (b : Behaviour α) (hd : d.WellFormed) (seconds : Binary64) :
    ∃ steps, (idle d).run b steps = idle (d.advance b seconds).1 ∧
      ((idle d).history b steps).filterMap Event.call? = (d.advance b seconds).2 := by
  obtain ⟨steps, hrun, hcalls⟩ :=
    exists_run_runDue b hd (d.now.after (.ofSeconds seconds)) (d.load b)
  refine ⟨steps ++ [.wait (d.now.after (.ofSeconds seconds))], ?_, ?_⟩
  · rw [run_append, hrun]
    rfl
  · rw [history_append, List.filterMap_append, hcalls]
    exact List.append_nil _

end Machine

end Remap
