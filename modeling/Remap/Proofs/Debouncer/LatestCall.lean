import Remap.Debouncer.Machine
import Remap.Proofs.Debouncer.Agreement

/-!
# The latest call for a key

Whatever comes in whatever order to a debouncer and the calls that run on it, its state agrees with
the history. From this `latest_call_exact`: the call of a timer runs when the timer runs, unless it
has been displaced before, and it runs once; the calls that wait are those that the history leaves
waiting; and it makes no difference whether a call fails or returns.
-/

namespace Remap

open History

variable {α : Type}

namespace Action

/-- What is asked up to the first failure. -/
def requests : List (Action α) → List (Request α)
  | [] => []
  | .ask request :: rest => request :: requests rest
  | .fail :: _ => []

end Action

namespace Machine

variable {b b' : Behaviour α} {s s' : Machine α} {h : List (Event α)}

/-- A debouncer for which nothing has been scheduled, with no running calls. -/
def start (delay : Binary64) : Machine α :=
  idle (.start delay)

/-- Launching a call takes its timer from the debouncer. -/
lemma debouncer_launch (timer : Nat) :
    (s.launch b timer).debouncer = (s.debouncer.expire timer).1 := by
  rw [launch]
  cases s.debouncer.expire timer with
  | mk d call => cases call <;> rfl

/-- A timer that can run fires and is recorded with the call that it held. -/
lemma step_fire_of_canRun {timer : Nat} (hrun : s.debouncer.canRun timer = true) :
    (s.step b (.fire timer)).1.debouncer = s.debouncer.release timer ∧
      (s.step b (.fire timer)).2 = [.fired timer (s.debouncer.held? timer)] := by
  rw [step, if_pos hrun, debouncer_launch, Debouncer.expire, if_pos hrun]
  exact ⟨rfl, rfl⟩

/-- A timer that cannot run does nothing. -/
lemma step_fire_of_not_canRun {timer : Nat} (hrun : ¬ s.debouncer.canRun timer = true) :
    s.step b (.fire timer) = (s, []) := by
  rw [step, if_neg hrun]

/-- A step keeps the history in agreement with the debouncer. -/
lemma agrees_step (ha : Debouncer.Agrees h s.debouncer) (x : Step α) :
    Debouncer.Agrees (h ++ (s.step b x).2) (s.step b x).1.debouncer := by
  cases x with
  | request request => exact ha.handle request
  | fire timer =>
    by_cases hrun : s.debouncer.canRun timer = true
    · obtain ⟨hdebouncer, hevents⟩ := @step_fire_of_canRun _ b _ _ hrun
      rw [hdebouncer, hevents]
      exact ha.release hrun
    · rw [step_fire_of_not_canRun hrun, List.append_nil]
      exact ha
  | resume timer =>
    rw [step]
    cases s.left timer with
    | nil =>
      rw [List.append_nil]
      exact ha
    | cons action rest =>
      cases action with
      | ask request => exact ha.handle request
      | fail =>
        rw [List.append_nil]
        exact ha
  | wait moment =>
    rw [step, List.append_nil]
    exact ha.wait moment

/-- A run keeps the agreement of the debouncer with the history. -/
lemma agrees_run (ha : Debouncer.Agrees h s.debouncer) (steps : List (Step α)) :
    Debouncer.Agrees (h ++ s.history b steps) (s.run b steps).debouncer := by
  induction steps generalizing s h with
  | nil =>
    rw [history, List.append_nil]
    exact ha
  | cons x rest ih =>
    rw [history, ← List.append_assoc]
    exact ih (agrees_step ha x)

/-- Along each run from the start the history agrees with the debouncer. -/
lemma agrees_run_start (b : Behaviour α) (delay : Binary64) (steps : List (Step α)) :
    Debouncer.Agrees ((start delay).history b steps) ((start delay).run b steps).debouncer :=
  @agrees_run _ b (start delay) [] (Debouncer.agrees_start delay) steps

/-- At most one thing happens in a step. -/
lemma step_events (x : Step α) : (s.step b x).2 = [] ∨ ∃ e, (s.step b x).2 = [e] := by
  cases x with
  | request request => exact .inr ⟨_, rfl⟩
  | fire timer =>
    by_cases hrun : s.debouncer.canRun timer = true
    · exact .inr ⟨_, (step_fire_of_canRun hrun).2⟩
    · rw [step_fire_of_not_canRun hrun]
      exact .inl rfl
  | resume timer =>
    rw [step]
    cases s.left timer with
    | nil => exact .inl rfl
    | cons action rest =>
      cases action with
      | ask request => exact .inr ⟨_, rfl⟩
      | fail => exact .inl rfl
  | wait moment => exact .inl rfl

/-- Every event of a run happens in one of its steps, after the events before it. -/
lemma exists_step_of_event {steps : List (Step α)} {before after : List (Event α)} {e : Event α}
    (hsplit : s.history b steps = before ++ e :: after) :
    ∃ done x, s.history b done = before ∧ ((s.run b done).step b x).2 = [e] := by
  induction steps generalizing s before with
  | nil => cases before <;> cases hsplit
  | cons x rest ih =>
    rw [history] at hsplit
    -- a first step without an event is part of every run that leads to the event
    obtain hevents | ⟨first, hevents⟩ := @step_events _ b s x
    · rw [hevents, List.nil_append] at hsplit
      obtain ⟨done, y, hdone, hy⟩ := ih hsplit
      refine ⟨x :: done, y, ?_, hy⟩
      rw [history, hevents, hdone, List.nil_append]
    · rw [hevents, List.singleton_append] at hsplit
      cases before with
      | nil =>
        cases hsplit
        exact ⟨[], x, rfl, hevents⟩
      | cons first' before =>
        obtain ⟨rfl, htail⟩ := List.cons.inj hsplit
        obtain ⟨done, y, hdone, hy⟩ := ih htail
        refine ⟨x :: done, y, ?_, hy⟩
        rw [history, hevents, hdone, List.singleton_append]

/-- A timer that runs can run, and the call that is held for it starts to run. -/
lemma canRun_of_fired {x : Step α} {timer : Nat} {ran : Option (Pending α)}
    (hx : (s.step b x).2 = [.fired timer ran]) :
    s.debouncer.canRun timer = true ∧ ran = s.debouncer.held? timer := by
  cases x with
  | request request => cases hx
  | fire t =>
    by_cases hrun : s.debouncer.canRun t = true
    · rw [(step_fire_of_canRun hrun).2] at hx
      obtain ⟨rfl, rfl⟩ := Event.fired.inj (List.singleton_inj.1 hx)
      exact ⟨hrun, rfl⟩
    · rw [step_fire_of_not_canRun hrun] at hx
      cases hx
  | resume t =>
    rw [step] at hx
    cases hleft : s.left t with
    | nil =>
      rw [hleft] at hx
      cases hx
    | cons action rest =>
      rw [hleft] at hx
      cases action <;> cases hx
  | wait moment => cases hx

/-- The firings in the history of a run: what holds at the moment at which a timer runs. -/
lemma agrees_of_fired {delay : Binary64} {steps : List (Step α)} {before after : List (Event α)}
    {timer : Nat} {ran : Option (Pending α)}
    (hsplit : (start delay).history b steps = before ++ .fired timer ran :: after) :
    ∃ d : Debouncer α, Debouncer.Agrees before d ∧ d.canRun timer = true ∧
      ran = d.held? timer := by
  obtain ⟨done, x, hdone, hx⟩ := exists_step_of_event hsplit
  refine ⟨_, ?_, canRun_of_fired hx⟩
  rw [← hdone]
  exact agrees_run_start b delay done

end Machine

namespace Debouncer.Agrees

variable {d : Debouncer α} {h before between : List (Event α)} {key : String} {call : α}

/-- A timer that can run was started when a call was scheduled. -/
lemma exists_schedule (ha : Agrees h d) {timer : Nat} (hrun : d.canRun timer = true) :
    ∃ before key call between,
      h = before ++ .asked (.schedule key call) :: between ∧ timerCount before = timer :=
  exists_split_of_lt_timerCount (ha.canRun_iff.1 hrun).1

/--
When a timer can run, the call that was scheduled with it is held if and only if it has not been
displaced, and no other call is held for it.
-/
lemma held?_iff (ha : Agrees (before ++ .asked (.schedule key call) :: between) d)
    (hrun : d.canRun (timerCount before) = true) :
    ((∃ p, d.held? (timerCount before) = some p) ↔ ∀ e ∈ between, ¬ e.Displaces key) ∧
      ∀ p, d.held? (timerCount before) = some p →
        p.key = key ∧ p.timer = timerCount before ∧ p.call = call := by
  have hwaits : ∀ p, d.held? (timerCount before) = some p →
      Waits (before ++ .asked (.schedule key call) :: between) p.key (timerCount before)
        p.call := by
    intro p hp
    obtain ⟨hmem, htimer⟩ := ha.wellFormed.held?_eq_some_iff.1 hp
    apply (ha.holds _ _ _).1
    rw [← htimer]
    exact ⟨p.due, hmem⟩
  refine ⟨⟨?_, ?_⟩, ?_⟩
  · intro hw
    obtain ⟨p, hp⟩ := hw
    obtain ⟨before', after', hsplit, hstarted, hkeep, -⟩ := hwaits p hp
    obtain ⟨-, hkey, -, hbetween⟩ := split_unique hsplit hstarted.symm
    rw [hkey, hbetween]
    exact hkeep
  · intro hkeep
    -- the timer has not run, so nothing but a displacement could end the waiting
    have hwait : Waits (before ++ .asked (.schedule key call) :: between) key (timerCount before)
        call := by
      refine ⟨before, between, rfl, rfl, hkeep, ?_⟩
      intro p hp
      apply (ha.canRun_iff.1 hrun).2
      exact mem_firings.2 ⟨some p, by simp [hp]⟩
    obtain ⟨due, hdue⟩ := (ha.holds _ _ _).2 hwait
    exact ⟨_, ha.wellFormed.held?_eq_some_iff.2 ⟨hdue, rfl⟩⟩
  · intro p hp
    obtain ⟨before', after', hsplit, hstarted, -, -⟩ := hwaits p hp
    obtain ⟨-, hkey, hcall, -⟩ := split_unique hsplit hstarted.symm
    exact ⟨hkey.symm, (ha.wellFormed.held?_eq_some_iff.1 hp).2, hcall.symm⟩

end Debouncer.Agrees

namespace Machine

variable {b b' : Behaviour α} {s s' : Machine α}

/-- Two machines in the same state, but for failures of the calls that run. -/
structure Alike (s s' : Machine α) : Prop where
  debouncer : s.debouncer = s'.debouncer
  requests : ∀ timer, Action.requests (s.left timer) = Action.requests (s'.left timer)

/-- Machines that are alike are alike with the same debouncer. -/
lemma Alike.withDebouncer (h : Alike s s') {d d' : Debouncer α} (hd : d = d') :
    Alike (s.withDebouncer d) (s'.withDebouncer d') :=
  ⟨hd, h.requests⟩

/-- Machines that are alike are alike when what is left asks for the same. -/
lemma Alike.leave (h : Alike s s') {timer : Nat} {rest rest' : List (Action α)}
    (hrest : Action.requests rest = Action.requests rest') :
    Alike (s.leave timer rest) (s'.leave timer rest') := by
  refine ⟨h.debouncer, ?_⟩
  intro other
  by_cases hother : other = timer
  · simp only [Machine.leave, if_pos hother]
    exact hrest
  · simp only [Machine.leave, if_neg hother]
    exact h.requests other

/-- A call that has nothing more to ask ends its run, whether it fails or returns. -/
lemma step_resume_nil {timer : Nat} (hleft : Action.requests (s.left timer) = []) :
    (s.step b (.resume timer)).2 = [] ∧ Alike (s.step b (.resume timer)).1 s := by
  rw [step]
  cases h : s.left timer with
  | nil => exact ⟨rfl, rfl, fun _ => rfl⟩
  | cons action rest =>
    cases action with
    | ask request =>
      rw [h] at hleft
      cases hleft
    | fail =>
      refine ⟨rfl, rfl, ?_⟩
      intro other
      by_cases hother : other = timer
      · simp only [Machine.leave, hother, h, if_true, Action.requests]
      · simp only [Machine.leave, if_neg hother]

/-- A call that has something more to ask asks it. -/
lemma step_resume_cons {timer : Nat} {request : Request α} {requests : List (Request α)}
    (hleft : Action.requests (s.left timer) = request :: requests) :
    ∃ rest, Action.requests rest = requests ∧ s.step b (.resume timer) =
      ((s.withDebouncer (s.debouncer.handle request)).leave timer rest, [.asked request]) := by
  rw [step]
  cases h : s.left timer with
  | nil =>
    rw [h] at hleft
    cases hleft
  | cons action rest =>
    rw [h] at hleft
    cases action with
    | ask request' =>
      cases hleft
      exact ⟨rest, rfl, rfl⟩
    | fail => cases hleft

/-- Machines that are alike make the same step and are alike after it. -/
lemma Alike.step (h : Alike s s')
    (hb : ∀ p, Action.requests (b.actions p) = Action.requests (b'.actions p)) (x : Step α) :
    (s.step b x).2 = (s'.step b' x).2 ∧ Alike (s.step b x).1 (s'.step b' x).1 := by
  cases x with
  | request request =>
    refine ⟨rfl, h.withDebouncer ?_⟩
    rw [h.debouncer]
  | fire timer =>
    simp only [Machine.step, h.debouncer, launch]
    split
    · cases s'.debouncer.expire timer with
      | mk d call =>
        cases call with
        | none => exact ⟨rfl, h.withDebouncer rfl⟩
        | some p => exact ⟨rfl, (h.withDebouncer rfl).leave (hb p)⟩
    · exact ⟨rfl, h⟩
  | resume timer =>
    cases hleft : Action.requests (s.left timer) with
    | nil =>
      obtain ⟨hevents, hsame⟩ := @step_resume_nil _ b _ _ hleft
      obtain ⟨hevents', hsame'⟩ := @step_resume_nil _ b' _ _ ((h.requests timer).symm.trans hleft)
      refine ⟨hevents.trans hevents'.symm, ?_, ?_⟩
      · exact (hsame.debouncer.trans h.debouncer).trans hsame'.debouncer.symm
      · intro other
        rw [hsame.requests, hsame'.requests, h.requests]
    | cons request requests =>
      obtain ⟨rest, hrest, hstep⟩ := @step_resume_cons _ b _ _ _ _ hleft
      obtain ⟨rest', hrest', hstep'⟩ :=
        @step_resume_cons _ b' _ _ _ _ ((h.requests timer).symm.trans hleft)
      rw [hstep, hstep']
      refine ⟨rfl, (h.withDebouncer ?_).leave (hrest.trans hrest'.symm)⟩
      rw [h.debouncer]
  | wait moment =>
    refine ⟨rfl, h.withDebouncer ?_⟩
    rw [h.debouncer]

/-- Runs of machines whose calls ask the same are alike, and the same happens in them. -/
lemma Alike.run (h : Alike s s')
    (hb : ∀ p, Action.requests (b.actions p) = Action.requests (b'.actions p))
    (steps : List (Step α)) :
    s.history b steps = s'.history b' steps ∧ Alike (s.run b steps) (s'.run b' steps) := by
  induction steps generalizing s s' with
  | nil => exact ⟨rfl, h⟩
  | cons x rest ih =>
    obtain ⟨hevents, hnext⟩ := h.step hb x
    obtain ⟨hhistory, hrun⟩ := ih hnext
    refine ⟨?_, hrun⟩
    rw [history, history, hevents, hhistory]

/--
Only the latest call for a key runs, and it is not lost. Whatever requests, timers and running calls
do in whatever order: when a timer runs that was started for a call, the call runs if and only if
nothing has displaced it since it was scheduled; every timer that runs was started so, and runs
once; a key has a pending call if and only if the call scheduled last for it has been neither
displaced nor run; the calls dropped together are exactly those that wait, one for each key; and
calls that fail leave the same behind as calls that ask the same and return.
-/
theorem latest_call_exact (b : Behaviour α) (delay : Binary64) (steps : List (Step α)) :
    (∀ before key call between timer ran after,
      (start delay).history b steps =
          before ++ .asked (.schedule key call) :: between ++ .fired timer ran :: after →
        timerCount before = timer →
          ((∃ p, ran = some p) ↔ ∀ e ∈ between, ¬ e.Displaces key) ∧
            ∀ p, ran = some p → p.key = key ∧ p.timer = timer ∧ p.call = call) ∧
      (∀ before timer ran after,
        (start delay).history b steps = before ++ .fired timer ran :: after →
          ∃ earlier key call between,
            before = earlier ++ .asked (.schedule key call) :: between ∧
              timerCount earlier = timer) ∧
      (firings ((start delay).history b steps)).Nodup ∧
      (∀ key, ((start delay).run b steps).debouncer.isPending key = true ↔
        ∃ timer call, Waits ((start delay).history b steps) key timer call) ∧
      (∀ key call, (key, call) ∈ ((start delay).run b steps).debouncer.dropped ↔
        ∃ timer, Waits ((start delay).history b steps) key timer call) ∧
      (((start delay).run b steps).debouncer.dropped.map Prod.fst).Nodup ∧
      ∀ b' : Behaviour α,
        (∀ p, Action.requests (b.actions p) = Action.requests (b'.actions p)) →
          (start delay).history b steps = (start delay).history b' steps ∧
            ((start delay).run b steps).debouncer = ((start delay).run b' steps).debouncer := by
  have ha := agrees_run_start b delay steps
  refine ⟨?_, ?_, ha.once, ?_, ?_, ?_, ?_⟩
  · intro before key call between timer ran after hsplit htimer
    obtain ⟨d, had, hrun, rfl⟩ := agrees_of_fired hsplit
    rw [← htimer] at hrun ⊢
    exact had.held?_iff hrun
  · intro before timer ran after hsplit
    obtain ⟨d, had, hrun, -⟩ := agrees_of_fired hsplit
    exact had.exists_schedule hrun
  · intro key
    simp only [Debouncer.isPending_iff, ha.holds]
  · intro key call
    simp only [Debouncer.mem_dropped, ha.holds]
  · rw [Debouncer.dropped, List.map_map]
    exact ha.wellFormed.keys
  · intro b' hb
    obtain ⟨hhistory, halike⟩ := Alike.run ⟨rfl, fun _ => rfl⟩ hb steps
    exact ⟨hhistory, halike.debouncer⟩

/--
The timer of a call that another one has displaced may still run, but the call does not. The call
in its place runs, leaves a call for its own key behind, and fails as if it had not.
-/
theorem latest_call_exact_displaced :
    let first : Task := ⟨"first", none, false⟩
    let second : Task := ⟨"second", some "third", true⟩
    let third : Task := ⟨"third", none, false⟩
    let calm : Behaviour Task :=
      { Task.behaviour with actions := fun p => (Task.behaviour.actions p).filter (· ≠ .fail) }
    let machine := start (.finite false 0)
    let steps : List (Step Task) :=
      [.request (.schedule "doc" first), .request (.schedule "doc" second), .fire 0, .fire 1,
        .resume 1, .resume 1]
    machine.history Task.behaviour steps =
        [.asked (.schedule "doc" first), .asked (.schedule "doc" second), .fired 0 none,
          .fired 1 (some ⟨"doc", 1, .zero, second⟩), .asked (.schedule "doc" third)] ∧
      ((∃ p : Pending Task, none = some p) ↔
        ∀ e ∈ [Event.asked (.schedule "doc" second)], ¬ e.Displaces "doc") ∧
      ((∃ p, some (⟨"doc", 1, .zero, second⟩ : Pending Task) = some p) ↔
        ∀ e ∈ [(Event.fired 0 none : Event Task)], ¬ e.Displaces "doc") ∧
      (machine.run Task.behaviour steps).debouncer.isPending "doc" = true ∧
      (machine.run Task.behaviour steps).debouncer = (machine.run calm steps).debouncer := by
  intro first second third calm machine steps
  have hhistory : machine.history Task.behaviour steps =
      [.asked (.schedule "doc" first), .asked (.schedule "doc" second), .fired 0 none,
        .fired 1 (some ⟨"doc", 1, .zero, second⟩), .asked (.schedule "doc" third)] := rfl
  have hcalm : ∀ p, Action.requests (Task.behaviour.actions p) =
      Action.requests (calm.actions p) := by
    intro p
    obtain ⟨key, timer, due, tag, again, fails⟩ := p
    cases again <;> cases fails <;> rfl
  have hwaits : Waits (machine.history Task.behaviour steps) "doc" 2 third := by
    rw [hhistory]
    exact ⟨[_, _, _, _], [], rfl, rfl, nofun, nofun⟩
  obtain ⟨hran, -, -, hpending, -, -, hsame⟩ :=
    latest_call_exact Task.behaviour (.finite false 0) steps
  refine ⟨hhistory, ?_, ?_, ?_, ?_⟩
  · exact (hran [] "doc" first [_] 0 none _ hhistory rfl).1
  · exact (hran [_] "doc" second [_] 1 _ _ hhistory rfl).1
  · exact (hpending "doc").2 ⟨2, third, hwaits⟩
  · exact (hsame calm hcalm).2

end Machine

end Remap
