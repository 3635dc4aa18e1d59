import Remap.Debouncer.Basic
import Remap.Diagnostic.Basic

/-!
# Running calls

A debouncer with the calls that run on it, and calls of a simple kind.
-/

namespace Remap

/-!
## Debouncers with running calls

A debouncer together with the calls that run on it. Requests from outside, timers that run and what
the running calls do come in any order; `fire` is the special case in which a call runs from its
start to its end with nothing in between. The machine keeps no record of what has happened: that is
the history of a run, in which a timer stands with the call that it started.
-/

/-- A debouncer with the calls that run. -/
structure Machine (α : Type) where
  debouncer : Debouncer α
  /-- What is left to do for the call of a timer; nothing if it does not run. -/
  left : Nat → List (Action α)

/-- What can happen to a debouncer. -/
inductive Step (α : Type) where
  /-- Something is asked from outside. -/
  | request (request : Request α)
  /-- A timer runs, unless it has not been started or has run before. -/
  | fire (timer : Nat)
  /-- The call of a timer goes on with its run. -/
  | resume (timer : Nat)
  /-- Time passes. -/
  | wait (moment : Time)

/-- What has happened to a debouncer. -/
inductive Event (α : Type) where
  /-- Something was asked, from outside or by a running call. -/
  | asked (request : Request α)
  /-- A timer ran, and the call that waited for it, if there was one, started to run. -/
  | fired (timer : Nat) (ran : Option (Pending α))
  deriving DecidableEq

namespace Machine

variable {α : Type}

/-- A debouncer on which no call runs. -/
def idle (d : Debouncer α) : Machine α :=
  ⟨d, fun _ => []⟩

/-- The machine with other actions left for the call of a timer. -/
def leave (s : Machine α) (timer : Nat) (rest : List (Action α)) : Machine α :=
  { s with left := fun other => if other = timer then rest else s.left other }

/-- The machine with another debouncer. -/
def withDebouncer (s : Machine α) (d : Debouncer α) : Machine α :=
  { s with debouncer := d }

/-- The machine after the timer has run: the call that waited for it starts to run. -/
def launch (b : Behaviour α) (s : Machine α) (timer : Nat) : Machine α :=
  match s.debouncer.expire timer with
  | (d, none) => s.withDebouncer d
  | (d, some p) => (s.withDebouncer d).leave timer (b.actions p)

/-- One step, with what happens in it. -/
def step (b : Behaviour α) (s : Machine α) : Step α → Machine α × List (Event α)
  | .request request => (s.withDebouncer (s.debouncer.handle request), [.asked request])
  | .fire timer =>
    if s.debouncer.canRun timer then
      (s.launch b timer, [.fired timer (s.debouncer.expire timer).2])
    else (s, [])
  | .resume timer =>
    match s.left timer with
    | [] => (s, [])
    | .ask request :: rest =>
      ((s.withDebouncer (s.debouncer.handle request)).leave timer rest, [.asked request])
    | .fail :: _ => (s.leave timer [], [])
  | .wait moment => (s.withDebouncer { s.debouncer with now := moment }, [])

/-- The machine after a run. -/
def run (b : Behaviour α) (s : Machine α) (steps : List (Step α)) : Machine α :=
  steps.foldl (fun s x => (s.step b x).1) s

/-- What happens in a run. -/
def history (b : Behaviour α) (s : Machine α) : List (Step α) → List (Event α)
  | [] => []
  | x :: rest => (s.step b x).2 ++ history b (s.step b x).1 rest

/-- Without steps the machine stays as it is. -/
@[simp] theorem run_nil (b : Behaviour α) (s : Machine α) : s.run b [] = s := rfl

/-- A run starts with its first step. -/
@[simp] theorem run_cons (b : Behaviour α) (s : Machine α) (x : Step α) (rest : List (Step α)) :
    s.run b (x :: rest) = (s.step b x).1.run b rest := rfl

/-- A run can be stopped and taken up again. -/
theorem run_append (b : Behaviour α) (s : Machine α) (xs ys : List (Step α)) :
    s.run b (xs ++ ys) = (s.run b xs).run b ys :=
  List.foldl_append

/-- The history of a run is that of its first part, then that of the rest from there. -/
theorem history_append (b : Behaviour α) (s : Machine α) (xs ys : List (Step α)) :
    s.history b (xs ++ ys) = s.history b xs ++ (s.run b xs).history b ys := by
  induction xs generalizing s with
  | nil => rfl
  | cons x xs ih => rw [List.cons_append, history, history, ih, run_cons, List.append_assoc]

end Machine

/-!
## Tasks

Calls of a simple kind: a task leaves its tag in a record, may schedule one more tag under its own
key, and may fail afterwards. A failure is logged and changes nothing else.
-/

/-- A call that leaves a tag. -/
structure Task where
  tag : String
  /-- The tag to schedule under the same key. -/
  again : Option String
  /-- The task fails when all else is done. -/
  fails : Bool
  deriving DecidableEq, Repr

namespace Task

/-- What tasks do while they run. -/
def behaviour : Behaviour Task where
  actions p :=
    (p.call.again.toList.map fun tag => .ask (.schedule p.key ⟨tag, none, false⟩)) ++
      if p.call.fails then [.fail] else []
  weight task := if task.again.isSome then 2 else 1

/-- The records of tasks that ran. -/
def log (tasks : List Task) : Log :=
  (tasks.filter (·.fails)).map fun _ => .error

end Task

end Remap
