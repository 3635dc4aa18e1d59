import Remap.Number.Binary64

/-!
# Debouncing

A debouncer runs a call some time after it is scheduled, unless a later call for the same key
takes its place, or it is cancelled. Every scheduling starts a timer of its own, and timers are
numbered in the order in which they start. A timer runs at most once. It may run late, after it
has been cancelled, or early; it has an effect only while the debouncer still holds it.

A call may itself ask things of the debouncer while it runs, and it may fail. What calls do is
given by a behaviour, together with a weight that bounds how many runs a call can lead to. A failure
ends the call and nothing else.
-/

namespace Remap

/-!
## Time on a clock

Moments of a clock and the spans between them, counted exactly in the smallest steps that a number
of seconds can have. A span may be unbounded; the moment after it comes later than all others.
-/

/-- A moment, counted from the start of the clock, or a span of time. -/
inductive Time where
  | ticks (count : Nat)
  | unbounded
  deriving DecidableEq, Repr

namespace Time

/-- The start of the clock, and the empty span. -/
def zero : Time :=
  ticks 0

/-- The moment a span after another one. -/
def after (moment span : Time) : Time :=
  match moment, span with
  | ticks m, ticks s => ticks (m + s)
  | _, _ => unbounded

/-- One moment does not come later than another. -/
def notLater : Time → Time → Bool
  | _, unbounded => true
  | ticks a, ticks b => a ≤ b
  | unbounded, ticks _ => false

/-- The span of a number of seconds. -/
def ofSeconds : Binary64 → Time
  | .finite negative count => if negative then zero else ticks count
  | .infinite negative => if negative then zero else unbounded
  | .nan => zero

/-- A moment is not later than itself. -/
@[simp] theorem notLater_refl (t : Time) : t.notLater t = true := by
  cases t <;> simp [notLater]

/-- No moment is later than the unbounded one. -/
@[simp] theorem notLater_unbounded (t : Time) : t.notLater unbounded = true := by
  cases t <;> rfl

/-- What is not later than an earlier moment is not later than a later one. -/
theorem notLater_trans {a b c : Time} (hab : a.notLater b = true) (hbc : b.notLater c = true) :
    a.notLater c = true := by
  cases c with
  | unbounded => exact notLater_unbounded a
  | ticks n =>
    cases b with
    | unbounded => simp [notLater] at hbc
    | ticks m =>
      cases a with
      | unbounded => simp [notLater] at hab
      | ticks l =>
        simp only [notLater, decide_eq_true_eq] at hab hbc ⊢
        exact Nat.le_trans hab hbc

/-- Of two moments one is not later than the other. -/
theorem notLater_total (a b : Time) : a.notLater b = true ∨ b.notLater a = true := by
  cases a with
  | unbounded => exact .inr (notLater_unbounded b)
  | ticks m =>
    cases b with
    | unbounded => exact .inl rfl
    | ticks n => simpa [notLater] using Nat.le_total m n

end Time

/-! ## Calls that wait -/

/-- A call that waits for its timer. -/
structure Pending (α : Type) where
  key : String
  timer : Nat
  due : Time
  call : α
  deriving DecidableEq

/-- What can be asked of a debouncer. -/
inductive Request (α : Type) where
  | schedule (key : String) (call : α)
  | cancel (key : String)
  | cancelAll
  deriving DecidableEq

/-- What a call does at one point of its run. -/
inductive Action (α : Type) where
  | ask (request : Request α)
  | fail
  deriving DecidableEq

/-- What the calls of a debouncer do while they run. -/
structure Behaviour (α : Type) where
  /-- What a call does, one thing after another, up to its first failure. -/
  actions : Pending α → List (Action α)
  /-- A bound for the number of runs that a call leads to, its own included. -/
  weight : α → Nat

/-- A debouncer with its clock. -/
structure Debouncer (α : Type) where
  /-- The seconds that a call waits. -/
  delay : Binary64
  /-- The present moment. -/
  now : Time
  /-- The number of timers started so far. -/
  started : Nat
  /-- The timers that have run. -/
  ran : List Nat
  /-- The calls that wait, in the order in which they were scheduled. -/
  pending : List (Pending α)

namespace Debouncer

variable {α : Type}

/-- A debouncer for which nothing has been scheduled, at the start of the clock. -/
def start (delay : Binary64) : Debouncer α :=
  ⟨delay, .zero, 0, [], []⟩

/-- The calls that wait for other keys. -/
def others (d : Debouncer α) (key : String) : List (Pending α) :=
  d.pending.filter fun p => p.key != key

/-- A new timer for a call, due when the delay has passed. -/
def newTimer (d : Debouncer α) (key : String) (call : α) : Pending α :=
  ⟨key, d.started, d.now.after (.ofSeconds d.delay), call⟩

/-- Schedules a call in place of the one that waits for the same key. -/
def schedule (d : Debouncer α) (key : String) (call : α) : Debouncer α :=
  { d with started := d.started + 1, pending := d.others key ++ [d.newTimer key call] }

/-- Drops the call that waits for a key. -/
def cancel (d : Debouncer α) (key : String) : Debouncer α :=
  { d with pending := d.others key }

/-- Drops all calls that wait. -/
def cancelAll (d : Debouncer α) : Debouncer α :=
  { d with pending := [] }

/-- A call waits for the key. -/
def isPending (d : Debouncer α) (key : String) : Bool :=
  d.pending.any fun p => p.key == key

/-- Answers one request. -/
def handle (d : Debouncer α) : Request α → Debouncer α
  | .schedule key call => d.schedule key call
  | .cancel key => d.cancel key
  | .cancelAll => d.cancelAll

/-- The calls that are dropped when all are dropped, by key. -/
def dropped (d : Debouncer α) : List (String × α) :=
  d.pending.map fun p => (p.key, p.call)

/-- Starts over with another delay: every call that waits is scheduled again, in order. -/
def restart (d : Debouncer α) (delay : Binary64) : Debouncer α :=
  d.dropped.foldl (fun d entry => d.schedule entry.1 entry.2) { d.cancelAll with delay := delay }

/-- The timer has been started and has not run. -/
def canRun (d : Debouncer α) (timer : Nat) : Bool :=
  decide (timer < d.started) && !d.ran.contains timer

/-- The call that waits for a timer. -/
def held? (d : Debouncer α) (timer : Nat) : Option (Pending α) :=
  d.pending.find? fun p => p.timer == timer

/-- The debouncer after a timer has run, before the call that waited for it. -/
def release (d : Debouncer α) (timer : Nat) : Debouncer α :=
  { d with ran := timer :: d.ran, pending := d.pending.filter fun p => p.timer != timer }

/-- Runs a timer, if it can run. The answer holds the call that waited for it, which is to run. -/
def expire (d : Debouncer α) (timer : Nat) : Debouncer α × Option (Pending α) :=
  if d.canRun timer then (d.release timer, d.held? timer) else (d, none)

/-- The debouncer after what a call does, up to its first failure. -/
def perform (d : Debouncer α) : List (Action α) → Debouncer α
  | [] => d
  | .ask request :: rest => (d.handle request).perform rest
  | .fail :: _ => d

/--
Runs a timer, if it can run, and the call that waits for it, if there is one. The answer holds
that call.
-/
def fire (b : Behaviour α) (d : Debouncer α) (timer : Nat) : Debouncer α × Option (Pending α) :=
  match d.expire timer with
  | (d, none) => (d, none)
  | (d, some p) => (d.perform (b.actions p), some p)

/-- The first to be due of some calls; of several due together, the one scheduled first. -/
def earliest? : List (Pending α) → Option (Pending α)
  | [] => none
  | p :: rest =>
    match earliest? rest with
    | none => some p
    | some q => if p.due.notLater q.due then some p else some q

/-- The next call to run up to a moment. -/
def next? (d : Debouncer α) (target : Time) : Option (Pending α) :=
  (earliest? d.pending).filter fun p => p.due.notLater target

/--
Runs the calls that are due up to a moment, each at its own time; the fuel bounds their number.
-/
def runDue (b : Behaviour α) (target : Time) : Nat → Debouncer α → Debouncer α × List (Pending α)
  | 0, d => (d, [])
  | fuel + 1, d =>
    match d.next? target with
    | none => (d, [])
    | some p =>
      let (d, _) := fire b { d with now := p.due } p.timer
      let (d, rest) := runDue b target fuel d
      (d, p :: rest)

/-- A bound for the number of calls that can run, one after another, from now on. -/
def load (b : Behaviour α) (d : Debouncer α) : Nat :=
  d.pending.foldl (fun total p => total + b.weight p.call) 0

/-- Lets time pass. The answer holds the calls that ran, in order. -/
def advance (b : Behaviour α) (d : Debouncer α) (seconds : Binary64) :
    Debouncer α × List (Pending α) :=
  let target := d.now.after (.ofSeconds seconds)
  let (d, ran) := runDue b target (d.load b) d
  ({ d with now := target }, ran)

/-- Kept are the timers that wait for other keys. -/
theorem mem_others {d : Debouncer α} {key : String} {p : Pending α} :
    p ∈ d.others key ↔ p ∈ d.pending ∧ p.key ≠ key := by
  simp [others]

/-- A call that has just been asked for is pending. -/
@[simp] theorem isPending_schedule_self (d : Debouncer α) (key : String) (call : α) :
    (d.schedule key call).isPending key = true := by
  simp [isPending, schedule, newTimer]

/-- After a cancellation nothing is pending for the key. -/
@[simp] theorem isPending_cancel_self (d : Debouncer α) (key : String) :
    (d.cancel key).isPending key = false := by
  simp [isPending, cancel, others]

/-- After everything is cancelled nothing is pending. -/
@[simp] theorem isPending_cancelAll (d : Debouncer α) (key : String) :
    d.cancelAll.isPending key = false := rfl

end Debouncer

end Remap
