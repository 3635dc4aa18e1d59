import Mathlib.Data.List.Induction
import Remap.Proofs.Server.Step

/-!
# Sessions

A session is a list of commands, each with the files as they are when it is carried out. The
validations that timers run in it are listed in order. Of a call that waits, the session tells when
it was scheduled, and that it has not been run since.
-/

namespace Remap

/-- Commands, each with the files as they are when it is carried out. -/
abbrev Session := List (FileTree × Command)

/-- Nothing is scheduled for a document in the session. -/
def Session.Leaves (uri : String) (session : Session) : Prop :=
  ∀ visit ∈ session, ∀ content, visit.2 ≠ .scheduleValidation content uri

namespace Server

variable {s : Server} {session : Session}

/-- The server after a session. -/
def attend (s : Server) (session : Session) : Server :=
  session.foldl (fun s visit => (s.run visit.1 visit.2).server) s

/-- The validations that timers run in a session, in order. -/
def timedAll (s : Server) : Session → List (Pending Document)
  | [] => []
  | (tree, c) :: rest => s.timed c ++ timedAll (s.run tree c).server rest

/-- A session can be stopped and taken up again. -/
lemma attend_append (s : Server) (first second : Session) :
    s.attend (first ++ second) = (s.attend first).attend second :=
  List.foldl_append

/-- What runs out in a session runs out in its first part or after it. -/
lemma timedAll_append (s : Server) (first second : Session) :
    s.timedAll (first ++ second) = s.timedAll first ++ (s.attend first).timedAll second := by
  induction first generalizing s with
  | nil => rfl
  | cons visit rest ih =>
    show s.timed visit.2 ++ timedAll _ (rest ++ second) = _
    rw [ih, ← List.append_assoc]
    rfl

/-- A session keeps a server sound. -/
lemma Sound.attend (hs : s.Sound) (session : Session) : (s.attend session).Sound := by
  induction session generalizing s with
  | nil => exact hs
  | cons visit rest ih => exact ih (hs.run visit.1 visit.2)

/-- A server is sound after each session from the start. -/
lemma sound_attend_start (session : Session) : (start.attend session).Sound :=
  sound_start.attend session

/-- The call was scheduled last for its key in a session, and no call has run for the key since. -/
def Scheduled (session : Session) (key : String) (call : Document) : Prop :=
  ∃ before tree content after,
    session = before ++ (tree, .scheduleValidation content key) :: after ∧
      call = ⟨key, content⟩ ∧ Session.Leaves key after ∧
        ∀ p ∈ (start.attend (before ++ [(tree, .scheduleValidation content key)])).timedAll after,
          p.key ≠ key

/-- A call stays the one scheduled last if a command neither schedules nor runs one for its key. -/
lemma Scheduled.concat {key : String} {call : Document} (hs : Scheduled session key call)
    {visit : FileTree × Command} (hother : ∀ content, visit.2 ≠ .scheduleValidation content key)
    (hran : ∀ p ∈ (start.attend session).timed visit.2, p.key ≠ key) :
    Scheduled (session ++ [visit]) key call := by
  obtain ⟨before, tree, content, after, rfl, hcall, hleaves, hquiet⟩ := hs
  refine ⟨before, tree, content, after ++ [visit], by simp, hcall, ?_, ?_⟩
  · intro v hv
    obtain hv | hv := List.mem_append.1 hv
    · exact hleaves v hv
    · rw [List.mem_singleton.1 hv]
      exact hother
  · intro p hp
    rw [timedAll_append] at hp
    obtain hp | hp := List.mem_append.1 hp
    · exact hquiet p hp
    · apply hran p
      rw [← attend_append, List.append_assoc] at hp
      obtain hp | hp := List.mem_append.1 hp
      · exact hp
      · cases hp

/-- A call that waits after a session was scheduled in it. -/
lemma scheduled_of_mem_pending {q : Pending Document}
    (hq : q ∈ (start.attend session).debouncer.pending) : Scheduled session q.key q.call := by
  induction session using List.reverseRecOn generalizing q with
  | nil => cases hq
  | append_singleton session visit ih =>
    rw [attend_append] at hq
    obtain ⟨hran, hor⟩ := mem_pending_run (sound_attend_start session) hq
    -- it waited before and was scheduled then, or the last command schedules it
    obtain ⟨p, hp, hkey, hcall, hother⟩ | ⟨content, hc, hcall⟩ := hor
    · rw [← hkey, ← hcall]
      rw [← hkey] at hother hran
      exact (ih hp).concat hother hran
    · obtain ⟨tree, c⟩ := visit
      cases hc
      exact ⟨session, tree, content, [], rfl, hcall, nofun, nofun⟩

/-! Timers are numbered in the order in which they start. -/

/-- The timers of the calls that wait have been started after some others. -/
def StartedFrom (first : Nat) (s : Server) : Prop :=
  first ≤ s.debouncer.started ∧ ∀ p ∈ s.debouncer.pending, first ≤ p.timer

/-- After a command all timers still are from the number on. -/
lemma StartedFrom.run {first : Nat} (h : s.StartedFrom first) (hs : s.Sound) (tree : FileTree)
    (c : Command) : (s.run tree c).server.StartedFrom first := by
  obtain ⟨hstarted, htimers⟩ := h
  rw [StartedFrom, (run_config_debouncer tree s c).2]
  cases c with
  | loadConfig path =>
    rw [debouncerAfter]
    cases loaded? tree path with
    | none => exact ⟨hstarted, htimers⟩
    | some found =>
      refine ⟨?_, ?_⟩
      · rw [(Debouncer.frame_restart _ _).2.2.2]
        exact Nat.le_add_right_of_le hstarted
      · intro q hq
        exact Nat.le_trans hstarted (hs.wellFormed.mem_restart hq).1
  | scheduleValidation content uri =>
    refine ⟨Nat.le_succ_of_le hstarted, ?_⟩
    intro q hq
    obtain hq | hq := List.mem_append.1 hq
    · exact htimers q (Debouncer.mem_others.1 hq).1
    · rw [List.mem_singleton.1 hq]
      exact hstarted
  | advance seconds =>
    have hrun := Debouncer.advance_quiet quiet_behaviour hs.wellFormed seconds
    rw [debouncerAfter, hrun.pending, hrun.started]
    refine ⟨hstarted, ?_⟩
    intro q hq
    exact htimers q (List.mem_of_mem_filter hq)
  | lateFire timer =>
    rw [debouncerAfter, Debouncer.fire_quiet quiet_behaviour]
    refine ⟨?_, ?_⟩
    · rw [Debouncer.expire]
      split <;> exact hstarted
    · intro q hq
      exact htimers q (Debouncer.mem_expire hs.wellFormed hq).1
  | _ => exact ⟨hstarted, htimers⟩

/-- After a session all timers still are from the number on. -/
lemma StartedFrom.attend {first : Nat} (h : s.StartedFrom first) (hs : s.Sound)
    (session : Session) : (s.attend session).StartedFrom first := by
  induction session generalizing s with
  | nil => exact h
  | cons visit rest ih => exact ih (h.run hs visit.1 visit.2) (hs.run visit.1 visit.2)

/-- What runs out in a session has a timer from the number on. -/
lemma StartedFrom.timedAll {first : Nat} (h : s.StartedFrom first) (hs : s.Sound)
    {p : Pending Document} (hp : p ∈ s.timedAll session) : first ≤ p.timer := by
  induction session generalizing s with
  | nil => cases hp
  | cons visit rest ih =>
    obtain hp | hp := List.mem_append.1 hp
    · exact h.2 p (mem_timed hs hp)
    · exact ih (h.run hs visit.1 visit.2) (hs.run visit.1 visit.2) hp

/-- A configuration that is installed gives new timers to the calls that wait. -/
lemma startedFrom_loadConfig (hs : s.Sound) {tree : FileTree} {path : String}
    (hload : (loaded? tree path).isSome = true) :
    (s.run tree (.loadConfig path)).server.StartedFrom s.debouncer.started := by
  obtain ⟨found, hfound⟩ := Option.isSome_iff_exists.1 hload
  rw [StartedFrom, (run_config_debouncer tree s _).2, debouncerAfter, hfound]
  refine ⟨?_, fun q hq => (hs.wellFormed.mem_restart hq).1⟩
  rw [(Debouncer.frame_restart _ _).2.2.2]
  exact Nat.le_add_right _ _

/-- A timer that was started before all those that wait has no effect when it runs. -/
lemma lateFire_of_startedFrom {first timer : Nat} (h : s.StartedFrom first)
    (htimer : timer < first) :
    (s.lateFire timer).log = [] ∧ (s.lateFire timer).server =
      { s with debouncer :=
        { s.debouncer with ran := (s.lateFire timer).server.debouncer.ran } } := by
  obtain ⟨hnone, hdebouncer⟩ := @Debouncer.fire_stale _ s.debouncer behaviour timer
    fun p hp => Nat.ne_of_gt (Nat.lt_of_lt_of_le htimer (h.2 p hp))
  have hlate : (s.lateFire timer).log = [] ∧ (s.lateFire timer).server =
      { s with debouncer := (s.debouncer.fire behaviour timer).1 } := by
    simp only [lateFire, hnone]
    exact ⟨rfl, rfl⟩
  refine ⟨hlate.1, ?_⟩
  rw [hlate.2, ← hdebouncer]

end Server

end Remap
