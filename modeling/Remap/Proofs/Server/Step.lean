import Remap.Proofs.Debouncer.Advance
import Remap.Proofs.Debouncer.Restart
import Remap.Server.Command

/-!
# What a command does to the server

A command changes the configuration if it loads one, the debouncer if it schedules something, lets
time pass or runs a timer, and the store if it validates something. `Server.Sound` holds of a server
at its start and is kept by every command.
-/

namespace Remap.Server

variable {tree : FileTree} {s : Server} {path : String}

/-- The configuration and the further functions that are loaded from a path, if it can be loaded. -/
def loaded? (tree : FileTree) (path : String) : Option (Config × List FunctionSpec) :=
  if tree.holds path then
    match Config.load tree (some path) with
    | .error _ => none
    | .ok config =>
      match extraFunctions tree config.value with
      | .error _ => none
      | .ok extra => some (config.value, extra.value)
  else none

/-- A configuration that can be loaded is installed; else the server stays as it is. -/
lemma server_loadConfig (tree : FileTree) (s : Server) (path : String) :
    (s.loadConfig tree path).server =
      match loaded? tree path with
      | none => s
      | some (config, extra) => s.install config extra := by
  rw [loadConfig, loaded?]
  by_cases hholds : tree.holds path = true
  · rw [if_pos hholds, if_pos hholds]
    cases Config.load tree (some path) with
    | error error => rfl
    | ok config =>
      cases hextra : extraFunctions tree config.value <;> simp only [hextra]
  · rw [if_neg hholds, if_neg hholds]
    rfl

/-- The store after a validation that a timer runs. -/
def deposit (s : Server) (store : Store) (p : Pending Document) : Store :=
  match p.call.content with
  | .text text => store.set p.call.uri (s.analyze text).value
  | .malformed _ => store

/-- A scheduled validation deposits its result and does nothing else. -/
lemma value_validateScheduled (s : Server) (p : Pending Document) :
    (s.validateScheduled p.call).value = { s with store := s.deposit s.store p } := by
  rw [validateScheduled, deposit]
  cases p.call.content <;> rfl

/-- Validations that timers run change the store only, each with what is configured. -/
lemma value_validateAll (s : Server) (ran : List (Pending Document)) :
    (s.validateAll ran).value = { s with store := ran.foldl s.deposit s.store } := by
  have hfold : ∀ (ran : List (Pending Document)) (s : Server) (log : Log),
      (ran.foldl (fun (state : Logged Server) p =>
        let next := state.value.validateScheduled p.call
        ⟨next.value, state.log ++ next.log⟩) ⟨s, log⟩).value =
          { s with store := ran.foldl s.deposit s.store } := by
    intro ran
    induction ran with
    | nil => exact fun _ _ => rfl
    | cons p rest ih =>
      intro s log
      rw [List.foldl_cons, List.foldl_cons, ih, value_validateScheduled]
      rfl
  exact hfold ran s []

/-- The validations that timers run in a command, in order. -/
def timed (s : Server) : Command → List (Pending Document)
  | .advance seconds => (s.debouncer.advance behaviour seconds).2
  | .lateFire timer => (s.debouncer.fire behaviour timer).2.toList
  | _ => []

/-- The debouncer after a command. -/
def debouncerAfter (tree : FileTree) (s : Server) : Command → Debouncer Document
  | .loadConfig path =>
    match loaded? tree path with
    | none => s.debouncer
    | some (config, _) => s.debouncer.restart config.debounceSeconds
  | .scheduleValidation content uri => s.debouncer.schedule uri ⟨uri, content⟩
  | .advance seconds => (s.debouncer.advance behaviour seconds).1
  | .lateFire timer => (s.debouncer.fire behaviour timer).1
  | _ => s.debouncer

/-- The configuration after a command. -/
def configAfter (tree : FileTree) (s : Server) : Command → Config
  | .loadConfig path =>
    match loaded? tree path with
    | none => s.config
    | some (config, _) => config
  | _ => s.config

/-- Validating a file changes neither the settings nor what is pending. -/
lemma config_validateFile :
    (s.validateFile tree path).server.config = s.config ∧
      (s.validateFile tree path).server.debouncer = s.debouncer := by
  rw [validateFile]
  split
  · split
    · exact ⟨rfl, rfl⟩
    · split
      · exact ⟨rfl, rfl⟩
      · split <;> exact ⟨rfl, rfl⟩
  · exact ⟨rfl, rfl⟩

/-- What a command does to the configuration and to the debouncer. -/
lemma run_config_debouncer (tree : FileTree) (s : Server) (c : Command) :
    (s.run tree c).server.config = s.configAfter tree c ∧
      (s.run tree c).server.debouncer = s.debouncerAfter tree c := by
  cases c with
  | loadConfig path =>
    rw [run, server_loadConfig, configAfter, debouncerAfter]
    cases loaded? tree path <;> exact ⟨rfl, rfl⟩
  | validateDocument content uri => cases content <;> exact ⟨rfl, rfl⟩
  | validateFile path => exact config_validateFile
  | advance seconds =>
    show (validateAll _ _).value.config = _ ∧ (validateAll _ _).value.debouncer = _
    rw [value_validateAll]
    exact ⟨rfl, rfl⟩
  | lateFire timer =>
    show (validateAll _ _).value.config = _ ∧ (validateAll _ _).value.debouncer = _
    rw [value_validateAll]
    exact ⟨rfl, rfl⟩
  | _ => exact ⟨rfl, rfl⟩

/-- A validation asks nothing of the debouncer, whether it fails or not. -/
lemma quiet_behaviour : behaviour.Quiet where
  actions d p := by
    cases hcontent : p.call.content <;> simp only [behaviour, hcontent] <;> rfl
  weight _ := rfl

/-- The debouncer is well-formed, has the configured delay, and holds documents by their names. -/
structure Sound (s : Server) : Prop where
  wellFormed : s.debouncer.WellFormed
  delay : s.debouncer.delay = s.config.debounceSeconds
  names : ∀ p ∈ s.debouncer.pending, p.call.uri = p.key

/-- A server is sound at the start. -/
lemma sound_start : start.Sound where
  wellFormed := .start _
  delay := rfl
  names := nofun

/-- What runs out in a step was pending before it. -/
lemma mem_timed (hs : s.Sound) {c : Command} {p : Pending Document} (hp : p ∈ s.timed c) :
    p ∈ s.debouncer.pending := by
  cases c with
  | advance seconds =>
    have hrun := Debouncer.advance_quiet quiet_behaviour hs.wellFormed seconds
    exact List.mem_of_mem_filter (hrun.runs.mem_iff.1 hp)
  | lateFire timer =>
    rw [timed, Debouncer.fire_quiet quiet_behaviour, Option.mem_toList] at hp
    exact (Debouncer.mem_of_expire hs.wellFormed hp).1
  | _ => cases hp

/--
What waits after a command has not been run in it. It waited before, and the command schedules
nothing for its key, or the command schedules it.
-/
lemma mem_pending_run (hs : s.Sound) {c : Command} {q : Pending Document}
    (hq : q ∈ (s.run tree c).server.debouncer.pending) :
    (∀ p ∈ s.timed c, p.key ≠ q.key) ∧
      ((∃ p ∈ s.debouncer.pending, p.key = q.key ∧ p.call = q.call ∧
          ∀ content, c ≠ .scheduleValidation content q.key) ∨
        ∃ content, c = .scheduleValidation content q.key ∧ q.call = ⟨q.key, content⟩) := by
  rw [(run_config_debouncer tree s c).2] at hq
  cases c with
  | loadConfig path =>
    rw [debouncerAfter] at hq
    cases hload : loaded? tree path with
    | none =>
      rw [hload] at hq
      exact ⟨nofun, .inl ⟨q, hq, rfl, rfl, nofun⟩⟩
    | some found =>
      rw [hload] at hq
      obtain ⟨-, -, p, hp, hkey, hcall⟩ := hs.wellFormed.mem_restart hq
      exact ⟨nofun, .inl ⟨p, hp, hkey, hcall, nofun⟩⟩
  | scheduleValidation content uri =>
    refine ⟨nofun, ?_⟩
    obtain hq | hq := List.mem_append.1 hq
    · obtain ⟨hmem, hne⟩ := Debouncer.mem_others.1 hq
      refine .inl ⟨q, hmem, rfl, rfl, ?_⟩
      intro content' heq
      cases heq
      exact hne rfl
    · rw [List.mem_singleton.1 hq]
      exact .inr ⟨content, rfl, rfl⟩
  | advance seconds =>
    have hrun := Debouncer.advance_quiet quiet_behaviour hs.wellFormed seconds
    rw [debouncerAfter, hrun.pending] at hq
    obtain ⟨hmem, hlate⟩ := List.mem_filter.1 hq
    refine ⟨?_, .inl ⟨q, hmem, rfl, rfl, nofun⟩⟩
    intro p hp hkey
    -- a key has one call, which cannot be both due and not due
    obtain ⟨hpmem, hdue⟩ := List.mem_filter.1 (hrun.runs.mem_iff.1 hp)
    rw [hs.wellFormed.eq_of_key hpmem hmem hkey] at hdue
    rw [hdue] at hlate
    cases hlate
  | lateFire timer =>
    rw [debouncerAfter, Debouncer.fire_quiet quiet_behaviour] at hq
    obtain ⟨hmem, hne⟩ := Debouncer.mem_expire hs.wellFormed hq
    refine ⟨?_, .inl ⟨q, hmem, rfl, rfl, nofun⟩⟩
    intro p hp hkey
    rw [timed, Debouncer.fire_quiet quiet_behaviour, Option.mem_toList] at hp
    have hpmem := (Debouncer.mem_of_expire hs.wellFormed hp).1
    rw [hs.wellFormed.eq_of_key hpmem hmem hkey] at hp
    exact hne hp
  | _ => exact ⟨nofun, .inl ⟨q, hq, rfl, rfl, nofun⟩⟩

/-- A command keeps the debouncer well-formed, with the delay of the settings. -/
lemma Sound.debouncerAfter (hs : s.Sound) (tree : FileTree) (c : Command) :
    (s.debouncerAfter tree c).WellFormed ∧
      (s.debouncerAfter tree c).delay = (s.configAfter tree c).debounceSeconds := by
  cases c with
  | loadConfig path =>
    rw [Server.debouncerAfter, configAfter]
    cases loaded? tree path with
    | none => exact ⟨hs.wellFormed, hs.delay⟩
    | some found =>
      exact ⟨hs.wellFormed.restart _, (Debouncer.frame_restart _ _).1⟩
  | scheduleValidation content uri => exact ⟨hs.wellFormed.schedule _ _, hs.delay⟩
  | advance seconds =>
    have hrun := Debouncer.advance_quiet quiet_behaviour hs.wellFormed seconds
    exact ⟨hs.wellFormed.advance _ _, hrun.delay.trans hs.delay⟩
  | lateFire timer =>
    refine ⟨hs.wellFormed.fire _ _, ?_⟩
    rw [Server.debouncerAfter, Debouncer.fire_quiet quiet_behaviour, Debouncer.expire]
    split <;> exact hs.delay
  | _ => exact ⟨hs.wellFormed, hs.delay⟩

/-- A command keeps a server sound. -/
lemma Sound.run (hs : s.Sound) (tree : FileTree) (c : Command) : (s.run tree c).server.Sound := by
  obtain ⟨hconfig, hdebouncer⟩ := run_config_debouncer tree s c
  obtain ⟨hwellFormed, hdelay⟩ := hs.debouncerAfter tree c
  refine ⟨?_, ?_, ?_⟩
  · rw [hdebouncer]
    exact hwellFormed
  · rw [hdebouncer, hconfig]
    exact hdelay
  · intro q hq
    obtain ⟨-, ⟨p, hp, hkey, hcall, -⟩ | ⟨content, -, hcall⟩⟩ := mem_pending_run hs hq
    · rw [← hcall, hs.names p hp, hkey]
    · rw [hcall]

end Remap.Server
