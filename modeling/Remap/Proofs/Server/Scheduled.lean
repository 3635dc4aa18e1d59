import Remap.Proofs.Server.Session

/-!
# Scheduled validations

A validation that is scheduled waits for its deadline: the quiet period that is configured, counted
from the moment of its scheduling or from the last time a configuration was installed, if that is
later. `scheduled_validation_exact` says that it is run at its deadline, with what is configured
then, once, and only if nothing else has been scheduled for its document before.
-/

namespace Remap.Server

variable {s : Server} {uri : String} {document : Document} {moment : Time}

/-- The command installs a configuration. -/
def configures (tree : FileTree) : Command → Bool
  | .loadConfig path => (loaded? tree path).isSome
  | _ => false

/-- The moment from which quiet periods count after a command. -/
def rearmed (tree : FileTree) (s : Server) (moment : Time) (c : Command) : Time :=
  if configures tree c then s.debouncer.now else moment

/-- The moment from which a quiet period counts after a session, if it counts from one before. -/
def armed (s : Server) (moment : Time) : Session → Time
  | [] => moment
  | (tree, c) :: rest => (s.run tree c).server.armed (s.rearmed tree moment c) rest

/-- The end of the quiet period that counts from a moment. -/
def deadline (s : Server) (moment : Time) : Time :=
  moment.after (.ofSeconds s.config.debounceSeconds)

/-- The moment up to which time passes. -/
def target (s : Server) (seconds : Binary64) : Time :=
  s.debouncer.now.after (.ofSeconds seconds)

/--
The command schedules nothing for a document, lets no time pass up to a deadline, and does not run
the timer for which the validation of the document waits.
-/
def Spares (s : Server) (uri : String) (due : Time) : Command → Prop
  | .scheduleValidation _ other => other ≠ uri
  | .advance seconds => due.notLater (s.target seconds) = false
  | .lateFire timer => ∀ p ∈ s.debouncer.pending, p.key = uri → p.timer ≠ timer
  | _ => True

/-- The session ends before the deadline of a document, and nothing else is scheduled for it. -/
def Undisturbed (uri : String) (s : Server) (moment : Time) : Session → Prop
  | [] => True
  | (tree, c) :: rest => s.Spares uri (s.deadline moment) c ∧
      Undisturbed uri (s.run tree c).server (s.rearmed tree moment c) rest

/-- The validation of a document waits for a moment. -/
def Awaits (s : Server) (uri : String) (due : Time) (document : Document) : Prop :=
  ∃ timer, ⟨uri, timer, due, document⟩ ∈ s.debouncer.pending

/-- A command that spares a validation leaves it waiting, for a new deadline if it configures. -/
lemma Awaits.run (hs : s.Sound) (hw : s.Awaits uri (s.deadline moment) document)
    (tree : FileTree) {c : Command} (hc : s.Spares uri (s.deadline moment) c) :
    (s.run tree c).server.Awaits uri ((s.run tree c).server.deadline (s.rearmed tree moment c))
      document := by
  obtain ⟨timer, htimer⟩ := hw
  obtain ⟨hconfig, hdebouncer⟩ := run_config_debouncer tree s c
  rw [Awaits, deadline, hconfig, hdebouncer]
  cases c with
  | loadConfig path =>
    cases hload : loaded? tree path with
    | none =>
      simp only [rearmed, configures, configAfter, debouncerAfter, hload]
      exact ⟨timer, htimer⟩
    | some found =>
      simp only [rearmed, configures, configAfter, debouncerAfter, hload]
      exact hs.wellFormed.exists_mem_restart found.1.debounceSeconds htimer
  | scheduleValidation content other =>
    have hne : uri ≠ other := fun h => hc h.symm
    exact ⟨timer, List.mem_append_left _ (Debouncer.mem_others.2 ⟨htimer, hne⟩)⟩
  | advance seconds =>
    have hrun := Debouncer.advance_quiet quiet_behaviour hs.wellFormed seconds
    have hlate : (s.deadline moment).notLater (s.target seconds) = false := hc
    refine ⟨timer, ?_⟩
    rw [debouncerAfter, hrun.pending]
    refine List.mem_filter.2 ⟨htimer, ?_⟩
    show (!(s.deadline moment).notLater (s.target seconds)) = true
    rw [hlate]
    rfl
  | lateFire other =>
    refine ⟨timer, ?_⟩
    rw [debouncerAfter, Debouncer.fire_quiet quiet_behaviour]
    exact Debouncer.mem_expire_of_ne htimer (hc _ htimer rfl)
  | _ => exact ⟨timer, htimer⟩

/-- In an undisturbed session a validation waits for its deadline and is not run. -/
lemma Awaits.attend (hs : s.Sound) (hw : s.Awaits uri (s.deadline moment) document)
    {session : Session} (hcalm : Undisturbed uri s moment session) :
    (∀ p ∈ s.timedAll session, p.key ≠ uri) ∧
      (s.attend session).Awaits uri ((s.attend session).deadline (s.armed moment session))
        document := by
  induction session generalizing s moment with
  | nil => exact ⟨nofun, hw⟩
  | cons visit rest ih =>
    obtain ⟨tree, c⟩ := visit
    obtain ⟨hspares, hrest⟩ := hcalm
    have hnext := hw.run hs tree hspares
    obtain ⟨hquiet, hlast⟩ := ih (hs.run tree c) hnext hrest
    refine ⟨?_, hlast⟩
    intro p hp
    obtain hp | hp := List.mem_append.1 hp
    -- it still waits after the command, so the command has not run it
    · obtain ⟨timer, htimer⟩ := hnext
      exact (mem_pending_run hs htimer).1 p hp
    · exact hquiet p hp

/-- A document for which nothing waits is not validated by timers until something is scheduled. -/
lemma timedAll_of_idle (hs : s.Sound) (hidle : ∀ p ∈ s.debouncer.pending, p.key ≠ uri)
    {session : Session} (hleaves : Session.Leaves uri session) :
    ∀ p ∈ s.timedAll session, p.key ≠ uri := by
  induction session generalizing s with
  | nil => exact nofun
  | cons visit rest ih =>
    obtain ⟨tree, c⟩ := visit
    intro p hp
    obtain hp | hp := List.mem_append.1 hp
    · exact hidle p (mem_timed hs hp)
    · refine ih (hs.run tree c) ?_ ?_ p hp
      · intro q hq hkey
        obtain ⟨-, ⟨r, hr, hrkey, -⟩ | ⟨content, hc, -⟩⟩ := mem_pending_run hs hq
        · exact hidle r hr (hrkey.trans hkey)
        · rw [hkey] at hc
          exact hleaves (tree, c) List.mem_cons_self content hc
      · intro v hv
        exact hleaves v (List.mem_cons_of_mem _ hv)

/-- What is stored for a document depends on the validations of this document only. -/
lemma get_foldl_deposit (s : Server) {ran : List (Pending Document)}
    (hnames : ∀ p ∈ ran, p.call.uri = p.key) {store store' : Store}
    (hstore : store.get uri = store'.get uri) :
    (ran.foldl s.deposit store).get uri =
      ((ran.filter fun p => p.key == uri).foldl s.deposit store').get uri := by
  induction ran generalizing store store' with
  | nil => exact hstore
  | cons p rest ih =>
    have hrest : ∀ q ∈ rest, q.call.uri = q.key :=
      fun q hq => hnames q (List.mem_cons_of_mem _ hq)
    have hname := hnames p List.mem_cons_self
    rw [List.foldl_cons]
    by_cases hkey : p.key = uri
    · rw [List.filter_cons, if_pos (beq_iff_eq.2 hkey), List.foldl_cons]
      apply ih hrest
      rw [deposit, deposit, hname, hkey]
      -- whatever is stored before, a text replaces it
      cases p.call.content with
      | text text => rw [Store.get_set_self, Store.get_set_self]
      | malformed kind => exact hstore
    · rw [List.filter_cons, if_neg (fun h => hkey (beq_iff_eq.1 h))]
      apply ih hrest
      rw [deposit, hname]
      cases p.call.content with
      | text text =>
        rw [Store.get_set_of_ne _ (Ne.symm hkey)]
        exact hstore
      | malformed kind => exact hstore

/-- Time that passes up to the deadline runs the validation that waits for it, and no other. -/
lemma Awaits.advance (hs : s.Sound) {due : Time} (hw : s.Awaits uri due document)
    (tree : FileTree) {seconds : Binary64} (hdue : due.notLater (s.target seconds) = true) :
    (∃ timer, (s.timed (.advance seconds)).filter (fun p => p.key == uri) =
        [⟨uri, timer, due, document⟩]) ∧
      ∀ p ∈ (s.run tree (.advance seconds)).server.debouncer.pending, p.key ≠ uri := by
  obtain ⟨timer, htimer⟩ := hw
  have hrun := Debouncer.advance_quiet quiet_behaviour hs.wellFormed seconds
  have hunique : ∀ p ∈ s.debouncer.pending, p.key = uri → p = ⟨uri, timer, due, document⟩ :=
    fun p hp hkey => hs.wellFormed.eq_of_key hp htimer hkey
  have hnodup : (s.timed (.advance seconds)).Nodup := by
    apply hrun.runs.nodup_iff.2
    exact (List.Nodup.of_map Pending.key hs.wellFormed.keys).sublist List.filter_sublist
  refine ⟨⟨timer, ?_⟩, ?_⟩
  · apply List.perm_singleton.1
    apply (List.perm_ext_iff_of_nodup (hnodup.filter _) (List.nodup_singleton _)).2
    intro p
    rw [List.mem_filter, List.mem_singleton, beq_iff_eq]
    refine ⟨?_, ?_⟩
    · intro h
      obtain ⟨hp, hkey⟩ := h
      exact hunique p (mem_timed hs hp) hkey
    · intro hp
      rw [hp]
      exact ⟨hrun.runs.mem_iff.2 (List.mem_filter.2 ⟨htimer, hdue⟩), rfl⟩
  · intro p hp hkey
    rw [(run_config_debouncer tree s _).2, debouncerAfter, hrun.pending] at hp
    obtain ⟨hmem, hlate⟩ := List.mem_filter.1 hp
    rw [hunique p hmem hkey] at hlate
    have hnot : (!due.notLater (s.target seconds)) = true := hlate
    rw [hdue] at hnot
    cases hnot

/-- The diagnostics of the one validation of a document that time runs are stored for it. -/
lemma get_store_advance (hs : s.Sound) (tree : FileTree) {seconds : Binary64} {timer : Nat}
    {due : Time} {text : List Char}
    (hran : (s.timed (.advance seconds)).filter (fun p => p.key == uri) =
      [⟨uri, timer, due, ⟨uri, .text text⟩⟩]) :
    (s.run tree (.advance seconds)).server.store.get uri = (s.analyze text).value := by
  show (validateAll _ _).value.store.get uri = _
  rw [value_validateAll]
  show ((s.timed (.advance seconds)).foldl s.deposit s.store).get uri = _
  rw [get_foldl_deposit s (fun p hp => hs.names p (mem_timed hs hp)) rfl, hran]
  exact Store.get_set_self _ _ _

/--
No scheduled validation is lost or doubled, whatever is configured meanwhile. As long as nothing
disturbs it, a validation waits for its deadline and is not run; the first time that passes up to
the deadline runs it, with what is configured then, stores what it finds, and it is not run again.
Every validation that a timer runs is the one scheduled last for its document, for the first time.
And a timer that was started before a configuration was installed has no effect after that.
-/
theorem scheduled_validation_exact :
    (∀ (earlier : Session) (tree : FileTree) (uri : String) (text : List Char) (calm : Session),
      let before := start.attend earlier
      let scheduled := (before.run tree (.scheduleValidation (.text text) uri)).server
      let now := scheduled.attend calm
      let due := now.deadline (scheduled.armed before.debouncer.now calm)
      Undisturbed uri scheduled before.debouncer.now calm →
        (∀ p ∈ scheduled.timedAll calm, p.key ≠ uri) ∧
          now.Awaits uri due ⟨uri, .text text⟩ ∧
            ∀ (tree : FileTree) (seconds : Binary64),
              due.notLater (now.target seconds) = true →
                (∃ timer, (now.timed (.advance seconds)).filter (fun p => p.key == uri) =
                  [⟨uri, timer, due, ⟨uri, .text text⟩⟩]) ∧
                  (now.run tree (.advance seconds)).server.store.get uri =
                    (now.analyze text).value ∧
                    ∀ rest, Session.Leaves uri rest →
                      ∀ p ∈ (now.run tree (.advance seconds)).server.timedAll rest,
                        p.key ≠ uri) ∧
      (∀ (session : Session) (c : Command), ∀ p ∈ (start.attend session).timed c,
        Scheduled session p.key p.call) ∧
      ∀ (earlier : Session) (tree : FileTree) (path : String) (later : Session) (timer : Nat),
        (loaded? tree path).isSome = true →
          timer < (start.attend earlier).debouncer.started →
            let installed := ((start.attend earlier).run tree (.loadConfig path)).server
            let now := installed.attend later
            (∀ p ∈ installed.timedAll later, p.timer ≠ timer) ∧
              now.timed (.lateFire timer) = [] ∧ (now.lateFire timer).log = [] ∧
                (now.lateFire timer).server =
                  { now with debouncer :=
                    { now.debouncer with ran := (now.lateFire timer).server.debouncer.ran } } := by
  refine ⟨?_, ?_, ?_⟩
  · intro earlier tree uri text calm before scheduled now due hcalm
    have hbefore : before.Sound := sound_attend_start earlier
    have hscheduled : scheduled.Sound := hbefore.run _ _
    have hnow : now.Sound := hscheduled.attend calm
    have hfirst : scheduled.Awaits uri (scheduled.deadline before.debouncer.now)
        ⟨uri, .text text⟩ := by
      refine ⟨before.debouncer.started, List.mem_append_right _ (List.mem_singleton.2 ?_)⟩
      show (⟨uri, _, before.debouncer.now.after (.ofSeconds before.config.debounceSeconds), _⟩ :
        Pending Document) = _
      rw [← hbefore.delay]
      rfl
    obtain ⟨hquiet, hawaits⟩ := hfirst.attend hscheduled hcalm
    refine ⟨hquiet, hawaits, ?_⟩
    intro tree seconds hdue
    obtain ⟨⟨timer, hran⟩, hidle⟩ := hawaits.advance hnow tree hdue
    refine ⟨⟨timer, hran⟩, get_store_advance hnow tree hran, ?_⟩
    intro rest hleaves
    exact timedAll_of_idle (hnow.run _ _) hidle hleaves
  · intro session c p hp
    exact scheduled_of_mem_pending (mem_timed (sound_attend_start session) hp)
  · intro earlier tree path later timer hload htimer installed now
    have hbefore := sound_attend_start earlier
    have hinstalled : installed.Sound := hbefore.run _ _
    have hfrom := startedFrom_loadConfig hbefore hload
    have hlater := hfrom.attend hinstalled later
    refine ⟨?_, ?_, lateFire_of_startedFrom hlater htimer⟩
    · intro p hp heq
      have hle := hfrom.timedAll hinstalled hp
      rw [heq] at hle
      exact Nat.lt_irrefl _ (Nat.lt_of_lt_of_le htimer hle)
    · rw [timed, (@Debouncer.fire_stale _ now.debouncer behaviour timer fun p hp =>
        Nat.ne_of_gt (Nat.lt_of_lt_of_le htimer (hlater.2 p hp))).1]
      rfl

/-- Files among which is a configuration without a quiet period. -/
def hasty : FileTree :=
  ⟨[⟨["c.json"], some (Text.Utf8.encode "\x7b\"debounce_seconds\": 0\x7d".toList)⟩], [], []⟩

/--
A validation that waits while a configuration without a quiet period is installed is run as soon as
time goes on, under this configuration.
-/
theorem scheduled_validation_reconfigured :
    let text := ".a = to_int(.b)".toList
    let before := start.attend []
    let scheduled := (before.run hasty (.scheduleValidation (.text text) "doc")).server
    let now := scheduled.attend [(hasty, .loadConfig "/c.json")]
    let due := now.deadline (scheduled.armed before.debouncer.now [(hasty, .loadConfig "/c.json")])
    (loaded? hasty "/c.json").isSome = true ∧
      Undisturbed "doc" scheduled before.debouncer.now [(hasty, .loadConfig "/c.json")] ∧
        due.notLater (now.target (.finite false 0)) = true ∧
          (now.run hasty (.advance (.finite false 0))).server.store.get "doc" =
            (now.analyze text).value := by
  have hrun := scheduled_validation_exact.1 [] hasty "doc" ".a = to_int(.b)".toList
    [(hasty, .loadConfig "/c.json")]
  -- without the names of the states, which would be evaluated when they are compared
  dsimp only at hrun ⊢
  refine ⟨by decide +kernel, ⟨trivial, trivial⟩, by decide +kernel, ?_⟩
  exact ((hrun ⟨trivial, trivial⟩).2.2 hasty (.finite false 0) (by decide +kernel)).2.1

end Remap.Server
