import Remap.Proofs.Server.Stored

/-!
# Isolation of documents

Documents share one store, one debouncer and one clock, and a configuration that is installed
schedules all validations that wait again. What the server holds for one document still depends only
on the commands that concern it. `attend_concerning` compares a session with the part of it that is
left without the others: the timers differ in number and in order, but for the document the same
diagnostics are stored, and its validation waits for the same moment.
-/

namespace Remap

namespace Debouncer

variable {α : Type} {d : Debouncer α} {key : String}

/-- The moment at which the call that waits for a key is due, if one waits. -/
def dueTime? (d : Debouncer α) (key : String) : Option Time :=
  (d.pending.find? fun p => p.key == key).map (·.due)

/-- A key has a due time if a call is pending for it. -/
lemma isSome_dueTime? (d : Debouncer α) (key : String) :
    (d.dueTime? key).isSome = d.isPending key := by
  rw [dueTime?, Option.isSome_map, isPending, List.isSome_find?]

/-- The due time of a key is that of its pending call. -/
lemma WellFormed.dueTime?_eq_some_iff (hd : d.WellFormed) {due : Time} :
    d.dueTime? key = some due ↔ ∃ call timer, ⟨key, timer, due, call⟩ ∈ d.pending := by
  rw [dueTime?, Option.map_eq_some_iff]
  refine ⟨?_, ?_⟩
  · intro h
    obtain ⟨p, hp, rfl⟩ := h
    have hkey : p.key = key := by simpa using List.find?_some hp
    rw [← hkey]
    exact ⟨p.call, p.timer, List.mem_of_find?_eq_some hp⟩
  · intro h
    obtain ⟨call, timer, hmem⟩ := h
    have hsome : (d.pending.find? fun p => p.key == key).isSome = true :=
      List.find?_isSome.2 ⟨_, hmem, beq_self_eq_true key⟩
    obtain ⟨p, hp⟩ := Option.isSome_iff_exists.1 hsome
    have hkey : p.key = key := by simpa using List.find?_some hp
    refine ⟨p, hp, ?_⟩
    rw [hd.eq_of_key (List.mem_of_find?_eq_some hp) hmem hkey]

end Debouncer

/-- The command may validate a document, or change when or how it is validated. -/
def Command.concerns (uri : String) : Command → Bool
  | .loadConfig _ | .advance _ | .lateFire _ => true
  | .validateDocument _ other | .scheduleValidation _ other => other == uri
  | .validateFile path => path == uri
  | _ => false

/-- The command runs a timer, be it due or not. -/
def Command.isLateFire : Command → Bool
  | .lateFire _ => true
  | _ => false

namespace Session

/-- The commands of a session that concern a document. -/
def concerning (uri : String) (session : Session) : Session :=
  session.filter fun visit => visit.2.concerns uri

/-- Timers run when time passes, and only then. -/
def Punctual (session : Session) : Prop :=
  ∀ visit ∈ session, visit.2.isLateFire = false

end Session

namespace Server

variable {s t : Server} {uri other : String} {tree : FileTree} {due : Time} {document : Document}
  {c : Command}

/-! What waits for a document after a command. -/

/-- A configuration that is installed puts off what waits for a document by its quiet period. -/
lemma awaits_install_iff (hs : s.Sound) {path : String} {config : Config}
    {extra : List FunctionSpec} (hload : loaded? tree path = some (config, extra)) :
    (s.run tree (.loadConfig path)).server.Awaits uri due document ↔
      (∃ old, s.Awaits uri old document) ∧
        due = s.debouncer.now.after (.ofSeconds config.debounceSeconds) := by
  rw [Awaits, (run_config_debouncer tree s _).2, debouncerAfter, hload]
  refine ⟨?_, ?_⟩
  · intro h
    obtain ⟨timer, hmem⟩ := h
    obtain ⟨-, hdue, ⟨key, old, moment, call⟩, hp, hkey, hcall⟩ := hs.wellFormed.mem_restart hmem
    cases hkey
    cases hcall
    exact ⟨⟨moment, old, hp⟩, hdue⟩
  · intro h
    obtain ⟨⟨old, timer, hmem⟩, rfl⟩ := h
    exact hs.wellFormed.exists_mem_restart config.debounceSeconds hmem

/-- What is scheduled waits for its document only, in place of what waited for it. -/
lemma awaits_schedule_iff {content : Content} :
    (s.run tree (.scheduleValidation content other)).server.Awaits uri due document ↔
      if other = uri then
        due = s.debouncer.now.after (.ofSeconds s.debouncer.delay) ∧ document = ⟨uri, content⟩
      else s.Awaits uri due document := by
  rw [Awaits, (run_config_debouncer tree s _).2, debouncerAfter]
  simp only [Debouncer.schedule, List.mem_append, List.mem_singleton, Debouncer.mem_others,
    Debouncer.newTimer, Pending.mk.injEq]
  split
  case isTrue heq =>
    subst heq
    refine ⟨?_, ?_⟩
    · intro h
      obtain ⟨timer, ⟨-, hne⟩ | ⟨-, -, hdue, hcall⟩⟩ := h
      · exact absurd rfl hne
      · exact ⟨hdue, hcall⟩
    · intro h
      exact ⟨s.debouncer.started, .inr ⟨rfl, rfl, h.1, h.2⟩⟩
  case isFalse hne =>
    refine ⟨?_, ?_⟩
    · intro h
      obtain ⟨timer, ⟨hmem, -⟩ | ⟨heq, -⟩⟩ := h
      · exact ⟨timer, hmem⟩
      · exact absurd heq.symm hne
    · intro h
      obtain ⟨timer, hmem⟩ := h
      exact ⟨timer, .inl ⟨hmem, fun heq => hne heq.symm⟩⟩

/-- What waits for a document after time has passed waited before and is not due yet. -/
lemma awaits_advance_iff (hs : s.Sound) {seconds : Binary64} :
    (s.run tree (.advance seconds)).server.Awaits uri due document ↔
      s.Awaits uri due document ∧ due.notLater (s.target seconds) = false := by
  rw [Awaits, (run_config_debouncer tree s _).2, debouncerAfter,
    (Debouncer.advance_quiet quiet_behaviour hs.wellFormed seconds).pending]
  simp only [Debouncer.notDue, List.mem_filter, Bool.not_eq_true', exists_and_right]
  rfl

/-- Of the validations that time runs, those of a document: the one that waits, if it is due. -/
lemma timed_advance_cases (hs : s.Sound) (uri : String) (seconds : Binary64) :
    (∃ timer due document, s.Awaits uri due document ∧ due.notLater (s.target seconds) = true ∧
        (s.timed (.advance seconds)).filter (·.key == uri) = [⟨uri, timer, due, document⟩]) ∨
      (∀ due document, s.Awaits uri due document → due.notLater (s.target seconds) = false) ∧
        (s.timed (.advance seconds)).filter (·.key == uri) = [] := by
  by_cases h : ∃ due document, s.Awaits uri due document ∧ due.notLater (s.target seconds) = true
  · obtain ⟨due, document, hwaits, hdue⟩ := h
    obtain ⟨⟨timer, hran⟩, -⟩ := hwaits.advance hs ⟨[], [], []⟩ hdue
    exact .inl ⟨timer, due, document, hwaits, hdue, hran⟩
  · refine .inr ⟨?_, ?_⟩
    · intro due document hwaits
      rw [Bool.eq_false_iff]
      exact fun hdue => h ⟨due, document, hwaits, hdue⟩
    · rw [List.filter_eq_nil_iff]
      intro p hp hkey
      have hrun := Debouncer.advance_quiet quiet_behaviour hs.wellFormed seconds
      obtain ⟨hmem, hdue⟩ := List.mem_filter.1 (hrun.runs.mem_iff.1 hp)
      rw [beq_iff_eq] at hkey
      refine h ⟨p.due, p.call, ⟨p.timer, ?_⟩, hdue⟩
      rw [← hkey]
      exact hmem

/-- A document awaits one validation at most. -/
lemma Awaits.unique (hs : s.Sound) {due' : Time} {document' : Document}
    (h : s.Awaits uri due document) (h' : s.Awaits uri due' document') :
    due = due' ∧ document = document' := by
  obtain ⟨timer, hmem⟩ := h
  obtain ⟨timer', hmem'⟩ := h'
  have heq := hs.wellFormed.eq_of_key hmem hmem' rfl
  cases heq
  exact ⟨rfl, rfl⟩

/-! Two servers that hold the same for one document. -/

/--
Two servers with the same configuration, functions and time, which store the same diagnostics of a
document and hold the same validation of it for the same moment. Their timers may differ.
-/
structure SameFor (uri : String) (s t : Server) : Prop where
  config : s.config = t.config
  registry : s.registry = t.registry
  now : s.debouncer.now = t.debouncer.now
  stored : s.store.get uri = t.store.get uri
  awaits : ∀ due document, s.Awaits uri due document ↔ t.Awaits uri due document

namespace SameFor

/-- A server is the same as itself for each document. -/
lemma refl (uri : String) (s : Server) : SameFor uri s s :=
  ⟨rfl, rfl, rfl, rfl, fun _ _ => Iff.rfl⟩

/-- Servers that are the same for a document analyze texts in the same way. -/
lemma analyze (h : SameFor uri s t) (text : List Char) : s.analyze text = t.analyze text := by
  rw [Server.analyze, Server.analyze, analyzer, analyzer, h.config, h.registry]

/-- Servers that are the same for a document validate texts in the same way. -/
lemma validation (h : SameFor uri s t) (other : String) (text : List Char) :
    s.validation other text = t.validation other text := by
  rw [Server.validation, Server.validation, h.analyze]

/-- Servers that are the same for a document have the same outcomes of validations. -/
lemma outcome? (h : SameFor uri s t) : s.outcome? = t.outcome? := by
  funext p
  rw [Server.outcome?, Server.outcome?]
  cases p.call.content with
  | text text => exact congrArg some (h.validation _ text)
  | malformed kind => rfl

/-- Servers that are the same for a document advance to the same time. -/
lemma target (h : SameFor uri s t) (seconds : Binary64) : s.target seconds = t.target seconds := by
  rw [Server.target, Server.target, h.now]

/-- As time passes, the document is validated in both servers or in none. -/
lemma latest?_advance (h : SameFor uri s t) (hs : s.Sound) (ht : t.Sound) (tree : FileTree)
    (seconds : Binary64) :
    Validation.latest? uri (s.validations tree (.advance seconds)) =
      Validation.latest? uri (t.validations tree (.advance seconds)) := by
  show Validation.latest? uri ((s.timed _).filterMap _) =
    Validation.latest? uri ((t.timed _).filterMap _)
  rw [latest?_outcomes hs, latest?_outcomes ht, h.outcome?]
  obtain ⟨timer, due, document, hwaits, hdue, hran⟩ | ⟨hnone, hran⟩ :=
    timed_advance_cases hs uri seconds
  · obtain ⟨timer', due', document', hwaits', -, hran'⟩ | ⟨hnone', -⟩ :=
      timed_advance_cases ht uri seconds
    · obtain ⟨rfl, rfl⟩ := ((h.awaits due document).1 hwaits).unique ht hwaits'
      rw [hran, hran']
      rfl
    · have hlate := hnone' due document ((h.awaits due document).1 hwaits)
      rw [← h.target, hdue] at hlate
      cases hlate
  · obtain ⟨timer', due', document', hwaits', hdue', -⟩ | ⟨-, hran'⟩ :=
      timed_advance_cases ht uri seconds
    · have hlate := hnone due' document' ((h.awaits due' document').2 hwaits')
      rw [h.target, hdue'] at hlate
      cases hlate
    · rw [hran, hran']

/-- The diagnostics of any document may be stored in both servers. -/
lemma record (h : SameFor uri s t) (other : String) (found : List Diagnostic) :
    SameFor uri (s.record other found) (t.record other found) := by
  refine ⟨h.config, h.registry, h.now, ?_, h.awaits⟩
  by_cases heq : other = uri
  · subst heq
    exact (Store.get_set_self _ _ _).trans (Store.get_set_self _ _ _).symm
  · have hne : uri ≠ other := fun heq' => heq heq'.symm
    exact (Store.get_set_of_ne _ hne _).trans (h.stored.trans (Store.get_set_of_ne _ hne _).symm)

/-- Validating a text keeps servers the same for a document. -/
lemma validateText (h : SameFor uri s t) (text : List Char) (other : String) :
    SameFor uri (s.validateText text other).server (t.validateText text other).server := by
  have hrecord := h.record other (s.analyze text).value
  rw [h.analyze] at hrecord
  rw [Server.validateText, Server.validateText, h.analyze]
  exact hrecord

/-- Validating a file keeps servers the same for a document. -/
lemma validateFile (h : SameFor uri s t) (tree : FileTree) (path : String) :
    SameFor uri (s.validateFile tree path).server (t.validateFile tree path).server := by
  obtain ⟨text, htext, heq⟩ | ⟨hnone, heq, -⟩ := validateFile_cases tree s path
  · obtain ⟨text', htext', heq'⟩ | ⟨hnone', -⟩ := validateFile_cases tree t path
    · rw [htext] at htext'
      cases htext'
      rw [heq, heq']
      exact h.validateText text path
    · rw [htext] at hnone'
      cases hnone'
  · obtain ⟨text', htext', -⟩ | ⟨-, heq', -⟩ := validateFile_cases tree t path
    · rw [hnone] at htext'
      cases htext'
    · rw [heq, heq']
      exact h

/-- Loading settings keeps servers the same for a document. -/
lemma loadConfig (h : SameFor uri s t) (hs : s.Sound) (ht : t.Sound) (tree : FileTree)
    (path : String) :
    SameFor uri (s.run tree (.loadConfig path)).server (t.run tree (.loadConfig path)).server := by
  have hserver : (s.run tree (.loadConfig path)).server = _ := server_loadConfig tree s path
  have hserver' : (t.run tree (.loadConfig path)).server = _ := server_loadConfig tree t path
  cases hload : loaded? tree path with
  | none =>
    rw [hserver, hserver', hload]
    exact h
  | some found =>
    obtain ⟨config, extra⟩ := found
    refine ⟨?_, ?_, ?_, ?_, ?_⟩
    · rw [hserver, hserver', hload]
      rfl
    · rw [hserver, hserver', hload]
      rfl
    · rw [hserver, hserver', hload]
      have hnow := (Debouncer.frame_restart s.debouncer config.debounceSeconds).2.1
      have hnow' := (Debouncer.frame_restart t.debouncer config.debounceSeconds).2.1
      exact hnow.trans (h.now.trans hnow'.symm)
    · rw [hserver, hserver', hload]
      exact h.stored
    · intro due document
      rw [awaits_install_iff hs hload, awaits_install_iff ht hload, h.now]
      simp only [h.awaits]

/-- Scheduling a validation keeps servers the same for a document. -/
lemma scheduleValidation (h : SameFor uri s t) (hs : s.Sound) (ht : t.Sound) (tree : FileTree)
    (content : Content) (other : String) :
    SameFor uri (s.run tree (.scheduleValidation content other)).server
      (t.run tree (.scheduleValidation content other)).server := by
  refine ⟨h.config, h.registry, h.now, h.stored, ?_⟩
  intro due document
  rw [awaits_schedule_iff, awaits_schedule_iff, h.now, hs.delay, ht.delay, h.config, h.awaits]

/-- Letting time pass keeps servers the same for a document. -/
lemma advance (h : SameFor uri s t) (hs : s.Sound) (ht : t.Sound) (tree : FileTree)
    (seconds : Binary64) :
    SameFor uri (s.run tree (.advance seconds)).server (t.run tree (.advance seconds)).server := by
  refine ⟨?_, ?_, ?_, ?_, ?_⟩
  · show (validateAll _ _).value.config = (validateAll _ _).value.config
    rw [value_validateAll, value_validateAll]
    exact h.config
  · show (validateAll _ _).value.registry = (validateAll _ _).value.registry
    rw [value_validateAll, value_validateAll]
    exact h.registry
  · show (validateAll _ _).value.debouncer.now = (validateAll _ _).value.debouncer.now
    rw [value_validateAll, value_validateAll]
    exact h.target seconds
  · rw [get_store_run, get_store_run, h.stored, h.latest?_advance hs ht tree seconds]
  · intro due document
    rw [awaits_advance_iff hs, awaits_advance_iff ht, h.awaits, h.target]

/-- A command that both servers carry out keeps what they hold for the document the same. -/
lemma run (h : SameFor uri s t) (hs : s.Sound) (ht : t.Sound) (tree : FileTree)
    (hlate : c.isLateFire = false) :
    SameFor uri (s.run tree c).server (t.run tree c).server := by
  cases c with
  | loadConfig path => exact h.loadConfig hs ht tree path
  | validateDocument content other =>
    cases content with
    | text text => exact h.validateText text other
    | malformed kind => exact h
  | validateFile path => exact h.validateFile tree path
  | scheduleValidation content other => exact h.scheduleValidation hs ht tree content other
  | advance seconds => exact h.advance hs ht tree seconds
  | lateFire timer => cases hlate
  | _ => exact h

/-- Diagnostics of another document may be stored in one of the two servers. -/
lemma record_other (h : SameFor uri s t) (hne : (other == uri) = false)
    (found : List Diagnostic) : SameFor uri (s.record other found) t := by
  have hne' : uri ≠ other := fun heq => beq_eq_false_iff_ne.1 hne heq.symm
  exact ⟨h.config, h.registry, h.now, (Store.get_set_of_ne _ hne' _).trans h.stored, h.awaits⟩

/-- A command that does not concern the document may be left out in one of the two servers. -/
lemma run_other (h : SameFor uri s t) (tree : FileTree) (hc : c.concerns uri = false) :
    SameFor uri (s.run tree c).server t := by
  cases c with
  | loadConfig path => cases hc
  | validateDocument content other =>
    cases content with
    | text text => exact h.record_other hc _
    | malformed kind => exact h
  | validateFile path =>
    rw [Server.run]
    obtain ⟨text, -, heq⟩ | ⟨-, heq, -⟩ := validateFile_cases tree s path
    · rw [heq]
      exact h.record_other hc _
    · rw [heq]
      exact h
  | scheduleValidation content other =>
    refine ⟨h.config, h.registry, h.now, h.stored, ?_⟩
    intro due document
    rw [awaits_schedule_iff, if_neg (beq_eq_false_iff_ne.1 hc), h.awaits]
  | advance seconds => cases hc
  | lateFire timer => cases hc
  | _ => exact h

/-- A session and its commands that concern the document leave the same for it. -/
lemma attend (h : SameFor uri s t) (hs : s.Sound) (ht : t.Sound) {session : Session}
    (hpunctual : session.Punctual) :
    SameFor uri (s.attend session) (t.attend (session.concerning uri)) := by
  induction session generalizing s t with
  | nil => exact h
  | cons visit rest ih =>
    obtain ⟨tree, c⟩ := visit
    have hlate := hpunctual (tree, c) List.mem_cons_self
    have hrest : Session.Punctual rest := fun v hv => hpunctual v (List.mem_cons_of_mem _ hv)
    rw [Session.concerning, List.filter_cons]
    cases hc : c.concerns uri with
    | true => exact ih (h.run hs ht tree hlate) (hs.run tree c) (ht.run tree c) hrest
    | false => exact ih (h.run_other tree hc) (hs.run tree c) ht hrest

/-- Servers that are the same for a document have the same due time for it. -/
lemma dueTime?_eq (h : SameFor uri s t) (hs : s.Sound) (ht : t.Sound) :
    s.debouncer.dueTime? uri = t.debouncer.dueTime? uri := by
  apply Option.ext
  intro due
  rw [hs.wellFormed.dueTime?_eq_some_iff, ht.wellFormed.dueTime?_eq_some_iff]
  exact exists_congr fun document => h.awaits due document

end SameFor

/--
Documents do not interfere. If all commands that do not concern a document are left out of a session
in which no timer runs late, then at its end the same diagnostics are stored for the document, a
validation of it waits exactly if one waited, and it is due at the same moment.
-/
theorem attend_concerning (session : Session) (uri : String) (hpunctual : session.Punctual) :
    let whole := start.attend session
    let part := start.attend (session.concerning uri)
    whole.store.get uri = part.store.get uri ∧
      whole.debouncer.isPending uri = part.debouncer.isPending uri ∧
        whole.debouncer.dueTime? uri = part.debouncer.dueTime? uri := by
  intro whole part
  have hsame : SameFor uri whole part :=
    (SameFor.refl uri start).attend sound_start sound_start hpunctual
  have hdue := hsame.dueTime?_eq (sound_attend_start session) (sound_attend_start _)
  refine ⟨hsame.stored, ?_, hdue⟩
  rw [← Debouncer.isSome_dueTime?, ← Debouncer.isSome_dueTime?, hdue]

/--
Two documents wait while a configuration without a quiet period is installed. Without the commands
that do not concern the second one, its diagnostics are the same after time has passed, and its next
validation is due at the same moment.
-/
theorem attend_concerning_reconfigured :
    let request : Command := .scheduleValidation (.text ".a = to_int(.b)".toList) "doc"
    let session : Session := [
      (hasty, .scheduleValidation (.text "a)".toList) "other"), (hasty, request),
      (hasty, .explainDiagnostic "del-root-event"), (hasty, .loadConfig "/c.json"),
      (hasty, .validateDocument (.text "b)".toList) "other"),
      (hasty, .advance (.finite false Binary64.unit)),
      (hasty, .scheduleValidation (.text "c)".toList) "other"), (hasty, request)]
    let whole := start.attend session
    let part := start.attend [(hasty, request), (hasty, .loadConfig "/c.json"),
      (hasty, .advance (.finite false Binary64.unit)), (hasty, request)]
    session.Punctual ∧
      whole.store.get "doc" = part.store.get "doc" ∧
        whole.debouncer.isPending "doc" = part.debouncer.isPending "doc" ∧
          whole.debouncer.dueTime? "doc" = part.debouncer.dueTime? "doc" ∧
            (part.store.get "doc").map (·.code) = ["missing-error-handling"] ∧
            part.debouncer.dueTime? "doc" = some (.ticks Binary64.unit) := by
  intro request session whole part
  have hpunctual : session.Punctual := by
    rw [Session.Punctual]
    decide
  obtain ⟨hstored, hpending, hdue⟩ := attend_concerning session "doc" hpunctual
  exact ⟨hpunctual, hstored, hpending, hdue, by decide +kernel, by decide +kernel⟩

end Server

end Remap
