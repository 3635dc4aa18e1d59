import Remap.Proofs.Server.Reply
import Remap.Proofs.Server.Scheduled

/-!
# Stored diagnostics

What is stored for a document is what the latest validation of it has found, whether it was carried
out at once or by a timer; `get_store_attend` says so of every session. The latest validation is not
always the one that was requested last: a validation that waits is still carried out when the
document has been validated at once in the meantime, and replaces the newer diagnostics.
`stored_diagnostics_exact` says in which order requests are served, and `late_validation_overwrites`
shows a session in which diagnostics of an older text are left.
-/

namespace Remap

/-- A validation that has been carried out, with what it has found. -/
structure Validation where
  uri : String
  text : List Char
  found : List Diagnostic

/-- The latest validation of a document among some that come in order. -/
def Validation.latest? (uri : String) (done : List Validation) : Option Validation :=
  (done.filter (·.uri == uri)).getLast?

namespace Server

variable {tree : FileTree} {s : Server} {uri : String} {content : Content} {c : Command}

/-- The validation of a text under the name of a document. -/
def validation (s : Server) (uri : String) (text : List Char) : Validation :=
  ⟨uri, text, (s.analyze text).value⟩

/-- The validation that a timer carries out; there is none if its call holds no text. -/
def outcome? (s : Server) (p : Pending Document) : Option Validation :=
  match p.call.content with
  | .text text => some (s.validation p.call.uri text)
  | .malformed _ => none

/-- The validations that a command carries out, in order. -/
def validations (tree : FileTree) (s : Server) : Command → List Validation
  | .validateDocument (.text text) uri => [s.validation uri text]
  | .validateFile path => (fileText? tree path).toList.map (s.validation path)
  | c => (s.timed c).filterMap s.outcome?

/-- The validations that are carried out in a session, in order. -/
def validationsAll (s : Server) : Session → List Validation
  | [] => []
  | (tree, c) :: rest => s.validations tree c ++ validationsAll (s.run tree c).server rest

/-- A command requests the validation of a document and is not refused. -/
inductive Requests (tree : FileTree) (s : Server) (uri : String) : Command → Content → Prop where
  | document (text : List Char) :
      Requests tree s uri (.validateDocument (.text text) uri) (.text text)
  | file {bytes : List UInt8} : tree.read uri = .ok bytes →
      ¬ (s.validateFile tree uri).reply.IsError →
      Requests tree s uri (.validateFile uri) (.text (Text.Utf8.decodeLossy bytes))
  | scheduled (content : Content) : Requests tree s uri (.scheduleValidation content uri) content

/-- No command of the session requests the validation of a document. -/
def Unrequested (uri : String) (s : Server) : Session → Prop
  | [] => True
  | (tree, c) :: rest =>
    (∀ content, ¬ s.Requests tree uri c content) ∧ Unrequested uri (s.run tree c).server rest

/-- What is stored for a document is what its latest validation has found, and was of this text. -/
def Stores (session : Session) (uri : String) (text : List Char) : Prop :=
  ∃ v, Validation.latest? uri (start.validationsAll session) = some v ∧ v.text = text ∧
    (start.attend session).store.get uri = v.found

/-- The latest validation of a document is in the second part, or else in the first. -/
lemma latest?_append (uri : String) (first second : List Validation) :
    Validation.latest? uri (first ++ second) =
      (Validation.latest? uri second).or (Validation.latest? uri first) := by
  rw [Validation.latest?, List.filter_append, List.getLast?_append]
  rfl

/-- A single validation is the latest one of its document. -/
lemma latest?_singleton (uri : String) (v : Validation) :
    Validation.latest? uri [v] = if v.uri = uri then some v else none := by
  rw [Validation.latest?, List.filter_singleton]
  by_cases h : v.uri = uri
  · rw [if_pos h, beq_iff_eq.2 h]
    rfl
  · rw [if_neg h, beq_eq_false_iff_ne.2 h]
    rfl

/-- A validation is the latest one of its document. -/
lemma latest?_validation (s : Server) (uri : String) (text : List Char) :
    Validation.latest? uri [s.validation uri text] = some (s.validation uri text) := by
  rw [latest?_singleton]
  exact if_pos rfl

/-- The validations of a session are those of its first part, then those after it. -/
lemma validationsAll_append (s : Server) (first second : Session) :
    s.validationsAll (first ++ second) =
      s.validationsAll first ++ (s.attend first).validationsAll second := by
  induction first generalizing s with
  | nil => rfl
  | cons visit rest ih =>
    show s.validations visit.1 visit.2 ++ validationsAll _ (rest ++ second) = _
    rw [ih, ← List.append_assoc]
    rfl

/-! What is stored. -/

/-- The store after one more validation. -/
lemma get_set_eq (store : Store) (v : Validation) (uri : String) :
    (store.set v.uri v.found).get uri =
      ((Validation.latest? uri [v]).map (·.found)).getD (store.get uri) := by
  rw [latest?_singleton]
  by_cases h : v.uri = uri
  · rw [if_pos h, ← h]
    exact Store.get_set_self _ _ _
  · rw [if_neg h]
    exact Store.get_set_of_ne _ (Ne.symm h) _

/-- After validations by timers, the latest one of a document tells what is stored for it. -/
lemma get_foldl_outcome (s : Server) (uri : String) (ran : List (Pending Document))
    (store : Store) :
    (ran.foldl s.deposit store).get uri =
      ((Validation.latest? uri (ran.filterMap s.outcome?)).map (·.found)).getD (store.get uri) := by
  induction ran using List.reverseRecOn with
  | nil => rfl
  | append_singleton ran p ih =>
    rw [List.foldl_append, List.filterMap_append, latest?_append]
    show (s.deposit _ p).get uri = _
    cases hcontent : p.call.content with
    | malformed kind =>
      have hnone : [p].filterMap s.outcome? = [] := by
        rw [List.filterMap_cons, outcome?, hcontent]
        rfl
      rw [deposit, hcontent, hnone]
      exact ih
    | text text =>
      have hsome : [p].filterMap s.outcome? = [s.validation p.call.uri text] := by
        rw [List.filterMap_cons, outcome?, hcontent]
        rfl
      rw [deposit, hcontent, hsome]
      refine (get_set_eq _ (s.validation p.call.uri text) uri).trans ?_
      rw [ih]
      cases Validation.latest? uri [s.validation p.call.uri text] <;> rfl

/-- A command changes what is stored for a document by its validations of the document only. -/
lemma get_store_run (tree : FileTree) (s : Server) (c : Command) (uri : String) :
    (s.run tree c).server.store.get uri =
      ((Validation.latest? uri (s.validations tree c)).map (·.found)).getD (s.store.get uri) := by
  cases c with
  | loadConfig path =>
    rw [run, server_loadConfig]
    cases loaded? tree path <;> rfl
  | validateDocument content other =>
    cases content with
    | text text => exact get_set_eq s.store (s.validation other text) uri
    | malformed kind => rfl
  | validateFile path =>
    rw [run, validations]
    obtain ⟨text, htext, heq⟩ | ⟨hnone, hserver, -⟩ := validateFile_cases tree s path
    · rw [heq, htext]
      exact get_set_eq s.store (s.validation path text) uri
    · rw [hserver, hnone]
      rfl
  | advance seconds =>
    show (validateAll _ _).value.store.get uri = _
    rw [value_validateAll]
    exact get_foldl_outcome s uri _ s.store
  | lateFire timer =>
    show (validateAll _ _).value.store.get uri = _
    rw [value_validateAll]
    exact get_foldl_outcome s uri _ s.store
  | _ => rfl

/-- What is stored for a document is what its latest validation has found. -/
theorem get_store_attend (s : Server) (session : Session) (uri : String) :
    (s.attend session).store.get uri =
      ((Validation.latest? uri (s.validationsAll session)).map (·.found)).getD
        (s.store.get uri) := by
  induction session generalizing s with
  | nil => rfl
  | cons visit rest ih =>
    obtain ⟨tree, c⟩ := visit
    show ((s.run tree c).server.attend rest).store.get uri = _
    rw [ih, get_store_run, validationsAll, latest?_append]
    cases Validation.latest? uri ((s.run tree c).server.validationsAll rest) <;> rfl

/-! In which order requests are served. -/

/-- Nothing is pending for a document if no call has its key. -/
lemma isPending_eq_false_iff :
    s.debouncer.isPending uri = false ↔ ∀ p ∈ s.debouncer.pending, p.key ≠ uri := by
  simp [Debouncer.isPending]

/-- A validation that a command carries out is one that waits or one that the command requests. -/
lemma mem_validations (hs : s.Sound) {v : Validation} (hv : v ∈ s.validations tree c) :
    (∃ p ∈ s.debouncer.pending, p.key = v.uri) ∨ s.Requests tree v.uri c (.text v.text) := by
  have htimed : v ∈ (s.timed c).filterMap s.outcome? →
      ∃ p ∈ s.debouncer.pending, p.key = v.uri := by
    intro h
    obtain ⟨p, hp, hout⟩ := List.mem_filterMap.1 h
    have hmem := mem_timed hs hp
    refine ⟨p, hmem, ?_⟩
    rw [← hs.names p hmem]
    rw [outcome?] at hout
    split at hout
    · cases hout
      rfl
    · cases hout
  cases c with
  | validateDocument content other =>
    cases content with
    | text text =>
      rw [List.mem_singleton.1 hv]
      exact .inr (.document text)
    | malformed kind => exact .inl (htimed hv)
  | validateFile path =>
    obtain ⟨text, htext, rfl⟩ := List.mem_map.1 hv
    rw [Option.mem_toList] at htext
    obtain ⟨bytes, hread, rfl⟩ := bytes_of_fileText? htext
    have haccepted : ¬ (s.validateFile tree path).reply.IsError := by
      rw [isError_validateFile_iff, htext]
      exact Option.some_ne_none _
    exact .inr (.file hread haccepted)
  | _ => exact .inl (htimed hv)

/-- A document for which nothing waits is not validated until this is requested. -/
lemma latest?_of_idle (hs : s.Sound) (hidle : ∀ p ∈ s.debouncer.pending, p.key ≠ uri)
    {session : Session} (hno : Unrequested uri s session) :
    Validation.latest? uri (s.validationsAll session) = none := by
  induction session generalizing s with
  | nil => rfl
  | cons visit rest ih =>
    obtain ⟨tree, c⟩ := visit
    obtain ⟨hnow, hrest⟩ := hno
    have hnone : Validation.latest? uri (s.validations tree c) = none := by
      rw [Validation.latest?, List.getLast?_eq_none_iff, List.filter_eq_nil_iff]
      intro v hv heq
      rw [beq_iff_eq] at heq
      obtain ⟨p, hp, hkey⟩ | hrequest := mem_validations hs hv
      · exact hidle p hp (hkey.trans heq)
      · rw [heq] at hrequest
        exact hnow _ hrequest
    have hnext : ∀ q ∈ (s.run tree c).server.debouncer.pending, q.key ≠ uri := by
      intro q hq hkey
      obtain ⟨-, ⟨p, hp, heq, -⟩ | ⟨content, rfl, -⟩⟩ := mem_pending_run hs hq
      · exact hidle p hp (heq.trans hkey)
      · rw [hkey] at hnow
        exact hnow content (.scheduled content)
    rw [validationsAll, latest?_append, ih (hs.run tree c) hnext hrest, hnone]
    rfl

/-- A validation that waits before a command waits after it or is carried out in it. -/
lemma Awaits.run_cases (hs : s.Sound) {due : Time} {document : Document}
    (hw : s.Awaits uri due document) (tree : FileTree)
    (hother : ∀ content, c ≠ .scheduleValidation content uri) :
    (∃ due', (s.run tree c).server.Awaits uri due' document) ∨
      (∃ timer, (s.timed c).filter (fun p => p.key == uri) = [⟨uri, timer, due, document⟩]) ∧
        ∀ p ∈ (s.run tree c).server.debouncer.pending, p.key ≠ uri := by
  have hw' := hw
  obtain ⟨timer, htimer⟩ := hw
  have hdebouncer := (run_config_debouncer tree s c).2
  cases c with
  | loadConfig path =>
    refine .inl ?_
    simp only [Awaits, hdebouncer, debouncerAfter]
    cases loaded? tree path with
    | none => exact ⟨due, timer, htimer⟩
    | some found => exact ⟨_, hs.wellFormed.exists_mem_restart found.1.debounceSeconds htimer⟩
  | scheduleValidation content other =>
    have hne : uri ≠ other := by
      rintro rfl
      exact hother content rfl
    refine .inl ⟨due, timer, ?_⟩
    rw [hdebouncer]
    exact List.mem_append_left _ (Debouncer.mem_others.2 ⟨htimer, hne⟩)
  | advance seconds =>
    cases hdue : due.notLater (s.target seconds) with
    | true => exact .inr (hw'.advance hs tree hdue)
    | false =>
      refine .inl ⟨due, timer, ?_⟩
      rw [hdebouncer, debouncerAfter,
        (Debouncer.advance_quiet quiet_behaviour hs.wellFormed seconds).pending]
      refine List.mem_filter.2 ⟨htimer, ?_⟩
      show (!due.notLater (s.target seconds)) = true
      rw [hdue]
      rfl
  | lateFire other =>
    rw [hdebouncer, debouncerAfter, timed, Debouncer.fire_quiet quiet_behaviour]
    by_cases heq : timer = other
    · subst heq
      have hfire := hs.wellFormed.fire_of_mem behaviour htimer
      rw [Debouncer.fire_quiet quiet_behaviour] at hfire
      have hran : (s.debouncer.expire timer).2 = some ⟨uri, timer, due, document⟩ :=
        congrArg Prod.snd hfire
      refine .inr ⟨⟨timer, ?_⟩, ?_⟩
      · rw [hran, Option.toList_some, List.filter_singleton, beq_self_eq_true]
        rfl
      · intro p hp hkey
        obtain ⟨hmem, hne⟩ := Debouncer.mem_expire hs.wellFormed hp
        rw [hs.wellFormed.eq_of_key hmem htimer hkey] at hne
        exact hne hran
    · refine .inl ⟨due, timer, ?_⟩
      rw [hdebouncer, debouncerAfter, Debouncer.fire_quiet quiet_behaviour]
      exact Debouncer.mem_expire_of_ne htimer heq
  | _ =>
    refine .inl ⟨due, timer, ?_⟩
    rw [hdebouncer]
    exact htimer

/-- Among the validations that timers run, those of a document tell which is its latest one. -/
lemma latest?_outcomes (hs : s.Sound) (uri : String) (c : Command) :
    Validation.latest? uri ((s.timed c).filterMap s.outcome?) =
      (((s.timed c).filter fun p => p.key == uri).filterMap s.outcome?).getLast? := by
  rw [Validation.latest?, List.filter_filterMap, List.filterMap_filter]
  apply congrArg List.getLast?
  apply List.filterMap_congr
  intro p hp
  rw [← hs.names p (mem_timed hs hp), outcome?]
  cases p.call.content with
  | text text => rfl
  | malformed kind => exact (ite_self none).symm

/-- The one validation of a document that timers run in a command is the latest one. -/
lemma latest?_timed (hs : s.Sound) (tree : FileTree) {timer : Nat} {due : Time}
    {text : List Char}
    (hran : (s.timed c).filter (fun p => p.key == uri) = [⟨uri, timer, due, ⟨uri, .text text⟩⟩]) :
    Validation.latest? uri (s.validations tree c) = some (s.validation uri text) := by
  have htimed : s.validations tree c = (s.timed c).filterMap s.outcome? := by
    cases c with
    | validateDocument content other => cases hran
    | validateFile path => cases hran
    | _ => rfl
  rw [htimed, latest?_outcomes hs, hran]
  rfl

/-- A validation that waits is carried out before the document is idle again. -/
lemma Awaits.attend_cases (hs : s.Sound) {due : Time} {text : List Char}
    (hw : s.Awaits uri due ⟨uri, .text text⟩) {session : Session}
    (hno : Unrequested uri s session) :
    (∃ due', (s.attend session).Awaits uri due' ⟨uri, .text text⟩) ∨
      ∃ v, Validation.latest? uri (s.validationsAll session) = some v ∧ v.text = text := by
  induction session generalizing s due with
  | nil => exact .inl ⟨due, hw⟩
  | cons visit rest ih =>
    obtain ⟨tree, c⟩ := visit
    obtain ⟨hnow, hrest⟩ := hno
    rw [validationsAll, latest?_append]
    have hother : ∀ content, c ≠ .scheduleValidation content uri := by
      rintro content rfl
      exact hnow content (.scheduled content)
    obtain ⟨due', hnext⟩ | ⟨⟨timer, hran⟩, hidle⟩ := hw.run_cases hs tree hother
    · obtain hwaits | ⟨v, hlatest, htext⟩ := ih (hs.run tree c) hnext hrest
      · exact .inl hwaits
      · refine .inr ⟨v, ?_, htext⟩
        rw [hlatest]
        rfl
    · refine .inr ⟨s.validation uri text, ?_, rfl⟩
      rw [latest?_of_idle (hs.run tree c) hidle hrest, latest?_timed hs tree hran]
      rfl

/-- A request is put off, or served at once. -/
lemma Requests.cases {text : List Char} (h : s.Requests tree uri c (.text text)) :
    c = .scheduleValidation (.text text) uri ∨
      c ≠ .scheduleValidation (.text text) uri ∧
        (s.run tree c).server.debouncer = s.debouncer ∧
          s.validations tree c = [s.validation uri text] := by
  cases h with
  | scheduled => exact .inl rfl
  | document text => exact .inr ⟨nofun, rfl, rfl⟩
  | file hread haccepted =>
    refine .inr ⟨nofun, config_validateFile.2, ?_⟩
    rw [isError_validateFile_iff] at haccepted
    obtain ⟨text, htext⟩ := Option.ne_none_iff_exists'.1 haccepted
    obtain ⟨bytes, hbytes, rfl⟩ := bytes_of_fileText? htext
    rw [hread] at hbytes
    cases hbytes
    rw [validations, htext]
    rfl

/-- The latest validation of a document is what is stored for it. -/
lemma stores_of_latest {session : Session} {v : Validation}
    (h : Validation.latest? uri (start.validationsAll session) = some v) :
    Stores session uri v.text := by
  refine ⟨v, h, rfl, ?_⟩
  rw [get_store_attend, h]
  rfl

/-- The validation that waits after the last request is the latest one when nothing waits. -/
lemma stores_of_awaits {before after : Session} {due : Time} {text : List Char}
    (hidle : (start.attend (before ++ (tree, c) :: after)).debouncer.isPending uri = false)
    (hw : ((start.attend before).run tree c).server.Awaits uri due ⟨uri, .text text⟩)
    (hno : Unrequested uri ((start.attend before).run tree c).server after) :
    Stores (before ++ (tree, c) :: after) uri text := by
  have hsound := (sound_attend_start before).run tree c
  rw [attend_append, isPending_eq_false_iff] at hidle
  obtain ⟨due', timer, htimer⟩ | ⟨v, hlatest, rfl⟩ := hw.attend_cases hsound hno
  · exact absurd rfl (hidle _ htimer)
  · apply stores_of_latest
    rw [validationsAll_append, validationsAll, latest?_append, latest?_append, hlatest]
    rfl

/--
What is stored for a document for which nothing waits. It is what was found in the text of the last
request, if the request was put off or came when nothing waited; it is what was found in the text
that waited, if the request was served at once in the meantime; and it is nothing if there was no
request.
-/
theorem stored_diagnostics_exact (session : Session) (uri : String)
    (hidle : (start.attend session).debouncer.isPending uri = false) :
    (Unrequested uri start session → (start.attend session).store.get uri = []) ∧
      ∀ (before : Session) (tree : FileTree) (c : Command) (after : Session) (text : List Char),
        session = before ++ (tree, c) :: after →
          (start.attend before).Requests tree uri c (.text text) →
            Unrequested uri ((start.attend before).run tree c).server after →
              (c = .scheduleValidation (.text text) uri ∨
                  (start.attend before).debouncer.isPending uri = false →
                Stores session uri text) ∧
                ∀ (due : Time) (old : List Char), c ≠ .scheduleValidation (.text text) uri →
                  (start.attend before).Awaits uri due ⟨uri, .text old⟩ →
                    Stores session uri old := by
  refine ⟨?_, ?_⟩
  · intro hno
    rw [get_store_attend, latest?_of_idle sound_start nofun hno]
    rfl
  · intro before tree c after text hsession hrequest hno
    subst hsession
    obtain rfl | ⟨honce, hsame, hserved⟩ := hrequest.cases
    · refine ⟨fun _ => ?_, fun due old hc => absurd rfl hc⟩
      apply stores_of_awaits hidle _ hno
      · exact (start.attend before).debouncer.now.after
          (.ofSeconds (start.attend before).debouncer.delay)
      · exact ⟨_, List.mem_append_right _ (List.mem_singleton.2 rfl)⟩
    · refine ⟨?_, ?_⟩
      · intro horder
        have hfree := isPending_eq_false_iff.1 (horder.resolve_left honce)
        have hafter := (sound_attend_start before).run tree c
        rw [← hsame] at hfree
        apply stores_of_latest (v := (start.attend before).validation uri text)
        rw [validationsAll_append, validationsAll, latest?_append, latest?_append, hserved,
          latest?_of_idle hafter hfree hno, latest?_validation]
        rfl
      · intro due old _ hwaits
        obtain ⟨timer, htimer⟩ := hwaits
        apply stores_of_awaits hidle ⟨timer, ?_⟩ hno
        · exact due
        · rw [hsame]
          exact htimer

/-- A validation that was put off is what is stored once its time has come. -/
theorem stored_diagnostics_of_scheduled :
    let session : Session := [(hasty, .scheduleValidation (.text ".a = to_int(.b)".toList) "doc"),
      (hasty, .advance (.finite false Binary64.unit))]
    (start.attend session).debouncer.isPending "doc" = false ∧
      Stores session "doc" ".a = to_int(.b)".toList ∧
        ((start.attend session).store.get "doc").map (·.code) = ["missing-error-handling"] := by
  intro session
  have hidle : (start.attend session).debouncer.isPending "doc" = false := by decide +kernel
  have hrun := (stored_diagnostics_exact session "doc" hidle).2 [] hasty _
    [(hasty, .advance (.finite false Binary64.unit))] _ rfl (.scheduled _)
  refine ⟨hidle, (hrun ⟨?_, trivial⟩).1 (.inl rfl), by decide +kernel⟩
  intro content h
  cases h

/--
A document is validated at once while an older text of it waits. When nothing waits any more, what
is stored was found in the older text, although the newer one was requested last.
-/
theorem late_validation_overwrites :
    let older : FileTree × Command := (hasty, .scheduleValidation (.text "a)".toList) "doc")
    let newer : Command := .validateDocument (.text ".a = 1".toList) "doc"
    let later : Session := [(hasty, .advance (.finite false Binary64.unit))]
    let now := start.attend (older :: (hasty, newer) :: later)
    now.debouncer.isPending "doc" = false ∧
      (start.attend [older]).Requests hasty "doc" newer (.text ".a = 1".toList) ∧
        Unrequested "doc" ((start.attend [older]).run hasty newer).server later ∧
          now.store.get "doc" = (now.analyze "a)".toList).value ∧
            now.store.get "doc" ≠ (now.analyze ".a = 1".toList).value ∧
              ¬ Stores (older :: (hasty, newer) :: later) "doc" ".a = 1".toList := by
  intro older newer later now
  have hold : now.store.get "doc" = (now.analyze "a)".toList).value := by decide +kernel
  refine ⟨by decide +kernel, .document _, ⟨?_, trivial⟩, hold, by decide +kernel, ?_⟩
  · intro content h
    cases h
  · intro h
    obtain ⟨v, hlatest, htext, -⟩ := h
    have hlast : (Validation.latest? "doc"
        (start.validationsAll (older :: (hasty, newer) :: later))).map (·.text) =
          some "a)".toList := by decide +kernel
    rw [hlatest, Option.map_some, htext] at hlast
    exact absurd hlast (by decide)

end Server

end Remap
