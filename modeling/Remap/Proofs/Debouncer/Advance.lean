import Remap.Proofs.Debouncer.WellFormed

/-!
# Letting time pass

The next call to run is one that is due, and none is due before it. When the calls of a debouncer
ask nothing of it, letting time pass runs exactly the calls that are due by then, each of them once,
and leaves the others as they are.
-/

namespace Remap

namespace Debouncer

variable {α : Type} {d : Debouncer α}

/-- Some call is the earliest unless there is none. -/
lemma earliest?_eq_none_iff {calls : List (Pending α)} : earliest? calls = none ↔ calls = [] := by
  cases calls with
  | nil => exact ⟨fun _ => rfl, fun _ => rfl⟩
  | cons p rest =>
    rw [earliest?]
    refine ⟨?_, ?_⟩
    · intro h
      cases hrest : earliest? rest with
      | none =>
        rw [hrest] at h
        cases h
      | some q =>
        rw [hrest] at h
        cases hle : p.due.notLater q.due <;> simp only [hle] at h <;> cases h
    · intro h
      cases h

/-- The earliest of some calls is one of them, and none of them is due before it. -/
lemma earliest?_spec {calls : List (Pending α)} {p : Pending α} (h : earliest? calls = some p) :
    p ∈ calls ∧ ∀ q ∈ calls, p.due.notLater q.due = true := by
  induction calls generalizing p with
  | nil => cases h
  | cons first rest ih =>
    rw [earliest?] at h
    cases hrest : earliest? rest with
    | none =>
      rw [hrest] at h
      cases h
      rw [earliest?_eq_none_iff.1 hrest]
      refine ⟨List.mem_singleton.2 rfl, ?_⟩
      intro q hq
      rw [List.mem_singleton.1 hq]
      exact Time.notLater_refl _
    | some second =>
      obtain ⟨hmem, hleast⟩ := ih hrest
      rw [hrest] at h
      by_cases hle : first.due.notLater second.due = true
      · simp only [hle, if_true] at h
        cases h
        refine ⟨List.mem_cons_self, ?_⟩
        intro q hq
        obtain rfl | hq := List.mem_cons.1 hq
        · exact Time.notLater_refl _
        · exact Time.notLater_trans hle (hleast q hq)
      · simp only [hle, Bool.false_eq_true, if_false] at h
        cases h
        refine ⟨List.mem_cons_of_mem _ hmem, ?_⟩
        intro q hq
        obtain rfl | hq := List.mem_cons.1 hq
        · exact (Time.notLater_total _ _).resolve_right hle
        · exact hleast q hq

/-- The next call to run is pending and due. -/
lemma next?_spec {target : Time} {p : Pending α} (h : d.next? target = some p) :
    p ∈ d.pending ∧ p.due.notLater target = true := by
  obtain ⟨hearliest, hdue⟩ := Option.filter_eq_some_iff.1 h
  exact ⟨(earliest?_spec hearliest).1, hdue⟩

/-- If there is no next call to run, none is due. -/
lemma next?_eq_none {target : Time} (h : d.next? target = none) :
    ∀ p ∈ d.pending, p.due.notLater target = false := by
  intro p hp
  rw [next?, Option.filter_eq_none_iff] at h
  cases hearliest : earliest? d.pending with
  | none =>
    rw [earliest?_eq_none_iff.1 hearliest] at hp
    cases hp
  | some q =>
    apply Bool.eq_false_iff.2
    intro hdue
    exact h q hearliest (Time.notLater_trans ((earliest?_spec hearliest).2 p hp) hdue)

/-- The timer of a call that waits runs this call. -/
lemma WellFormed.fire_of_mem (hd : d.WellFormed) (b : Behaviour α) {p : Pending α}
    (hp : p ∈ d.pending) :
    d.fire b p.timer = ((d.release p.timer).perform (b.actions p), some p) := by
  rw [Debouncer.fire, Debouncer.expire, if_pos (hd.canRun hp), hd.held?_eq_some_iff.2 ⟨hp, rfl⟩]

/-- Running what is due keeps a debouncer well-formed. -/
lemma WellFormed.runDue (hd : d.WellFormed) (b : Behaviour α) (target : Time) (fuel : Nat) :
    WellFormed (runDue b target fuel d).1 := by
  induction fuel generalizing d with
  | zero => exact hd
  | succ fuel ih =>
    rw [Debouncer.runDue]
    cases d.next? target with
    | none => exact hd
    | some p => exact ih ((hd.wait p.due).fire b p.timer)

/-- Letting time pass keeps a debouncer well-formed. -/
lemma WellFormed.advance (hd : d.WellFormed) (b : Behaviour α) (seconds : Binary64) :
    WellFormed (d.advance b seconds).1 :=
  (hd.runDue b _ _).wait _

end Debouncer

/-- The calls ask nothing of the debouncer, and each leads to one run, its own. -/
structure Behaviour.Quiet {α : Type} (b : Behaviour α) : Prop where
  actions : ∀ (d : Debouncer α) p, d.perform (b.actions p) = d
  weight : ∀ call, b.weight call = 1

namespace Debouncer

variable {α : Type} {d : Debouncer α} {b : Behaviour α}

/-- The calls that are due by a moment, in the order in which they were scheduled. -/
def due (d : Debouncer α) (target : Time) : List (Pending α) :=
  d.pending.filter fun p => p.due.notLater target

/-- The calls that are not due by a moment, in the order in which they were scheduled. -/
def notDue (d : Debouncer α) (target : Time) : List (Pending α) :=
  d.pending.filter fun p => !p.due.notLater target

/-- What is left and what has run after the calls that are due have run. -/
structure RunsDue (d : Debouncer α) (target : Time) (after : Debouncer α)
    (ran : List (Pending α)) : Prop where
  pending : after.pending = d.notDue target
  started : after.started = d.started
  delay : after.delay = d.delay
  runs : ran.Perm (d.due target)

/-- A call that waits and the others are all the calls. -/
lemma WellFormed.perm_cons (hd : d.WellFormed) {p : Pending α} (hp : p ∈ d.pending) :
    d.pending.Perm (p :: (d.release p.timer).pending) := by
  have htimers : d.pending.Nodup := List.Nodup.of_map Pending.key hd.keys
  -- both lists are without repetition, so it is enough that they have the same members
  apply (List.perm_ext_iff_of_nodup htimers ?_).2
  · intro q
    rw [List.mem_cons, Debouncer.release, List.mem_filter, bne_iff_ne]
    refine ⟨?_, ?_⟩
    · intro hq
      by_cases heq : q.timer = p.timer
      · exact .inl (hd.eq_of_timer hq hp heq)
      · exact .inr ⟨hq, heq⟩
    · intro hor
      obtain rfl | ⟨hq, -⟩ := hor
      · exact hp
      · exact hq
  · rw [List.nodup_cons]
    refine ⟨?_, htimers.sublist List.filter_sublist⟩
    intro hmem
    exact bne_iff_ne.1 (List.mem_filter.1 hmem).2 rfl

/-- A call that has run takes nothing from the calls that are not due. -/
lemma notDue_release {p : Pending α} {target : Time} (hd : d.WellFormed) (hp : p ∈ d.pending)
    (hdue : p.due.notLater target = true) :
    (d.release p.timer).notDue target = d.notDue target := by
  rw [notDue, release, List.filter_filter]
  apply List.filter_congr
  intro q hq
  by_cases heq : q.timer = p.timer
  · rw [hd.eq_of_timer hq hp heq, hdue]
    rfl
  · rw [bne_iff_ne.2 heq, Bool.and_true]

/-- If calls ask for nothing, enough fuel lets all calls run that are due. -/
lemma runDue_quiet (hb : b.Quiet) (hd : d.WellFormed) (target : Time) {fuel : Nat}
    (hfuel : d.pending.length ≤ fuel) :
    RunsDue d target (runDue b target fuel d).1 (runDue b target fuel d).2 := by
  induction fuel generalizing d with
  | zero =>
    have hnil : d.pending = [] := List.length_eq_zero_iff.1 (Nat.le_zero.1 hfuel)
    refine ⟨?_, rfl, rfl, ?_⟩
    · rw [runDue, notDue, hnil]
      rfl
    · rw [runDue, due, hnil]
      exact List.Perm.refl _
  | succ fuel ih =>
    rw [runDue]
    cases hnext : d.next? target with
    | none =>
      have hnone := next?_eq_none hnext
      refine ⟨?_, rfl, rfl, ?_⟩
      · rw [notDue, List.filter_eq_self.2]
        intro p hp
        rw [hnone p hp]
        rfl
      · rw [due, List.filter_eq_nil_iff.2]
        intro p hp
        rw [hnone p hp]
        exact Bool.false_ne_true
    | some p =>
      -- one run takes the call away, and the fuel is left for the others
      obtain ⟨hp, hdue⟩ := next?_spec hnext
      have hwait := hd.wait p.due
      have hfire := hwait.fire_of_mem b hp
      rw [hb.actions] at hfire
      have hperm := hwait.perm_cons hp
      have hlength : (release { d with now := p.due } p.timer).pending.length ≤ fuel := by
        have hlength := hperm.length_eq
        rw [List.length_cons] at hlength
        exact Nat.le_of_succ_le_succ (Nat.le_trans (Nat.le_of_eq hlength.symm) hfuel)
      obtain ⟨hpending, hstarted, hdelay, hruns⟩ :=
        ih (hwait.release (hwait.canRun hp)) hlength
      simp only [hfire]
      refine ⟨?_, hstarted, hdelay, ?_⟩
      · rw [hpending, notDue_release hwait hp hdue]
        rfl
      · have hdues := hperm.filter fun q => q.due.notLater target
        rw [List.filter_cons, if_pos hdue] at hdues
        exact (hruns.cons p).trans hdues.symm

/-- If calls ask for nothing, the load is the number of calls that are pending. -/
lemma load_quiet (hb : b.Quiet) (d : Debouncer α) : d.load b = d.pending.length := by
  have hfold : ∀ (calls : List (Pending α)) total,
      calls.foldl (fun total p => total + b.weight p.call) total = total + calls.length := by
    intro calls
    induction calls with
    | nil => exact fun _ => rfl
    | cons p rest ih =>
      intro total
      rw [List.foldl_cons, ih, hb.weight, List.length_cons]
      omega
  rw [load, hfold, Nat.zero_add]

/-- Letting time pass runs the calls that are due by then and leaves the others as they are. -/
lemma advance_quiet (hb : b.Quiet) (hd : d.WellFormed) (seconds : Binary64) :
    RunsDue d (d.now.after (.ofSeconds seconds)) (d.advance b seconds).1
      (d.advance b seconds).2 := by
  obtain ⟨hpending, hstarted, hdelay, hruns⟩ :=
    runDue_quiet hb hd (d.now.after (.ofSeconds seconds)) (Nat.le_of_eq (load_quiet hb d).symm)
  exact ⟨hpending, hstarted, hdelay, hruns⟩

/-- The debouncer after a quiet call has run is the one before its run. -/
lemma fire_quiet (hb : b.Quiet) (d : Debouncer α) (timer : Nat) :
    d.fire b timer = d.expire timer := by
  rw [fire]
  cases d.expire timer with
  | mk next call =>
    cases call with
    | none => rfl
    | some p => exact congrArg (·, some p) (hb.actions next p)

/-- What waits after a timer has run waited before, and its timer is another one. -/
lemma mem_expire (hd : d.WellFormed) {timer : Nat} {q : Pending α}
    (hq : q ∈ (d.expire timer).1.pending) : q ∈ d.pending ∧ (d.expire timer).2 ≠ some q := by
  rw [expire] at hq ⊢
  by_cases hrun : d.canRun timer = true
  · rw [if_pos hrun] at hq ⊢
    obtain ⟨hmem, hne⟩ := List.mem_filter.1 hq
    refine ⟨hmem, ?_⟩
    intro hheld
    exact bne_iff_ne.1 hne (hd.held?_eq_some_iff.1 hheld).2
  · rw [if_neg hrun] at hq ⊢
    refine ⟨hq, ?_⟩
    intro hnone
    cases hnone

/-- A timer that runs out gives the pending call that it was started for. -/
lemma mem_of_expire (hd : d.WellFormed) {timer : Nat} {p : Pending α}
    (hp : (d.expire timer).2 = some p) : p ∈ d.pending ∧ p.timer = timer := by
  rw [expire] at hp
  by_cases hrun : d.canRun timer = true
  · rw [if_pos hrun] at hp
    exact hd.held?_eq_some_iff.1 hp
  · rw [if_neg hrun] at hp
    cases hp

/-- A timer that runs out leaves the calls of other timers pending. -/
lemma mem_expire_of_ne {timer : Nat} {q : Pending α} (hq : q ∈ d.pending)
    (hne : q.timer ≠ timer) : q ∈ (d.expire timer).1.pending := by
  rw [expire]
  by_cases hrun : d.canRun timer = true
  · rw [if_pos hrun]
    exact List.mem_filter.2 ⟨hq, bne_iff_ne.2 hne⟩
  · rw [if_neg hrun]
    exact hq

/-- A timer that runs when no call waits for it has no effect. -/
lemma fire_stale {timer : Nat} (h : ∀ p ∈ d.pending, p.timer ≠ timer) :
    (d.fire b timer).2 = none ∧
      (d.fire b timer).1 = { d with ran := (d.fire b timer).1.ran } := by
  have hpending : (d.release timer).pending = d.pending := by
    apply List.filter_eq_self.2
    intro p hp
    exact bne_iff_ne.2 (h p hp)
  rw [fire, expire]
  by_cases hrun : d.canRun timer = true
  · rw [if_pos hrun, WellFormed.held?_eq_none h]
    refine ⟨rfl, ?_⟩
    show d.release timer = { d with ran := timer :: d.ran }
    rw [← hpending]
    rfl
  · rw [if_neg hrun]
    exact ⟨rfl, rfl⟩

end Debouncer

end Remap
