import Mathlib.Algebra.BigOperators.Group.List.Basic
import Mathlib.Algebra.GroupWithZero.Nat
import Remap.Function.Registry
import Remap.Proofs.Analyzer
import Remap.Proofs.Text.Margin

/-!
# Checks that fail

The analysis as a run: each check runs in an attempt of its own, in which a failure is logged and
nothing is found. Such a run always ends with diagnostics (`gives_perform`), and they are those of
the analysis. So a check that fails takes nothing from the others and adds nothing but a record:
`analyze_isolated` says so of all lists of checks, and of a check that always fails wherever it
stands among them.
-/

namespace Remap

/-- A check that finds nothing where it would fail. -/
def LineCheck.orNothing (check : LineCheck) : LineCheck :=
  fun registry line number => .ok ((check registry line number).toOption.getD [])

/--
A check that finds its diagnostics one after another and may fail after some of them, which are lost
then.
-/
def LineCheck.ofSteps
    (steps : Registry → List Char → Int → List (Except String Diagnostic)) : LineCheck :=
  fun registry line number => (steps registry line number).mapM id

namespace Analyzer

open Text

/-! The analysis as a run. -/

/-- A run that writes records and may fail. -/
abbrev Run (α : Type) := ExceptT String (StateM Log) α

/-- One check in isolation: a failure is logged, and nothing is found. -/
def attempt (result : Except String (List Diagnostic)) : Run (List Diagnostic) :=
  tryCatch (liftExcept result) fun _ => do
    modify (· ++ [.warning])
    return []

/-- All checks on one line, after what is found before it. -/
def performLine (a : Analyzer) (before : List Diagnostic) (line : List Char) (number : Nat) :
    Run (List Diagnostic) := do
  let mut found := before
  for check in a.checks do
    found := found ++ (← attempt (check a.registry line number))
  return found

/-- The analysis of a document, check by check. -/
def perform (a : Analyzer) (text : List Char) (disabled : List String) :
    Run (List Diagnostic) := do
  let mut found ← attempt (.ok (Delimiter.check text))
  found := found ++ (← attempt (.ok (Check.elsePlacement (sourceLines text))))
  for (line, number) in (sourceLines text).zipIdx do
    if isCode line then
      found ← a.performLine found line number
  return found.filter (isEnabled disabled)

/-- Whatever is logged before it, the run ends with a value and adds its records. -/
def Gives {α : Type} (run : Run α) (value : α) (log : Log) : Prop :=
  ∀ before : Log, run.run.run before = (.ok value, before ++ log)

variable {α β : Type} {a b : Analyzer} {text line : List Char} {number : Nat}
  {disabled : List String}

/-- A run that only returns logs nothing. -/
lemma gives_pure (value : α) : Gives (pure value) value [] :=
  fun before => congrArg (Prod.mk _) (List.append_nil before).symm

/-- Runs one after the other log one after the other. -/
lemma Gives.bind {run : Run α} {next : α → Run β} {value : α} {last : β} {log more : Log}
    (h : Gives run value log) (hnext : Gives (next value) last more) :
    Gives (run >>= next) last (log ++ more) := by
  intro before
  rw [ExceptT.run_bind, StateT.run_bind, h before]
  show (next value).run.run (before ++ log) = _
  rw [hnext, List.append_assoc]

/-- A run that is followed by no more than a calculation. -/
lemma Gives.map {run : Run α} {value : α} {log : Log} (h : Gives run value log) (f : α → β) :
    Gives (run >>= fun x => pure (f x)) (f value) log := by
  have hpure : Gives (run >>= fun x => pure (f x)) (f value) (log ++ []) :=
    h.bind (gives_pure (f value))
  rwa [List.append_nil] at hpure

/-- A check that is tried gives what it finds, or nothing and one warning. -/
lemma gives_attempt (result : Except String (List Diagnostic)) :
    Gives (attempt result) (result.toOption.getD [])
      (if !result.isOk then [.warning] else []) := by
  intro before
  cases result with
  | error reason => rfl
  | ok found => exact congrArg (Prod.mk _) (List.append_nil before).symm

/-- A loop in which each round adds what it finds to what is found before. -/
lemma gives_forIn {items : List β} {round : β → List α → Run (ForInStep (List α))}
    {finds : β → List α} {logs : β → Log}
    (h : ∀ item found, Gives (round item found) (.yield (found ++ finds item)) (logs item))
    (found : List α) :
    Gives (forIn items found round) (found ++ items.flatMap finds) (items.flatMap logs) := by
  induction items generalizing found with
  | nil =>
    rw [List.forIn_nil, List.flatMap_nil, List.append_nil]
    exact gives_pure found
  | cons item items ih =>
    rw [List.forIn_cons, List.flatMap_cons, List.flatMap_cons, ← List.append_assoc]
    exact (h item found).bind (ih _)

/-! What is found on a line, and what is logged. -/

/-- The check fails on the line. -/
def fails (a : Analyzer) (line : List Char) (number : Nat) (check : LineCheck) : Bool :=
  !(check a.registry line number).isOk

/-- A line has what its checks find, those that fail left out. -/
lemma value_checkLine_eq_flatMap (a : Analyzer) (line : List Char) (number : Nat) :
    (a.checkLine line number).value =
      a.checks.flatMap fun check => (check a.registry line number).toOption.getD [] := by
  rw [checkLine, List.flatMap_map]

/-- One warning is logged for each check that fails on the line. -/
lemma log_checkLine (a : Analyzer) (line : List Char) (number : Nat) :
    (a.checkLine line number).log =
      (a.checks.filter (a.fails line number)).map fun _ => .warning := by
  rw [checkLine, List.filter_map, List.map_map]
  rfl

/-- What comes from the items that are kept comes from all items, with nothing for the others. -/
lemma flatMap_filter (p : α → Bool) (f : α → List β) (items : List α) :
    (items.filter p).flatMap f = items.flatMap fun x => if p x then f x else [] := by
  induction items with
  | nil => rfl
  | cons x items ih =>
    rw [List.flatMap_cons, ← ih, List.filter_cons]
    split <;> rfl

/-- As many equal members as there are items that are kept. -/
lemma map_filter_eq_flatMap (p : α → Bool) (y : β) (items : List α) :
    (items.filter p).map (fun _ => y) = items.flatMap fun x => if p x then [y] else [] := by
  rw [← flatMap_filter, List.map_eq_flatMap]

/-- The run over the checks of a line gives what they find, with the warnings of those that fail. -/
lemma gives_performLine (a : Analyzer) (before : List Diagnostic) (line : List Char)
    (number : Nat) :
    Gives (a.performLine before line number) (before ++ (a.checkLine line number).value)
      (a.checkLine line number).log := by
  rw [value_checkLine_eq_flatMap, log_checkLine, map_filter_eq_flatMap, performLine, bind_pure]
  apply gives_forIn
  intro check found
  exact (gives_attempt _).map fun more => ForInStep.yield (found ++ more)

/-- The run of an analysis ends with its diagnostics and its records. -/
lemma gives_perform (a : Analyzer) (text : List Char) (disabled : List String) :
    Gives (a.perform text disabled) (a.analyze text disabled).value
      (a.analyze text disabled).log := by
  rw [analyze, lineFindings, codeLines]
  simp only [List.flatMap_map, flatMap_filter]
  unfold perform
  refine (gives_attempt _).bind ((gives_attempt _).bind ((gives_forIn ?_ _).map _))
  intro place found
  obtain ⟨line, number⟩ := place
  dsimp only
  split
  case isTrue => exact (a.gives_performLine found line number).map _
  case isFalse =>
    rw [List.append_nil]
    exact gives_pure _

/-! Failures. -/

/-- The checks that fail, each with the line on which it does. -/
def failures (a : Analyzer) (text : List Char) : List (LineCheck × List Char × Nat) :=
  (codeLines text).flatMap fun place =>
    (a.checks.filter (a.fails place.1 place.2)).map fun check => (check, place)

/-- The analyzer with checks that find nothing where they would fail. -/
def orNothing (a : Analyzer) : Analyzer :=
  { a with checks := a.checks.map LineCheck.orNothing }

/-- The analyzer with one more check, in a place among the others. -/
def insert (a : Analyzer) (place : Nat) (check : LineCheck) : Analyzer :=
  { a with checks := a.checks.take place ++ check :: a.checks.drop place }

/-- One warning is logged for each failure. -/
lemma log_analyze (a : Analyzer) (text : List Char) (disabled : List String) :
    (a.analyze text disabled).log = (a.failures text).map fun _ => .warning := by
  have hlog : (a.analyze text disabled).log = (a.lineFindings text).flatMap (·.log) := rfl
  rw [hlog, lineFindings, failures, List.flatMap_map, List.map_flatMap]
  simp only [log_checkLine, List.map_map]
  rfl

/-- The diagnostics depend only on what is found on each line. -/
lemma value_analyze_congr
    (h : ∀ line number, (a.checkLine line number).value = (b.checkLine line number).value) :
    (a.analyze text disabled).value = (b.analyze text disabled).value := by
  simp only [analyze, lineFindings, List.flatMap_map, h]

/-- Checks that report nothing in place of failing find the same. -/
lemma value_checkLine_orNothing (a : Analyzer) (line : List Char) (number : Nat) :
    (a.orNothing.checkLine line number).value = (a.checkLine line number).value := by
  rw [value_checkLine_eq_flatMap, value_checkLine_eq_flatMap, orNothing, List.flatMap_map]
  rfl

/-- Where no check fails, there are no failures. -/
lemma failures_eq_nil
    (h : ∀ check ∈ a.checks, ∀ (line : List Char) (number : Nat),
      (check a.registry line number).isOk = true) : a.failures text = [] := by
  rw [failures, List.flatMap_eq_nil_iff]
  intro place _
  rw [List.map_eq_nil_iff, List.filter_eq_nil_iff]
  intro check hcheck
  rw [fails, h check hcheck]
  exact Bool.false_ne_true

/-- Checks that report nothing in place of failing do not fail. -/
lemma failures_orNothing (a : Analyzer) (text : List Char) : a.orNothing.failures text = [] := by
  apply failures_eq_nil
  intro check hcheck line number
  obtain ⟨original, -, rfl⟩ := List.mem_map.1 hcheck
  rfl

/-- The standard checks do not fail. -/
lemma failures_standard (registry : Registry) (text : List Char) :
    ({ registry := registry } : Analyzer).failures text = [] := by
  apply failures_eq_nil
  intro check hcheck line number
  obtain ⟨safe, -, rfl⟩ := List.mem_map.1 hcheck
  rfl

/-! A check that always fails. -/

/-- The check fails on every line. -/
def AlwaysFails (registry : Registry) (check : LineCheck) : Prop :=
  ∀ (line : List Char) (number : Nat), (check registry line number).isOk = false

variable {check : LineCheck}

/-- One more check that always fails finds nothing more on a line. -/
lemma value_checkLine_insert (h : AlwaysFails a.registry check) (place : Nat)
    (line : List Char) (number : Nat) :
    ((a.insert place check).checkLine line number).value = (a.checkLine line number).value := by
  have hnothing : (check a.registry line number).toOption.getD [] = [] := by
    have hfails := h line number
    cases hresult : check a.registry line number with
    | error reason => rfl
    | ok found =>
      rw [hresult] at hfails
      cases hfails
  rw [value_checkLine_eq_flatMap, value_checkLine_eq_flatMap, insert, List.flatMap_append,
    List.flatMap_cons, hnothing, List.nil_append, ← List.flatMap_append, List.take_append_drop]

/-- The failures are counted line by line. -/
lemma length_failures (a : Analyzer) (text : List Char) :
    (a.failures text).length =
      ((codeLines text).map fun place => a.checks.countP (a.fails place.1 place.2)).sum := by
  rw [failures, List.length_flatMap]
  simp only [List.length_map, List.countP_eq_length_filter]

/-- A check that always fails does so once on each line that holds code. -/
lemma length_failures_insert (h : AlwaysFails a.registry check) (place : Nat)
    (text : List Char) :
    ((a.insert place check).failures text).length =
      (a.failures text).length + (codeLines text).length := by
  have hline : ∀ (line : List Char) (number : Nat),
      (a.insert place check).checks.countP ((a.insert place check).fails line number) =
        a.checks.countP (a.fails line number) + 1 := by
    intro line number
    have hfails : a.fails line number check = true := by
      rw [fails, h line number]
      rfl
    show (a.checks.take place ++ check :: a.checks.drop place).countP (a.fails line number) = _
    rw [List.countP_append, List.countP_cons_of_pos hfails, ← Nat.add_assoc,
      ← List.countP_append, List.take_append_drop]
  rw [length_failures, length_failures]
  simp only [hline, List.sum_map_add, List.map_const', List.sum_replicate_nat,
    Nat.mul_one]

/-- The lines that hold code are those that are neither blank nor comments as a whole. -/
lemma length_codeLines (text : List Char) :
    (codeLines text).length = (lines text).countP fun line =>
      decide (trim line ≠ [] ∧ (trim line).head? ≠ some '#') := by
  have hcode : ∀ line : List Char, isCode (dropReturn line) =
      decide (trim line ≠ [] ∧ (trim line).head? ≠ some '#') := by
    intro line
    rw [Bool.eq_iff_iff, isCode_iff, trim_dropReturn, decide_eq_true_iff]
  have hzip : (codeLines text).length = (sourceLines text).countP isCode := by
    rw [codeLines, ← List.countP_eq_length_filter]
    conv_rhs => rw [← List.zipIdx_map_fst 0 (sourceLines text), List.countP_map]
    rfl
  rw [hzip, sourceLines, List.countP_map]
  exact List.countP_congr fun line _ => by rw [Function.comp_apply, hcode]

end Analyzer

/-- A check that goes step by step fails if one of its steps does. -/
lemma LineCheck.isOk_ofSteps
    (steps : Registry → List Char → Int → List (Except String Diagnostic)) (registry : Registry)
    (line : List Char) (number : Int) :
    (LineCheck.ofSteps steps registry line number).isOk =
      (steps registry line number).all Except.isOk := by
  rw [LineCheck.ofSteps]
  induction steps registry line number with
  | nil => rfl
  | cons step rest ih =>
    rw [List.mapM_cons, List.all_cons, ← ih]
    cases step with
    | error reason => rfl
    | ok found => cases rest.mapM id <;> rfl

/--
A check that fails does not disturb the others. However many of the checks fail, and wherever, the
run of an analysis ends, with the diagnostics that there would be if nothing were found instead of
each failure, and with one warning for each failure and no other record. In particular a check that
always fails, in whichever place among the checks it stands, changes no diagnostic and adds one
warning for each line that is neither blank nor a comment as a whole; the standard checks add none.
-/
theorem Analyzer.analyze_isolated (a : Analyzer) (text : List Char) (disabled : List String) :
    Gives (a.perform text disabled) (a.orNothing.analyze text disabled).value
        ((a.failures text).map fun _ => .warning) ∧
      a.analyze text disabled = ⟨(a.orNothing.analyze text disabled).value,
        (a.failures text).map fun _ => .warning⟩ ∧
      (a.orNothing.analyze text disabled).log = [] ∧
      (∀ (place : Nat) (check : LineCheck), AlwaysFails a.registry check →
        (a.insert place check).analyze text disabled = ⟨(a.analyze text disabled).value,
          List.replicate ((a.failures text).length + (Text.lines text).countP fun line =>
            decide (Text.trim line ≠ [] ∧ (Text.trim line).head? ≠ some '#')) .warning⟩) ∧
      ∀ registry : Registry, ({ registry := registry } : Analyzer).failures text = [] := by
  have hvalue : (a.orNothing.analyze text disabled).value = (a.analyze text disabled).value :=
    value_analyze_congr (value_checkLine_orNothing a)
  refine ⟨?_, ?_, ?_, ?_, fun registry => failures_standard registry text⟩
  · rw [hvalue, ← log_analyze a text disabled]
    exact gives_perform a text disabled
  · rw [hvalue, ← log_analyze a text disabled]
  · rw [log_analyze, failures_orNothing]
    rfl
  · intro place check hfails
    have hinsert : ((a.insert place check).analyze text disabled).value =
        (a.analyze text disabled).value :=
      value_analyze_congr (value_checkLine_insert hfails place)
    rw [← hinsert, ← length_codeLines, ← length_failures_insert hfails place, ← List.map_const',
      ← log_analyze _ text disabled]

/-- A check that finds something on each line and then fails, as the third one of six. -/
theorem Analyzer.analyze_isolated_halfway :
    let a : Analyzer := { registry := .standard }
    let text := ".a = parse_json(.b)\n# c(\n \ndel(.)".toList
    let found : Diagnostic := ⟨.onLine 0 0 1, "found", .hint, "halfway", "vrl", [], []⟩
    let check := LineCheck.ofSteps fun _ _ _ => [.ok found, .error "stopped"]
    AlwaysFails a.registry check ∧ (a.analyze text []).log = [] ∧
      ((a.insert 2 check).analyze text []).value = (a.analyze text []).value ∧
      ((a.insert 2 check).analyze text []).value.map (·.code) =
        ["missing-closing-paren", "missing-error-handling", "del-root-event"] ∧
      ((a.insert 2 check).analyze text []).log = [.warning, .warning] := by
  intro a text found check
  have hfails : AlwaysFails a.registry check := fun line number =>
    LineCheck.isOk_ofSteps (fun _ _ _ => [.ok found, .error "stopped"]) a.registry line number
  obtain ⟨-, hanalyze, -, hinsert, hstandard⟩ := analyze_isolated a text []
  have hnone : a.failures text = [] := hstandard .standard
  have hcodes : (a.analyze text []).value.map (·.code) =
      ["missing-closing-paren", "missing-error-handling", "del-root-event"] := by decide +kernel
  refine ⟨hfails, ?_, ?_, ?_, ?_⟩
  · rw [hanalyze, hnone]
    rfl
  · rw [hinsert 2 check hfails]
  · rw [hinsert 2 check hfails]
    exact hcodes
  · rw [hinsert 2 check hfails, hnone]
    decide +kernel

end Remap
