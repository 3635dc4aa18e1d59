import Remap.Proofs.Diagnostic.Table
import Remap.Proofs.Suggestion
import Remap.Proofs.Tally

/-!
# Reports

A report is a table under a line that counts the diagnostics. As no row holds a line feed, each
diagnostic has one line of the report, and it is read back from this line; the counts are those of
the severities in the order in which they first appear. The diagnostics of an analysis can all stand
in a table, if the names of the functions are on one line.
-/

namespace Remap

open Text

variable {diagnostics : List Diagnostic} {title : String}

/-! Texts on one line. -/

/-- No line feed stands in the text. -/
def OnOneLine (text : String) : Prop :=
  '\n' ∉ text.toList

instance (text : String) : Decidable (OnOneLine text) :=
  inferInstanceAs (Decidable ('\n' ∉ text.toList))

/-- Texts on one line put together are on one line. -/
lemma OnOneLine.append {a b : String} (ha : OnOneLine a) (hb : OnOneLine b) :
    OnOneLine (a ++ b) := by
  rw [OnOneLine, String.toList_append, List.mem_append, not_or]
  exact ⟨ha, hb⟩

/-- Texts on one line with a separator on one line between them are on one line. -/
lemma OnOneLine.intercalate {sep : String} (hsep : OnOneLine sep) {parts : List String}
    (h : ∀ part ∈ parts, OnOneLine part) : OnOneLine (sep.intercalate parts) := by
  rw [OnOneLine, String.toList_intercalate]
  induction parts with
  | nil => exact List.not_mem_nil
  | cons part parts ih =>
    rw [List.forall_mem_cons] at h
    cases parts with
    | nil =>
      rw [List.map_singleton, List.intercalate_singleton]
      exact h.1
    | cons next parts =>
      rw [List.map_cons, List.map_cons, List.intercalate_cons_cons, List.mem_append,
        List.mem_append, not_or, not_or]
      exact ⟨⟨h.1, hsep⟩, ih h.2⟩

/-- An integer is written on one line. -/
lemma onOneLine_toString_int (n : Int) : OnOneLine (toString n) :=
  notMem_toString rfl (by decide) n

/-- A natural number is written on one line. -/
lemma onOneLine_toString_nat (n : Nat) : OnOneLine (toString n) := by
  intro hmem
  rw [Nat.toString_eq_ofList_toDigits, String.toList_ofList] at hmem
  exact absurd (isDigit_of_mem_toDigits hmem) (by decide)

/-- Backslashes before bars add no line feed. -/
lemma onOneLine_ofList_escapeBars {text : List Char} (h : '\n' ∉ text) :
    OnOneLine (String.ofList (escapeBars text)) := by
  rw [OnOneLine, String.toList_ofList, escapeBars, List.mem_flatMap]
  rintro ⟨c, hc, hmem⟩
  split at hmem
  case isTrue => exact absurd hmem (by decide)
  case isFalse =>
    rw [List.mem_singleton] at hmem
    exact h (hmem ▸ hc)

/-- The label of a severity is on one line. -/
lemma onOneLine_label (severity : Severity) : OnOneLine severity.label := by
  cases severity <;> decide

/-- The noun for a severity is on one line. -/
lemma onOneLine_noun (severity : Severity) : OnOneLine severity.noun := by
  cases severity <;> decide

/-- The row of a diagnostic that fits is on one line. -/
lemma Diagnostic.Fits.onOneLine_row {d : Diagnostic} (h : d.Fits) : OnOneLine d.row := by
  have hplace : OnOneLine d.place :=
    ((onOneLine_toString_int _).append (by decide)).append (onOneLine_toString_int _)
  have hcode : OnOneLine d.code := fun hmem => (h.code _ hmem).2.2 rfl
  have hmessage := onOneLine_ofList_escapeBars h.message
  have hfirst : OnOneLine ("| " ++ d.place ++ " | " ++ d.severity.label) :=
    (((show OnOneLine "| " by decide).append hplace).append (by decide)).append (onOneLine_label _)
  exact ((((hfirst.append (by decide)).append hcode).append (by decide)).append hmessage).append
    (by decide)

/-! The lines of a report. -/

/-- The line above the table: how many diagnostics there are, and how many of each severity. -/
def heading (diagnostics : List Diagnostic) (title : String) : String :=
  "**" ++ toString diagnostics.length ++ " problem(s) in " ++ title ++ "** (" ++
    (Summary.of diagnostics).severities ++ "):"

/-- The heading is on one line if the title is. -/
lemma onOneLine_heading (diagnostics : List Diagnostic) (h : OnOneLine title) :
    OnOneLine (heading diagnostics title) := by
  have hcounts : OnOneLine (Summary.of diagnostics).severities := by
    apply OnOneLine.intercalate (by decide)
    intro part hpart
    obtain ⟨p, -, rfl⟩ := List.mem_map.1 hpart
    exact ((onOneLine_toString_nat _).append (by decide)).append (onOneLine_noun _)
  have hstart : OnOneLine ("**" ++ toString diagnostics.length ++ " problem(s) in ") :=
    ((show OnOneLine "**" by decide).append (onOneLine_toString_nat _)).append (by decide)
  exact (((hstart.append h).append (by decide)).append hcounts).append (by decide)

/-- The two lines of the head of the table. -/
def headLines : List (List Char) :=
  ["| Position | Severity | Code | Message |".toList,
    "|----------|----------|------|---------|".toList]

/-- One more line stands behind a line feed. -/
lemma unlines_concat {ls : List (List Char)} (hne : ls ≠ []) (line : List Char) :
    unlines (ls ++ [line]) = unlines ls ++ '\n' :: line := by
  induction ls with
  | nil => exact absurd rfl hne
  | cons first rest ih =>
    cases rest with
    | nil => simp [unlines]
    | cons next rest =>
      have hrest := ih (List.cons_ne_nil next rest)
      simp only [List.cons_append] at hrest ⊢
      rw [unlines_cons_cons, unlines_cons_cons, hrest, List.append_assoc, List.cons_append]

/-- The lines of a report: the heading, the head of the table, and the rows. -/
def reportLines (diagnostics : List Diagnostic) (title : String) : List (List Char) :=
  (heading diagnostics title).toList :: [] :: headLines ++
    diagnostics.map (·.row.toList) ++ [[]]

/-- The head of the table is its two lines and a line feed. -/
lemma toList_tableHead : tableHead.toList = unlines headLines ++ ['\n'] := by
  decide

/-- The report is made of its lines. -/
lemma toList_report (hne : diagnostics ≠ []) (title : String) :
    (report diagnostics title).toList = unlines (reportLines diagnostics title) := by
  have hrows : ("\n".intercalate (diagnostics.map (·.row))).toList =
      unlines (diagnostics.map (·.row.toList)) := by
    rw [String.toList_intercalate, List.map_map]
    rfl
  have hclose : "):\n\n".toList = "):".toList ++ ['\n', '\n'] := by decide
  have hfeed : "\n".toList = ['\n'] := by decide
  have hsingle : ∀ line : List Char, unlines [line] = line := fun _ => List.intercalate_singleton
  have hempty : diagnostics.isEmpty = false := by rwa [List.isEmpty_eq_false_iff]
  rw [report, hempty, if_neg Bool.false_ne_true, reportLines, unlines_concat (by simp)]
  obtain ⟨d, rest, rfl⟩ := List.exists_cons_of_ne_nil hne
  rw [List.map_cons, List.map_cons] at hrows
  simp only [String.toList_append, hrows, hclose, hfeed, toList_tableHead, headLines, heading,
    hsingle, List.cons_append, List.nil_append, List.map_cons, unlines_cons_cons,
    List.append_assoc]

/-- The lines of a report are those that it is made of. -/
lemma lines_report (hne : diagnostics ≠ []) (hfits : ∀ d ∈ diagnostics, d.Fits)
    (htitle : OnOneLine title) :
    lines (report diagnostics title).toList = reportLines diagnostics title := by
  rw [toList_report hne]
  apply lines_unlines (by simp [reportLines])
  intro line hline
  simp only [reportLines, headLines, List.cons_append, List.nil_append, List.mem_cons,
    List.mem_append, List.not_mem_nil, or_false] at hline
  obtain rfl | rfl | rfl | rfl | hrow | rfl := hline
  · exact onOneLine_heading diagnostics htitle
  · exact List.not_mem_nil
  · decide
  · decide
  · obtain ⟨d, hd, rfl⟩ := List.mem_map.1 hrow
    exact (hfits d hd).onOneLine_row
  · exact List.not_mem_nil

/-- The report can be written exactly if the numbers of the positions can. -/
lemma writeReport_eq_ok_iff {written : String} :
    writeReport diagnostics title = .ok written ↔
      (∀ d ∈ diagnostics, d.hasPlace = true) ∧ report diagnostics title = written := by
  rw [writeReport, ← List.all_eq_true]
  split
  case isTrue h => simp [h]
  case isFalse h => simp [h]

/-! What an analysis finds can stand in a table. -/

/-- The identifier of a code can stand between backticks in a cell. -/
lemma Code.fits_id (code : Code) :
    (code.id.toList.all fun c => c != '|' && c != '`' && c != '\n') = true := by
  rcases code with ⟨⟨⟩⟩ | ⟨⟨⟩⟩ | _ | _ | _ | _ | _ | _ <;> decide

/-- A diagnostic with a known code and a message on one line can stand in a table. -/
lemma fits_of_code (code : Code) {d : Diagnostic} (hcode : d.code = code.id)
    (hmessage : OnOneLine d.message) : d.Fits := by
  rw [Diagnostic.fits_iff, hcode]
  exact ⟨code.fits_id, hmessage⟩

variable {registry : Registry} {line text : List Char} {number : Int} {site : CallSite}
  {d : Diagnostic}

namespace Delimiter

/-- The diagnostic about a stray closer fits. -/
lemma fits_stray (stray : Stray) : stray.diagnostic.Fits := by
  apply fits_of_code (.unmatchedClosing stray.kind) rfl
  dsimp only [Stray.diagnostic]
  cases stray.kind <;> decide

/-- The diagnostic about missing closers fits. -/
lemma fits_missing {scan : Scan} {kind : Delimiter} (h : scan.missing? kind = some d) :
    d.Fits := by
  simp only [Scan.missing?, Option.ite_none_left_eq_some, Option.some.injEq] at h
  obtain ⟨-, rfl⟩ := h
  have hkind : OnOneLine (kind.noun (scan.depths.get kind)) ∧ OnOneLine kind.closer.toString := by
    cases kind <;> simp only [noun] <;> split <;> decide
  apply fits_of_code (.missingClosing kind) rfl
  have hcount : OnOneLine ("Missing " ++ toString (scan.depths.get kind) ++ " closing ") :=
    ((show OnOneLine "Missing " by decide).append (onOneLine_toString_nat _)).append (by decide)
  exact (((hcount.append hkind.1).append (by decide)).append hkind.2).append (by decide)

/-- The diagnostics about delimiters fit. -/
lemma fits_of_mem_check (h : d ∈ check text) : d.Fits := by
  obtain hstray | hmissing := List.mem_append.1 h
  · obtain ⟨stray, -, rfl⟩ := List.mem_map.1 hstray
    exact fits_stray stray
  · obtain ⟨kind, -, hkind⟩ := List.mem_filterMap.1 hmissing
    exact fits_missing hkind

end Delimiter

namespace Check

/-- The diagnostics about `else` fit. -/
lemma fits_of_mem_elsePlacement {lines : List (List Char)} (h : d ∈ elsePlacement lines) :
    d.Fits := by
  obtain ⟨number, line, -, -, rfl⟩ := exists_of_mem_elsePlacement h
  apply fits_of_code .elseSameLine rfl
  dsimp only [misplacedElse]
  decide

/-- The name of a call is on one line. -/
lemma onOneLine_name (h : site ∈ CallSite.ofLine line) : OnOneLine site.name := by
  obtain ⟨before, name, blanks, after, -, -, hname, -, heq, -⟩ := CallSite.mem_ofLine.1 h
  rw [heq, OnOneLine, String.toList_ofList]
  exact fun hmem => absurd (hname.2 _ hmem) (by decide)

/-- The diagnostics about unhandled calls fit. -/
lemma fits_of_mem_fallibleCalls (h : d ∈ fallibleCalls registry line number) : d.Fits := by
  obtain ⟨site, hsite, rfl⟩ := List.mem_map.1 h
  have hname := onOneLine_name (List.mem_of_mem_filter hsite)
  exact fits_of_code .missingErrorHandling rfl
    ((((((((show OnOneLine "Fallible function '" by decide).append hname).append
      (show OnOneLine "' requires error handling: use '" by decide)).append hname).append
      (show OnOneLine "!(...)' to abort on error, add a '?? <default>' fallback, "
        by decide)).append
      (show OnOneLine "or capture the error with 'result, err = " by decide)).append hname).append
      (show OnOneLine "(...)'" by decide))

/-- The diagnostics about unknown functions fit, if the names that they suggest are on one line. -/
lemma fits_of_mem_unknownFunctions (hnames : ∀ name ∈ registry.names, OnOneLine name)
    (h : d ∈ unknownFunctions registry line number) : d.Fits := by
  obtain ⟨site, hsite, rfl⟩ := List.mem_map.1 h
  have hname := onOneLine_name (List.mem_of_mem_filter hsite)
  have hsuggestions : ∀ name ∈ Suggestion.similar site.name registry.names, OnOneLine name :=
    fun name hmem => hnames name (Suggestion.mem_candidates_of_mem_suggest 3 hmem).1
  have hquestion : OnOneLine (if (Suggestion.similar site.name registry.names).isEmpty then ""
      else ". Did you mean: " ++
        ", ".intercalate (Suggestion.similar site.name registry.names) ++ "?") := by
    split
    case isTrue => decide
    case isFalse =>
      exact ((show OnOneLine ". Did you mean: " by decide).append
        (.intercalate (by decide) hsuggestions)).append (by decide)
  exact fits_of_code .unknownFunction rfl
    ((((show OnOneLine "Unknown function '" by decide).append hname).append
      (show OnOneLine "'" by decide)).append hquestion)

/-- The diagnostics about deletions of the event fit. -/
lemma fits_of_mem_deletesRoot (h : d ∈ deletesRoot registry line number) : d.Fits := by
  obtain ⟨column, -, rfl⟩ := mem_deletesRoot.1 h
  apply fits_of_code .delRootEvent rfl
  dsimp only [rootDeleted]
  decide

/-- The diagnostics about calls that abort fit. -/
lemma fits_of_mem_abortsWithoutFallback (h : d ∈ abortsWithoutFallback registry line number) :
    d.Fits := by
  obtain ⟨-, site, -, rfl⟩ := mem_abortsWithoutFallback.1 h
  apply fits_of_code .suggestNullCoalescing rfl
  dsimp only [aborting]
  decide

/-- The diagnostics about slow patterns fit. -/
lemma fits_of_mem_matchesUnbounded (h : d ∈ matchesUnbounded registry line number) : d.Fits := by
  obtain ⟨-, rfl⟩ := mem_matchesUnbounded.1 h
  apply fits_of_code .regexPerformance rfl
  dsimp only [slowPattern]
  decide

end Check

/-- What an analysis with the standard checks finds can stand in a table. -/
lemma Analyzer.fits_of_mem_diagnostics {disabled : List String}
    (hnames : ∀ name ∈ registry.names, OnOneLine name)
    (h : d ∈ ({ registry := registry } : Analyzer).diagnostics text disabled) : d.Fits := by
  rw [diagnostics_standard] at h
  obtain hfirst | hline := List.mem_append.1 (List.mem_of_mem_filter h)
  · obtain hdelimiter | helse := List.mem_append.1 hfirst
    · exact Delimiter.fits_of_mem_check hdelimiter
    · exact Check.fits_of_mem_elsePlacement helse
  · obtain ⟨place, -, hd⟩ := List.mem_flatMap.1 hline
    simp only [findings, List.mem_append] at hd
    obtain (((hd | hd) | hd) | hd) | hd := hd
    · exact Check.fits_of_mem_fallibleCalls hd
    · exact Check.fits_of_mem_unknownFunctions hnames hd
    · exact Check.fits_of_mem_deletesRoot hd
    · exact Check.fits_of_mem_abortsWithoutFallback hd
    · exact Check.fits_of_mem_matchesUnbounded hd

/--
A report is a faithful table. If the codes and messages of the diagnostics can stand in a table, the
title is on one line and no number of a position is too long to be written, then the lines of the
report are a heading, an empty line, the two lines of the head of the table, one line for each
diagnostic in order, and nothing after the last line feed. Each of these lines has four cells
between its outer bars, and the start of the diagnostic counting from one, the name of its severity,
its code and its message are read back from it. The heading states the number of diagnostics and the
number of each severity in the order in which they first appear, which add up to it, as do the
numbers of the codes. What an analysis finds can stand in a table if the names of the functions are
on one line, and the report can be written exactly if the numbers of the positions can.
-/
theorem report_faithful (diagnostics : List Diagnostic) (title : String) :
    (diagnostics ≠ [] → (∀ d ∈ diagnostics, d.Fits) → '\n' ∉ title.toList →
      (∀ d ∈ diagnostics, d.hasPlace = true) →
      ∃ written rows, writeReport diagnostics title = .ok written ∧
        lines written.toList =
          (heading diagnostics title).toList :: [] :: headLines ++ rows ++ [[]] ∧
        (∀ row ∈ rows, ∃ place severity code message,
          cells row = [[], place, severity, code, message, []]) ∧
        rows.map Shown.read? = diagnostics.map fun d => some d.shown) ∧
      IsTally (diagnostics.map (·.severity)) (Summary.of diagnostics).bySeverity ∧
      IsTally (diagnostics.map (·.code)) (Summary.of diagnostics).byCode ∧
      (∀ (registry : Registry) (text : List Char) (disabled : List String),
        (∀ name ∈ registry.names, '\n' ∉ name.toList) →
          ∀ d ∈ ({ registry := registry } : Analyzer).diagnostics text disabled, d.Fits) ∧
      ((∃ written, writeReport diagnostics title = .ok written) ↔
        ∀ d ∈ diagnostics, d.hasPlace = true) := by
  refine ⟨?_, isTally_tally _, isTally_tally _, ?_, ?_⟩
  · intro hne hfits htitle hplaces
    have hlines := lines_report hne hfits htitle
    refine ⟨report diagnostics title, diagnostics.map fun d : Diagnostic => d.row.toList,
      writeReport_eq_ok_iff.2 ⟨hplaces, rfl⟩, hlines, ?_, ?_⟩
    · intro row hrow
      obtain ⟨d, hd, rfl⟩ := List.mem_map.1 hrow
      exact ⟨_, _, _, _, cells_row (hfits d hd)⟩
    · rw [List.map_map]
      apply List.map_congr_left
      intro d hd
      rw [Function.comp_apply, read?_row (hfits d hd)]
  · exact fun registry text disabled hnames d => Analyzer.fits_of_mem_diagnostics hnames
  · simp only [writeReport_eq_ok_iff, exists_and_left, exists_eq', and_true]

/-- Messages with bars, with a backslash before a bar and at the end, and a position before 0. -/
theorem report_faithful_bars :
    let diagnostics : List Diagnostic :=
      [{ range := .onLine 0 4 5, message := "a|b\\|c", severity := .hint, code := "x-1" },
        { range := .onLine (-7) 0 1, message := "|\\", severity := .error, code := "x-2" },
        { range := .onLine 2 8 9, message := "`", severity := .hint, code := "x-1" }]
    (∀ d ∈ diagnostics, d.Fits) ∧ (∀ d ∈ diagnostics, d.hasPlace = true) ∧
      (∃ written rows, writeReport diagnostics "a.vrl" = .ok written ∧
        lines written.toList =
          "**3 problem(s) in a.vrl** (2 hint, 1 error):".toList :: [] :: headLines ++ rows ++ [[]] ∧
        rows.map Shown.read? = [some ⟨1, 5, "Hint", "x-1", "a|b\\|c"⟩,
          some ⟨-6, 1, "Error", "x-2", "|\\"⟩, some ⟨3, 9, "Hint", "x-1", "`"⟩]) ∧
      ∀ d ∈ ({ registry := .empty } : Analyzer).diagnostics "f(|)".toList [], d.Fits := by
  intro diagnostics
  obtain ⟨htable, -, -, hanalysis, -⟩ := report_faithful diagnostics "a.vrl"
  have hfits : ∀ d ∈ diagnostics, d.Fits := by decide
  have hplaces : ∀ d ∈ diagnostics, d.hasPlace = true := by decide +kernel
  obtain ⟨written, rows, hwritten, hlines, -, hrows⟩ :=
    htable (List.cons_ne_nil _ _) hfits (by decide) hplaces
  have hheading : heading diagnostics "a.vrl" = "**3 problem(s) in a.vrl** (2 hint, 1 error):" := by
    decide +kernel
  rw [hheading] at hlines
  exact ⟨hfits, hplaces, ⟨written, rows, hwritten, hlines, hrows⟩,
    hanalysis .empty "f(|)".toList [] (List.forall_mem_nil _)⟩

/--
The report about a diagnostic in the last line of which the number can be read is not written, as
the number counting from one is too long.
-/
theorem report_of_last_line :
    let d : Diagnostic :=
      { range := .onLine (Nat.pow 10 4300 - 1 : Nat) 0 1, message := "m", severity := .error,
        code := "c" }
    d.Fits ∧ '\n' ∉ "document".toList ∧
      writeReport [d] "document" = .error (tooLongMessage none) := by
  intro d
  have hplace : d.hasPlace = false := by decide +kernel
  refine ⟨by decide, by decide, ?_⟩
  rw [writeReport, List.all_cons, hplace]
  rfl

end Remap
