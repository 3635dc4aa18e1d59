import Remap.Proofs.Check.Fallible
import Remap.Proofs.Delimiter.Report
import Remap.Proofs.Text.Margin

/-!
# Places of diagnostics

Each diagnostic points at a part of one line of the document, and its code says what stands there:
the name that is called, the delimiter that closes nothing, the whole line. The checks compute their
columns in different ways and see the line without its carriage return; `diagnostic_in_place` says
that the columns are right on the line as it is in the document, for every check, and that the
severity and the code that the check writes are those of an entry of the catalog.
-/

namespace Remap

open Text

/-- The part stands on the line from one column up to another one. -/
structure StandsAt (line part : List Char) (start stop : Nat) : Prop where
  ordered : start ≤ stop
  inside : stop ≤ line.length
  slice : (line.take stop).drop start = part

/-- A part stands where the text before it ends. -/
lemma standsAt_of_append {line part : List Char} {start stop : Nat} (before after : List Char)
    (hline : line = before ++ (part ++ after)) (hstart : start = before.length)
    (hstop : stop = start + part.length) : StandsAt line part start stop := by
  subst hline hstop hstart
  refine ⟨Nat.le_add_right _ _, ?_, ?_⟩
  · rw [List.length_append, List.length_append]
    omega
  · rw [← List.append_assoc, ← List.length_append, List.take_left, List.drop_left]

/-- A part of a line is a part of the line with more text after it. -/
lemma StandsAt.append {line part : List Char} {start stop : Nat}
    (h : StandsAt line part start stop) (more : List Char) :
    StandsAt (line ++ more) part start stop where
  ordered := h.ordered
  inside := Nat.le_trans h.inside (by simp)
  slice := by rw [List.take_append_of_le_length h.inside, h.slice]

/-- A part of a line as the checks see it is a part of the line in the document. -/
lemma StandsAt.of_dropReturn {raw part : List Char} {start stop : Nat}
    (h : StandsAt (dropReturn raw) part start stop) : StandsAt raw part start stop := by
  obtain ⟨tail, -, heq⟩ := exists_return raw
  rw [heq]
  exact h.append tail

/-- The line itself stands on it from its start to its end. -/
lemma standsAt_whole (line : List Char) : StandsAt line line 0 line.length :=
  standsAt_of_append [] [] (List.append_nil line).symm rfl (Nat.zero_add _).symm

/-- A character stands in its column. -/
lemma standsAt_singleton {row : List Char} {c : Char} {i : Nat} (h : row[i]? = some c) :
    StandsAt row [c] i (i + 1) := by
  obtain ⟨hi, hget⟩ := List.getElem?_eq_some_iff.1 h
  have hrow : row = row.take i ++ ([c] ++ row.drop (i + 1)) := by
    rw [← hget, List.singleton_append, List.getElem_cons_drop, List.take_append_drop]
  exact standsAt_of_append _ _ hrow (List.length_take_of_le (Nat.le_of_lt hi)).symm rfl

namespace CallSite.WrittenOn

variable {site : CallSite} {line : List Char}

/-- The name of a call site stands on its line. -/
lemma standsAt_name (h : site.WrittenOn line) :
    StandsAt line site.name.toList site.start site.nameStop := by
  obtain ⟨before, name, blanks, after, rfl, -, -, -, hname, hstart, -⟩ := h
  apply standsAt_of_append before (bang site.abort ++ (blanks ++ '(' :: after)) _ hstart
  · rw [String.length_toList, nameStop]
  · rw [hname, String.toList_ofList, List.append_assoc, List.append_assoc]

/-- The bang of a call that aborts stands after the name. -/
lemma standsAt_bang (h : site.WrittenOn line) (habort : site.abort = true) :
    StandsAt line (site.name.toList ++ ['!']) site.start (site.nameStop + 1) := by
  obtain ⟨before, name, blanks, after, rfl, -, -, -, hname, hstart, -⟩ := h
  apply standsAt_of_append before (blanks ++ '(' :: after) _ hstart
  · rw [List.length_append, String.length_toList, nameStop, List.length_singleton, Nat.add_assoc]
  · rw [hname, String.toList_ofList, habort, List.append_assoc (name ++ bang true)]
    rfl

/-- The call lies on its line up to the parenthesis. -/
lemma standsAt_stop (h : site.WrittenOn line) :
    ∃ part, StandsAt line part site.start site.stop := by
  obtain ⟨before, name, blanks, after, rfl, -, -, -, -, hstart, hstop⟩ := h
  refine ⟨name ++ bang site.abort ++ blanks ++ ['('],
    standsAt_of_append before after ?_ hstart ?_⟩
  · rw [List.append_assoc _ ['('], List.singleton_append]
  · rw [hstop, @List.length_append _ _ ['('], List.length_singleton]

end CallSite.WrittenOn

namespace Check

open Analyzer

variable {registry : Registry} {text line raw : List Char} {number : Nat} {d : Diagnostic}

/-- What a diagnostic with a code is about: a part of a line, given with the line and its number. -/
def About (registry : Registry) (text raw : List Char) (number start : Nat) (part : List Char) :
    Code → Prop
  | .unmatchedClosing d => part = [d.closer]
  | .missingClosing _ => part = raw ∧ number + 1 = (lines text).length
  | .missingErrorHandling => ∃ site : CallSite, site.WrittenOn (dropReturn raw) ∧
      site.start = start ∧ part = site.name.toList ∧ isFallible registry site = true
  | .unknownFunction => ∃ site : CallSite, site.WrittenOn (dropReturn raw) ∧
      site.start = start ∧ part = site.name.toList ∧ registry.get? site.name = none
  | .elseSameLine => part = "else".toList
  | .delRootEvent => part = "del(.)".toList
  | .suggestNullCoalescing => ∃ site : CallSite, site.WrittenOn (dropReturn raw) ∧
      site.start = start ∧ part = site.name.toList ++ ['!'] ∧ isFallible registry site = true
  | .regexPerformance => part = dropReturn raw

/--
The diagnostic points at what it is about, on a line of the document, and the catalog has an entry
for its code, with the severity of the diagnostic.
-/
structure PointsAt (registry : Registry) (text : List Char) (d : Diagnostic) (code : Code)
    (number : Nat) (raw part : List Char) (start stop : Nat) : Prop where
  coded : d.code = code.id
  catalogued : ∃ info, CodeInfo.find? d.code = some info ∧ info.severity = d.severity
  line : (lines text)[number]? = some raw
  range : d.range = .onLine number start stop
  stands : StandsAt raw part start stop
  about : About registry text raw number start part code
  related : ∀ r ∈ d.related, ∃ first last : Nat, r.range = .onLine number first last ∧
    first ≤ last ∧ last ≤ raw.length

/-- The diagnostic points at something in the document that it is about. -/
def InPlace (registry : Registry) (text : List Char) (d : Diagnostic) : Prop :=
  ∃ code number raw part start stop, PointsAt registry text d code number raw part start stop

/-- The catalog gives a code a severity. -/
def Catalogued (code : Code) (severity : Severity) : Prop :=
  (CodeInfo.find? code.id).map CodeInfo.severity = some severity

instance (code : Code) (severity : Severity) : Decidable (Catalogued code severity) :=
  inferInstanceAs (Decidable (_ = _))

/-- A diagnostic with a severity and a code that the catalog joins has its entry there. -/
lemma Catalogued.exists_info {code : Code} {severity : Severity} (h : Catalogued code severity)
    (hcode : d.code = code.id) (hseverity : d.severity = severity) :
    ∃ info, CodeInfo.find? d.code = some info ∧ info.severity = d.severity := by
  rw [hcode, hseverity]
  exact Option.map_eq_some_iff.1 h

/-- Stray closers are errors in the catalog too. -/
lemma catalogued_unmatchedClosing (kind : Delimiter) :
    Catalogued (.unmatchedClosing kind) .error := by
  cases kind <;> decide

/-- Missing closers are errors in the catalog too. -/
lemma catalogued_missingClosing (kind : Delimiter) :
    Catalogued (.missingClosing kind) .error := by
  cases kind <;> decide

/-- A diagnostic without related ranges is in place if its range and its severity are right. -/
lemma inPlace_of_catalogued {code : Code} {severity : Severity} {part : List Char}
    {start stop : Nat} (hcatalog : Catalogued code severity) (hcode : d.code = code.id)
    (hseverity : d.severity = severity) (hrange : d.range = .onLine number start stop)
    (hrelated : d.related = []) (hline : (lines text)[number]? = some raw)
    (hstands : StandsAt raw part start stop)
    (habout : About registry text raw number start part code) : InPlace registry text d := by
  refine ⟨code, number, raw, part, start, stop, hcode, hcatalog.exists_info hcode hseverity, hline,
    hrange, hstands, habout, ?_⟩
  rw [hrelated]
  exact List.forall_mem_nil _

/-! The checks of the whole document. -/

/-- The last line has the number of the line feeds. -/
lemma getElem?_lastLine (text : List Char) :
    (lines text)[lineAt text text.length]? = some (lastLine text) := by
  have hne := lines_ne_nil text
  have hlast : lineAt text text.length = (lines text).length - 1 := by
    rw [lineAt, List.take_length, length_lines, Nat.add_sub_cancel]
  rw [hlast, ← List.getLast?_eq_getElem?, lastLine, List.getLastD_eq_getLast?,
    List.getLast?_eq_some_getLast hne, Option.getD_some]

/-- The reports about delimiters are in place. -/
lemma inPlace_delimiters (h : d ∈ Delimiter.check text) : InPlace registry text d := by
  rw [Delimiter.check_eq_reports] at h
  obtain h | h := List.mem_append.1 h
  · obtain ⟨⟨kind, i⟩, hstray, rfl⟩ := List.mem_map.1 h
    obtain ⟨hcloser, -⟩ := Delimiter.mem_strayClosers.1 hstray
    obtain ⟨raw, hline, hget⟩ := getElem?_lines hcloser (Delimiter.closer_ne_feed kind)
    exact inPlace_of_catalogued (catalogued_unmatchedClosing kind) rfl rfl rfl rfl hline
      (standsAt_singleton hget) rfl
  · obtain ⟨kind, -, rfl⟩ := List.mem_map.1 h
    have hlast : lineAt text text.length + 1 = (lines text).length := by
      rw [lineAt, List.take_length, length_lines]
    exact inPlace_of_catalogued (catalogued_missingClosing kind) rfl rfl rfl rfl
      (getElem?_lastLine text) (standsAt_whole _) ⟨rfl, hlast⟩

/-- A line that starts with `else` holds the word after its leading blanks. -/
lemma standsAt_else (h : startsWithElse line = true) :
    StandsAt line "else".toList (leadingBlanks line) (leadingBlanks line + 4) := by
  obtain ⟨tail, -, heq⟩ := exists_margin line
  rw [startsWithElse] at h
  split at h
  next rest htrim =>
    rw [htrim] at heq
    exact standsAt_of_append (line.takeWhile isBlank) (rest ++ tail) heq rfl rfl
  next => cases h

/-- The reports about `else` are in place. -/
lemma inPlace_elsePlacement (h : d ∈ elsePlacement (sourceLines text)) :
    InPlace registry text d := by
  obtain ⟨number, line, hline, helse, rfl⟩ := exists_of_mem_elsePlacement h
  rw [sourceLines, List.getElem?_map, Option.map_eq_some_iff] at hline
  obtain ⟨raw, hraw, rfl⟩ := hline
  have hcatalog : Catalogued .elseSameLine .error := by decide
  exact inPlace_of_catalogued hcatalog rfl rfl rfl rfl hraw (standsAt_else helse).of_dropReturn rfl

/-! The checks of a line that holds code. -/

/-- The reports about unhandled calls are in place, and so are their related ranges. -/
lemma inPlace_fallibleCalls (hline : CodeLine text number line)
    (h : d ∈ fallibleCalls registry line number) : InPlace registry text d := by
  obtain ⟨raw, hraw, rfl, -⟩ := hline
  obtain ⟨site, hsite, rfl⟩ := mem_fallibleCalls.1 h
  have hwritten := hsite.written
  obtain ⟨part, hstop⟩ := hwritten.standsAt_stop
  have hcatalog : Catalogued .missingErrorHandling .error := by decide
  refine ⟨.missingErrorHandling, number, raw, site.name.toList, site.start, site.nameStop, rfl,
    hcatalog.exists_info rfl rfl, hraw, rfl, hwritten.standsAt_name.of_dropReturn,
    ⟨site, hwritten, rfl, rfl, isFallible_iff.2 hsite.fallible⟩, ?_⟩
  intro r hr
  rw [List.mem_singleton.1 hr]
  exact ⟨site.start, site.stop, rfl, hstop.ordered, hstop.of_dropReturn.inside⟩

/-- The reports about unknown functions are in place. -/
lemma inPlace_unknownFunctions (hline : CodeLine text number line)
    (h : d ∈ unknownFunctions registry line number) : InPlace registry text d := by
  obtain ⟨raw, hraw, rfl, -⟩ := hline
  obtain ⟨site, hwritten, hnone, -, rfl⟩ := mem_unknownFunctions.1 h
  have hcatalog : Catalogued .unknownFunction .error := by decide
  exact inPlace_of_catalogued hcatalog rfl rfl rfl rfl hraw hwritten.standsAt_name.of_dropReturn
    ⟨site, hwritten, rfl, rfl, hnone⟩

/-- The reports about deletions of the event are in place. -/
lemma inPlace_deletesRoot (hline : CodeLine text number line)
    (h : d ∈ deletesRoot registry line number) : InPlace registry text d := by
  obtain ⟨raw, hraw, rfl, -⟩ := hline
  obtain ⟨column, hcolumn, rfl⟩ := mem_deletesRoot.1 h
  obtain ⟨before, after, heq, hbefore⟩ := exists_of_offsetFrom hcolumn
  rw [Nat.zero_add] at hbefore
  have hcatalog : Catalogued .delRootEvent .warning := by decide
  exact inPlace_of_catalogued hcatalog rfl rfl rfl rfl hraw
    (standsAt_of_append before after heq hbefore rfl).of_dropReturn rfl

/-- The reports about calls that abort are in place. -/
lemma inPlace_abortsWithoutFallback (hline : CodeLine text number line)
    (h : d ∈ abortsWithoutFallback registry line number) : InPlace registry text d := by
  obtain ⟨raw, hraw, rfl, -⟩ := hline
  obtain ⟨-, site, hfind, rfl⟩ := mem_abortsWithoutFallback.1 h
  have hsite := List.find?_some hfind
  rw [Bool.and_eq_true] at hsite
  have hwritten := CallSite.mem_ofLine.1 (List.mem_of_find?_eq_some hfind)
  have hcatalog : Catalogued .suggestNullCoalescing .hint := by decide
  exact inPlace_of_catalogued hcatalog rfl rfl rfl rfl hraw
    (hwritten.standsAt_bang hsite.1).of_dropReturn ⟨site, hwritten, rfl, rfl, hsite.2⟩

/-- The reports about slow patterns are in place. -/
lemma inPlace_matchesUnbounded (hline : CodeLine text number line)
    (h : d ∈ matchesUnbounded registry line number) : InPlace registry text d := by
  obtain ⟨raw, hraw, rfl, -⟩ := hline
  obtain ⟨-, rfl⟩ := mem_matchesUnbounded.1 h
  have hcatalog : Catalogued .regexPerformance .information := by decide
  exact inPlace_of_catalogued hcatalog rfl rfl rfl rfl hraw (standsAt_whole _).of_dropReturn rfl

/-- What is found on a line that holds code is in place. -/
lemma inPlace_findings (hline : CodeLine text number line)
    (h : d ∈ findings registry line number) : InPlace registry text d := by
  simp only [findings, List.mem_append] at h
  obtain (((h | h) | h) | h) | h := h
  · exact inPlace_fallibleCalls hline h
  · exact inPlace_unknownFunctions hline h
  · exact inPlace_deletesRoot hline h
  · exact inPlace_abortsWithoutFallback hline h
  · exact inPlace_matchesUnbounded hline h

/--
Every diagnostic about a document points at a part of one of its lines, from a column up to another
one that is not before it nor past the end of the line, and this part is what the code of the
diagnostic is about. Its related ranges lie on the same line. The catalog, which no check looks
into, has an entry for its code, and the severity there is the one that the check wrote.
-/
theorem diagnostic_in_place (registry : Registry) (text : List Char) (disabled : List String)
    (d : Diagnostic) (h : d ∈ ({ registry := registry } : Analyzer).diagnostics text disabled) :
    ∃ code number raw part start stop,
      PointsAt registry text d code number raw part start stop := by
  rw [diagnostics_standard] at h
  obtain ⟨h, -⟩ := List.mem_filter.1 h
  obtain h | h := List.mem_append.1 h
  · obtain h | h := List.mem_append.1 h
    · exact inPlace_delimiters h
    · exact inPlace_elsePlacement h
  · obtain ⟨⟨line, number⟩, hline, h⟩ := List.mem_flatMap.1 h
    exact inPlace_findings (mem_codeLines.1 hline) h

/-- A call of an unknown function, after a blank and on a line with a carriage return. -/
theorem unknown_call_in_place :
    let d := unknown .empty 1 ⟨"pars", false, 1, 6⟩
    let text := ".a = 1\n pars(.x)\r".toList
    d ∈ ({ registry := .empty } : Analyzer).diagnostics text [] ∧
      ∃ code number raw part start stop,
        PointsAt .empty text d code number raw part start stop := by
  have hmem : unknown .empty 1 ⟨"pars", false, 1, 6⟩ ∈
      ({ registry := .empty } : Analyzer).diagnostics ".a = 1\n pars(.x)\r".toList [] := by
    decide +kernel
  exact ⟨hmem, diagnostic_in_place _ _ _ _ hmem⟩

end Check

end Remap
