import Mathlib.Data.List.InsertIdx
import Remap.Proofs.Check.Split

/-!
# Remedies for unhandled calls

The diagnostic about an unhandled call advises to put a bang after the name, to end the line with a
fallback, or to bind the result and an error at its start. `remedies_work` says that each of the
three edits does away with the diagnostic, that no new one about an unhandled call comes with it,
and that the diagnostics about unknown functions only move with the text.
-/

namespace Remap

open Text

/-! Columns after an insertion. -/

/-- The position after some characters have come into its line at a column. -/
def Position.makeRoom (column : Int) (count : Nat) (p : Position) : Position :=
  if column ≤ p.character then { p with character := p.character + count } else p

/-- The range after some characters have come into its line at a column. -/
def Range.makeRoom (column : Int) (count : Nat) (r : Range) : Range :=
  ⟨r.start.makeRoom column count, r.stop.makeRoom column count⟩

/-- The diagnostic after some characters have come into its line, with all its ranges. -/
def Diagnostic.makeRoom (column : Int) (count : Nat) (d : Diagnostic) : Diagnostic :=
  { d with
    range := d.range.makeRoom column count
    related := d.related.map fun r => { r with range := r.range.makeRoom column count } }

namespace Range

variable {number : Int} {column start stop : Nat} (count : Nat)

/-- A range before the column stays where it is. -/
lemma makeRoom_of_lt (hstart : start < column) (hstop : stop < column) :
    (onLine number start stop).makeRoom column count = onLine number start stop := by
  have hstart' : ¬ (column : Int) ≤ start := by omega
  have hstop' : ¬ (column : Int) ≤ stop := by omega
  simp only [makeRoom, onLine, Position.makeRoom, hstart', hstop', if_false]

/-- A range from the column on moves by the count. -/
lemma makeRoom_of_le (hstart : column ≤ start) (hstop : column ≤ stop) :
    (onLine number start stop).makeRoom column count =
      onLine number (start + count : Nat) (stop + count : Nat) := by
  have hstart' : (column : Int) ≤ start := by omega
  have hstop' : (column : Int) ≤ stop := by omega
  simp only [makeRoom, onLine, Position.makeRoom, hstart', hstop', if_true, Int.natCast_add]

end Range

/-- The end of the name moves with the call site. -/
lemma CallSite.nameStop_shift (site : CallSite) (k : Nat) :
    (site.shift k).nameStop = site.nameStop + k :=
  Nat.add_right_comm _ _ _

namespace Check

/-- Reports about call sites move with the text that the sites stand in. -/
structure Moves (report : CallSite → Diagnostic) : Prop where
  before : ∀ {site : CallSite} {column : Nat} (count : Nat), site.start < column →
    site.nameStop < column → site.stop < column → (report site).makeRoom column count = report site
  after : ∀ {site : CallSite} {column : Nat} (count : Nat), column ≤ site.start →
    column ≤ site.nameStop → column ≤ site.stop →
      (report site).makeRoom column count = report (site.shift count)

/-- The report about an unhandled call moves with it. -/
lemma moves_unhandled (number : Int) : Moves (unhandled number) where
  before count hstart hname hstop := by
    simp only [Diagnostic.makeRoom, unhandled, List.map_cons, List.map_nil,
      Range.makeRoom_of_lt count hstart hname, Range.makeRoom_of_lt count hstart hstop]
  after count hstart hname hstop := by
    simp only [Diagnostic.makeRoom, unhandled, List.map_cons, List.map_nil,
      Range.makeRoom_of_le count hstart hname, Range.makeRoom_of_le count hstart hstop,
      CallSite.nameStop_shift]
    rfl

/-- The report about an unknown call moves with it. -/
lemma moves_unknown (registry : Registry) (number : Int) : Moves (unknown registry number) where
  before count hstart hname _ := by
    simp only [Diagnostic.makeRoom, unknown, List.map_nil,
      Range.makeRoom_of_lt count hstart hname]
  after count hstart hname _ := by
    simp only [Diagnostic.makeRoom, unknown, List.map_nil,
      Range.makeRoom_of_le count hstart hname, CallSite.nameStop_shift]
    rfl

variable {report : CallSite → Diagnostic} {before line : List Char} {fronts : List CallSite}

/-- Reports about calls after an insertion move on. -/
lemma Moves.map_after (hreport : Moves report) {column : Nat} (count : Nat) {sites : List CallSite}
    (h : ∀ site ∈ sites, column ≤ site.start ∧ column ≤ site.stop) :
    (sites.map report).map (Diagnostic.makeRoom column count) =
      (sites.map (CallSite.shift count)).map report := by
  rw [List.map_map, List.map_map]
  apply List.map_congr_left
  intro site hsite
  obtain ⟨hstart, hstop⟩ := h site hsite
  exact hreport.after count hstart (hstart.trans (Nat.le_add_right _ _)) hstop

/-- Reports about calls from the column on move by the count. -/
lemma Moves.map_shift (hreport : Moves report) {column k : Nat} (count : Nat) (hle : column ≤ k)
    (sites : List CallSite) :
    ((sites.map (CallSite.shift k)).map report).map (Diagnostic.makeRoom column count) =
      (sites.map (CallSite.shift (k + count))).map report := by
  have hshift : CallSite.shift count ∘ CallSite.shift k = CallSite.shift (k + count) := by
    funext site
    simp only [Function.comp_apply, CallSite.shift, Nat.add_assoc]
  rw [hreport.map_after count, ← hshift, ← List.map_map]
  intro site hsite
  obtain ⟨moved, -, rfl⟩ := List.mem_map.1 hsite
  exact ⟨hle.trans (Nat.le_add_left _ _), hle.trans (Nat.le_add_left _ _)⟩

/-- Reports about calls in front of an insertion stay. -/
lemma Moves.map_before (hreport : Moves report) {column : Nat} (count : Nat)
    (hlt : before.length < column) (hfronts : ∀ site ∈ fronts, site.WrittenOn before) :
    (fronts.map report).map (Diagnostic.makeRoom column count) = fronts.map report := by
  rw [List.map_map]
  apply List.map_congr_left
  intro site hsite
  have hwritten := hfronts site hsite
  have hstop := hwritten.stop_le_length.trans_lt hlt
  exact hreport.before count (hwritten.start_lt_stop.trans hstop)
    (hwritten.nameStop_lt_stop.trans hstop) hstop

/-! The three edits. -/

/-- The line with a bang at the end of the range of a diagnostic. -/
def addBang (d : Diagnostic) (line : List Char) : List Char :=
  line.insertIdx d.range.stop.character.toNat '!'

/-- The line with a fallback at its end. -/
def addFallback (fallback line : List Char) : List Char :=
  line ++ (" ?? ".toList ++ fallback)

/-- The line with a binding of the result and the error at its start. -/
def addBinding (line : List Char) : List Char :=
  "result, err = ".toList ++ line

variable {registry : Registry} {number : Int} {name blanks after : List Char}

/-! A bang after the name. -/

/-- The report about an unhandled call ends with the name. -/
lemma stop_unhandled {start : Nat} :
    (unhandled number (CallSite.placed name false blanks start)).range.stop.character =
      (start + name.length : Nat) := by
  rw [← @String.length_ofList name]
  rfl

/-- The bang is put behind the name of the call. -/
lemma addBang_around :
    addBang (unhandled number (CallSite.placed name false blanks before.length))
        (before ++ (CallSite.spelling name false blanks ++ after)) =
      before ++ (CallSite.spelling name true blanks ++ after) := by
  have hline : before ++ (CallSite.spelling name false blanks ++ after) =
      (before ++ name) ++ (blanks ++ '(' :: after) := by
    simp [CallSite.spelling, CallSite.bang]
  rw [addBang, stop_unhandled, Int.toNat_natCast, ← List.length_append, hline]
  refine (List.modifyTailIdx_add (List.cons '!') 0 (before ++ name) _).trans ?_
  simp [CallSite.spelling, CallSite.bang]

/-- The diagnostics about other calls are not the one about a call. -/
lemma filter_ne_unhandled {site : CallSite} {sites : List CallSite}
    (h : ∀ other ∈ sites, other.start ≠ site.start) :
    (sites.map (unhandled number)).filter (· ≠ unhandled number site) =
      sites.map (unhandled number) := by
  rw [List.filter_eq_self]
  intro d hd
  obtain ⟨other, hother, rfl⟩ := List.mem_map.1 hd
  refine decide_eq_true fun heq => h other hother ?_
  exact Int.ofNat_inj.1 (congrArg (fun d : Diagnostic => d.range.start.character) heq)

/-- The diagnostic about a call is left out. -/
lemma filter_ne_unhandled_self (site : CallSite) (p : CallSite → Bool) :
    (([site].filter p).map (unhandled number)).filter (· ≠ unhandled number site) = [] := by
  rw [List.filter_eq_nil_iff]
  intro d hd
  obtain ⟨other, hother, rfl⟩ := List.mem_map.1 hd
  rw [List.mem_singleton.1 (List.mem_filter.1 hother).1]
  simp

/-- A call with a bang is not unhandled. -/
lemma filter_unhandled_true (fallback : Bool) (bindings : List Nat) (start : Nat) :
    [CallSite.placed name true blanks start].filter
      (fun site => isFallible registry site && isUnhandled fallback bindings site) = [] := by
  simp [isUnhandled, CallSite.placed]

/-- A call that aborts is one character longer. -/
lemma length_spelling_true :
    (CallSite.spelling name true blanks).length =
      (CallSite.spelling name false blanks).length + 1 := by
  simp only [CallSite.spelling, List.length_append, CallSite.length_bang, Bool.toNat_true,
    Bool.toNat_false, List.length_singleton]
  omega

/-- The unhandled calls before another one are written before it. -/
lemma writtenOn_of_mem_unhandledBefore {site : CallSite}
    (h : site ∈ unhandledBefore registry before after) : site.WrittenOn before :=
  CallSite.mem_ofLine.1 (List.mem_filter.1 h).1

/-- An identifier is not empty. -/
lemma length_pos_of_identifier (hname : IsIdentifier name) : 0 < name.length := by
  obtain ⟨⟨c, hc, -⟩, -⟩ := hname
  exact List.length_pos_of_mem (List.mem_of_mem_head? hc)

/-- With a bang a call is not unhandled, and nothing else changes but the columns after it. -/
lemma fallibleCalls_bang (hb : IsBoundary before.getLast?) (hname : IsIdentifier name)
    (hblanks : AllBlank blanks) :
    fallibleCalls registry (before ++ (CallSite.spelling name true blanks ++ after)) number =
      ((fallibleCalls registry (before ++ (CallSite.spelling name false blanks ++ after))
          number).filter
        (· ≠ unhandled number (CallSite.placed name false blanks before.length))).map
        (Diagnostic.makeRoom (before.length + name.length : Nat) 1) := by
  have hlt : before.length < before.length + name.length :=
    Nat.lt_add_of_pos_right (length_pos_of_identifier hname)
  have hle : before.length + name.length ≤
      before.length + (CallSite.spelling name false blanks).length := by
    simp [CallSite.spelling]
  rw [fallibleCalls_around registry after true number hb hname hblanks, filter_unhandled_true,
    fallibleCalls_around registry after false number hb hname hblanks]
  simp only [List.map_append, List.filter_append, List.nil_append]
  rw [filter_ne_unhandled, filter_ne_unhandled_self, filter_ne_unhandled, List.map_nil,
    List.nil_append,
    (moves_unhandled number).map_before 1 hlt fun _ => writtenOn_of_mem_unhandledBefore,
    (moves_unhandled number).map_shift 1 hle, length_spelling_true, Nat.add_assoc]
  -- no other call starts where the call does
  · intro other hother
    obtain ⟨site, -, rfl⟩ := List.mem_map.1 hother
    simp only [CallSite.shift, CallSite.placed]
    omega
  · intro other hother
    have hwritten := writtenOn_of_mem_unhandledBefore hother
    have hstop := hwritten.stop_le_length
    have hstart := hwritten.start_lt_stop
    simp only [CallSite.placed]
    omega

/-- A call of a known function is not among the unknown ones. -/
lemma filter_unknown_of_contains {abort : Bool} {start : Nat}
    (h : registry.contains (String.ofList name) = true) :
    [CallSite.placed name abort blanks start].filter
      (fun site => !(registry.contains site.name || keywords.contains site.name)) = [] := by
  simp [CallSite.placed, h]

/-- The bang moves the unknown calls behind it by one column and does nothing else to them. -/
lemma unknownFunctions_bang (hb : IsBoundary before.getLast?) (hname : IsIdentifier name)
    (hblanks : AllBlank blanks) (h : registry.contains (String.ofList name) = true) :
    unknownFunctions registry (before ++ (CallSite.spelling name true blanks ++ after)) number =
      (unknownFunctions registry (before ++ (CallSite.spelling name false blanks ++ after))
        number).map (Diagnostic.makeRoom (before.length + name.length : Nat) 1) := by
  have hlt : before.length < before.length + name.length :=
    Nat.lt_add_of_pos_right (length_pos_of_identifier hname)
  have hle : before.length + name.length ≤
      before.length + (CallSite.spelling name false blanks).length := by
    simp [CallSite.spelling]
  rw [unknownFunctions_around registry after true number hb hname hblanks,
    unknownFunctions_around registry after false number hb hname hblanks,
    filter_unknown_of_contains h, filter_unknown_of_contains h]
  simp only [List.map_append, List.nil_append]
  rw [(moves_unknown registry number).map_before 1 hlt,
    (moves_unknown registry number).map_shift 1 hle, length_spelling_true, Nat.add_assoc]
  intro site hsite
  exact CallSite.mem_ofLine.1 (List.mem_filter.1 hsite).1

/-! A fallback at the end. -/

variable {fallback : List Char}

/-- A line with a fallback at its end has a fallback. -/
lemma hasFallback_addFallback (fallback line : List Char) :
    hasFallback (addFallback fallback line) = true := by
  rw [hasFallback, occurs_iff]
  exact ⟨line ++ [' '], ' ' :: fallback, by simp [addFallback]⟩

/-- A fallback without parentheses adds no call. -/
lemma ofLine_addFallback (h : '(' ∉ fallback) :
    CallSite.ofLine (addFallback fallback line) = CallSite.ofLine line := by
  apply CallSite.ofLine_append_of_notMem
  rw [List.mem_append, not_or]
  exact ⟨by decide, h⟩

/-- On a line with a fallback no call is unhandled. -/
lemma fallibleCalls_of_hasFallback (h : hasFallback line = true) :
    fallibleCalls registry line number = [] := by
  rw [fallibleCalls, h, List.map_eq_nil_iff, List.filter_eq_nil_iff]
  intro site _
  simp [isUnhandled]

/-- On a line with a fallback no call that aborts is reported. -/
lemma abortsWithoutFallback_of_hasFallback (h : hasFallback line = true) :
    abortsWithoutFallback registry line number = [] := by
  rw [abortsWithoutFallback, if_pos h]

/-! A binding at the start. -/

/-- The two names that are put before a line are the head of a binding. -/
lemma isHead_result : Binding.IsHead "result, err ".toList := by
  have hspace : AllBlank [' '] := List.forall_mem_singleton.2 (by decide)
  exact ⟨"result".toList, [], [' '], "err".toList, [' '], rfl, IsIdentifier.isName (by decide),
    nofun, hspace, IsIdentifier.isName (by decide), hspace⟩

/-- The binding that is put before a line ends behind its equals sign. -/
lemma endsAt_addBinding (line : List Char) : Binding.EndsAt (addBinding line) 13 :=
  Binding.endsAt_iff.2
    ⟨[], "result, err ".toList, ' ' :: line, rfl, nofun, isHead_result, by simp, rfl⟩

/-- No call lies across the equals sign of the binding, and none in front of it. -/
lemma ofLine_addBinding (line : List Char) :
    CallSite.ofLine (addBinding line) = (CallSite.ofLine line).map (CallSite.shift 14) := by
  have hline : addBinding line = "result, err =".toList ++ ' ' :: line := rfl
  have hfront : CallSite.ofLine "result, err =".toList = [] := by decide +kernel
  have hspace : AllBlank [' '] := List.forall_mem_singleton.2 (by decide)
  have hback := CallSite.ofLine_margin hspace (nofun : AllBlank []) line
  rw [List.append_nil, List.singleton_append] at hback
  rw [hline, CallSite.ofLine_append, hfront, List.nil_append, hback, List.map_map]
  · rfl
  · intro c hc
    cases hc
    decide
  · intro site h
    have h' : site.WrittenOn ("result, err ".toList ++ '=' :: ' ' :: line) := h
    obtain hle | hlt := h'.beside (by decide) (by decide)
    · exact .inl (Nat.le_succ_of_le hle)
    · exact .inr hlt

/-- Behind the binding no call is unhandled. -/
lemma fallibleCalls_addBinding (line : List Char) :
    fallibleCalls registry (addBinding line) number = [] := by
  rw [List.eq_nil_iff_forall_not_mem]
  intro d hd
  obtain ⟨site, hsite, -⟩ := mem_fallibleCalls.1 hd
  have hmem := CallSite.mem_ofLine.2 hsite.written
  rw [ofLine_addBinding] at hmem
  obtain ⟨moved, -, rfl⟩ := List.mem_map.1 hmem
  refine hsite.unbound 13 (endsAt_addBinding line) ?_
  simp only [CallSite.shift]
  omega

/-- The binding moves the unknown calls and does nothing else to them. -/
lemma unknownFunctions_addBinding (line : List Char) :
    unknownFunctions registry (addBinding line) number =
      (unknownFunctions registry line number).map (Diagnostic.makeRoom 0 14) := by
  have hmoved : ((unknownSites registry line).map (unknown registry number)).map
      (Diagnostic.makeRoom (0 : Nat) 14) =
        ((unknownSites registry line).map (CallSite.shift 14)).map (unknown registry number) :=
    (moves_unknown registry number).map_after 14 fun _ _ => ⟨Nat.zero_le _, Nat.zero_le _⟩
  rw [unknownFunctions, ofLine_addBinding, List.filter_map]
  exact hmoved.symm

/-! All three. -/

/--
The remedies for an unhandled call work. With a bang after the name of the call its diagnostic is
gone, and the other ones stay, with the columns moved by one from the bang on. With a fallback after
the line, which makes no call itself, no call is unhandled and none aborts without a fallback. With
a binding in front of the line no call is unhandled. In each case the same functions are unknown as
before, with the same suggestions and in the same order.
-/
theorem remedies_work (registry : Registry) (line : List Char) (number : Int) :
    (∀ d ∈ fallibleCalls registry line number,
      fallibleCalls registry (addBang d line) number =
          ((fallibleCalls registry line number).filter (· ≠ d)).map
            (Diagnostic.makeRoom d.range.stop.character 1) ∧
        unknownFunctions registry (addBang d line) number =
          (unknownFunctions registry line number).map
            (Diagnostic.makeRoom d.range.stop.character 1)) ∧
      (∀ fallback : List Char, '(' ∉ fallback →
        fallibleCalls registry (addFallback fallback line) number = [] ∧
          abortsWithoutFallback registry (addFallback fallback line) number = [] ∧
          unknownFunctions registry (addFallback fallback line) number =
            unknownFunctions registry line number) ∧
      fallibleCalls registry (addBinding line) number = [] ∧
      unknownFunctions registry (addBinding line) number =
        (unknownFunctions registry line number).map (Diagnostic.makeRoom 0 14) := by
  refine ⟨?_, ?_, fallibleCalls_addBinding line, unknownFunctions_addBinding line⟩
  · intro d hd
    obtain ⟨site, hsite, rfl⟩ := mem_fallibleCalls.1 hd
    obtain ⟨before, name, blanks, after, hb, hname, hblanks, hline, hplaced⟩ :=
      hsite.written.exists_around
    obtain ⟨spec, hspec, -⟩ := hsite.fallible
    rw [hsite.plain] at hline hplaced
    subst hline
    have hcontains : registry.contains (String.ofList name) = true := by
      rw [hplaced] at hspec
      exact Option.isSome_iff_exists.2 ⟨spec, hspec⟩
    rw [hplaced, addBang_around, stop_unhandled]
    exact ⟨fallibleCalls_bang hb hname hblanks, unknownFunctions_bang hb hname hblanks hcontains⟩
  · intro fallback h
    have hfallback := hasFallback_addFallback fallback line
    refine ⟨fallibleCalls_of_hasFallback hfallback, abortsWithoutFallback_of_hasFallback hfallback,
      ?_⟩
    rw [unknownFunctions, ofLine_addFallback h, unknownFunctions]

/-- A call inside another one, on a line that is mended in each of the three ways. -/
theorem remedies_work_nested :
    let fetch : FunctionSpec :=
      ⟨"fetch", .event, true, [.required "url" "string"], "any", "Fetches a page.", none⟩
    let registry := Registry.empty.insert fetch
    let line := "fetch(fetch(.a), fecth(.b))".toList
    let outer := unhandled 0 ⟨"fetch", false, 0, 6⟩
    let inner := unhandled 0 ⟨"fetch", false, 6, 12⟩
    inner ∈ fallibleCalls registry line 0 ∧
      addBang inner line = "fetch(fetch!(.a), fecth(.b))".toList ∧
      fallibleCalls registry (addBang inner line) 0 = [outer] ∧ '(' ∉ ".c".toList ∧
      fallibleCalls registry (addFallback ".c".toList line) 0 = [] ∧
      fallibleCalls registry (addBinding line) 0 = [] := by
  intro fetch registry line outer inner
  have hsites : (CallSite.ofLine line).filter (fun site => isFallible registry site &&
      isUnhandled (hasFallback line) (Binding.stops line) site) =
        [⟨"fetch", false, 0, 6⟩, ⟨"fetch", false, 6, 12⟩] := by decide +kernel
  have hcalls : fallibleCalls registry line 0 = [outer, inner] := congrArg (List.map _) hsites
  have hinner : inner ∈ fallibleCalls registry line 0 := by
    rw [hcalls]
    exact List.mem_cons_of_mem _ (List.mem_singleton_self _)
  obtain ⟨hbang, hfallback, hbinding, -⟩ := remedies_work registry line 0
  have hrest := (hbang inner hinner).1
  rw [hcalls] at hrest
  have hparen : '(' ∉ ".c".toList := by decide
  exact ⟨hinner, by decide, hrest.trans (by decide +kernel), hparen, (hfallback _ hparen).1,
    hbinding⟩

end Check

end Remap
