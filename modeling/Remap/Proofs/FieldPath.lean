import Remap.CallSite
import Remap.Proofs.Text.Parts
import Remap.Proofs.Text.Position
import Remap.Proofs.Text.Search
import Remap.Proofs.Text.Word

/-!
# The grammar of references to fields

References and paths as they are written. A reference is a point and a name that goes as far as it
can, and no reference starts inside the name of another one, so that the search for references
passes over none. A path is one reference after another. Inside a path another one starts at each
of its points, so there the search does pass over some: `mem_ofLine` says that what it finds are
exactly the paths that go on neither to the right nor to the left.
-/

namespace Remap.FieldPath

open Text

/-- A name ends before this text: it starts with no character that would go on with the name. -/
def EndsName (rest : List Char) : Prop :=
  ∀ c, rest.head? = some c → isIdentChar c = false

/-- The text starts with a point and a name that ends before the rest. -/
def Refers (text name rest : List Char) : Prop :=
  text = '.' :: (name ++ rest) ∧ IsIdentifier name ∧ EndsName rest

/-- A point is not part of an identifier. -/
lemma isIdentChar_point : isIdentChar '.' = false := by decide

/-- A name ends before a point. -/
lemma endsName_point (rest : List Char) : EndsName ('.' :: rest) := by
  intro c hc
  cases hc
  exact isIdentChar_point

/-- No point stands in an identifier. -/
lemma point_notMem {name : List Char} (h : IsIdentifier name) : '.' ∉ name := by
  intro hmem
  have hpoint := h.2 '.' hmem
  rw [isIdentChar_point] at hpoint
  cases hpoint

/-- An identifier at the start of a text starts a name. -/
lemma startsName_append {name : List Char} (h : IsIdentifier name) (rest : List Char) :
    StartsName (name ++ rest) :=
  h.isName.startsName rest

/-- A name starts with a character that may start an identifier. -/
lemma head?_any_iff {text : List Char} : text.head?.any isIdentStart = true ↔ StartsName text := by
  rw [Option.any_eq_true, StartsName]

/-- Where a name starts it ends somewhere. -/
lemma exists_name {text : List Char} (h : StartsName text) :
    ∃ name rest, text = name ++ rest ∧ IsIdentifier name ∧ EndsName rest := by
  refine ⟨text.takeWhile isIdentChar, text.dropWhile isIdentChar,
    List.takeWhile_append_dropWhile.symm, ⟨?_, fun c hc => List.mem_takeWhile_imp hc⟩, ?_⟩
  · obtain ⟨c, hc, hstart⟩ := h
    refine ⟨c, ?_, hstart⟩
    obtain ⟨more, rfl⟩ := List.head?_eq_some_iff.1 hc
    rw [List.takeWhile_cons_of_pos (isIdentChar_of_isIdentStart hstart), List.head?_cons]
  · intro c hc
    have hhead := List.head?_dropWhile_not isIdentChar text
    rwa [hc] at hhead

/-! References. -/

/-- An identifier is read as a whole if the name ends behind it. -/
lemma identifier_append {name rest : List Char} (h : IsIdentifier name) (hrest : EndsName rest) :
    identifier (name ++ rest) = name := by
  rw [identifier, if_pos (head?_any_iff.2 (startsName_append h rest)), takeWhile_run h.2 hrest]

/-- No identifier is read from a text that starts no name. -/
lemma identifier_eq_nil {text : List Char} (h : ¬ StartsName text) : identifier text = [] := by
  rw [identifier, if_neg (by rwa [head?_any_iff])]

/-- What the reader takes for a reference. -/
lemma readName_eq_some_iff {before : Option Char} {text name : List Char} {size : Nat} :
    readName before text = some (size, name) ↔
      ∃ rest, Refers text name rest ∧ size = name.length + 1 := by
  refine ⟨?_, ?_⟩
  · intro h
    rw [readName.eq_def] at h
    split at h
    case h_1 rest =>
      dsimp only at h
      by_cases hstart : StartsName rest
      · obtain ⟨first, more, rfl, hfirst, hmore⟩ := exists_name hstart
        rw [identifier_append hfirst hmore, Option.ite_none_left_eq_some] at h
        obtain ⟨-, heq⟩ := h
        cases heq
        exact ⟨more, ⟨rfl, hfirst, hmore⟩, rfl⟩
      · rw [identifier_eq_nil hstart] at h
        cases h
    case h_2 => cases h
  · intro h
    obtain ⟨rest, ⟨rfl, hname, hrest⟩, rfl⟩ := h
    have hne : name.isEmpty = false := by
      obtain ⟨⟨c, hc, -⟩, -⟩ := hname
      cases name with
      | nil => cases hc
      | cons d name => rfl
    simp only [readName, identifier_append hname hrest, hne, Bool.false_eq_true, if_false]

/-- No reference starts inside the name of another one. -/
lemma separated_readName : Separated readName where
  nil _ := rfl
  apart {before inner after size value} hne hread hlt := by
    obtain ⟨rest, ⟨htext, hname, -⟩, rfl⟩ := readName_eq_some_iff.1 hread
    cases inner with
    | nil => exact absurd rfl hne
    | cons c inner =>
      rw [List.cons_append, List.cons_eq_cons] at htext
      obtain ⟨-, htext⟩ := htext
      rw [List.length_cons] at hlt
      cases hr : readName (c :: inner).getLast? after with
      | none => rfl
      | some found =>
        obtain ⟨_, _⟩ := found
        obtain ⟨more, ⟨rfl, -, -⟩, -⟩ := readName_eq_some_iff.1 hr
        obtain ⟨front, rfl, -⟩ := split_of_notMem_head (point_notMem hname) htext.symm
        rw [List.length_append] at hlt
        omega

/-- A field is referred to at a place: there is a point, and the name behind it is that field. -/
def RefersAt (text : List Char) (place : Nat) (name : List Char) : Prop :=
  ∃ before after rest, text = before ++ after ∧ before.length = place ∧ Refers after name rest

/-- Found are the references, each at its place and with its name. -/
lemma exists_mem_findAll_iff {text name : List Char} {place : Nat} :
    (∃ m ∈ findAll readName text, m.start = place ∧ m.value = name) ↔
      RefersAt text place name := by
  simp only [mem_findAll separated_readName, readName_eq_some_iff]
  refine ⟨?_, ?_⟩
  · intro h
    obtain ⟨m, ⟨before, after, htext, hstart, size, ⟨rest, hrefers, -⟩, -⟩, rfl, rfl⟩ := h
    exact ⟨before, after, rest, htext, hstart.symm, hrefers⟩
  · intro h
    obtain ⟨before, after, rest, htext, rfl, hrefers⟩ := h
    exact ⟨⟨before.length, before.length + (name.length + 1), name⟩,
      ⟨before, after, htext, rfl, _, ⟨rest, hrefers, rfl⟩, rfl⟩, rfl, rfl⟩

/-- The names in a text are those of the fields that it refers to. -/
lemma mem_names {text : List Char} {name : String} :
    name ∈ names text ↔ ∃ place, RefersAt text place name.toList := by
  simp only [names, List.mem_map, ← exists_mem_findAll_iff]
  refine ⟨?_, ?_⟩
  · intro h
    obtain ⟨m, hm, rfl⟩ := h
    exact ⟨m.start, m, hm, rfl, String.toList_ofList.symm⟩
  · intro h
    obtain ⟨-, m, hm, -, hvalue⟩ := h
    exact ⟨m, hm, by rw [hvalue, String.ofList_toList]⟩

/-! Paths. -/

/-- A path as it is written: a point before each name. -/
def spelling (names : List (List Char)) : List Char :=
  names.flatMap fun name => '.' :: name

/-- No segments are spelled as nothing. -/
@[simp] lemma spelling_nil : spelling [] = [] := rfl

/-- A segment is spelled with a point before it. -/
@[simp] lemma spelling_cons (name : List Char) (names : List (List Char)) :
    spelling (name :: names) = '.' :: (name ++ spelling names) := rfl

/-- Segments are spelled one after the other. -/
@[simp] lemma spelling_append (names more : List (List Char)) :
    spelling (names ++ more) = spelling names ++ spelling more :=
  List.flatMap_append

/-- A path is not empty. -/
lemma length_spelling_pos {names : List (List Char)} (h : names ≠ []) :
    0 < (spelling names).length := by
  cases names with
  | nil => exact absurd rfl h
  | cons name names => exact Nat.succ_pos _

/-- A path is a point and its segments with points between them. -/
lemma spelling_eq_intercalate {names : List (List Char)} (h : names ≠ []) :
    spelling names = '.' :: ['.'].intercalate names := by
  induction names with
  | nil => exact absurd rfl h
  | cons name names ih =>
    cases names with
    | nil => rw [spelling_cons, spelling_nil, List.append_nil, List.intercalate_singleton]
    | cons next names =>
      rw [spelling_cons, ih (List.cons_ne_nil next names), List.intercalate_cons_cons,
        List.append_assoc, List.singleton_append]

/-- A path ends before this text: neither the last name nor the path goes on with it. -/
def EndsPath (rest : List Char) : Prop :=
  EndsName rest ∧ ∀ more, rest = '.' :: more → ¬ StartsName more

/-- A path starts behind this text: the text does not end with a reference. -/
def StartsPath (front : List Char) : Prop :=
  ∀ earlier name, front = earlier ++ '.' :: name → ¬ IsIdentifier name

/-- The names make a path, which ends before the rest. -/
structure IsPath (names : List (List Char)) (rest : List Char) : Prop where
  ne_nil : names ≠ []
  identifiers : ∀ name ∈ names, IsIdentifier name
  ends : EndsPath rest

variable {names names' : List (List Char)} {rest rest' : List Char}

/-- No path is read from a text that starts no name. -/
lemma pathNames_of_not_startsName {text : List Char} (h : ¬ StartsName text) :
    pathNames text = [] := by
  rw [← head?_any_iff] at h
  rw [pathNames]
  cases text with
  | nil => rfl
  | cons c text =>
    rw [List.takeWhile_cons]
    split
    case isTrue =>
      rw [cut_cons]
      cases hcut : cut '.' (text.takeWhile isPathChar) with
      | nil => exact absurd hcut (cut_ne_nil '.' _)
      | cons piece more =>
        rw [consPiece]
        split
        · rfl
        · exact List.takeWhile_cons_of_neg h
    case isFalse => rfl

/-- The characters of an identifier can stand in a path. -/
lemma isPathChar_of_mem {name : List Char} (h : IsIdentifier name) :
    ∀ c ∈ name, isPathChar c = true := by
  intro c hc
  rw [isPathChar, h.2 c hc, Bool.true_or]

/-- The characters of a path can stand in a path. -/
lemma isPathChar_of_mem_spelling (h : ∀ name ∈ names, IsIdentifier name) {c : Char}
    (hc : c ∈ spelling names) : isPathChar c = true := by
  obtain ⟨name, hname, hc⟩ := List.mem_flatMap.1 hc
  obtain rfl | hc := List.mem_cons.1 hc
  · decide
  · exact isPathChar_of_mem (h name hname) c hc

/-- An identifier is kept among pieces that start like names. -/
lemma takeWhile_identifier {name : List Char} (h : IsIdentifier name)
    (more : List (List Char)) :
    (name :: more).takeWhile (fun piece => piece.head?.any isIdentStart) =
      name :: more.takeWhile fun piece => piece.head?.any isIdentStart := by
  apply List.takeWhile_cons_of_pos
  have hstart := startsName_append h []
  rwa [List.append_nil, ← head?_any_iff] at hstart

/-- Behind a name and a point the path goes on. -/
lemma pathNames_point {name : List Char} (h : IsIdentifier name) (rest : List Char) :
    pathNames (name ++ '.' :: rest) = name :: pathNames rest := by
  rw [pathNames, List.takeWhile_append_of_pos (isPathChar_of_mem h),
    List.takeWhile_cons_of_pos (by decide), cut_append_cons (point_notMem h),
    takeWhile_identifier h, pathNames]

/-- The path ends with a name behind which it cannot go on. -/
lemma pathNames_last {name : List Char} (h : IsIdentifier name) (hrest : EndsPath rest) :
    pathNames (name ++ rest) = [name] := by
  cases rest with
  | nil =>
    rw [List.append_nil, pathNames, List.takeWhile_eq_self_iff.2 (isPathChar_of_mem h),
      cut_of_notMem (point_notMem h), takeWhile_identifier h, List.takeWhile_nil]
  | cons c rest =>
    by_cases hc : c = '.'
    · subst hc
      rw [pathNames_point h, pathNames_of_not_startsName (hrest.2 rest rfl)]
    · have hchar : isPathChar c = false := by
        rw [isPathChar, hrest.1 c rfl, Bool.false_or, beq_eq_false_iff_ne]
        exact hc
      rw [pathNames, List.takeWhile_append_of_pos (isPathChar_of_mem h),
        List.takeWhile_cons_of_neg (by rw [hchar]; exact Bool.false_ne_true), List.append_nil,
        cut_of_notMem (point_notMem h), takeWhile_identifier h, List.takeWhile_nil]

/-- The names are read back from a path. -/
lemma pathNames_spelling {name : List Char} (hname : IsIdentifier name)
    (hnames : ∀ name ∈ names, IsIdentifier name) (hrest : EndsPath rest) :
    pathNames (name ++ (spelling names ++ rest)) = name :: names := by
  induction names generalizing name with
  | nil => exact pathNames_last hname hrest
  | cons next names ih =>
    obtain ⟨hnext, hnames⟩ := List.forall_mem_cons.1 hnames
    rw [spelling_cons, List.cons_append, List.append_assoc, pathNames_point hname,
      ih hnext hnames]

/-- The reader takes a path as a whole. -/
lemma IsPath.readPath (h : IsPath names rest) (before : Option Char) :
    readPath before (spelling names ++ rest) =
      some ((spelling names).length, (spelling names).tail) := by
  obtain ⟨hne, hnames, hrest⟩ := h
  cases names with
  | nil => exact absurd rfl hne
  | cons name names =>
    obtain ⟨hname, hnames⟩ := List.forall_mem_cons.1 hnames
    have hread := pathNames_spelling hname hnames hrest
    have hstart := head?_any_iff.2 (startsName_append hname (spelling names ++ rest))
    have hspelling := spelling_eq_intercalate (List.cons_ne_nil name names)
    rw [hspelling, List.tail_cons, List.length_cons, ← hspelling, spelling_cons, List.cons_append,
      List.append_assoc]
    simp only [FieldPath.readPath, hstart, if_true, hread]

/-- Every name behind a point is the first one of a path. -/
lemma exists_isPath {name more : List Char} (hname : IsIdentifier name) (hmore : EndsName more) :
    ∃ later rest, more = spelling later ++ rest ∧ IsPath (name :: later) rest := by
  induction hlength : more.length using Nat.strong_induction_on generalizing name more with
  | _ length ih =>
    by_cases hnext : ∃ text, more = '.' :: text ∧ StartsName text
    · obtain ⟨text, rfl, hstart⟩ := hnext
      obtain ⟨next, after, rfl, hnext, hafter⟩ := exists_name hstart
      have hlt : after.length < length := by
        rw [← hlength, List.length_cons, List.length_append]
        omega
      obtain ⟨later, rest, rfl, hpath⟩ := ih after.length hlt hnext hafter rfl
      refine ⟨next :: later, rest, ?_, List.cons_ne_nil _ _, ?_, hpath.ends⟩
      · rw [spelling_cons, List.cons_append, List.append_assoc]
      · exact List.forall_mem_cons.2 ⟨hname, hpath.identifiers⟩
    · refine ⟨[], more, rfl, List.cons_ne_nil _ _, List.forall_mem_singleton.2 hname, hmore, ?_⟩
      intro text heq hstart
      exact hnext ⟨text, heq, hstart⟩

/-- What the reader takes for a path. -/
lemma readPath_eq_some_iff {before : Option Char} {text value : List Char} {size : Nat} :
    readPath before text = some (size, value) ↔
      ∃ names rest, text = spelling names ++ rest ∧ IsPath names rest ∧
        size = (spelling names).length ∧ value = (spelling names).tail := by
  refine ⟨?_, ?_⟩
  · intro h
    have hstart : ∃ more, text = '.' :: more ∧ StartsName more := by
      rw [readPath.eq_def] at h
      split at h
      case h_1 more =>
        rw [Option.ite_none_right_eq_some] at h
        exact ⟨more, rfl, head?_any_iff.1 h.1⟩
      case h_2 => cases h
    obtain ⟨more, rfl, hstart⟩ := hstart
    obtain ⟨name, more, rfl, hname, hmore⟩ := exists_name hstart
    obtain ⟨later, rest, rfl, hpath⟩ := exists_isPath hname hmore
    have htext : '.' :: (name ++ (spelling later ++ rest)) = spelling (name :: later) ++ rest := by
      rw [spelling_cons, List.cons_append, List.append_assoc]
    rw [htext, hpath.readPath] at h
    cases h
    exact ⟨name :: later, rest, htext, hpath, rfl, rfl⟩
  · intro h
    obtain ⟨names, rest, rfl, hpath, rfl, rfl⟩ := h
    exact hpath.readPath before

/-- A text starts with one path only. -/
lemma IsPath.unique (h : IsPath names rest) (h' : IsPath names' rest')
    (heq : spelling names ++ rest = spelling names' ++ rest') : names = names' := by
  obtain ⟨hne, hnames, hrest⟩ := h
  obtain ⟨hne', hnames', hrest'⟩ := h'
  cases names with
  | nil => exact absurd rfl hne
  | cons name names =>
    cases names' with
    | nil => exact absurd rfl hne'
    | cons name' names' =>
      obtain ⟨hname, hnames⟩ := List.forall_mem_cons.1 hnames
      obtain ⟨hname', hnames'⟩ := List.forall_mem_cons.1 hnames'
      rw [spelling_cons, spelling_cons, List.cons_append, List.cons_append, List.append_assoc,
        List.append_assoc, List.cons_eq_cons] at heq
      rw [← pathNames_spelling hname hnames hrest, heq.2, pathNames_spelling hname' hnames' hrest']

/-- A point in a path stands before one of its names. -/
lemma split_spelling {front back : List Char} (hnames : ∀ name ∈ names, IsIdentifier name)
    (h : spelling names ++ rest = front ++ '.' :: back)
    (hlt : front.length < (spelling names).length) :
    ∃ earlier name later, names = earlier ++ name :: later ∧ front = spelling earlier ∧
      back = name ++ (spelling later ++ rest) := by
  induction names generalizing front with
  | nil => exact absurd hlt (Nat.not_lt_zero _)
  | cons name names ih =>
    obtain ⟨hname, hnames⟩ := List.forall_mem_cons.1 hnames
    rw [spelling_cons, List.cons_append, List.append_assoc] at h
    cases front with
    | nil =>
      rw [List.nil_append, List.cons_eq_cons] at h
      exact ⟨[], name, names, rfl, rfl, h.2.symm⟩
    | cons c front =>
      rw [List.cons_append, List.cons_eq_cons] at h
      obtain ⟨rfl, h⟩ := h
      obtain ⟨more, rfl, hmore⟩ := split_of_notMem_head (point_notMem hname) h
      have hlt' : more.length < (spelling names).length := by
        simp only [spelling_cons, List.length_cons, List.length_append] at hlt
        omega
      obtain ⟨earlier, next, later, rfl, rfl, rfl⟩ := ih hnames hmore hlt'
      exact ⟨name :: earlier, next, later, rfl, rfl, rfl⟩

/-! The paths on a line. -/

variable {line front : List Char}

/-- The path is written on the line, behind a front part, and goes on neither way. -/
structure IsWhole (line front : List Char) (names : List (List Char)) (rest : List Char) :
    Prop where
  line_eq : line = front ++ (spelling names ++ rest)
  starts : StartsPath front
  path : IsPath names rest

/-- The match of a path behind a front part. -/
def matchOf (front : List Char) (names : List (List Char)) : Match (List Char) :=
  ⟨front.length, front.length + (spelling names).length, (spelling names).tail⟩

/-- What is found on a line are paths. -/
lemma exists_of_mem_ofLine {m : Match (List Char)} (h : m ∈ ofLine line) :
    ∃ front names rest, line = front ++ (spelling names ++ rest) ∧ IsPath names rest ∧
      m = matchOf front names := by
  obtain ⟨front, after, rfl, hstart, size, hread, hstop⟩ := exists_of_mem_findAll h
  obtain ⟨names, rest, rfl, hpath, rfl, hvalue⟩ := readPath_eq_some_iff.1 hread
  obtain ⟨start, stop, value⟩ := m
  dsimp only at hstart hvalue hstop
  subst hstart
  exact ⟨front, names, rest, rfl, hpath, by rw [matchOf, hstop, hvalue]⟩

/-- A path starts with a point. -/
lemma IsPath.exists_point (h : IsPath names rest) :
    ∃ text, spelling names ++ rest = '.' :: text := by
  obtain ⟨name, more, rfl⟩ := List.exists_cons_of_ne_nil h.ne_nil
  exact ⟨_, rfl⟩

/-- A path that starts inside another one is what the other one goes on with. -/
lemma IsPath.suffix {front' : List Char} (h : IsPath names rest) (h' : IsPath names' rest')
    (heq : front ++ (spelling names ++ rest) = front' ++ (spelling names' ++ rest'))
    (hle : front'.length ≤ front.length)
    (hlt : front.length < front'.length + (spelling names').length) :
    ∃ earlier, front = front' ++ spelling earlier ∧ names' = earlier ++ names := by
  obtain ⟨mid, rfl⟩ : front' <+: front :=
    List.prefix_of_prefix_length_le ⟨_, heq.symm⟩ (List.prefix_append _ _) hle
  rw [List.append_assoc, List.append_cancel_left_eq] at heq
  rw [List.length_append] at hlt
  obtain ⟨text, htext⟩ := h.exists_point
  rw [htext] at heq
  obtain ⟨earlier, name, later, rfl, rfl, rfl⟩ :=
    split_spelling h'.identifiers heq.symm (by omega)
  -- from there on both are the same
  have hlater : IsPath (name :: later) rest' :=
    ⟨List.cons_ne_nil _ _, fun n hn => h'.identifiers n (List.mem_append_right _ hn), h'.ends⟩
  have hnames : names = name :: later := by
    apply h.unique hlater
    rw [htext, spelling_cons, List.cons_append, List.append_assoc]
  exact ⟨earlier, rfl, by rw [hnames]⟩

/-- Wherever a path is written, one is found that starts there or before and goes as far. -/
lemma exists_found (hpath : IsPath names rest) (hline : line = front ++ (spelling names ++ rest)) :
    ∃ front' earlier, front = front' ++ spelling earlier ∧
      (∀ name ∈ earlier, IsIdentifier name) ∧ matchOf front' (earlier ++ names) ∈ ofLine line := by
  obtain ⟨text, htext⟩ := hpath.exists_point
  have hread := hpath.readPath front.getLast?
  rw [htext] at hread
  obtain ⟨m, hm, hcovers⟩ := exists_covers hread
  rw [← htext, ← hline] at hm
  obtain ⟨front', found, rest', hline', hfound, rfl⟩ := exists_of_mem_ofLine hm
  -- the point is one of the path that has been found
  have hpos := length_spelling_pos hfound.ne_nil
  have hplace : front'.length ≤ front.length ∧
      front.length < front'.length + (spelling found).length := by
    simp only [Match.Covers, matchOf] at hcovers
    omega
  obtain ⟨earlier, rfl, rfl⟩ := hpath.suffix hfound (hline.symm.trans hline') hplace.1 hplace.2
  exact ⟨front', earlier, rfl, fun n hn => hfound.identifiers n (List.mem_append_left _ hn), hm⟩

/-- A match that starts further left than another one ends before it. -/
lemma stop_le_start {a b : Match (List Char)} (ha : a ∈ ofLine line) (hb : b ∈ ofLine line)
    (h : a.start < b.start) : a.stop ≤ b.start := by
  have hpair := List.pairwise_iff_getElem.1 (pairwise_findAll readPath line)
  obtain ⟨i, hi, rfl⟩ := List.getElem_of_mem ha
  obtain ⟨j, hj, rfl⟩ := List.getElem_of_mem hb
  obtain hlt | rfl | hlt := Nat.lt_trichotomy i j
  · exact (hpair i j hi hj hlt).2
  · exact absurd h (Nat.lt_irrefl _)
  · exact absurd h (Nat.lt_asymm (hpair j i hj hi hlt).1)

/-- The search finds exactly the paths that go on neither way. -/
lemma mem_ofLine {m : Match (List Char)} :
    m ∈ ofLine line ↔
      ∃ front names rest, IsWhole line front names rest ∧ m = matchOf front names := by
  refine ⟨?_, ?_⟩
  · intro hm
    obtain ⟨front, names, rest, hline, hpath, rfl⟩ := exists_of_mem_ofLine hm
    refine ⟨front, names, rest, ⟨hline, ?_, hpath⟩, rfl⟩
    -- a path that ended with the front part would have been read on over its end
    intro earlier name hfront hname
    subst hfront
    have hlonger : IsPath (name :: names) rest :=
      ⟨List.cons_ne_nil _ _, List.forall_mem_cons.2 ⟨hname, hpath.identifiers⟩, hpath.ends⟩
    have hline' : line = earlier ++ (spelling (name :: names) ++ rest) := by
      rw [hline, spelling_cons]
      simp only [List.append_assoc, List.cons_append]
    obtain ⟨front', before, rfl, -, hm'⟩ := exists_found hlonger hline'
    have hpos := length_spelling_pos hpath.ne_nil
    have hstop := stop_le_start hm' hm
    simp only [matchOf, spelling_append, spelling_cons, List.length_append,
      List.length_cons] at hstop
    have hfalse := hstop (by omega)
    omega
  · intro h
    obtain ⟨front, names, rest, ⟨hline, hstarts, hpath⟩, rfl⟩ := h
    obtain ⟨front', earlier, rfl, hearlier, hm⟩ := exists_found hpath hline
    obtain rfl | ⟨init, last, rfl⟩ := List.eq_nil_or_concat earlier
    · rwa [spelling_nil, List.append_nil]
    -- the front part would end with a reference
    · rw [List.concat_eq_append] at hstarts hearlier
      have hfront : front' ++ spelling (init ++ [last]) =
          (front' ++ spelling init) ++ '.' :: last := by
        rw [spelling_append, spelling_cons, spelling_nil, List.append_nil, List.append_assoc]
      exact absurd (hearlier last List.mem_concat_self) (hstarts _ _ hfront)

/-! How far a path goes. -/

/-- A name ends before a path, and before what follows if there is none. -/
lemma endsName_append (names : List (List Char)) (h : EndsName rest) :
    EndsName (spelling names ++ rest) := by
  cases names with
  | nil => exact h
  | cons name names => exact endsName_point _

/-- The last point of a text is found from its end. -/
lemma append_point_inj {front front' name name' : List Char} (hname : '.' ∉ name)
    (hname' : '.' ∉ name') (h : front ++ '.' :: name = front' ++ '.' :: name') :
    front = front' ∧ name = name' := by
  obtain ⟨more, rfl, hmore⟩ | ⟨more, rfl, hmore⟩ := List.append_eq_append_iff.1 h
  · cases more with
    | nil => exact ⟨(List.append_nil _).symm, (List.cons.inj hmore).2⟩
    | cons c more =>
      rw [(List.cons.inj hmore).2] at hname
      exact absurd (List.mem_append_right more List.mem_cons_self) hname
  · cases more with
    | nil => exact ⟨List.append_nil _, (List.cons.inj hmore).2.symm⟩
    | cons c more =>
      rw [(List.cons.inj hmore).2] at hname'
      exact absurd (List.mem_append_right more List.mem_cons_self) hname'

/-- No path that ends at the same place starts further left than one that goes on no further. -/
lemma suffix_of_startsPath {front front' : List Char} (hstarts : StartsPath front)
    (hnames : ∀ name ∈ names, IsIdentifier name) (hnames' : ∀ name ∈ names', IsIdentifier name)
    (h : front ++ spelling names = front' ++ spelling names') :
    spelling names' <:+ spelling names := by
  induction names' using List.reverseRecOn generalizing names with
  | nil => exact List.nil_suffix
  | append_singleton names' last' ih =>
    obtain ⟨hinit', hlast'⟩ := List.forall_mem_append.1 hnames'
    rw [List.forall_mem_singleton] at hlast'
    have hend' : front' ++ spelling (names' ++ [last']) =
        (front' ++ spelling names') ++ '.' :: last' := by
      simp
    rw [hend'] at h
    obtain rfl | ⟨init, last, rfl⟩ := List.eq_nil_or_concat names
    · rw [spelling_nil, List.append_nil] at h
      exact absurd hlast' (hstarts _ _ h)
    · rw [List.concat_eq_append] at h hnames ⊢
      obtain ⟨hinit, hlast⟩ := List.forall_mem_append.1 hnames
      rw [List.forall_mem_singleton] at hlast
      have hend : front ++ spelling (init ++ [last]) = (front ++ spelling init) ++ '.' :: last := by
        simp
      rw [hend] at h
      obtain ⟨hfront, rfl⟩ := append_point_inj (point_notMem hlast) (point_notMem hlast') h
      obtain ⟨more, hmore⟩ := ih hinit hinit' hfront
      refine ⟨more, ?_⟩
      rw [spelling_append, spelling_append, ← hmore, List.append_assoc]

/-- No name that starts at the same place is longer than one that ends. -/
lemma exists_longer_name {name name' : List Char} (hrest : EndsName rest)
    (hname' : IsIdentifier name') (h : name ++ rest = name' ++ rest') :
    ∃ more, name = name' ++ more ∧ rest' = more ++ rest := by
  obtain ⟨more, rfl, hmore⟩ | ⟨more, hname, hmore⟩ := List.append_eq_append_iff.1 h
  · cases more with
    | nil => exact ⟨[], by rw [List.append_nil, List.append_nil], hmore.symm⟩
    | cons c more =>
      have hc := hrest c (by rw [hmore]; rfl)
      rw [hname'.2 c (List.mem_append_right name List.mem_cons_self)] at hc
      cases hc
  · exact ⟨more, hname, hmore⟩

/-- No path that starts at the same place goes further right than one that goes on no further. -/
lemma prefix_of_endsPath (hends : EndsPath rest) (hnames : ∀ name ∈ names, IsIdentifier name)
    (hnames' : ∀ name ∈ names', IsIdentifier name)
    (h : spelling names ++ rest = spelling names' ++ rest') :
    spelling names' <+: spelling names := by
  induction names' generalizing names with
  | nil => exact List.nil_prefix
  | cons name' names' ih =>
    obtain ⟨hname', hlater'⟩ := List.forall_mem_cons.1 hnames'
    rw [spelling_cons, List.cons_append, List.append_assoc] at h
    cases names with
    | nil => exact absurd (startsName_append hname' _) (hends.2 _ h)
    | cons name names =>
      obtain ⟨hname, hlater⟩ := List.forall_mem_cons.1 hnames
      rw [spelling_cons, List.cons_append, List.append_assoc, List.cons_eq_cons] at h
      obtain ⟨more, rfl, hmore⟩ := exists_longer_name (endsName_append names hends.1) hname' h.2
      cases more with
      | nil =>
        obtain ⟨tail, htail⟩ := ih hlater hlater' hmore.symm
        refine ⟨tail, ?_⟩
        rw [List.append_nil, spelling_cons, spelling_cons, ← htail, List.cons_append,
          List.append_assoc]
      -- the other path ends inside a name
      | cons c more =>
        cases names' with
        | nil => exact ⟨c :: more ++ spelling names, by simp⟩
        | cons next names' =>
          have hc := hname.2 c (List.mem_append_right name' List.mem_cons_self)
          rw [spelling_cons, List.cons_append, List.cons_append, List.cons_eq_cons] at hmore
          rw [← hmore.1, isIdentChar_point] at hc
          cases hc

/-! Paths are made of references. -/

/-- A line refers to each field of a path on it. -/
lemma IsWhole.refersAt (h : IsWhole line front names rest) {name : List Char}
    (hname : name ∈ names) : ∃ place, RefersAt line place name := by
  obtain ⟨rfl, -, hpath⟩ := h
  obtain ⟨earlier, later, rfl⟩ := List.append_of_mem hname
  refine ⟨_, front ++ spelling earlier, '.' :: (name ++ (spelling later ++ rest)),
    spelling later ++ rest, ?_, rfl, rfl, hpath.identifiers name hname,
    endsName_append later hpath.ends.1⟩
  simp

/-- A document refers to every field that one of its lines refers to. -/
lemma refersAt_of_mem_lines {text name : List Char} {place : Nat} (hline : line ∈ lines text)
    (h : RefersAt line place name) : ∃ place', RefersAt text place' name := by
  obtain ⟨before, after, hends, rfl, -, rfl, hname, hrest⟩ := h
  obtain ⟨front, back, rfl, hback⟩ := exists_around_line hline
  refine ⟨_, front ++ before, '.' :: (name ++ (hends ++ back)), hends ++ back, ?_, rfl, rfl, hname,
    ?_⟩
  · simp
  · intro c hc
    rw [List.head?_append, Option.or_eq_some_iff] at hc
    obtain hc | ⟨-, hc⟩ := hc
    · exact hrest c hc
    · rw [hback c hc]
      decide

end Remap.FieldPath
