import Mathlib.Data.List.Basic
import Remap.FileTree
import Remap.Proofs.Text.Position
import Remap.Proofs.Text.Parts

/-!
# Where a path leads from a file

The normal form of a path is its root and names between slashes, none of them empty or a point, so
its directory is the same without the last name. `join_parent` says that a path joined to the
directory of a file is the root of the file, the names of its directory, and the path.
-/

namespace Remap.Path

open Text

variable {path extra root : Wide} {names : List Wide}

/-- The names from the root to which a path leads, when its points are followed. -/
def steps (path : Wide) : List Wide :=
  ((Path.names path).foldl keep []).reverse

/-- Slashes stand between names, and not in them. -/
def Named (name : Wide) : Prop :=
  name ≠ [] ∧ slash ∉ name

/-- Names that are kept one after another are names with nothing between them. -/
lemma named_of_mem_foldl_keep {all kept : List Wide} {name : Wide}
    (hall : ∀ name ∈ all, slash ∉ name) (hkept : ∀ name ∈ kept, Named name)
    (h : name ∈ all.foldl keep kept) : Named name := by
  induction all generalizing kept with
  | nil => exact hkept name h
  | cons next all ih =>
    rw [List.forall_mem_cons] at hall
    refine ih hall.2 ?_ h
    intro name hname
    rw [keep] at hname
    split at hname
    case isTrue => exact hkept name hname
    case isFalse hne =>
      split at hname
      case isTrue => exact hkept name (List.mem_of_mem_tail hname)
      case isFalse =>
        obtain rfl | hname := List.mem_cons.1 hname
        · refine ⟨?_, hall.1⟩
          rintro rfl
          exact hne rfl
        · exact hkept name hname

/-- The names to which a path leads hold no slash. -/
lemma named_of_mem_steps {name : Wide} (h : name ∈ steps path) : Named name :=
  named_of_mem_foldl_keep (fun _ hname => sep_notMem_of_mem_cut hname)
    (fun _ hname => absurd hname List.not_mem_nil) (List.mem_reverse.1 h)

/-! Names between slashes. -/

/-- One name stands without a slash. -/
lemma ofNames_singleton (name : Wide) : ofNames [name] = name := by
  simp [ofNames]

/-- One more name stands behind a slash. -/
lemma ofNames_concat (hne : names ≠ []) (last : Wide) :
    ofNames (names ++ [last]) = ofNames names ++ slash :: last := by
  induction names with
  | nil => exact absurd rfl hne
  | cons name names ih =>
    cases names with
    | nil => simp [ofNames]
    | cons next names =>
      have hrest := ih (List.cons_ne_nil next names)
      simp only [ofNames, List.intercalate, List.cons_append, List.intersperse_cons_cons,
        List.flatten_cons, List.append_assoc] at hrest ⊢
      rw [hrest]

/-- The last character of names between slashes is no slash. -/
lemma getLast?_ofNames (hne : names ≠ []) (hnames : ∀ name ∈ names, Named name) :
    ∃ c, (ofNames names).getLast? = some c ∧ c ≠ slash := by
  obtain rfl | ⟨init, last, rfl⟩ := List.eq_nil_or_concat' names
  · exact absurd rfl hne
  · obtain ⟨hlast, hslash⟩ := hnames last (List.mem_append_right _ List.mem_cons_self)
    have hend : ∃ front, ofNames (init ++ [last]) = front ++ last := by
      obtain rfl | hinit := eq_or_ne init []
      · exact ⟨[], ofNames_singleton last⟩
      · refine ⟨ofNames init ++ [slash], ?_⟩
        rw [ofNames_concat hinit, List.append_assoc, List.singleton_append]
    obtain ⟨front, hfront⟩ := hend
    refine ⟨last.getLast hlast, ?_, ?_⟩
    · rw [hfront, List.getLast?_append, List.getLast?_eq_some_getLast hlast]
      rfl
    · intro hc
      exact hslash (hc ▸ List.getLast_mem hlast)

/-! The normal form of a path. -/

/-- A root is one slash or two. -/
lemma rootOf_eq (path : Wide) : rootOf path = [slash] ∨ rootOf path = [slash, slash] := by
  unfold rootOf
  split
  case h_1 => exact .inl rfl
  case h_2 => exact .inr rfl
  case h_3 => exact .inl rfl

/-- What follows a root starts at the root. -/
lemma isAbsolute_root_append (hroot : root = [slash] ∨ root = [slash, slash]) (rest : Wide) :
    isAbsolute (root ++ rest) = true := by
  obtain rfl | rfl := hroot <;> rfl

/-! The directory of a file. -/

/-- The directory ends at the last slash, which does not belong to it unless it is a root. -/
lemma parent_of_slash {dir last : Wide} (hlast : slash ∉ last) :
    parent (dir ++ slash :: last) =
      if (dir ++ [slash]).all (· == slash) then dir ++ [slash]
      else trimSlashes (dir ++ [slash]) := by
  have hhead : ((dir ++ slash :: last).reverse.dropWhile (· != slash)).reverse =
      dir ++ [slash] := by
    rw [List.reverse_append, List.reverse_cons, List.append_assoc, List.singleton_append,
      dropWhile_run, List.reverse_cons, List.reverse_reverse]
    · intro c hc
      rw [bne_iff_ne]
      rintro rfl
      exact hlast (List.mem_reverse.1 hc)
    · rintro _ ⟨⟩
      decide
  rw [parent, hhead]

/-- One slash is cut off where only one stands at the end. -/
lemma trimSlashes_concat {dir : Wide} {c : CodePoint} (hlast : dir.getLast? = some c)
    (hc : c ≠ slash) : trimSlashes (dir ++ [slash]) = dir := by
  rw [trimSlashes, List.reverse_append, dropWhile_run, List.reverse_reverse]
  · intro d hd
    exact beq_iff_eq.2 (List.mem_singleton.1 hd)
  · intro d hd
    rw [List.head?_reverse, hlast, Option.some.injEq] at hd
    rw [← hd]
    exact beq_eq_false_iff_ne.2 hc

/-- A root ends with a slash, and there is nothing else in it. -/
lemma exists_root_slash (hroot : root = [slash] ∨ root = [slash, slash]) :
    ∃ front, root = front ++ [slash] ∧ (front ++ [slash]).all (· == slash) = true := by
  obtain rfl | rfl := hroot
  · exact ⟨[], rfl, by decide⟩
  · exact ⟨[slash], rfl, by decide⟩

/-- The directory of a path that is a root and names is without the last name. -/
lemma parent_root_append (hroot : root = [slash] ∨ root = [slash, slash])
    (hnames : ∀ name ∈ names, Named name) :
    parent (root ++ ofNames names) = root ++ ofNames names.dropLast := by
  obtain ⟨front, hfront, hslashes⟩ := exists_root_slash hroot
  have hplain : ∀ last : Wide, slash ∉ last → parent (root ++ last) = root := by
    intro last hlast
    rw [hfront, List.append_assoc, List.singleton_append, parent_of_slash hlast, if_pos hslashes]
  obtain rfl | ⟨init, last, rfl⟩ := List.eq_nil_or_concat' names
  · exact (hplain [] List.not_mem_nil).trans (List.append_nil root).symm
  · have hlast := (hnames last (List.mem_append_right _ List.mem_cons_self)).2
    rw [List.dropLast_concat]
    obtain rfl | hinit := eq_or_ne init []
    · rw [List.nil_append, ofNames_singleton, hplain last hlast]
      exact (List.append_nil root).symm
    · obtain ⟨c, hc, hslash⟩ := getLast?_ofNames hinit
        fun name hname => hnames name (List.mem_append_left _ hname)
      have hend : (root ++ ofNames init).getLast? = some c := by
        rw [List.getLast?_append, hc]
        rfl
      rw [ofNames_concat hinit, ← List.append_assoc, parent_of_slash hlast, if_neg,
        trimSlashes_concat hend hslash]
      intro hall
      rw [List.all_append, Bool.and_eq_true] at hall
      exact hslash (beq_iff_eq.1 (List.all_eq_true.1 hall.1 c (List.mem_of_getLast? hend)))

/-- A path joined to a root and names stands behind them, as one more name. -/
lemma join_root_append (hroot : root = [slash] ∨ root = [slash, slash])
    (hnames : ∀ name ∈ names, Named name) (hextra : isAbsolute extra = false) :
    join (root ++ ofNames names) extra = root ++ ofNames (names ++ [extra]) := by
  obtain ⟨front, hfront, -⟩ := exists_root_slash hroot
  have hne : (root ++ ofNames names).isEmpty = false := by
    obtain rfl | rfl := hroot <;> rfl
  rw [join, hextra, hne, Bool.false_or, if_neg Bool.false_ne_true]
  obtain rfl | hnil := eq_or_ne names []
  · have hend : ((root ++ ofNames []).getLast? == some slash) = true := by
      obtain rfl | rfl := hroot <;> decide
    rw [if_pos hend, List.nil_append, ofNames_singleton]
    exact congrArg (· ++ extra) (List.append_nil root)
  · obtain ⟨c, hc, hslash⟩ := getLast?_ofNames hnil hnames
    have hend : (root ++ ofNames names).getLast? = some c := by
      rw [List.getLast?_append, hc]
      rfl
    rw [hend, if_neg, ofNames_concat hnil, List.append_assoc]
    rw [beq_iff_eq, Option.some.injEq]
    exact hslash

/-- A relative path joined to the directory of a file. -/
lemma join_parent (workingDirectory path : Wide) (hextra : isAbsolute extra = false) :
    join (parent (absolute workingDirectory path)) extra =
      rootOf (join workingDirectory path) ++
        ofNames ((steps (join workingDirectory path)).dropLast ++ [extra]) := by
  have hnamed : ∀ name ∈ steps (join workingDirectory path), Named name :=
    fun _ h => named_of_mem_steps h
  have habsolute : absolute workingDirectory path = rootOf (join workingDirectory path) ++
      ofNames (steps (join workingDirectory path)) := rfl
  rw [habsolute, parent_root_append (rootOf_eq _) hnamed,
    join_root_append (rootOf_eq _) (fun name h => hnamed name (List.dropLast_subset _ h)) hextra]

end Remap.Path
