import Remap.Proofs.Text.Search
import Remap.Proofs.Text.Word

/-!
# Searches and margins

Blanks in front of a text move what a search finds in it, and blanks behind the text change nothing,
if blanks mean nothing to the reader there. For a fixed pattern this is so if it holds no blanks.
-/

namespace Remap.Text

variable {α : Type} {pad core tail : List Char}

/-- The match, some characters further on. -/
def Match.shift (k : Nat) (m : Match α) : Match α :=
  ⟨m.start + k, m.stop + k, m.value⟩

/-- Where a search starts does not matter to what it finds, but for the place. -/
lemma findFrom_shift (read : Reader α) (before : Option Char) (pos skip k : Nat)
    (text : List Char) :
    findFrom read before (pos + k) skip [] text =
      (findFrom read before pos skip [] text).map (Match.shift k) := by
  induction text generalizing before pos skip with
  | nil => rfl
  | cons c rest ih =>
    have hrest : ∀ skip, findFrom read (some c) (pos + k + 1) skip [] rest =
        (findFrom read (some c) (pos + 1) skip [] rest).map (Match.shift k) := by
      intro skip
      rw [Nat.add_right_comm, ih]
    cases skip with
    | succ left => exact hrest left
    | zero =>
      cases hr : read before (c :: rest) with
      | none =>
        rw [findFrom_cons_none hr, findFrom_cons_none hr]
        exact hrest 0
      | some found =>
        rw [findFrom_cons_some hr, findFrom_cons_some hr, hrest, List.map_cons, Match.shift,
          Nat.add_right_comm]

/-- Blanks around a text mean nothing to the reader. -/
structure IgnoresMargin (read : Reader α) : Prop where
  blank : ∀ before rest {c}, isBlank c = true → read before (c :: rest) = none
  boundary : ∀ text {c}, isBlank c = true → read (some c) text = read none text
  tail : ∀ before text {tail}, AllBlank tail → read before (text ++ tail) = read before text

namespace IgnoresMargin

variable {read : Reader α}

/-- Blanks in front of a text are passed over, like the start of a text. -/
lemma findFrom_pad (h : IgnoresMargin read) (hpad : AllBlank pad) {before : Option Char}
    (hbefore : ∀ text, read before text = read none text) (pos : Nat) (text : List Char) :
    findFrom read before pos 0 [] (pad ++ text) =
      findFrom read none (pos + pad.length) 0 [] text := by
  induction pad generalizing before pos with
  -- only the first character of the text is read with the one before it
  | nil =>
    cases text with
    | nil => rfl
    | cons c rest =>
      rw [List.nil_append, findFrom, findFrom, hbefore]
      rfl
  | cons b pad ih =>
    have hb : isBlank b = true := hpad b List.mem_cons_self
    have hrest : AllBlank pad := fun c hc => hpad c (List.mem_cons_of_mem b hc)
    rw [List.cons_append, findFrom_cons_none (h.blank before (pad ++ text) hb),
      ih hrest fun text => h.boundary text hb, List.length_cons, Nat.add_assoc, Nat.add_comm 1]

/-- Nothing is found in blanks. -/
lemma findFrom_blanks (h : IgnoresMargin read) (htail : AllBlank tail) (before : Option Char)
    (pos skip : Nat) : findFrom read before pos skip [] tail = [] := by
  induction tail generalizing before pos skip with
  | nil => rfl
  | cons b tail ih =>
    have hrest : AllBlank tail := fun c hc => htail c (List.mem_cons_of_mem b hc)
    cases skip with
    | succ left => exact ih hrest _ _ _
    | zero =>
      rw [findFrom_cons_none (h.blank before tail (htail b List.mem_cons_self))]
      exact ih hrest _ _ _

/-- Blanks at the end of a text add nothing to what is found. -/
lemma findFrom_tail (h : IgnoresMargin read) (htail : AllBlank tail) (before : Option Char)
    (pos skip : Nat) (text : List Char) :
    findFrom read before pos skip [] (text ++ tail) = findFrom read before pos skip [] text := by
  induction text generalizing before pos skip with
  | nil => exact h.findFrom_blanks htail before pos skip
  | cons c rest ih =>
    cases skip with
    | succ left => exact ih _ _ _
    | zero =>
      have hread : read before (c :: (rest ++ tail)) = read before (c :: rest) :=
        h.tail before (c :: rest) htail
      rw [List.cons_append]
      cases hr : read before (c :: rest) with
      | none =>
        rw [findFrom_cons_none hr, findFrom_cons_none (hread.trans hr)]
        exact ih _ _ _
      | some found =>
        rw [findFrom_cons_some hr, findFrom_cons_some (hread.trans hr), ih]

/-- A search in a text with blanks around it finds what it finds in the text, further on. -/
lemma findAll_margin (h : IgnoresMargin read) (hpad : AllBlank pad) (htail : AllBlank tail)
    (core : List Char) :
    findAll read (pad ++ (core ++ tail)) = (findAll read core).map (Match.shift pad.length) := by
  rw [findAll, h.findFrom_pad hpad (fun _ => rfl), findFrom_shift, h.findFrom_tail htail, findAll]

end IgnoresMargin

/-! Patterns without blanks. -/

/-- A pattern that holds characters, none of them blank. -/
structure Solid (pattern : List Char) : Prop where
  nonempty : pattern ≠ []
  isBlank : ∀ c ∈ pattern, isBlank c = false

variable {pattern : List Char}

/-- A pattern without blanks is solid. -/
lemma solid_of_all (hne : pattern ≠ []) (h : pattern.all (fun c => !isBlank c) = true) :
    Solid pattern where
  nonempty := hne
  isBlank c hc := by
    rw [List.all_eq_true] at h
    rw [← Bool.not_eq_true', h c hc]

/-- An offset counts from where the search starts. -/
lemma offsetFrom_shift (pattern : List Char) (pos k : Nat) (text : List Char) :
    offsetFrom pattern (pos + k) text = (offsetFrom pattern pos text).map (· + k) := by
  induction text generalizing pos with
  | nil =>
    rw [offsetFrom, offsetFrom]
    split <;> rfl
  | cons c rest ih =>
    rw [offsetFrom, offsetFrom]
    split
    · rfl
    · rw [Nat.add_right_comm, ih]

/-- A solid pattern does not start with a blank. -/
lemma Solid.isPrefixOf_blank (h : Solid pattern) {b : Char} (hb : Text.isBlank b = true)
    (text : List Char) : pattern.isPrefixOf (b :: text) = false := by
  cases pattern with
  | nil => exact absurd rfl h.nonempty
  | cons c rest =>
    have hne : c ≠ b := by
      rintro rfl
      rw [h.isBlank c List.mem_cons_self] at hb
      cases hb
    rw [List.isPrefixOf_cons_cons, beq_eq_false_iff_ne.2 hne, Bool.false_and]

/-- A pattern that starts a text with blanks behind it ends before these. -/
lemma Solid.isPrefixOf_tail (h : Solid pattern) (htail : AllBlank tail) (text : List Char) :
    pattern.isPrefixOf (text ++ tail) = pattern.isPrefixOf text := by
  rw [Bool.eq_iff_iff, List.isPrefixOf_iff_prefix, List.isPrefixOf_iff_prefix]
  refine ⟨?_, fun hp => hp.trans (List.prefix_append _ _)⟩
  intro hp
  obtain ⟨more, hmore⟩ := hp
  -- a pattern that is longer than the text would hold one of the blanks
  obtain ⟨inner, rfl, -⟩ | ⟨inner, rfl, htext⟩ := List.append_eq_append_iff.1 hmore
  · exact List.prefix_append _ _
  · cases inner with
    | nil => simp
    | cons b inner =>
      have hb := h.isBlank b (by simp)
      rw [htail b (by simp [htext])] at hb
      cases hb

/-- Blanks before a text move the offset of a solid pattern. -/
lemma Solid.offsetFrom_pad (h : Solid pattern) (hpad : AllBlank pad) (pos : Nat)
    (text : List Char) :
    offsetFrom pattern pos (pad ++ text) = offsetFrom pattern (pos + pad.length) text := by
  induction pad generalizing pos with
  | nil => rfl
  | cons b pad ih =>
    have hrest : AllBlank pad := fun c hc => hpad c (List.mem_cons_of_mem b hc)
    rw [List.cons_append, offsetFrom, h.isPrefixOf_blank (hpad b List.mem_cons_self),
      if_neg Bool.false_ne_true, ih hrest, List.length_cons, Nat.add_assoc, Nat.add_comm 1]

/-- Blanks behind a text do nothing to the offset of a solid pattern. -/
lemma Solid.offsetFrom_tail (h : Solid pattern) (htail : AllBlank tail) (pos : Nat)
    (text : List Char) : offsetFrom pattern pos (text ++ tail) = offsetFrom pattern pos text := by
  induction text generalizing pos with
  | nil =>
    have hpad := h.offsetFrom_pad htail pos []
    rw [List.append_nil] at hpad
    rw [List.nil_append, hpad, offsetFrom, offsetFrom, if_neg, if_neg]
    · exact fun hnil => h.nonempty (List.isEmpty_iff.1 hnil)
    · exact fun hnil => h.nonempty (List.isEmpty_iff.1 hnil)
  | cons c rest ih =>
    have hstart := h.isPrefixOf_tail htail (c :: rest)
    rw [List.cons_append] at hstart ⊢
    rw [offsetFrom, offsetFrom, hstart, ih]

/-- A pattern without blanks is found further on behind blanks. -/
lemma Solid.offset?_margin (h : Solid pattern) (hpad : AllBlank pad) (htail : AllBlank tail)
    (core : List Char) :
    offset? pattern (pad ++ (core ++ tail)) = (offset? pattern core).map (· + pad.length) := by
  rw [offset?, h.offsetFrom_pad hpad, offsetFrom_shift, h.offsetFrom_tail htail, offset?]

/-- Blanks around a text do not change whether a solid pattern occurs. -/
lemma Solid.occurs_margin (h : Solid pattern) (hpad : AllBlank pad) (htail : AllBlank tail)
    (core : List Char) : occurs pattern (pad ++ (core ++ tail)) = occurs pattern core := by
  rw [occurs, h.offset?_margin hpad htail, Option.isSome_map, occurs]

end Remap.Text
