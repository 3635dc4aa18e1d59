import Mathlib.Data.List.Basic
import Remap.Text.Search

/-!
# What a search finds

A search goes on after each match, so in general it may pass over a place where its reader would
have succeeded. A reader whose matches never overlap loses none: `mem_findAll` says that the search
finds exactly the places where such a reader succeeds. In any case the matches come in order and
apart from each other.
-/

namespace Remap.Text

variable {α : Type}

/-- The matches of the reader never overlap: where it has succeeded, it fails further inside. -/
structure Separated (read : Reader α) : Prop where
  nil : ∀ before, read before [] = none
  apart : ∀ {before inner after size value}, inner ≠ [] →
    read before (inner ++ after) = some (size, value) → inner.length < size →
    read inner.getLast? after = none

/-! One step of the search, where the reader fails and where it succeeds. -/

section Step

variable {read : Reader α} {before : Option Char} {pos size : Nat} {c : Char} {rest : List Char}
  {value : α}

/-- If nothing is read at a character the search goes on behind it. -/
lemma findFrom_cons_none (h : read before (c :: rest) = none) :
    findFrom read before pos 0 [] (c :: rest) = findFrom read (some c) (pos + 1) 0 [] rest := by
  rw [findFrom, h]

/-- What is read at a character is found, and what it covers is skipped. -/
lemma findFrom_cons_some (h : read before (c :: rest) = some (size, value)) :
    findFrom read before pos 0 [] (c :: rest) =
      ⟨pos, pos + size, value⟩ :: findFrom read (some c) (pos + 1) (size - 1) [] rest := by
  rw [findFrom, h]
  dsimp only
  rw [findFrom_eq_append, List.reverse_singleton, List.singleton_append]

end Step

/-- No match starts before the search does. -/
lemma le_start_of_mem_findFrom {read : Reader α} {text : List Char} {before : Option Char}
    {pos skip : Nat} {m : Match α} (h : m ∈ findFrom read before pos skip [] text) :
    pos + skip ≤ m.start := by
  induction text generalizing before pos skip with
  | nil => cases h
  | cons c rest ih =>
    cases skip with
    | succ left =>
      have hle := ih h
      omega
    | zero =>
      cases hr : read before (c :: rest) with
      | none =>
        rw [findFrom_cons_none hr] at h
        have hle := ih h
        omega
      | some found =>
        rw [findFrom_cons_some hr] at h
        obtain rfl | hm := List.mem_cons.1 h
        · exact Nat.le_refl _
        · have hle := ih hm
          omega

/-- What is found stands from left to right without overlaps. -/
lemma pairwise_findFrom (read : Reader α) (text : List Char) (before : Option Char)
    (pos skip : Nat) :
    (findFrom read before pos skip [] text).Pairwise
      fun a b => a.start < b.start ∧ a.stop ≤ b.start := by
  induction text generalizing before pos skip with
  | nil => exact .nil
  | cons c rest ih =>
    cases skip with
    | succ left => exact ih _ _ _
    | zero =>
      cases hr : read before (c :: rest) with
      | none =>
        rw [findFrom_cons_none hr]
        exact ih _ _ _
      | some found =>
        rw [findFrom_cons_some hr, List.pairwise_cons]
        refine ⟨?_, ih _ _ _⟩
        intro m hm
        have hle := le_start_of_mem_findFrom hm
        dsimp only
        omega

/-- What is found in a text stands from left to right without overlaps. -/
lemma pairwise_findAll (read : Reader α) (text : List Char) :
    (findAll read text).Pairwise fun a b => a.start < b.start ∧ a.stop ≤ b.start :=
  pairwise_findFrom read text none 0 0

/-- The reader makes the match at a place in the rest of a text, `skip` characters on or later. -/
def ReadsIn (read : Reader α) (before : Option Char) (pos skip : Nat) (text : List Char)
    (m : Match α) : Prop :=
  ∃ inner after, text = inner ++ after ∧ skip ≤ inner.length ∧ m.start = pos + inner.length ∧
    ∃ size, read (inner.getLast?.or before) after = some (size, m.value) ∧
      m.stop = m.start + size

/-- The character before a place further on does not depend on what stands before the text. -/
lemma getLast?_cons_or (before : Option Char) (c : Char) (inner : List Char) :
    (c :: inner).getLast?.or before = inner.getLast?.or (some c) := by
  rw [List.getLast?_cons]
  cases inner.getLast? <;> rfl

/-- Past the first character, a place is one in the rest. -/
lemma readsIn_cons_succ {read : Reader α} {before : Option Char} {pos left : Nat} {c : Char}
    {rest : List Char} {m : Match α} :
    ReadsIn read before pos (left + 1) (c :: rest) m ↔
      ReadsIn read (some c) (pos + 1) left rest m := by
  refine ⟨?_, ?_⟩
  · intro h
    obtain ⟨inner, after, htext, hskip, hstart, hread⟩ := h
    cases inner with
    | nil => simp at hskip
    | cons d inner =>
      rw [List.cons_append, List.cons_eq_cons] at htext
      obtain ⟨rfl, htext⟩ := htext
      rw [getLast?_cons_or] at hread
      rw [List.length_cons] at hskip hstart
      exact ⟨inner, after, htext, by omega, by omega, hread⟩
  · intro h
    obtain ⟨inner, after, rfl, hskip, hstart, hread⟩ := h
    rw [← getLast?_cons_or before] at hread
    refine ⟨c :: inner, after, rfl, ?_, ?_, hread⟩
    · rw [List.length_cons]
      omega
    · rw [List.length_cons]
      omega

/-- A place is the first one or further on. -/
lemma readsIn_cons_zero {read : Reader α} {before : Option Char} {pos : Nat} {c : Char}
    {rest : List Char} {m : Match α} :
    ReadsIn read before pos 0 (c :: rest) m ↔
      (m.start = pos ∧ ∃ size, read before (c :: rest) = some (size, m.value) ∧
        m.stop = m.start + size) ∨ ReadsIn read (some c) (pos + 1) 0 rest m := by
  rw [← @readsIn_cons_succ _ _ before]
  refine ⟨?_, ?_⟩
  · intro h
    obtain ⟨inner, after, htext, -, hstart, hread⟩ := h
    cases inner with
    | nil =>
      rw [List.nil_append] at htext
      subst htext
      exact .inl ⟨hstart, hread⟩
    | cons d inner => exact .inr ⟨d :: inner, after, htext, by simp, hstart, hread⟩
  · rintro (⟨hstart, hread⟩ | ⟨inner, after, htext, -, hstart, hread⟩)
    · exact ⟨[], c :: rest, rfl, Nat.le_refl _, hstart, hread⟩
    · exact ⟨inner, after, htext, Nat.zero_le _, hstart, hread⟩

/-- What is read behind skipped characters is read in the text. -/
lemma ReadsIn.of_skip {read : Reader α} {before : Option Char} {pos skip : Nat} {text : List Char}
    {m : Match α} (h : ReadsIn read before pos skip text m) : ReadsIn read before pos 0 text m := by
  obtain ⟨inner, after, htext, -, hstart, hread⟩ := h
  exact ⟨inner, after, htext, Nat.zero_le _, hstart, hread⟩

/-- From the start of a text, places are counted as its characters are. -/
lemma readsIn_start {read : Reader α} {text : List Char} {m : Match α} :
    ReadsIn read none 0 0 text m ↔
      ∃ before after, text = before ++ after ∧ m.start = before.length ∧ ∃ size,
        read before.getLast? after = some (size, m.value) ∧ m.stop = m.start + size := by
  simp only [ReadsIn, Option.or_none, Nat.zero_le, Nat.zero_add, true_and]

/-- What is found is read where it is found. -/
lemma readsIn_of_mem_findFrom {read : Reader α} {text : List Char} {before : Option Char}
    {pos skip : Nat} {m : Match α} (h : m ∈ findFrom read before pos skip [] text) :
    ReadsIn read before pos skip text m := by
  induction text generalizing before pos skip with
  | nil => cases h
  | cons c rest ih =>
    cases skip with
    | succ left => exact readsIn_cons_succ.2 (ih h)
    | zero =>
      rw [readsIn_cons_zero]
      cases hr : read before (c :: rest) with
      | none =>
        rw [findFrom_cons_none hr] at h
        exact .inr (ih h)
      | some found =>
        rw [findFrom_cons_some hr] at h
        obtain rfl | hm := List.mem_cons.1 h
        · exact .inl ⟨rfl, found.1, rfl, rfl⟩
        · exact .inr (ih hm).of_skip

/-- What is found is read at its place. -/
lemma exists_of_mem_findAll {read : Reader α} {text : List Char} {m : Match α}
    (h : m ∈ findAll read text) :
    ∃ before after, text = before ++ after ∧ m.start = before.length ∧ ∃ size,
      read before.getLast? after = some (size, m.value) ∧ m.stop = m.start + size :=
  readsIn_start.1 (readsIn_of_mem_findFrom h)

/-! Readers whose matches never overlap. -/

/-- Where a match has been made, the reader fails until its end. -/
lemma Separated.readsIn_of_some {read : Reader α} (sep : Separated read) {before : Option Char}
    {pos size : Nat} {c : Char} {rest : List Char} {value : α} {m : Match α}
    (h : read before (c :: rest) = some (size, value))
    (h' : ReadsIn read (some c) (pos + 1) 0 rest m) :
    ReadsIn read (some c) (pos + 1) (size - 1) rest m := by
  obtain ⟨inner, after, rfl, -, hstart, n, hread, hstop⟩ := h'
  refine ⟨inner, after, rfl, ?_, hstart, n, hread, hstop⟩
  -- a match before the end would start inside the one that has been made
  by_contra hlt
  have hlt' : (c :: inner).length < size := by
    rw [List.length_cons]
    omega
  have hnone := sep.apart (List.cons_ne_nil c inner) h hlt'
  rw [← getLast?_cons_or none, Option.or_none, hnone] at hread
  cases hread

/-- Found is all that is read, if no match starts inside another. -/
lemma mem_findFrom {read : Reader α} (sep : Separated read) {text : List Char}
    {before : Option Char} {pos skip : Nat} {m : Match α} :
    m ∈ findFrom read before pos skip [] text ↔ ReadsIn read before pos skip text m := by
  refine ⟨readsIn_of_mem_findFrom, ?_⟩
  intro h
  induction text generalizing before pos skip with
  | nil =>
    obtain ⟨inner, after, htext, -, -, size, hread, -⟩ := h
    obtain ⟨rfl, rfl⟩ := List.nil_eq_append_iff.1 htext
    rw [sep.nil] at hread
    cases hread
  | cons c rest ih =>
    cases skip with
    -- inside a match the search passes on
    | succ left => exact ih (readsIn_cons_succ.1 h)
    | zero =>
      rw [readsIn_cons_zero] at h
      cases hr : read before (c :: rest) with
      | none =>
        rw [findFrom_cons_none hr]
        obtain ⟨-, size, hread, -⟩ | hlater := h
        · rw [hr] at hread
          cases hread
        · exact ih hlater
      | some found =>
        rw [findFrom_cons_some hr]
        obtain ⟨hstart, size, hread, hstop⟩ | hlater := h
        · obtain ⟨start, stop, value⟩ := m
          dsimp only at hstart hread hstop
          rw [hr] at hread
          cases hread
          rw [hstop, hstart]
          exact List.mem_cons_self
        · exact List.mem_cons_of_mem _ (ih (sep.readsIn_of_some hr hlater))

/-- The search finds exactly the places at which a reader with separate matches succeeds. -/
lemma mem_findAll {read : Reader α} (sep : Separated read) {text : List Char} {m : Match α} :
    m ∈ findAll read text ↔
      ∃ before after, text = before ++ after ∧ m.start = before.length ∧ ∃ size,
        read before.getLast? after = some (size, m.value) ∧ m.stop = m.start + size :=
  (mem_findFrom sep).trans readsIn_start

/-! Readers whose matches may overlap. -/

/-- A match starts at a place or holds it. -/
def Match.Covers (m : Match α) (place : Nat) : Prop :=
  m.start = place ∨ m.start < place ∧ place < m.stop

/-- A place where the reader succeeds is in a match, unless the search starts behind it. -/
lemma covers_of_read {read : Reader α} {inner rest : List Char} {before : Option Char}
    {pos skip : Nat} {c : Char} {found : Nat × α}
    (h : read (inner.getLast?.or before) (c :: rest) = some found) :
    inner.length < skip ∨ ∃ m ∈ findFrom read before pos skip [] (inner ++ c :: rest),
      m.Covers (pos + inner.length) := by
  induction inner generalizing before pos skip with
  | nil =>
    cases skip with
    | succ left => exact .inl (Nat.succ_pos left)
    | zero =>
      rw [List.getLast?_nil, Option.none_or] at h
      rw [List.nil_append, findFrom_cons_some h]
      exact .inr ⟨_, List.mem_cons_self, .inl rfl⟩
  | cons d inner ih =>
    rw [getLast?_cons_or] at h
    have hplace : pos + (inner.length + 1) = pos + 1 + inner.length := by omega
    rw [List.cons_append, List.length_cons, hplace]
    cases skip with
    | succ left =>
      obtain hlt | hm := @ih (some d) (pos + 1) left h
      · exact .inl (Nat.succ_lt_succ hlt)
      · exact .inr hm
    | zero =>
      cases hr : read before (d :: (inner ++ c :: rest)) with
      | none =>
        rw [findFrom_cons_none hr]
        obtain hlt | hm := @ih (some d) (pos + 1) 0 h
        · exact absurd hlt (Nat.not_lt_zero _)
        · exact .inr hm
      | some made =>
        rw [findFrom_cons_some hr]
        -- the place is in the match that has just been made, or the search goes on before it
        obtain hlt | ⟨m, hm, hcovers⟩ := @ih (some d) (pos + 1) (made.1 - 1) h
        · refine .inr ⟨_, List.mem_cons_self, .inr ⟨?_, ?_⟩⟩
          · dsimp only
            omega
          · dsimp only
            omega
        · exact .inr ⟨m, List.mem_cons_of_mem _ hm, hcovers⟩

/-- A place where the reader succeeds is in a match that the search finds. -/
lemma exists_covers {read : Reader α} {before rest : List Char} {c : Char} {found : Nat × α}
    (h : read before.getLast? (c :: rest) = some found) :
    ∃ m ∈ findAll read (before ++ c :: rest), m.Covers before.length := by
  rw [← @Option.or_none _ before.getLast?] at h
  obtain hlt | ⟨m, hm, hcovers⟩ := @covers_of_read _ read before rest none 0 0 c found h
  · exact absurd hlt (Nat.not_lt_zero _)
  · rw [Nat.zero_add] at hcovers
    exact ⟨m, hm, hcovers⟩

/-! Patterns. -/

/-- A pattern has an offset in the rest of a text exactly if it is a part of it. -/
lemma isSome_offsetFrom (pattern : List Char) (pos : Nat) (text : List Char) :
    (offsetFrom pattern pos text).isSome = true ↔ pattern <:+: text := by
  induction text generalizing pos with
  | nil => simp [offsetFrom]
  | cons c rest ih =>
    rw [offsetFrom, List.infix_cons_iff]
    split
    · next h =>
      simp [List.isPrefixOf_iff_prefix.1 h]
    · next h =>
      rw [ih, ← List.isPrefixOf_iff_prefix]
      simp [h]

/-- At the offset of a pattern stands the pattern. -/
lemma exists_of_offsetFrom {pattern text : List Char} {pos n : Nat}
    (h : offsetFrom pattern pos text = some n) :
    ∃ before after, text = before ++ (pattern ++ after) ∧ n = pos + before.length := by
  induction text generalizing pos with
  | nil =>
    rw [offsetFrom, Option.ite_none_right_eq_some, List.isEmpty_iff] at h
    obtain ⟨rfl, heq⟩ := h
    cases heq
    exact ⟨[], [], rfl, rfl⟩
  | cons c rest ih =>
    rw [offsetFrom] at h
    split at h
    case isTrue hstart =>
      obtain ⟨after, hafter⟩ := List.isPrefixOf_iff_prefix.1 hstart
      cases h
      exact ⟨[], after, hafter.symm, rfl⟩
    case isFalse =>
      obtain ⟨before, after, rfl, rfl⟩ := ih h
      refine ⟨c :: before, after, rfl, ?_⟩
      rw [List.length_cons]
      omega

/-- A pattern occurs in a text exactly if it is a part of it. -/
lemma occurs_iff (pattern text : List Char) : occurs pattern text = true ↔ pattern <:+: text :=
  isSome_offsetFrom pattern 0 text

end Remap.Text
