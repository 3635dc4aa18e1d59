import Remap.Proofs.Server.Reply
import Remap.Proofs.Text.Utf8

/-!
# Validating files

A file is validated exactly if it can be opened, has no null byte near its start and is not too
large; it is then validated like a document with the text that its bytes spell. `validateFile_exact`
says so, and that the server stays as it is when a file is refused.
-/

namespace Remap

open Text

/-- The path leads to a file, which can be opened and has these bytes. -/
def FileTree.Opens (tree : FileTree) (path : String) (bytes : List UInt8) : Prop :=
  tree.resolve path = .ok (.file (some bytes))

/-- A file opens if it is there and can be read. -/
lemma FileTree.opens_iff {tree : FileTree} {path : String} {bytes : List UInt8} :
    tree.Opens path bytes ↔ tree.isFile path = true ∧ tree.read path = .ok bytes := by
  rw [Opens, isFile, read]
  cases tree.resolve path with
  | error error => exact ⟨nofun, fun h => absurd h.1 Bool.false_ne_true⟩
  | ok node =>
    cases node with
    | directory => exact ⟨nofun, fun h => absurd h.1 Bool.false_ne_true⟩
    | file content =>
      cases content with
      | none => exact ⟨nofun, fun h => nomatch h.2⟩
      | some found =>
        refine ⟨?_, ?_⟩
        · intro h
          cases h
          exact ⟨rfl, rfl⟩
        · intro h
          cases h.2
          rfl

/-- The bytes can be validated: none of the first 8192 is null, and there are not too many. -/
structure Validatable (bytes : List UInt8) : Prop where
  noNull : ∀ b ∈ bytes.take 8192, b ≠ 0
  small : bytes.length ≤ 5000000

namespace Server

variable {tree : FileTree} {s : Server} {path : String} {bytes : List UInt8} {text : List Char}

/-- Bytes can be validated unless they are binary or too many. -/
lemma validatable_iff :
    Validatable bytes ↔
      ¬ ((bytes.take binaryProbe).contains 0 = true ∨ maxFileBytes < bytes.length) := by
  rw [not_or, Nat.not_lt, List.contains_iff_mem]
  refine ⟨?_, ?_⟩
  · intro h
    exact ⟨fun hnull => h.noNull 0 hnull rfl, h.small⟩
  · intro h
    exact ⟨fun b hb hnull => h.1 (hnull ▸ hb), h.2⟩

/-- The text of a file is what its bytes spell, if the file can be opened and validated. -/
lemma fileText?_eq_some_iff :
    fileText? tree path = some text ↔
      ∃ bytes, tree.Opens path bytes ∧ Validatable bytes ∧ Utf8.Spells bytes text := by
  simp only [FileTree.opens_iff, validatable_iff, Utf8.spells_iff]
  refine ⟨?_, ?_⟩
  · intro h
    rw [fileText?] at h
    split at h
    case isFalse => cases h
    case isTrue hfile =>
      cases hread : tree.read path with
      | error error =>
        rw [hread] at h
        cases h
      | ok bytes =>
        rw [hread] at h
        dsimp only at h
        rw [Option.ite_none_left_eq_some] at h
        obtain ⟨hvalid, htext⟩ := h
        exact ⟨bytes, ⟨hfile, rfl⟩, hvalid, Option.some.inj htext⟩
  · intro h
    obtain ⟨bytes, ⟨hfile, hread⟩, hvalid, rfl⟩ := h
    rw [fileText?, if_pos hfile, hread]
    exact if_neg hvalid

/-- A file is validated like a document with the text that its bytes spell. -/
lemma validateFile_of_opens (hopens : tree.Opens path bytes) (hvalid : Validatable bytes)
    (htext : Utf8.Spells bytes text) :
    s.validateFile tree path = s.validateText text path := by
  have hfound : fileText? tree path = some text :=
    fileText?_eq_some_iff.2 ⟨bytes, hopens, hvalid, htext⟩
  obtain ⟨text', htext', heq⟩ | ⟨hnone, -⟩ := validateFile_cases tree s path
  · rw [hfound] at htext'
    cases htext'
    exact heq
  · rw [hfound] at hnone
    cases hnone

/-- A file that cannot be opened or validated is refused. -/
lemma validateFile_of_not (h : ¬ ∃ bytes, tree.Opens path bytes ∧ Validatable bytes) :
    (s.validateFile tree path).reply.IsError ∧ (s.validateFile tree path).server = s := by
  obtain ⟨text, htext, -⟩ | ⟨-, hserver, herror⟩ := validateFile_cases tree s path
  · obtain ⟨bytes, hopens, hvalid, -⟩ := fileText?_eq_some_iff.1 htext
    exact absurd ⟨bytes, hopens, hvalid⟩ h
  · exact ⟨herror, hserver⟩

/--
A file is validated if and only if it can be opened, none of its first 8192 bytes is null, and it
has at most 5000000 bytes. It is then validated in all respects like the document with the text that
its bytes spell, which is the text that they are written from if there is one. Otherwise the answer
is an error, and the server stays as it is.
-/
theorem validateFile_exact (tree : FileTree) (s : Server) (path : String) :
    let response := s.run tree (.validateFile path)
    ((∃ text, response = s.run tree (.validateDocument (.text text) path)) ↔
        ∃ bytes, tree.Opens path bytes ∧ Validatable bytes) ∧
      (∀ bytes, tree.Opens path bytes → Validatable bytes →
        ∃ text, (∀ other, Utf8.Spells bytes other ↔ other = text) ∧
          (∀ given, bytes = Utf8.encode given → text = given) ∧
          response = s.run tree (.validateDocument (.text text) path)) ∧
      ((¬ ∃ bytes, tree.Opens path bytes ∧ Validatable bytes) →
        response.reply.IsError ∧ response.server = s) := by
  intro response
  have hvalidated : ∀ bytes, tree.Opens path bytes → Validatable bytes →
      response = s.run tree (.validateDocument (.text (Utf8.decodeLossy bytes)) path) :=
    fun bytes hopens hvalid => validateFile_of_opens hopens hvalid (Utf8.spells_iff.2 rfl)
  refine ⟨⟨?_, ?_⟩, ?_, validateFile_of_not⟩
  · intro h
    obtain ⟨text, heq⟩ := h
    by_contra hnone
    -- a report is not an error
    have herror : response.reply.IsError := (validateFile_of_not hnone).1
    rw [heq] at herror
    exact not_isError_report _ _ herror
  · intro h
    obtain ⟨bytes, hopens, hvalid⟩ := h
    exact ⟨_, hvalidated bytes hopens hvalid⟩
  · intro bytes hopens hvalid
    refine ⟨Utf8.decodeLossy bytes, ?_, ?_, hvalidated bytes hopens hvalid⟩
    · intro other
      rw [Utf8.spells_iff, eq_comm]
    · intro given hgiven
      rw [hgiven]
      exact (Utf8.spells_encode given).decodeLossy

/-- A file with a byte that begins no character, and one with a null byte. -/
theorem validateFile_exact_two_files :
    let bytes := Utf8.encode ".a = b)".toList ++ [0xFF]
    let tree : FileTree := ⟨[⟨["a.vrl"], some bytes⟩, ⟨["b.vrl"], some [0x61, 0]⟩], [], []⟩
    tree.Opens "/a.vrl" bytes ∧ Validatable bytes ∧
      start.run tree (.validateFile "/a.vrl") =
        start.run tree (.validateDocument (.text ".a = b)\uFFFD".toList) "/a.vrl") ∧
      (start.run tree (.validateFile "/b.vrl")).reply.IsError ∧
      (start.run tree (.validateFile "/b.vrl")).server = start := by
  intro bytes tree
  have hopens : tree.Opens "/a.vrl" bytes := rfl
  have hvalid : Validatable bytes := validatable_iff.2 (by decide)
  have hspells : Utf8.Spells bytes ".a = b)\uFFFD".toList := Utf8.spells_iff.2 (by decide)
  obtain ⟨-, hvalidated, -⟩ := validateFile_exact tree start "/a.vrl"
  obtain ⟨text, htext, -, heq⟩ := hvalidated bytes hopens hvalid
  rw [← (htext _).1 hspells] at heq
  have hnull : ¬ ∃ bytes, tree.Opens "/b.vrl" bytes ∧ Validatable bytes := by
    intro h
    obtain ⟨found, hfound, hvalid⟩ := h
    have hopens : tree.Opens "/b.vrl" [0x61, 0] := rfl
    rw [FileTree.Opens, hopens] at hfound
    cases hfound
    exact hvalid.noNull 0 (by decide) rfl
  obtain ⟨-, -, hrefused⟩ := validateFile_exact tree start "/b.vrl"
  exact ⟨hopens, hvalid, heq, hrefused hnull⟩

end Server

end Remap
