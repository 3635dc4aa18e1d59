import Remap.Proofs.Server.Step

/-!
# Refusals

A command that cannot do what it is told answers with a text that starts with the word `Error`, and
leaves the server as it is. A configuration is refused exactly if it cannot be loaded, a file
exactly if it holds no text that can be validated. All other answers start in another way.
-/

namespace Remap

/-- The answer is a text that starts with the word `Error`. -/
def Reply.IsError (reply : Reply) : Prop :=
  ∃ rest, reply = .text ("Error" ++ rest)

/-- A text that starts with another letter is no error. -/
lemma Reply.not_isError_of_head {message : String} {c : Char} (h : message.toList.head? = some c)
    (hc : c ≠ 'E') : ¬ (Reply.text message).IsError := by
  intro herror
  obtain ⟨rest, heq⟩ := herror
  cases heq
  rw [String.toList_append, List.head?_append] at h
  cases h
  exact hc rfl

/-- A report on a document starts with the word `No` or with the sign of bold print. -/
lemma not_isError_report (found : List Diagnostic) (title : String) :
    ¬ (Reply.text (report found title)).IsError := by
  rw [report]
  split
  · apply @Reply.not_isError_of_head _ 'N' _ (by decide)
    simp only [String.toList_append, List.head?_append]
    rfl
  · apply @Reply.not_isError_of_head _ '*' _ (by decide)
    simp only [String.toList_append, List.head?_append]
    rfl

namespace Server

variable {tree : FileTree} {s : Server} {path : String}

/-- The text that a file holds, if the file can be read, is no binary one and is not too large. -/
def fileText? (tree : FileTree) (path : String) : Option (List Char) :=
  if tree.isFile path then
    match tree.read path with
    | .error _ => none
    | .ok bytes =>
      if (bytes.take binaryProbe).contains 0 ∨ maxFileBytes < bytes.length then none
      else some (Text.Utf8.decodeLossy bytes)
  else none

/-- What is read of a file holds the bytes that are probed. -/
lemma take_binaryProbe_take (bytes : List UInt8) :
    (bytes.take (maxFileBytes + 1)).take binaryProbe = bytes.take binaryProbe := by
  rw [List.take_take, Nat.min_eq_left (by decide)]

/-- What is read of a file shows whether it is too long. -/
lemma lt_length_take_iff (bytes : List UInt8) :
    maxFileBytes < (bytes.take (maxFileBytes + 1)).length ↔ maxFileBytes < bytes.length := by
  rw [List.length_take]
  omega

/-- A file is validated like a document with its text, or refused. -/
lemma validateFile_cases (tree : FileTree) (s : Server) (path : String) :
    (∃ text, fileText? tree path = some text ∧
        s.validateFile tree path = s.validateText text path) ∨
      (fileText? tree path = none ∧ (s.validateFile tree path).server = s ∧
        (s.validateFile tree path).reply.IsError) := by
  rw [fileText?, validateFile]
  split
  case isFalse => exact .inr ⟨rfl, rfl, ": File not found at " ++ path, rfl⟩
  case isTrue =>
    rw [FileTree.readStart]
    cases tree.read path with
    | error error =>
      refine .inr ⟨rfl, rfl, ": Cannot read " ++ path ++ ": " ++ error.message path, ?_⟩
      simp only [Except.map, ← String.append_assoc]
      rfl
    | ok bytes =>
      simp only [Except.map, take_binaryProbe_take, lt_length_take_iff]
      by_cases hbinary : (bytes.take binaryProbe).contains 0 = true
      · simp only [hbinary, true_or, if_true]
        refine .inr ⟨trivial, trivial, ": " ++ path ++ " looks like a binary file", ?_⟩
        simp only [← String.append_assoc]
        rfl
      · by_cases hlarge : maxFileBytes < bytes.length
        · simp only [hbinary, hlarge, or_true, if_true]
          refine .inr ⟨trivial, rfl,
            ": " ++ path ++ " exceeds " ++ toString maxFileBytes ++ " bytes", ?_⟩
          simp only [say, ← String.append_assoc]
          rfl
        · have hwhole : bytes.take (maxFileBytes + 1) = bytes :=
            List.take_of_length_le (Nat.le_succ_of_le (Nat.le_of_not_lt hlarge))
          simp only [hbinary, hlarge, if_false, hwhole]
          exact .inl ⟨_, rfl, rfl⟩

/-- A file is refused exactly if it holds no text that can be validated. -/
lemma isError_validateFile_iff :
    (s.validateFile tree path).reply.IsError ↔ fileText? tree path = none := by
  obtain ⟨text, htext, heq⟩ | ⟨hnone, -, herror⟩ := validateFile_cases tree s path
  · rw [heq, htext]
    exact iff_of_false (not_isError_report _ _) (Option.some_ne_none text)
  · exact iff_of_true herror hnone

/-- The text of a file is decoded from its bytes. -/
lemma bytes_of_fileText? {text : List Char} (h : fileText? tree path = some text) :
    ∃ bytes, tree.read path = .ok bytes ∧ text = Text.Utf8.decodeLossy bytes := by
  rw [fileText?] at h
  split at h
  case isFalse => cases h
  case isTrue =>
    cases hread : tree.read path with
    | error error =>
      rw [hread] at h
      cases h
    | ok bytes =>
      rw [hread] at h
      dsimp only at h
      rw [Option.ite_none_left_eq_some] at h
      obtain ⟨-, heq⟩ := h
      cases heq
      exact ⟨bytes, rfl, rfl⟩

end Server

end Remap
