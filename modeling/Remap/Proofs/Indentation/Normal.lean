import Remap.Proofs.Indentation
import Remap.Server.Command

/-!
# Indented documents

An indented document depends on the contents of the lines only, and has the same contents. So it
does not matter how a document was indented before, and an indented document stays as it is.
`indent_normalizes` says so of every number of spaces and of what the server answers.
-/

namespace Remap

open Text

namespace Indentation

variable {text other : List Char} {ls ls' : List (List Char)}

/-- A line is placed by its content. -/
lemma place_trim (state : State) (line : List Char) :
    state.place (trim line) = state.place line := by
  rw [State.place, State.place, trim_trim]

/-- Lines are placed by their contents. -/
lemma place_map_trim (ls : List (List Char)) : place (ls.map trim) = place ls := by
  have hplace : (fun (state : State) line => state.place (trim line)) = State.place := by
    funext state line
    exact place_trim state line
  rw [place, List.foldl_map, hplace, place]

/-- Lines with the same contents have the same levels. -/
lemma place_congr (h : ls.map trim = ls'.map trim) : place ls = place ls' := by
  rw [← place_map_trim, h, place_map_trim]

/-- Documents with the same contents are indented alike. -/
lemma indented_congr (h : (lines text).map trim = (lines other).map trim) (size : Int) :
    indented size text = indented size other := by
  rw [indented, place_congr h, indented]

/-- Documents with the same contents are the same when they are indented, or cannot be. -/
lemma indent_congr (h : (lines text).map trim = (lines other).map trim) (size : Int) :
    indent size text = indent size other := by
  rw [indent, indent, fault?, place_congr h, ← fault?, indented_congr h]

/-- A document that has been indented is indented like the original. -/
lemma indented_indented (size size' : Int) (text : List Char) :
    indented size' (indented size text) = indented size' text :=
  (indented_congr (map_trim_lines_indented size text) size').symm

/-- If a document could be indented, the result is indented like the original. -/
lemma indent_of_indent {size : Int} (h : indent size text = .ok other) (size' : Int) :
    indent size' other = indent size' text := by
  obtain ⟨rfl, -⟩ := (indent_eq_ok_iff size text other).1 h
  exact (indent_congr (map_trim_lines_indented size text) size').symm

end Indentation

namespace Server

/-- A document to be formatted is answered with its formatted text. -/
lemma run_formatDocument (tree : FileTree) (s : Server) (text : List Char) :
    s.run tree (.formatDocument text) = s.say (s.formatText text) := rfl

/-- The server leaves an indented document as it is. -/
lemma formatText_indented (s : Server) (text : List Char) :
    s.formatText (Indentation.indented s.config.indentSize text) =
      "Document is already formatted." := by
  rw [formatText, Indentation.indented_indented, if_pos rfl]

/-- An answer that is not the note is the indented text. -/
lemma formatText_of_ne {s : Server} {text : List Char}
    (h : s.formatText text ≠ "Document is already formatted.") :
    s.formatText text = String.ofList (Indentation.indented s.config.indentSize text) := by
  rw [formatText] at h ⊢
  split
  case isTrue heq => exact absurd (if_pos heq) h
  case isFalse => rfl

end Server

/--
Indentation normalizes a document: the result depends on the contents of the lines only, so that
another indentation before does not matter, an indented document is the one that the same
indentation makes of it, and the server finds nothing to do in a document that it has answered.
-/
theorem Indentation.indent_normalizes (text : List Char) :
    (∀ m n : Int, indented n (indented m text) = indented n text) ∧
      (∀ (m n : Int) (once : List Char), indent m text = .ok once →
        indent n once = indent n text) ∧
      (∀ other : List Char, (lines text).map trim = (lines other).map trim → ∀ n : Int,
        indented n text = indented n other ∧ indent n text = indent n other) ∧
      (∀ (n : Int) (once : List Char), indent n text = .ok once → indent n once = .ok once) ∧
      ∀ (tree : FileTree) (s : Server) (answer : String),
        (s.run tree (.formatDocument text)).reply = .text answer →
          answer ≠ "Document is already formatted." →
            ((s.run tree (.formatDocument text)).server.run tree
              (.formatDocument answer.toList)).reply = .text "Document is already formatted." := by
  refine ⟨fun m n => indented_indented m n text, fun m n once h => indent_of_indent h n,
    fun other h n => ⟨indented_congr h n, indent_congr h n⟩,
    fun n once h => (indent_of_indent h n).trans h, ?_⟩
  intro tree s answer hreply hchanged
  rw [Server.run_formatDocument] at hreply ⊢
  have hanswer : s.formatText text = answer := Reply.text.inj hreply
  subst hanswer
  have hagain := Server.formatText_indented s text
  rw [Server.formatText_of_ne hchanged, String.toList_ofList]
  exact congrArg Reply.text hagain

/-- A block with blanks of several kinds around its lines, indented by four spaces and by two. -/
theorem Indentation.indent_normalizes_block :
    let text := "if .a \x7b\t\n.b\r\n \n   \x7d".toList
    let wide := "if .a \x7b\n    .b\n\n\x7d".toList
    let answer := "if .a \x7b\n  .b\n\n\x7d"
    let tree : FileTree := ⟨[], [], []⟩
    let response := Server.start.run tree (.formatDocument text)
    indent 4 text = .ok wide ∧ indent 2 wide = indent 2 text ∧ indent 4 wide = .ok wide ∧
      (lines text).map trim = (lines wide).map trim ∧ indent (-1) text = indent (-1) wide ∧
      response.reply = .text answer ∧ answer ≠ "Document is already formatted." ∧
      (response.server.run tree (.formatDocument answer.toList)).reply =
        .text "Document is already formatted." := by
  intro text wide answer tree response
  obtain ⟨-, habsorbs, hcontents, hidempotent, hserver⟩ := indent_normalizes text
  have hwide : indent 4 text = .ok wide := by decide +kernel
  have hsame : (lines text).map trim = (lines wide).map trim := by decide +kernel
  have hreply : response.reply = .text answer := by decide +kernel
  have hchanged : answer ≠ "Document is already formatted." := by decide
  exact ⟨hwide, habsorbs 4 2 wide hwide, hidempotent 4 wide hwide, hsame,
    (hcontents wide hsame (-1)).2, hreply, hchanged, hserver tree .start answer hreply hchanged⟩

end Remap
