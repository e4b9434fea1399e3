import Taglit.Proofs.Compiled.DefaultForms
import Taglit.Proofs.Compiled.Emission
import Taglit.Proofs.Lexical.Comment

/-!
# Text after the statements of a block

The statements of a block are written one after the other with semicolons between them, and what the
block returns is written after them.  A statement may end in a comment up to the end of its line,
and then the semicolon after it belongs to the comment, with all that follows on the line.

`keeps_text_iff` says when no text is lost in this way.  A function that is called at once returns
its literal on the line of its last statement, so that none of the statements may end in such a
comment.  The default templates of functions and iterations start a new line before they return, so
that the last one may.
-/

namespace Taglit.Compiled

open Taglit.Lexical
open Taglit.Output (Format)

/-! ## Blocks whose statements are sources -/

section Sources

variable {b : Block Node} {sources : List String}

/-- A block of sources is written with its sources as statements. -/
theorem statements_of_sources (hcode : b.code = sources.map Piece.source) (format : Format) :
    (bodyOf format b).statements = written sources := by
  obtain ⟨name, code, quasis, slots⟩ := b
  obtain rfl : code = sources.map Piece.source := hcode
  rw [bodyOf, statementsOf_sources]

/-- Its statements are the sources, with a separator between them. -/
theorem code_of_sources (hcode : b.code = sources.map Piece.source) (format : Format)
    (separator : String) : (bodyOf format b).code separator = separator.intercalate sources := by
  rw [Body.code, statements_of_sources hcode, map_text_written]

/-- A block keeps its name when it is written. -/
theorem name_bodyOf (format : Format) (b : Block Node) : (bodyOf format b).name = b.name := by
  rw [bodyOf]

/-- Sources that are not all expressions run in a function that is called at once. -/
theorem expression_of_sources (hcode : b.code = sources.map Piece.source)
    (hform : ∃ s ∈ sources, Script.isExpression s = false) (format : Format) :
    b.expression format =
      "(()=>\x7b" ++ ";".intercalate sources ++ ";return " ++ b.tagged format ++ "\x7d)()" := by
  obtain ⟨s, hs, hstatement⟩ := hform
  -- one statement that is no expression decides between the two forms with statements
  have hmem : ⟨s, false⟩ ∈ written sources := List.mem_map.mpr ⟨s, hs, by rw [hstatement]⟩
  have hall : (written sources).all Written.isExpression = false :=
    List.all_eq_false.mpr ⟨⟨s, false⟩, hmem, Bool.false_ne_true⟩
  have hsome : (written sources).isEmpty = false :=
    List.isEmpty_eq_false_iff.mpr (List.ne_nil_of_mem hmem)
  rw [Block.expression, Body.expression, statements_of_sources hcode, hall, hsome,
    if_neg Bool.false_ne_true, if_neg Bool.false_ne_true, code_of_sources hcode, Block.tagged]

end Sources

/-! ## The text outside comments -/

/-- What stands before the statements of a function under the default options. -/
def functionHead (name args : String) : String :=
  "function " ++ name ++ "(" ++ args ++ ")\x7b"

/-- What stands before the statements of an iteration under the default options. -/
def eachHead (object value : String) (key : Option String) : String :=
  "Object.entries(" ++ object ++ ").map(([" ++ key.getD "_" ++ "," ++ value ++ "])=>\x7b"

/-- What follows the statements on their line is kept iff none of them ends in a comment. -/
theorem keeps_line_iff {head : String} (hhead : leadsToCode head = true) {sources : List String}
    (hne : sources ≠ []) (hsources : ∀ s ∈ sources, isComplete s = true) (rest : String) :
    withoutComments (head ++ ";".intercalate sources ++ ";return " ++ rest) =
        withoutComments head ++ ";".intercalate (sources.map withoutComments) ++ ";return " ++
          withoutComments rest ↔
      ∀ s ∈ sources, endsInComment s = false := by
  -- the semicolon is what a comment swallows first, so it is taken apart from the text after it
  have hreturn : ";return " = ";" ++ "return " := rfl
  have hrest : withoutComments ("return " ++ rest) = "return " ++ withoutComments rest :=
    withoutComments_append rfl rest
  simp only [hreturn, String.append_assoc]
  rw [withoutComments_append hhead, String.append_right_inj,
    withoutComments_intercalate_semicolon_iff hne hsources, hrest]
  exact and_iff_left rfl

/-- What follows the statements on a new line is kept iff no statement before the last ends in a
comment. -/
theorem keeps_next_line_iff {head : String} (hhead : leadsToCode head = true)
    {sources : List String} (hsources : ∀ s ∈ sources, isComplete s = true) (lead : String)
    (hlead : leadsToCode lead = true) (rest : String) :
    withoutComments (head ++ ";".intercalate sources ++ ("\n" ++ lead) ++ rest) =
        withoutComments head ++ ";".intercalate (sources.map withoutComments) ++
          ("\n" ++ withoutComments lead) ++ withoutComments rest ↔
      ∀ s ∈ sources.dropLast, endsInComment s = false := by
  simp only [String.append_assoc]
  rw [withoutComments_append hhead, String.append_right_inj,
    withoutComments_intercalate_newline_iff hsources, withoutComments_append hlead]
  exact and_iff_left rfl

/-- When the text outside comments is the statements', followed by the literal that is returned. -/
theorem keeps_text_iff {b : Block Node} {sources : List String}
    (hcode : b.code = sources.map Piece.source) (hsources : ∀ s ∈ sources, isComplete s = true) :
    (∀ format, (∃ s ∈ sources, Script.isExpression s = false) →
      (withoutComments (b.expression format) =
          "(()=>\x7b" ++ ";".intercalate (sources.map withoutComments) ++ ";return " ++
            withoutComments (b.tagged format ++ "\x7d)()") ↔
        ∀ s ∈ sources, endsInComment s = false)) ∧
    (∀ tag args, leadsToCode (functionHead b.name args) = true →
      (withoutComments (b.function ⟨tag, {}⟩ args) =
          withoutComments (functionHead b.name args) ++
            ";".intercalate (sources.map withoutComments) ++
            "\nreturn " ++ withoutComments (b.tagged ⟨tag, {}⟩ ++ "\x7d") ↔
        ∀ s ∈ sources.dropLast, endsInComment s = false)) ∧
    (∀ tag object value key, leadsToCode (eachHead object value key) = true →
      (withoutComments ((Node.each object value key b).toSource ⟨tag, {}⟩) =
          withoutComments (eachHead object value key) ++
            ";".intercalate (sources.map withoutComments) ++
            "\n return " ++ withoutComments (b.tagged ⟨tag, {}⟩ ++ "\x7d)") ↔
        ∀ s ∈ sources.dropLast, endsInComment s = false)) := by
  refine ⟨fun format hform => ?_, fun tag args hhead => ?_, fun tag object value key hhead => ?_⟩
  · obtain ⟨s, hs, -⟩ := id hform
    rw [expression_of_sources hcode hform, String.append_assoc]
    exact keeps_line_iff rfl (List.ne_nil_of_mem hs) hsources (b.tagged format ++ "\x7d)()")
  · rw [Block.function, function_default, code_of_sources hcode, name_bodyOf, String.append_assoc]
    exact keeps_next_line_iff hhead hsources "return " rfl (b.tagged ⟨tag, {}⟩ ++ "\x7d")
  · rw [Node.toSource, eachText_default, code_of_sources hcode, String.append_assoc]
    exact keeps_next_line_iff hhead hsources " return " rfl (b.tagged ⟨tag, {}⟩ ++ "\x7d)")

/-- A branch whose only statement ends in a comment loses its literal.  The same block keeps it as a
function and as the body of an iteration. -/
theorem keeps_text_iff_note :
    ∃ b : Block Node,
      compileTree (.conditional "ok" [.code "var a = 1 // note" false, .text "x"] none)
          "template" {} =
        .ok ⟨⟨"template", [], ["", ""], [.node (.condition "ok" none b)]⟩, []⟩ ∧
      withoutComments (b.expression ⟨"html", {}⟩) = "(()=>\x7bvar a = 1 " ∧
      withoutComments (b.expression ⟨"html", {}⟩) ≠
        "(()=>\x7bvar a = 1 ;return " ++ withoutComments (b.tagged ⟨"html", {}⟩ ++ "\x7d)()") ∧
      withoutComments (b.function ⟨"html", {}⟩ "") =
        "function template()\x7bvar a = 1 \nreturn " ++
          withoutComments (b.tagged ⟨"html", {}⟩ ++ "\x7d") ∧
      withoutComments ((Node.each "xs" "x" none b).toSource ⟨"html", {}⟩) =
        "Object.entries(xs).map(([_,x])=>\x7bvar a = 1 \n return " ++
          withoutComments (b.tagged ⟨"html", {}⟩ ++ "\x7d)") := by
  have hcode : (⟨"template", [.source "var a = 1 // note"], ["x"], []⟩ : Block Node).code =
      ["var a = 1 // note"].map Piece.source := rfl
  have hform : ∃ s ∈ ["var a = 1 // note"], Script.isExpression s = false :=
    ⟨_, List.mem_singleton_self _, rfl⟩
  have hkeeps := keeps_text_iff hcode (by decide)
  refine ⟨⟨"template", [.source "var a = 1 // note"], ["x"], []⟩, rfl, ?_, ?_, ?_, ?_⟩
  · rw [expression_of_sources hcode hform]
    rfl
  · intro hexpression
    have hnone := (hkeeps.1 ⟨"html", {}⟩ hform).mp hexpression
    exact absurd (hnone _ (List.mem_singleton_self _)) (by decide)
  · exact (hkeeps.2.1 "html" "" rfl).mpr (by simp)
  · exact (hkeeps.2.2 "html" "xs" "x" none rfl).mpr (by simp)

end Taglit.Compiled
