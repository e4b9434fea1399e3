import Taglit.Compiled.Render
import Taglit.Proofs.Output.Filled

/-!
# Constructs under the default options

The default templates of the output options are fixed patterns.  The statements of this module spell
out what each construct is written like under them.  Each proof first splits the pattern into its
segments, and then fills in what the names are bound to.
-/

namespace Taglit.Compiled

open Taglit.Output (Segment Placeholder Placeholders segmentsOf consLiteral isTokenHead isTokenTail
  render_ofSource)

variable (tag : String)

/-- A branching is a conditional expression, with `null` for the branch that is not there. -/
theorem branchText_default (test : String) (consequent : Body) (alternate : Option Body) :
    branchText ⟨tag, {}⟩ test consequent alternate =
      test ++ " ? " ++ consequent.expression ⟨tag, {}⟩ ++ " : " ++
        alternate.elim "null" (Body.expression ⟨tag, {}⟩) := by
  have hsegments : segmentsOf "$test ? $consequent : $alternate".toList =
      [.token "test".toList, .literal " ? ".toList, .token "consequent".toList,
        .literal " : ".toList, .token "alternate".toList] := by
    simp [segmentsOf, consLiteral, isTokenHead, isTokenTail]
  rw [branchText, render_ofSource, hsegments]
  -- no bound name is a longer start of a token than the one that is meant
  simp [Segment.filled, Placeholders.bind, Placeholders.insert, Placeholders.longest?,
    Placeholder.value, String.ext_iff, ← String.length_toList]

/-- A function is declared, and returns the literal after its statements and a line break. -/
theorem function_default (body : Body) (args : String) :
    body.function ⟨tag, {}⟩ args =
      "function " ++ body.name ++ "(" ++ args ++ ")\x7b" ++ body.code ";" ++ "\nreturn " ++
        body.tagged ⟨tag, {}⟩ ++ "\x7d" := by
  have hsegments : segmentsOf "function $name($args)\x7b$code\nreturn $child\x7d".toList =
      [.literal "function ".toList, .token "name".toList, .literal "(".toList, .token "args".toList,
        .literal ")\x7b".toList, .token "code".toList, .literal "\nreturn ".toList,
        .token "child".toList, .literal "\x7d".toList] := by
    simp [segmentsOf, consLiteral, isTokenHead, isTokenTail]
  rw [Body.function, render_ofSource, hsegments]
  simp [Segment.filled, Placeholders.bind, Placeholders.insert, Placeholders.longest?,
    Placeholder.value, String.ext_iff, ← String.length_toList]

/-- An iteration maps the entries of the object, and returns the literal for each of them. -/
theorem eachText_default (object value : String) (key : Option String) (body : Body) :
    eachText ⟨tag, {}⟩ object value key body =
      "Object.entries(" ++ object ++ ").map(([" ++ key.getD "_" ++ "," ++ value ++ "])=>\x7b" ++
        body.code ";" ++ "\n return " ++ body.tagged ⟨tag, {}⟩ ++ "\x7d)" := by
  have hsegments :
      segmentsOf
          "Object.entries($object).map(([$key,$value])=>\x7b$code\n return $child\x7d)".toList =
        [.literal "Object.entries(".toList, .token "object".toList, .literal ").map(([".toList,
          .token "key".toList, .literal ",".toList, .token "value".toList,
          .literal "])=>\x7b".toList, .token "code".toList, .literal "\n return ".toList,
          .token "child".toList, .literal "\x7d)".toList] := by
    simp [segmentsOf, consLiteral, isTokenHead, isTokenTail]
  -- `$args` is bound as well, but the pattern does not mention it
  unfold eachText
  rw [render_ofSource, hsegments]
  simp [Segment.filled, Placeholders.bind, Placeholders.bindDeferred, Placeholders.insert,
    Placeholders.longest?, Placeholder.value, String.ext_iff, ← String.length_toList]

/-- The use of a mixin is a call, with an object for the attributes and the body as an
expression. -/
theorem mixinText_call_default (attributes : List Attribute) (body : Body) :
    mixinText ⟨tag, {}⟩ (.call attributes) body =
      body.name ++ "(\x7b" ++ propsText attributes ++ "\x7d, " ++ body.expression ⟨tag, {}⟩ ++
        ")" := by
  have hsegments : segmentsOf "$mixin(\x7b$props\x7d, $children)".toList =
      [.token "mixin".toList, .literal "(\x7b".toList, .token "props".toList,
        .literal "\x7d, ".toList, .token "children".toList, .literal ")".toList] := by
    simp [segmentsOf, consLiteral, isTokenHead, isTokenTail]
  rw [mixinText, render_ofSource, hsegments]
  simp [Segment.filled, Placeholders.bind, Placeholders.bindDeferred, Placeholders.insert,
    Placeholders.longest?, Placeholder.value, String.ext_iff, ← String.length_toList]

/-- A module has the lines that import files, and exports the function. -/
theorem moduleSource_default (root : Root) (args : String) :
    root.moduleSource ⟨tag, {}⟩ args =
      "\n".intercalate root.imports ++ "\nexport default " ++ root.function ⟨tag, {}⟩ args := by
  have hsegments : segmentsOf "$imports\nexport default $function".toList =
      [.token "imports".toList, .literal "\nexport default ".toList, .token "function".toList] := by
    simp [segmentsOf, consLiteral, isTokenHead, isTokenTail]
  rw [Root.moduleSource, render_ofSource, hsegments]
  simp [Segment.filled, Placeholders.bind, Placeholders.bindDeferred, Placeholders.insert,
    Placeholders.longest?, Placeholder.value, String.ext_iff, ← String.length_toList]

end Taglit.Compiled
