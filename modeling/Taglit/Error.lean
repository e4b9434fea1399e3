import Taglit.Json.Cause

/-!
# Errors of the compiler

Why a template could not be compiled, and the wording of each reason.
-/

namespace Taglit

/-- A reason not to compile a template: a node of a kind that cannot be compiled, JSON that is no
tree or no options, neither a tree nor a parser, or a parser that gave up. -/
inductive Error where
  | unhandledNode (kind : String)
  | invalidTree (failure : Json.Failure)
  | invalidOptions (failure : Json.Failure)
  | missingTree (filename : String)
  | unparsed (filename reason : String)
  deriving DecidableEq

/-- The wording of an error. -/
def Error.message : Error → String
  | unhandledNode kind => kind ++ " not implemented!"
  | invalidTree failure => "Invalid template AST: " ++ failure.message
  | invalidOptions failure => "Invalid output options: " ++ failure.message
  | missingTree filename =>
    "No AST was supplied for '" ++ filename ++ "' and no parser is configured"
  | unparsed filename reason => "Failed to parse '" ++ filename ++ "': " ++ reason

end Taglit
