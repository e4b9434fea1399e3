import Taglit.Compiler

/-!
# Tagged template literals as templates

A host program may hand over the segments of a tagged template literal.  They are joined into the
source of a template, in which each hole between two segments is a parameter of its own.
-/

namespace Taglit

/-- The source of a template that was given in segments, and the parameters that stand for its
holes, one for each. -/
structure RawTemplate where
  source : String
  parameters : List String
  deriving DecidableEq

/-- The parameters as a list of arguments. -/
def RawTemplate.arguments (raw : RawTemplate) : String :=
  ",".intercalate raw.parameters

/-- The parameter of the hole with the given number. -/
def holeName (index : Nat) : String :=
  "_" ++ toString index

/-- The segments after hole number `index`, each with its hole before it. -/
def afterHole (index : Nat) : List String → List String
  | [] => []
  | segment :: segments => holeName index :: segment :: afterHole (index + 1) segments

/-- Join segments, with a parameter in each hole. -/
def rawTemplate (segments : List String) : RawTemplate where
  source :=
    match segments with
    | [] => ""
    | first :: rest => String.join (first :: afterHole 0 rest)
  parameters := (List.range (segments.length - 1)).map holeName

/-- The settings for a template that was given in segments. -/
def Settings.ofSegments (segments : List String) : Settings Id :=
  { source := (rawTemplate segments).source }

/-- Compile a template that was given in segments into a function of its holes.  `configure`
completes the settings. -/
def compileSegments {m : Type → Type} [Monad m] (configure : Settings Id → Settings m)
    (segments : List String) : ExceptT Error m String := do
  let template ← compile (configure (.ofSegments segments))
  return template.function (rawTemplate segments).arguments

end Taglit
