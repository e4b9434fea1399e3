import Taglit.Cache.Session

/-!
# What a parser is asked

A parser runs in a monad of the host's choice, and compiling has no other effects.  Whatever the
monad is, compiling asks the parser once if there is no tree, and goes on with its answer; if there
is a tree it asks nothing.  `run_compile_of_tree`, `run_compile_of_parsing` and
`run_compile_of_neither` say so.

A session compiles with a parser that keeps a record of what it is asked.  `run_compileCallback`
says what becomes of the record, and that the result is the one that the parser gives by itself.
`compiled_of_parsing` says that the result is got from one answer of the parser.
-/

namespace Taglit

section

variable {m : Type → Type} [Monad m] [LawfulMonad m]

/-! ## Compiling in any monad -/

/-- What a template is compiled into once it has a tree. -/
def Settings.compiledFrom (settings : Settings m) (tree : Markup.Node) : Except Error Template :=
  (Compiled.compileTree tree settings.name settings.output).map fun root =>
    { settings with filename := settings.filename, tree, root }

/-- The settings with a tree, so that no parser is needed. -/
def Settings.withTree (settings : Settings m) (tree : Markup.Node) : Settings m :=
  { settings with tree? := some tree }

/-- All effects of compiling are those of getting the tree. -/
theorem run_compile (settings : Settings m) :
    (compile settings).run = (· >>= settings.compiledFrom) <$> settings.tree.run := by
  rw [compile, ExceptT.run_bind, map_eq_pure_bind]
  refine bind_congr fun tree => ?_
  cases tree with
  | error e => rfl
  | ok tree =>
      -- from here on nothing is run: the tree is compiled, and the template put together
      have hfrom : (Except.ok tree >>= settings.compiledFrom) = settings.compiledFrom tree := rfl
      simp only [ExceptT.run_bind, ExceptT.run_mk, pure_bind, hfrom, Settings.compiledFrom]
      cases Compiled.compileTree tree settings.name settings.output <;> rfl

/-- If there is a tree, compiling has no effects. -/
theorem run_compile_of_tree (settings : Settings m) {tree : Markup.Node}
    (h : settings.tree? = some tree) :
    (compile settings).run = pure (settings.compiledFrom tree) := by
  rw [run_compile, Settings.tree, h]
  exact map_pure _ _

/-- If there is a parser and no tree, compiling asks the parser once and compiles what it gives. -/
theorem run_compile_of_parsing (settings : Settings m) {parse : TemplateParser m}
    (htree : settings.tree? = none) (hparser : settings.parser? = some parse) :
    (compile settings).run = (fun answer =>
      answer.mapError (.unparsed settings.filename) >>= settings.compiledFrom) <$>
        parse settings.request := by
  rw [run_compile, Settings.tree, htree, hparser]
  simp

/-- If there is neither a tree nor a parser, compiling fails and has no effects. -/
theorem run_compile_of_neither (settings : Settings m) (htree : settings.tree? = none)
    (hparser : settings.parser? = none) :
    (compile settings).run = pure (.error (.missingTree settings.filename)) := by
  rw [run_compile, Settings.tree, htree, hparser]
  exact map_pure _ _

/-- Compiling segments has the effects of compiling the template that they are joined to. -/
theorem run_compileSegments (configure : Settings Id → Settings m) (segments : List String) :
    (compileSegments configure segments).run =
      Except.map (·.function (rawTemplate segments).arguments) <$>
        (compile (configure (.ofSegments segments))).run := by
  rw [compileSegments]
  simp

end

/-- What the parser is asked when a template is compiled: one request, if there is a parser and no
tree, and nothing otherwise. -/
def Settings.asked (settings : Settings Id) : List ParseRequest :=
  match settings.tree?, settings.parser? with
  | none, some _ => [settings.request]
  | _, _ => []

namespace Cache

/-! ## Compiling with a record -/

/-- What segments compile to, as an answer of a session. -/
def compiled (configure : Settings Id → Settings Id) (segments : List String) :
    Except Refusal String :=
  (compileSegments configure segments).run.mapError Refusal.compile

/-- If there is a parser and no tree, segments compile to what they compile to with the tree that
the parser gives for them; if it gives none, its reason is that of the refusal. -/
theorem compiled_of_parsing (configure : Settings Id → Settings Id) (segments : List String)
    {parse : TemplateParser Id} (htree : (configure (.ofSegments segments)).tree? = none)
    (hparser : (configure (.ofSegments segments)).parser? = some parse) :
    compiled configure segments =
      match (parse (configure (.ofSegments segments)).request : Except String Markup.Node) with
      | .error reason =>
        .error (.compile (.unparsed (configure (.ofSegments segments)).filename reason))
      | .ok tree => compiled (fun settings => (configure settings).withTree tree) segments := by
  have hgiven (tree : Markup.Node) :
      compiled (fun settings => (configure settings).withTree tree) segments =
        (((configure (.ofSegments segments)).compiledFrom tree).map
          (·.function (rawTemplate segments).arguments)).mapError .compile := by
    rw [compiled, run_compileSegments, run_compile_of_tree _ rfl]
    rfl
  simp only [hgiven]
  rw [compiled, run_compileSegments, run_compile_of_parsing _ htree hparser]
  cases (parse (configure (.ofSegments segments)).request : Except String Markup.Node) <;> rfl

/-- The calls with requests added to the record. -/
def Calls.record (calls : Calls) (requests : List ParseRequest) : Calls :=
  { calls with requests := calls.requests ++ requests }

/-- Compiling with a record gives what it gives without, and records what the parser is asked. -/
theorem run_compile_recorded (settings : Settings Id) (calls : Calls) :
    (compile (recordedSettings settings)).run.run calls =
      ((compile settings).run, calls.record settings.asked) := by
  have hnothing : calls.record [] = calls := by rw [Calls.record, List.append_nil]
  cases htree : settings.tree? with
  | some tree =>
      rw [run_compile_of_tree settings htree, run_compile_of_tree (recordedSettings settings) htree,
        Settings.asked, htree, hnothing]
      rfl
  | none =>
      cases hparser : settings.parser? with
      | none =>
          have hrecorded : (recordedSettings settings).parser? = none := by
            rw [recordedSettings, hparser, Option.map_none]
          rw [run_compile_of_neither settings htree hparser,
            run_compile_of_neither (recordedSettings settings) htree hrecorded, Settings.asked,
            htree, hparser, hnothing]
          rfl
      | some parse =>
          have hrecorded : (recordedSettings settings).parser? = some (recorded parse) := by
            rw [recordedSettings, hparser, Option.map_some]
          rw [run_compile_of_parsing settings htree hparser,
            run_compile_of_parsing (recordedSettings settings) htree hrecorded, Settings.asked,
            htree, hparser]
          rfl

/-- The callback of a session that compiles: what it gives, and what it asks the parser. -/
theorem run_compileCallback (configure : Settings Id → Settings Id) (segments : List String)
    (calls : Calls) :
    (compileCallback configure segments).run calls =
      (compiled configure segments,
        calls.record (configure (.ofSegments segments)).asked) := by
  rw [compileCallback, run_compileSegments, compiled, run_compileSegments]
  simp only [StateT.run_bind, StateT.run_map, run_compile_recorded]
  rfl

end Cache

end Taglit
