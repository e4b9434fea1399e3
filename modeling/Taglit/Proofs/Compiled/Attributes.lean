import Taglit.Compiled.Attribute

/-!
# The queue of attributes

Compilation works through the attributes of a tag as through a queue: each one is replaced by what
it is compiled into, and the companion of a two-way binding goes to the back.
`compileAttributes_eq` says what comes out: the compiled attributes in the order of the list, and
then the companions.
-/

namespace Taglit.Compiled

open Taglit.Output (Options)

/-- What an attribute is compiled into, its companion aside. -/
def primary (options : Options) (a : Markup.Attribute) : Attribute :=
  (classify options a).1

/-- The companion that an attribute brings along. -/
def companion? (options : Options) (a : Markup.Attribute) : Option Attribute :=
  (classify options a).2

/-- Entries that are done stay as they are. -/
theorem settle_done (options : Options) (done : List Attribute) :
    settle options (done.map Entry.done) = done := by
  induction done with
  | nil => rw [List.map_nil, settle]
  | cons a done ih => rw [List.map_cons, settle, ih]

/-- Attributes come out in front of the entries that were done before, and companions after them. -/
theorem settle_raw_append (options : Options) (attributes : List Markup.Attribute)
    (done : List Attribute) :
    settle options (attributes.map Entry.raw ++ done.map Entry.done) =
      attributes.map (primary options) ++ (done ++ attributes.filterMap (companion? options)) := by
  induction attributes generalizing done with
  | nil => simpa using settle_done options done
  | cons a attributes ih =>
      -- the companion, if there is one, is done and stands behind the others
      have hqueue : (attributes.map Entry.raw ++ done.map Entry.done) ++
          ((companion? options a).map Entry.done).toList =
          attributes.map Entry.raw ++ (done ++ (companion? options a).toList).map Entry.done := by
        cases companion? options a <;> simp
      have hcompanions :
          (companion? options a).toList ++ attributes.filterMap (companion? options) =
            (a :: attributes).filterMap (companion? options) := by
        cases h : companion? options a <;> simp [h]
      rw [List.map_cons, List.cons_append, settle]
      change primary options a ::
        settle options ((attributes.map Entry.raw ++ done.map Entry.done) ++
        ((companion? options a).map Entry.done).toList) = _
      rw [hqueue, ih, List.append_assoc, hcompanions, List.map_cons, List.cons_append]

/-- The compiled attributes in the order of the list, and then the companions. -/
theorem compileAttributes_eq (options : Options) (attributes : List Markup.Attribute) :
    compileAttributes options attributes =
      attributes.map (primary options) ++ attributes.filterMap (companion? options) := by
  simpa [compileAttributes] using settle_raw_append options attributes []

/-- An attribute keeps its place. -/
theorem getElem?_compileAttributes {options : Options} {attributes : List Markup.Attribute}
    {i : Nat} {a : Markup.Attribute} (h : attributes[i]? = some a) :
    (compileAttributes options attributes)[i]? = some (primary options a) := by
  have hi : i < (attributes.map (primary options)).length := by
    rw [List.length_map]
    exact (List.getElem?_eq_some_iff.mp h).1
  rw [compileAttributes_eq, List.getElem?_append_left hi, List.getElem?_map, h, Option.map_some]

end Taglit.Compiled
