import Taglit.Proofs.Compiled.Shorthand
import Mathlib.Data.Nat.Init

/-!
# A walk through attributes that grows as it goes

The attributes of a tag can also be compiled in place: an index walks through a list of entries, the
entry at the index is replaced by what it is compiled into, and a companion is added at the end of
the list that is being walked through.  When the index comes to the end, the entries that are done
are kept.

`Walk.step` is one turn of that loop.  `compileAttributes_walk` says that the loop comes to an end,
after one turn for each attribute and one for each companion, that it leaves no entry raw and
compiles nothing twice, and that it gives what the queue of `compileAttributes` gives.
-/

namespace Taglit.Compiled

open Taglit.Output (Options)

/-- The compiled attribute of an entry that is done. -/
def Entry.done? : Entry → Option Attribute
  | raw _ => none
  | done a => some a

/-- Where a walk through entries is: the entries, and the number of the one at which the next turn
looks. -/
structure Walk where
  entries : List Entry
  index : Nat := 0

namespace Walk

variable (options : Options)

/-- One turn, unless the index is at the end.  An entry that is raw is compiled in its place, and
its companion goes to the end of the list. -/
def step (w : Walk) : Option Walk :=
  match w.entries[w.index]? with
  | none => none
  | some (.done _) => some { w with index := w.index + 1 }
  | some (.raw a) =>
    let (compiled, companion) := classify options a
    some ⟨w.entries.set w.index (.done compiled) ++ (companion.map Entry.done).toList, w.index + 1⟩

/-- The walk after a number of turns, if there are as many. -/
def after (w : Walk) : Nat → Option Walk
  | 0 => some w
  | turns + 1 => (w.after turns).bind (step options)

/-- The attribute that the next turn compiles, if it compiles one. -/
def next? (w : Walk) : Option Markup.Attribute :=
  match w.entries[w.index]? with
  | some (.raw a) => some a
  | _ => none

/-- The start of a walk through attributes. -/
def start (attributes : List Markup.Attribute) : Walk where
  entries := attributes.map Entry.raw

/-! ## The way through the attributes -/

/-- The walk with some attributes compiled and others raw.  The companions of the former stand after
the latter. -/
def midway (compiled raw : List Markup.Attribute) : Walk where
  entries := (compiled.map (primary options)).map Entry.done ++
    (raw.map Entry.raw ++ (compiled.filterMap (companion? options)).map Entry.done)
  index := compiled.length

/-- At the index there is the first of the raw ones. -/
theorem getElem?_midway (compiled : List Markup.Attribute) (a : Markup.Attribute)
    (raw : List Markup.Attribute) :
    (midway options compiled (a :: raw)).entries[(midway options compiled (a :: raw)).index]? =
      some (.raw a) := by
  simp [midway]

/-- A turn takes one attribute from the raw ones to the compiled ones. -/
theorem step_midway (compiled : List Markup.Attribute) (a : Markup.Attribute)
    (raw : List Markup.Attribute) :
    (midway options compiled (a :: raw)).step options =
      some (midway options (compiled ++ [a]) raw) := by
  have hset : (midway options compiled (a :: raw)).entries.set compiled.length
      (.done (primary options a)) =
        ((compiled ++ [a]).map (primary options)).map Entry.done ++
          (raw.map Entry.raw ++ (compiled.filterMap (companion? options)).map Entry.done) := by
    simp [midway]
  have hcompanions : (compiled ++ [a]).filterMap (companion? options) =
      compiled.filterMap (companion? options) ++ (companion? options a).toList := by
    cases hcompanion : companion? options a <;> simp [hcompanion]
  rw [step, getElem?_midway]
  -- `classify` gives the two parts that `primary` and `companion?` name
  change some (Walk.mk ((midway options compiled (a :: raw)).entries.set compiled.length
    (.done (primary options a)) ++ ((companion? options a).map Entry.done).toList)
    (compiled.length + 1)) = _
  rw [hset, midway, hcompanions]
  cases companion? options a <;> simp

/-- In the first turns, one attribute after the other is compiled. -/
theorem after_start (attributes : List Markup.Attribute) {turns : Nat}
    (h : turns ≤ attributes.length) :
    (start attributes).after options turns =
      some (midway options (attributes.take turns) (attributes.drop turns)) := by
  induction turns with
  | zero => simp [after, start, midway]
  | succ turns ih =>
      rw [after, ih (by omega), Option.bind_some, List.drop_eq_getElem_cons h, step_midway,
        List.take_append_getElem h]

/-! ## The way through the companions -/

/-- A walk at the given index with nothing raw. -/
def settled (results : List Attribute) (index : Nat) : Walk :=
  ⟨results.map Entry.done, index⟩

/-- With nothing raw, no turn compiles anything. -/
theorem next?_settled (results : List Attribute) (index : Nat) :
    (settled results index).next? = none := by
  rw [next?, settled, List.getElem?_map]
  cases results[index]? <;> rfl

/-- With nothing raw, a turn moves the index. -/
theorem step_settled {results : List Attribute} {index : Nat} (h : index < results.length) :
    (settled results index).step options = some (settled results (index + 1)) := by
  rw [step, settled, List.getElem?_map, List.getElem?_eq_getElem h]
  rfl

/-- At the end there is no turn. -/
theorem step_settled_length (results : List Attribute) :
    (settled results results.length).step options = none := by
  rw [step, settled, List.getElem?_map, List.getElem?_eq_none (Nat.le_refl _)]
  rfl

/-- The results are at least as many as the attributes. -/
theorem length_le_compileAttributes (attributes : List Markup.Attribute) :
    attributes.length ≤ (compileAttributes options attributes).length := by
  rw [compileAttributes_eq, List.length_append, List.length_map]
  exact Nat.le_add_right _ _

/-- Once the attributes are compiled, only the index moves. -/
theorem after_start_of_le {attributes : List Markup.Attribute} {turns : Nat}
    (hle : attributes.length ≤ turns) (h : turns ≤ (compileAttributes options attributes).length) :
    (start attributes).after options turns =
      some (settled (compileAttributes options attributes) turns) := by
  induction turns, hle using Nat.le_induction with
  | base =>
      rw [after_start options attributes (Nat.le_refl _), List.take_length, List.drop_length,
        midway, settled, compileAttributes_eq, List.map_append, List.map_nil, List.nil_append]
  | succ turns _ ih => rw [after, ih (by omega), Option.bind_some, step_settled options h]

/-- There are no turns beyond the end. -/
theorem after_start_eq_none {attributes : List Markup.Attribute} {turns : Nat}
    (h : (compileAttributes options attributes).length < turns) :
    (start attributes).after options turns = none := by
  induction turns, h using Nat.le_induction with
  | base =>
      rw [after, after_start_of_le options (length_le_compileAttributes options attributes)
        (Nat.le_refl _), Option.bind_some, step_settled_length]
  | succ turns _ ih => rw [after, ih, Option.bind_none]

/-- Turn `i` compiles the attribute `i`, and no other turn compiles anything. -/
theorem next?_after_start (attributes : List Markup.Attribute) (turns : Nat) :
    ((start attributes).after options turns).bind next? = attributes[turns]? := by
  rcases Nat.lt_or_ge turns attributes.length with hlt | hge
  · rw [after_start options attributes (Nat.le_of_lt hlt), List.drop_eq_getElem_cons hlt,
      Option.bind_some, next?, getElem?_midway, List.getElem?_eq_getElem hlt]
  · rw [List.getElem?_eq_none hge]
    -- the turns that are left look at companions, and then there are none
    rcases Nat.lt_or_ge (compileAttributes options attributes).length turns with hend | hturns
    · rw [after_start_eq_none options hend, Option.bind_none]
    · rw [after_start_of_le options hge hturns, Option.bind_some, next?_settled]

end Walk

/-- What the walk through the attributes of a tag comes to.

* The result has the compiled attributes in the order of the list, and then the events that write
  the two-way bindings back, in the order of the bindings; there is one of them for each name that
  binds both ways.
* The walk ends when it has looked at as many entries as there are results.  It leaves no entry raw,
  so that nothing is lost when the entries that are done are kept.
* Turn `i` compiles the attribute `i`, and no other turn compiles anything: companions are left as
  they are. -/
theorem compileAttributes_walk (options : Options) (attributes : List Markup.Attribute) :
    compileAttributes options attributes =
      attributes.map (primary options) ++ attributes.filterMap (writeBackOf? options) ∧
    (compileAttributes options attributes).length =
      attributes.length + attributes.countP (fun a => isTwoWay a.name) ∧
    (∃ last,
      (Walk.start attributes).after options (compileAttributes options attributes).length =
        some last ∧
      last.step options = none ∧
      last.entries = (compileAttributes options attributes).map Entry.done ∧
      last.entries.filterMap Entry.done? = compileAttributes options attributes) ∧
    ∀ turns, ((Walk.start attributes).after options turns).bind Walk.next? =
      attributes[turns]? := by
  have hcompanions : companion? options = writeBackOf? options := funext (companion?_eq options)
  have hresult := compileAttributes_eq options attributes
  rw [hcompanions] at hresult
  have hend := Walk.after_start_of_le options (Walk.length_le_compileAttributes options attributes)
    (Nat.le_refl _)
  refine ⟨hresult, ?_, ⟨_, hend, Walk.step_settled_length options _, rfl, ?_⟩,
    Walk.next?_after_start options attributes⟩
  · have hcount : (fun a => (writeBackOf? options a).isSome) = fun a => isTwoWay a.name :=
      funext (isSome_writeBackOf? options)
    rw [hresult, List.length_append, List.length_map, List.length_filterMap_eq_countP, hcount]
  · have hkeep : Entry.done? ∘ Entry.done = some := rfl
    rw [Walk.settled, List.filterMap_map, hkeep, List.filterMap_some]

end Taglit.Compiled
