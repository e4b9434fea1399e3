/-!
# A table keyed by identity

A host program evaluates the same literal again and again, and the result of compiling it is kept
for as long as the literal lives.  The table finds an entry by the *place* at which the literal is
kept.  A place is free again once its literal is gone and no entry remembers it, so an entry also
remembers which literal it was made for, and is good only while that literal lives.

Entries of literals that are gone stay until the table is pruned, which every insertion does first.
-/

namespace Taglit.Cache

/-- A literal of the host program.  No two literals have the same `serial`, while the `place` at
which one is kept may be used again. -/
structure Literal where
  serial : Nat
  place : Nat
  segments : List String
  deriving DecidableEq

/-- What is kept for a literal, under the literal's serial number. -/
structure Entry (α : Type) where
  key : Nat
  value : α

/-- The entries of literals, by place. -/
structure Table (α : Type) where
  entries : List (Nat × Entry α) := []

namespace Table

variable {α : Type}

/-- The entry at a place. -/
def find? (table : Table α) (place : Nat) : Option (Entry α) :=
  (table.entries.find? (·.1 == place)).map (·.2)

/-- What is kept for a literal.  `live` says which literals are alive. -/
def get? (table : Table α) (live : Nat → Bool) (literal : Literal) : Option α :=
  match table.find? literal.place with
  | none => none
  | some entry => if live entry.key && entry.key == literal.serial then some entry.value else none

/-- Forget the entries of literals that are gone. -/
def prune (table : Table α) (live : Nat → Bool) : Table α :=
  ⟨table.entries.filter fun entry => live entry.2.key⟩

/-- Put an entry at a place, instead of the one that is there. -/
def put (table : Table α) (place : Nat) (entry : Entry α) : Table α :=
  ⟨table.entries.filter (·.1 != place) ++ [(place, entry)]⟩

/-- Keep a value for a literal, and forget the entries of literals that are gone. -/
def insert (table : Table α) (live : Nat → Bool) (literal : Literal) (value : α) : Table α :=
  (table.prune live).put literal.place ⟨literal.serial, value⟩

/-- The number of entries. -/
def size (table : Table α) : Nat :=
  table.entries.length

end Table

end Taglit.Cache
