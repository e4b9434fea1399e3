import Taglit.Json.Reader

/-!
# Decoders

A `Decoder` reads one kind of data in two ways: from a value, and straight from a text.  The second
way sees a fault where the text shows it, so that a name which is not known is reported before a
mistake that comes after it.

A record may be written as an object or as a list of its fields in their order.  Fields that are not
given keep the values of the record one starts from.
-/

namespace Taglit.Json

/-- A kind of data that is read from values, and from texts that may start with blanks. -/
structure Decoder (α : Type) where
  ofValue : Json → Except Cause α
  ofText : (cs : List Char) → Read α cs

namespace Decoder

/-- Apply a function to what is read. -/
def map {α β : Type} (f : α → β) (d : Decoder α) : Decoder β where
  ofValue json := do return f (← d.ofValue json)
  ofText cs := do
    let (a, rest) ← d.ofText cs
    return (f a, rest)

/-! ## Scalars -/

/-- The fault of a value at the start of `cs` that is not of the expected type. -/
def mistypedAt (expected : String) (cs : List Char) : Fault :=
  match readScalar cs, cs with
  | some (.ok (json, rest)), _ => .before (mistyped json expected) rest
  | some (.error fault), _ => fault
  | none, '[' :: _ => .before (.wrongType "sequence" expected) cs
  | none, '\x7b' :: _ => .before (.wrongType "map" expected) cs
  | none, _ => .here .valueExpected cs

/-- A value that is neither a list nor an object, of the form that `accept` takes. -/
def scalar {α : Type} (expected : String) (accept : Json → Option α) : Decoder α where
  ofValue json :=
    match accept json with
    | some a => .ok a
    | none => .error (mistyped json expected)
  ofText cs :=
    match hcs : skipBlank cs with
    | [] => .error ⟨.valueUnfinished, 0⟩
    | start =>
      match readScalar start with
      | some (.ok (json, ⟨rest, hrest⟩)) =>
        match accept json with
        | some a => .ok (a, ⟨rest, length_lt_of_skipBlank hcs hrest⟩)
        | none => .error (.before (mistyped json expected) rest)
      | _ => .error (mistypedAt expected start)

/-- A text. -/
def text : Decoder String :=
  scalar "a string" asText?

/-- A truth value. -/
def flag : Decoder Bool :=
  scalar "a boolean" fun
    | .bool b => some b
    | _ => none

/-- A value that may be `null`. -/
def optional {α : Type} (d : Decoder α) : Decoder (Option α) where
  ofValue
    | .null => .ok none
    | json => do return some (← d.ofValue json)
  ofText cs :=
    have hle := length_skipBlank_le cs
    match hcs : skipBlank cs with
    | 'n' :: rest => do
      let ⟨rest, hrest⟩ ← readWord "ull".toList rest
      return (none, ⟨rest, by simp [hcs] at hle; omega⟩)
    | _ => do
      let (a, rest) ← d.ofText cs
      return (some a, rest)

/-! ## Records -/

/-- A field of a record: its name, and how its value changes the record. -/
structure Field (σ : Type) where
  name : String
  update : Decoder (σ → σ)

/-- A field that is set to what a decoder reads. -/
def Field.of {σ α : Type} (name : String) (d : Decoder α) (set : α → σ → σ) : Field σ :=
  ⟨name, d.map set⟩

/-- Read the fields of a record from the items of a list, as far as there are items. -/
def ofItems {σ : Type} (length : Nat) : List (Field σ) → List Json → σ → Except Cause σ
  | _, [], record => .ok record
  | [], _ :: _, _ => .error (.wrongLength length "fewer elements in array")
  | field :: fields, item :: items, record => do
    let update ← field.update.ofValue item
    ofItems length fields items (update record)

/-- Read the fields of a record from the members of an object. -/
def ofMembers {σ : Type} (fields : List (Field σ)) : List (String × Json) → σ → Except Cause σ
  | [], record => .ok record
  | (name, json) :: members, record =>
    match fields.find? (·.name == name) with
    | none => .error (.unknownField name (fields.map (·.name)))
    | some field => do
      let update ← field.update.ofValue json
      ofMembers fields members (update record)

/-- The end of a list whose fields have all been read. -/
def endItems {σ : Type} (record : σ) (cs : List Char) : Read σ cs :=
  match hcs : skipBlank cs with
  | [] => .error ⟨.listUnfinished, 0⟩
  | ']' :: rest => .ok (record, ⟨rest, length_lt_of_skipBlank_cons hcs⟩)
  | ',' :: rest =>
    match skipBlank rest with
    | ']' :: more => .error (.here .trailingComma (']' :: more))
    | next => .error (.here .trailingCharacters next)
  | other => .error (.here .trailingCharacters other)

/-- Read the fields of a record from a list in a text, after its opening bracket or, if not `first`,
after an item of it. -/
def readFields {σ : Type} (first : Bool) (fields : List (Field σ)) (record : σ) (cs : List Char) :
    Read σ cs :=
  match fields with
  | [] => endItems record cs
  | field :: fields =>
    have hle := length_skipBlank_le cs
    match hcs : skipBlank cs with
    | [] => .error ⟨.listUnfinished, 0⟩
    | ']' :: rest => .ok (record, ⟨rest, length_lt_of_skipBlank_cons hcs⟩)
    | c :: rest => do
      if !first && c ≠ ',' then throw (.here .listMarkExpected (c :: rest))
      let start := if first then c :: rest else skipBlank rest
      have hstart : start.length ≤ cs.length := by
        have := length_skipBlank_le rest
        simp only [hcs, List.length_cons] at hle
        simp only [start]
        split <;> simp <;> omega
      match start, hstart with
      | [], _ => throw ⟨.valueUnfinished, 0⟩
      | ']' :: more, _ => throw (.here .trailingComma (']' :: more))
      | start, hstart =>
        let (update, ⟨rest, hrest⟩) ← field.update.ofText start
        let (record, ⟨rest, hfinal⟩) ← readFields false fields (update record) rest
        return (record, ⟨rest, by omega⟩)

/-- The fault of a member whose name is refused.  It is seen after the blanks that follow the name,
and after a closing brace if one stands there. -/
def refuseName (cause : Cause) (cs : List Char) : Fault :=
  match skipBlank cs with
  | '\x7d' :: rest => .before cause rest
  | rest => .before cause rest

/-- Read the members of an object in a text after the opening quote of a name.  `seen` lists the
names read before. -/
def readRecord {σ : Type} (fields : List (Field σ)) (seen : List String) (record : σ)
    (cs : List Char) : Read σ cs := do
  let (name, ⟨rest, hname⟩) ← readQuoted cs
  let some field := fields.find? (·.name == name)
    | throw (refuseName (.unknownField name (fields.map (·.name))) rest)
  if seen.contains name then throw (refuseName (.duplicateField name) rest)
  let ⟨rest, hcolon⟩ ← readColon rest
  let (update, ⟨rest, hvalue⟩) ← field.update.ofText rest
  match hafter : skipBlank rest with
  | [] => throw ⟨.objectUnfinished, 0⟩
  | '\x7d' :: after =>
    return (update record, ⟨after, by have := length_lt_of_skipBlank_cons hafter; omega⟩)
  | ',' :: after =>
    match hnext : skipBlank after with
    | [] => throw ⟨.valueUnfinished, 0⟩
    | '"' :: next =>
      have hlt : next.length < cs.length := by
        have h1 := length_lt_of_skipBlank_cons hafter
        have h2 := length_lt_of_skipBlank_cons hnext
        omega
      let (record, rest) ← readRecord fields (name :: seen) (update record) next
      return (record, rest.within hlt)
    | '\x7d' :: more => throw (.here .trailingComma ('\x7d' :: more))
    | other => throw (.here .nameExpected other)
  | after => throw (.here .objectMarkExpected after)
termination_by cs.length

/-- A record with the given fields.  Fields that are not given keep their values in `start`. -/
def record {σ : Type} (name : String) (fields : List (Field σ)) (start : σ) : Decoder σ where
  ofValue
    | .array items => ofItems items.length fields items start
    | .object members => ofMembers fields members start
    | json => .error (mistyped json ("struct " ++ name))
  ofText cs :=
    match hcs : skipBlank cs with
    | [] => .error ⟨.valueUnfinished, 0⟩
    | '[' :: rest => do
      let (value, rest) ← readFields true fields start rest
      return (value, rest.within (length_lt_of_skipBlank_cons hcs))
    | '\x7b' :: rest =>
      have hinner := length_lt_of_skipBlank_cons hcs
      match hrest : skipBlank rest with
      | [] => .error ⟨.objectUnfinished, 0⟩
      | '\x7d' :: after =>
        .ok (start, ⟨after, Nat.lt_trans (length_lt_of_skipBlank_cons hrest) hinner⟩)
      | '"' :: next => do
        let (value, rest) ← readRecord fields [] start next
        return (value, (rest.within (length_lt_of_skipBlank_cons hrest)).within hinner)
      | other => .error (.here .nameExpected other)
    | other => .error (mistypedAt ("struct " ++ name) other)

/-! ## Whole values and texts -/

/-- Read a value. -/
def decode {α : Type} (d : Decoder α) (json : Json) : Except Failure α :=
  (d.ofValue json).mapError fun cause => { cause }

/-- Read a whole text. -/
def parse {α : Type} (d : Decoder α) (source : String) : Except Failure α :=
  readWhole d.ofText source

end Decoder

end Taglit.Json
