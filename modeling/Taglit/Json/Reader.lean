import Taglit.Json.Number

/-!
# Reading a JSON text

A value is read by recursion on the depth to which lists and objects may still be nested; the items
of a list and the members of an object are read one after the other, each leaving fewer characters.
If a name is given twice in an object, the last value stands in the place of the first.
-/

namespace Taglit.Json

open Taglit.Text

/-! ## Quoted text -/

/-- Read the four digits of a Unicode escape. -/
def readHex (cs : List Char) : Read Nat cs :=
  match cs with
  | a :: b :: c :: d :: rest =>
    match hexNumber? [a, b, c, d] with
    | some n => .ok (n, ⟨rest, by simp; omega⟩)
    | none => .error ⟨.invalidEscape, byteLength cs - 4⟩
  -- four bytes are looked at, which may be fewer than four characters
  | _ =>
    .error (if byteLength cs < 4 then ⟨.textUnfinished, 0⟩
      else ⟨.invalidEscape, byteLength cs - 4⟩)

/-- Read the second half of a surrogate pair, given its first half. -/
def readSecondHalf (first : Nat) (cs : List Char) : Read Char cs :=
  match cs with
  | [] => .error ⟨.textUnfinished, 0⟩
  | '\\' :: rest =>
    match rest with
    | [] => .error ⟨.textUnfinished, 0⟩
    | 'u' :: digits => do
      let (second, ⟨rest, hrest⟩) ← readHex digits
      if second < 0xdc00 || 0xdfff < second then throw (.before .loneSurrogate rest)
      let n := (first - 0xd800) * 0x400 + (second - 0xdc00) + 0x10000
      return (Char.ofNat n, ⟨rest, by simp; omega⟩)
    | _ => .error (.here .surrogateUnfinished rest)
  | _ => .error (.here .surrogateUnfinished cs)

/-- Read an escape after its backslash. -/
def readEscape (cs : List Char) : Read Char cs :=
  match cs with
  | [] => .error ⟨.textUnfinished, 0⟩
  | '"' :: rest => .ok ('"', ⟨rest, by simp⟩)
  | '\\' :: rest => .ok ('\\', ⟨rest, by simp⟩)
  | '/' :: rest => .ok ('/', ⟨rest, by simp⟩)
  | 'b' :: rest => .ok ('\x08', ⟨rest, by simp⟩)
  | 'f' :: rest => .ok ('\x0c', ⟨rest, by simp⟩)
  | 'n' :: rest => .ok ('\n', ⟨rest, by simp⟩)
  | 'r' :: rest => .ok ('\r', ⟨rest, by simp⟩)
  | 't' :: rest => .ok ('\t', ⟨rest, by simp⟩)
  | 'u' :: digits => do
    let (n, ⟨rest, hrest⟩) ← readHex digits
    -- a second half has no first one here, and a first one needs its second
    if 0xdc00 ≤ n && n ≤ 0xdfff then throw (.before .loneSurrogate rest)
    if 0xd800 ≤ n && n ≤ 0xdbff then
      let (c, ⟨rest, hsecond⟩) ← readSecondHalf n rest
      return (c, ⟨rest, by simp; omega⟩)
    return (Char.ofNat n, ⟨rest, by simp; omega⟩)
  | _ => .error (.here .invalidEscape cs)

/-- Read the characters of a quoted text after its opening quote. -/
def readChars (cs : List Char) : Read (List Char) cs :=
  match cs with
  | [] => .error ⟨.textUnfinished, 0⟩
  | '"' :: rest => .ok ([], ⟨rest, by simp⟩)
  | '\\' :: escape => do
    let (c, ⟨rest, hescape⟩) ← readEscape escape
    let (chars, ⟨rest, hrest⟩) ← readChars rest
    return (c :: chars, ⟨rest, by simp; omega⟩)
  | c :: rest => do
    if c.toNat < 0x20 then throw (.before .controlCharacter rest)
    let (chars, ⟨rest, hrest⟩) ← readChars rest
    return (c :: chars, ⟨rest, by simp; omega⟩)
termination_by cs.length
decreasing_by all_goals simp_all; try omega

/-- Read a quoted text after its opening quote. -/
def readQuoted (cs : List Char) : Read String cs := do
  let (chars, rest) ← readChars cs
  return (.ofList chars, rest)

/-! ## Words -/

/-- Read the rest of a word after its first character. -/
def readWord (word cs : List Char) : Except Fault { rest : List Char // rest.length ≤ cs.length } :=
  match word, cs with
  | [], cs => .ok ⟨cs, Nat.le_refl _⟩
  | _ :: _, [] => .error ⟨.valueUnfinished, 0⟩
  | w :: word, c :: rest => do
    if c ≠ w then throw (.here .unknownWord (c :: rest))
    let ⟨rest, hrest⟩ ← readWord word rest
    return ⟨rest, by simp; omega⟩

/-! ## Scalars -/

/-- Read a value that is neither a list nor an object; `none` if another value stands here. -/
def readScalar (cs : List Char) : Option (Read Json cs) :=
  match cs with
  | 'n' :: rest => some do
    let ⟨rest, hrest⟩ ← readWord "ull".toList rest
    return (.null, ⟨rest, by simp; omega⟩)
  | 't' :: rest => some do
    let ⟨rest, hrest⟩ ← readWord "rue".toList rest
    return (.bool true, ⟨rest, by simp; omega⟩)
  | 'f' :: rest => some do
    let ⟨rest, hrest⟩ ← readWord "alse".toList rest
    return (.bool false, ⟨rest, by simp; omega⟩)
  | '"' :: rest => some do
    let (s, ⟨rest, hrest⟩) ← readQuoted rest
    return (.text s, ⟨rest, by simp; omega⟩)
  | c :: rest => if c == '-' || c.isDigit then some (numberValue (c :: rest)) else none
  | [] => none

/-! ## Lists -/

/-- Read the items of a list after the first one has been found to start at `cs`. -/
def readItems {α : Type} (item : (cs : List Char) → Read α cs) (cs : List Char) :
    Read (List α) cs := do
  let (first, ⟨rest, hfirst⟩) ← item cs
  match hafter : skipBlank rest with
  | [] => throw ⟨.listUnfinished, 0⟩
  | ']' :: after =>
    have := length_skipBlank_le rest
    return ([first], ⟨after, by simp [hafter] at this; omega⟩)
  | ',' :: after =>
    match hnext : skipBlank after with
    | [] => throw ⟨.valueUnfinished, 0⟩
    | ']' :: _ => throw (.here .trailingComma (skipBlank after))
    | next =>
      have h1 := length_skipBlank_le rest
      have h2 := length_skipBlank_le after
      have hlt : next.length < cs.length := by simp [hafter] at h1; rw [hnext] at h2; omega
      let (items, ⟨rest, hrest⟩) ← readItems item next
      return (first :: items, ⟨rest, by omega⟩)
  | after => throw (.here .listMarkExpected after)
termination_by cs.length

/-! ## Objects -/

/-- Read a colon. -/
def readColon (cs : List Char) : Except Fault (Rest cs) :=
  match hcs : skipBlank cs with
  | [] => .error ⟨.objectUnfinished, 0⟩
  | ':' :: rest =>
    have := length_skipBlank_le cs
    .ok ⟨rest, by simp [hcs] at this; omega⟩
  | other => .error (.here .colonExpected other)

/-- Read a member of an object after the opening quote of its name. -/
def readMember (value : (cs : List Char) → Read Json cs) (cs : List Char) :
    Read (String × Json) cs := do
  let (name, ⟨rest, hname⟩) ← readQuoted cs
  let ⟨rest, hcolon⟩ ← readColon rest
  let (value, ⟨rest, hvalue⟩) ← value rest
  return ((name, value), ⟨rest, by omega⟩)

/-- Read the members of an object after the opening quote of the first name. -/
def readMembers (value : (cs : List Char) → Read Json cs) (cs : List Char) :
    Read (List (String × Json)) cs := do
  let (first, ⟨rest, hfirst⟩) ← readMember value cs
  match hafter : skipBlank rest with
  | [] => throw ⟨.objectUnfinished, 0⟩
  | '\x7d' :: after =>
    have := length_skipBlank_le rest
    return ([first], ⟨after, by simp [hafter] at this; omega⟩)
  | ',' :: after =>
    match hnext : skipBlank after with
    | [] => throw ⟨.valueUnfinished, 0⟩
    | '"' :: next =>
      have h1 := length_skipBlank_le rest
      have h2 := length_skipBlank_le after
      have hlt : next.length < cs.length := by simp [hafter] at h1; simp [hnext] at h2; omega
      let (members, ⟨rest, hrest⟩) ← readMembers value next
      return (first :: members, ⟨rest, by omega⟩)
    | '\x7d' :: _ => throw (.here .trailingComma (skipBlank after))
    | other => throw (.here .nameExpected other)
  | after => throw (.here .objectMarkExpected after)
termination_by cs.length

/-- An object from its members as they were read: the last value of a name stands in the place of
the first. -/
def ofMembers (members : List (String × Json)) : Json :=
  .object (members.foldl (fun found m => put found m.1 m.2) [])

/-! ## Values -/

/-- Read the rest of a list after its opening bracket. -/
def readList (value : (cs : List Char) → Read Json cs) (cs : List Char) : Read Json cs :=
  have hle := length_skipBlank_le cs
  match hcs : skipBlank cs with
  | [] => .error ⟨.listUnfinished, 0⟩
  | ']' :: rest => .ok (.array [], ⟨rest, by simp [hcs] at hle; omega⟩)
  | next => do
    let (items, ⟨rest, hrest⟩) ← readItems value next
    return (.array items, ⟨rest, by rw [hcs] at hle; omega⟩)

/-- Read the rest of an object after its opening brace. -/
def readObject (value : (cs : List Char) → Read Json cs) (cs : List Char) : Read Json cs :=
  have hle := length_skipBlank_le cs
  match hcs : skipBlank cs with
  | [] => .error ⟨.objectUnfinished, 0⟩
  | '\x7d' :: rest => .ok (.object [], ⟨rest, by simp [hcs] at hle; omega⟩)
  | '"' :: next => do
    let (members, ⟨rest, hrest⟩) ← readMembers value next
    return (ofMembers members, ⟨rest, by simp [hcs] at hle; omega⟩)
  | other => .error (.here .nameExpected other)

/-- Read a value in which lists and objects are nested at most `depth` deep. -/
def readValue (depth : Nat) (cs : List Char) : Read Json cs :=
  have hle := length_skipBlank_le cs
  match hcs : skipBlank cs with
  | [] => .error ⟨.valueUnfinished, 0⟩
  | '[' :: rest =>
    match depth with
    | 0 => .error (.here .tooDeep ('[' :: rest))
    | depth + 1 => do
      let (value, ⟨rest, hrest⟩) ← readList (readValue depth) rest
      return (value, ⟨rest, by simp [hcs] at hle; omega⟩)
  | '\x7b' :: rest =>
    match depth with
    | 0 => .error (.here .tooDeep ('\x7b' :: rest))
    | depth + 1 => do
      let (value, ⟨rest, hrest⟩) ← readObject (readValue depth) rest
      return (value, ⟨rest, by simp [hcs] at hle; omega⟩)
  | start =>
    match readScalar start with
    | none => .error (.here .valueExpected start)
    | some scalar => do
      let (value, ⟨rest, hrest⟩) ← scalar
      return (value, ⟨rest, by rw [hcs] at hle; omega⟩)

/-! ## Whole texts -/

/-- How deeply lists and objects may be nested in a text from elsewhere. -/
def depthLimit : Nat := 127

/-- A fault as a failure in the given text. -/
def Fault.locate (fault : Fault) (source : String) : Failure where
  cause := fault.cause
  position? :=
    let bytes := source.toUTF8.toList
    some (.after (bytes.take (bytes.length - fault.left)))

/-- Refuse characters after a value. -/
def readEnd (cs : List Char) : Except Fault Unit :=
  match skipBlank cs with
  | [] => .ok ()
  | rest => .error (.here .trailingCharacters rest)

/-- Read a whole text with a reader. -/
def readWhole {α : Type} (reader : (cs : List Char) → Read α cs) (source : String) :
    Except Failure α := do
  let whole : Except Fault α := do
    let (value, rest) ← reader source.toList
    readEnd rest
    return value
  whole.mapError (·.locate source)

/-- The value of a text in which lists and objects may be nested to any depth. -/
def parse (source : String) : Except Failure Json :=
  readWhole (readValue source.length) source

end Taglit.Json
