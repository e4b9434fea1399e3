import Taglit.Output.Pattern
import Mathlib.Data.List.Induction
import Mathlib.Data.List.Infix
import Mathlib.Data.List.Nodup

/-!
# Records of placeholders as finite maps

A record is made by binding names one after the other, and what it binds a name to is what the name
was bound to last.  `latest?` says so without a record.

A token takes the longest bound name that it starts with.  The record finds it by going through its
entries.  `longestBound?` finds it by going through the fronts of the token, from the whole token
down to nothing, and knows the record as a map alone.  `longest?_values` says that the two agree,
whatever the order of the entries.
-/

namespace Taglit.Output

variable {m : Type → Type}

/-! ## Binding names -/

/-- A name with the placeholder to which it is bound. -/
structure Binding (m : Type → Type) where
  name : String
  placeholder : Placeholder m

namespace Placeholders

/-- Bind a name, at once or deferred. -/
def add (record : Placeholders m) (binding : Binding m) : Placeholders m :=
  match binding.placeholder with
  | .text value => record.bind binding.name value
  | .deferred value => record.bindDeferred binding.name value

/-- Bind names one after the other. -/
def ofBindings (bindings : List (Binding m)) : Placeholders m :=
  bindings.foldl add {}

end Placeholders

/-- What a name was bound to last. -/
def latest? (bindings : List (Binding m)) (name : String) : Option (Placeholder m) :=
  (bindings.reverse.find? (·.name == name)).map (·.placeholder)

/-- The last binding counts for its own name, and for no other one. -/
theorem latest?_concat (bindings : List (Binding m)) (binding : Binding m) (name : String) :
    latest? (bindings ++ [binding]) name =
      if name = binding.name then some binding.placeholder else latest? bindings name := by
  rw [latest?, List.reverse_concat]
  by_cases h : name = binding.name
  · simp [h]
  · simp [latest?, h, Ne.symm h]

/-- What a name was bound to last is among the bindings. -/
theorem mem_of_latest? {bindings : List (Binding m)} {name : String} {placeholder : Placeholder m}
    (h : latest? bindings name = some placeholder) : ⟨name, placeholder⟩ ∈ bindings := by
  rw [latest?, Option.map_eq_some_iff] at h
  obtain ⟨binding, hfind, rfl⟩ := h
  have hname : binding.name = name := by simpa using List.find?_some hfind
  rw [← hname]
  exact List.mem_reverse.mp (List.mem_of_find?_eq_some hfind)

/-- Among items with different names, each one is found by its name. -/
theorem find?_of_nodup_map {α : Type} {name : α → String} {xs : List α} (h : (xs.map name).Nodup)
    {x : α} (hx : x ∈ xs) : xs.find? (name · == name x) = some x := by
  cases hfind : xs.find? (name · == name x) with
  | none => exact absurd (beq_self_eq_true (name x)) (List.find?_eq_none.mp hfind x hx)
  | some found =>
      have hname : name found = name x := by simpa using List.find?_some hfind
      rw [List.inj_on_of_nodup_map h (List.mem_of_find?_eq_some hfind) hx hname]

/-- A name that is bound once is bound to that placeholder. -/
theorem latest?_of_mem {bindings : List (Binding m)} (h : (bindings.map Binding.name).Nodup)
    {binding : Binding m} (hmem : binding ∈ bindings) :
    latest? bindings binding.name = some binding.placeholder := by
  have hreverse : (bindings.reverse.map Binding.name).Nodup := by
    rw [List.map_reverse]
    exact List.nodup_reverse.mpr h
  rw [latest?, find?_of_nodup_map hreverse (List.mem_reverse.mpr hmem), Option.map_some]

/-- If every name is bound once, the order of the bindings does not count. -/
theorem latest?_perm {bindings others : List (Binding m)} (hperm : others.Perm bindings)
    (h : (bindings.map Binding.name).Nodup) (name : String) :
    latest? others name = latest? bindings name := by
  have hothers : (others.map Binding.name).Nodup := (hperm.map _).nodup_iff.mpr h
  refine Option.ext fun placeholder => ⟨fun hlatest => ?_, fun hlatest => ?_⟩
  · exact latest?_of_mem h (hperm.mem_iff.mp (mem_of_latest? hlatest))
  · exact latest?_of_mem hothers (hperm.mem_iff.mpr (mem_of_latest? hlatest))

namespace Placeholders

/-- Adding a binding inserts it among the entries. -/
theorem values_add (record : Placeholders m) (binding : Binding m) :
    (record.add binding).values = insert record.values binding.name binding.placeholder := by
  unfold add
  split <;> rename_i h <;> rw [h] <;> rfl

/-- Binding a name changes what that name is bound to, and nothing else. -/
theorem find?_add (record : Placeholders m) (binding : Binding m) (name : String) :
    (record.add binding).find? name =
      if name = binding.name then some binding.placeholder else record.find? name := by
  rw [find?, find?, values_add]
  induction record.values with
  | nil => by_cases h : name = binding.name <;> simp [insert, h, Ne.symm]
  | cons entry values ih =>
      obtain ⟨key, old⟩ := entry
      by_cases hkey : key = binding.name
      · -- the entry is replaced in its place
        rw [insert, if_pos hkey]
        by_cases h : name = binding.name
        · simp [h, hkey]
        · have hne : (key == name) = false := by simpa [hkey] using Ne.symm h
          simp [h, hne]
      · rw [insert, if_neg hkey]
        by_cases hname : key = name
        · have hne : name ≠ binding.name := fun h => hkey (hname.trans h)
          simp [hname, hne]
        · simpa [hname] using ih

/-- A bound name keeps its place, and a new one comes last. -/
theorem names_add (record : Placeholders m) (binding : Binding m) :
    (record.add binding).names =
      if binding.name ∈ record.names then record.names else record.names ++ [binding.name] := by
  rw [names, names, values_add]
  induction record.values with
  | nil => rfl
  | cons entry values ih =>
      obtain ⟨key, old⟩ := entry
      by_cases hkey : key = binding.name
      · rw [insert, if_pos hkey]
        simp [hkey]
      · rw [insert, if_neg hkey, List.map_cons, ih, List.map_cons]
        have hmem : binding.name ∈ key :: values.map (·.1) ↔ binding.name ∈ values.map (·.1) := by
          rw [List.mem_cons, or_iff_right (Ne.symm hkey)]
        simp only [hmem]
        split <;> rfl

/-- What a record binds a name to is what the name was bound to last. -/
theorem find?_ofBindings (bindings : List (Binding m)) (name : String) :
    (ofBindings bindings).find? name = latest? bindings name := by
  induction bindings using List.reverseRecOn with
  | nil => rfl
  | append_singleton bindings binding ih =>
      rw [latest?_concat, ← ih, ofBindings, List.foldl_concat]
      exact find?_add _ binding name

/-- A record has every name once. -/
theorem nodup_names_ofBindings (bindings : List (Binding m)) :
    (ofBindings bindings).names.Nodup := by
  induction bindings using List.reverseRecOn with
  | nil => exact List.nodup_nil
  | append_singleton bindings binding ih =>
      rw [ofBindings, List.foldl_concat, ← ofBindings, names_add]
      by_cases hmem : binding.name ∈ (ofBindings bindings).names
      · rw [if_pos hmem]
        exact ih
      · rw [if_neg hmem, ← List.concat_eq_append]
        exact List.Nodup.concat hmem ih

end Placeholders

/-! ## The longest bound name -/

/-- The longest front of a token that is a bound name, with what it is bound to. -/
def longestBound? {α : Type} (lookup : String → Option α) (token : List Char) :
    Option (String × α) :=
  token.inits.reverse.findSome? fun front => (lookup (.ofList front)).map (Prod.mk (.ofList front))

section LongestBound

variable {α : Type} {lookup : String → Option α}

/-- The empty token has no front but itself. -/
theorem longestBound?_nil : longestBound? lookup [] = (lookup "").map (Prod.mk "") := by
  simp [longestBound?]

/-- A token is tried as a whole before its shorter fronts. -/
theorem longestBound?_concat (token : List Char) (c : Char) :
    longestBound? lookup (token ++ [c]) =
      ((lookup (.ofList (token ++ [c]))).map (Prod.mk (.ofList (token ++ [c])))).or
        (longestBound? lookup token) := by
  have hinits : (token ++ [c]).inits = token.inits ++ [token ++ [c]] := by simp [List.inits_append]
  rw [longestBound?, hinits, List.reverse_concat, List.findSome?_cons]
  cases lookup (.ofList (token ++ [c])) <;> rfl

/-- No front of a token is bound, or the longest one is found. -/
theorem longestBound?_cases (lookup : String → Option α) (token : List Char) :
    longestBound? lookup token = none ∧ (∀ name, name.toList <+: token → lookup name = none) ∨
    ∃ name value, longestBound? lookup token = some (name, value) ∧ lookup name = some value ∧
      name.toList <+: token ∧
      ∀ other, (lookup other).isSome → other.toList <+: token → other.length ≤ name.length := by
  induction token using List.reverseRecOn with
  | nil =>
      rw [longestBound?_nil]
      cases h : lookup "" with
      | none =>
          refine .inl ⟨rfl, fun name hname => ?_⟩
          obtain rfl : name = "" := by simpa using hname
          exact h
      | some value =>
          refine .inr ⟨"", value, rfl, h, List.nil_prefix, fun other _ hother => ?_⟩
          obtain rfl : other = "" := by simpa using hother
          exact Nat.le_refl _
  | append_singleton token c ih =>
      rw [longestBound?_concat]
      cases h : lookup (.ofList (token ++ [c])) with
      | some value =>
          refine .inr ⟨_, value, rfl, h, by simp, fun other _ hother => ?_⟩
          rw [← String.length_toList]
          simpa using hother.length_le
      | none =>
          rw [Option.map_none, Option.none_or]
          -- the token as a whole is not bound, so a bound front of it is a front of the rest
          have hwhole : ∀ name : String, name.toList <+: token ++ [c] → (lookup name).isSome →
              name.toList <+: token := by
            intro name hname hsome
            rcases List.prefix_concat_iff.mp hname with heq | hname
            · rw [← heq, String.ofList_toList] at h
              simp [h] at hsome
            · exact hname
          rcases ih with ⟨hnone, hfree⟩ | ⟨name, value, hsome, hvalue, hname, hlongest⟩
          · refine .inl ⟨hnone, fun name hname => ?_⟩
            by_contra hbound
            exact hbound (hfree name (hwhole name hname (Option.isSome_iff_ne_none.mpr hbound)))
          · refine .inr ⟨name, value, hsome, hvalue, hname.trans (List.prefix_append _ _), ?_⟩
            exact fun other hbound hother => hlongest other hbound (hwhole other hother hbound)

/-- The name that is found is bound, and starts the token. -/
theorem lookup_of_longestBound? {token : List Char} {name : String} {value : α}
    (h : longestBound? lookup token = some (name, value)) :
    lookup name = some value ∧ name.toList <+: token := by
  rcases longestBound?_cases lookup token with
    ⟨hnone, -⟩ | ⟨found, value', hfound, hvalue, hname, -⟩
  · rw [hnone] at h
    cases h
  · rw [hfound] at h
    cases h
    exact ⟨hvalue, hname⟩

/-- What names are bound to matters for the fronts of the token only. -/
theorem longestBound?_congr {other : String → Option α} {token : List Char}
    (h : ∀ name, name.toList <+: token → lookup name = other name) :
    longestBound? lookup token = longestBound? other token := by
  induction token using List.reverseRecOn with
  | nil => rw [longestBound?_nil, longestBound?_nil, h "" List.nil_prefix]
  | append_singleton token c ih =>
      rw [longestBound?_concat, longestBound?_concat, h _ (by simp),
        ih fun name hname => h name (hname.trans (List.prefix_append _ _))]

/-- What is made of the values does not matter to which name is found. -/
theorem longestBound?_map {β : Type} (f : α → β) (lookup : String → Option α) (token : List Char) :
    longestBound? (fun name => (lookup name).map f) token =
      (longestBound? lookup token).map fun entry => (entry.1, f entry.2) := by
  induction token using List.reverseRecOn with
  | nil => cases h : lookup "" <;> simp [longestBound?_nil, h]
  | append_singleton token c ih =>
      rw [longestBound?_concat, longestBound?_concat, ih]
      cases lookup (.ofList (token ++ [c])) <;> rfl

/-- The longest bound name is found by what makes it the longest. -/
theorem longestBound?_eq_some {token : List Char} {name : String} {value : α}
    (hvalue : lookup name = some value) (hname : name.toList <+: token)
    (hlongest : ∀ other, (lookup other).isSome → other.toList <+: token →
      other.length ≤ name.length) :
    longestBound? lookup token = some (name, value) := by
  rcases longestBound?_cases lookup token with
    ⟨-, hfree⟩ | ⟨found, value', hfound, hvalue', hfront, hmax⟩
  · rw [hfree name hname] at hvalue
    cases hvalue
  · -- two fronts of one token that are not shorter than each other are the same
    have hle : found.length ≤ name.length := hlongest found (by rw [hvalue']; rfl) hfront
    have hge : name.length ≤ found.length := hmax name (by rw [hvalue]; rfl) hname
    have hsame : found.toList = name.toList := by
      refine (List.prefix_of_prefix_length_le hfront hname ?_).eq_of_length ?_ <;>
        simp only [String.length_toList] <;> omega
    obtain rfl : found = name := String.toList_injective hsame
    obtain rfl : value' = value := Option.some.inj (hvalue'.symm.trans hvalue)
    exact hfound

end LongestBound

/-! ## Entries of a record -/

namespace Placeholders

/-- An entry that is found starts the token, and no entry that does is longer. -/
theorem longest?_cases (values : List (String × Placeholder m)) (token : List Char) :
    longest? values token = none ∧ (∀ entry ∈ values, ¬ entry.1.toList <+: token) ∨
    ∃ entry ∈ values, longest? values token = some entry ∧ entry.1.toList <+: token ∧
      ∀ other ∈ values, other.1.toList <+: token → other.1.length ≤ entry.1.length := by
  induction values with
  | nil => exact .inl ⟨rfl, List.forall_mem_nil _⟩
  | cons first values ih =>
      rw [longest?]
      by_cases hfirst : first.1.toList <+: token
      · rcases ih with ⟨hnone, hfree⟩ | ⟨best, hmem, hsome, hbest, hmax⟩
        · refine .inr ⟨first, List.mem_cons_self, by simp [hnone, hfirst], hfirst, ?_⟩
          exact List.forall_mem_cons.mpr ⟨fun _ => Nat.le_refl _,
            fun other hother h => absurd h (hfree other hother)⟩
        · by_cases hlt : best.1.length < first.1.length
          · refine .inr ⟨first, List.mem_cons_self, by simp [hsome, hfirst, hlt], hfirst, ?_⟩
            refine List.forall_mem_cons.mpr ⟨fun _ => Nat.le_refl _, fun other hother h => ?_⟩
            exact Nat.le_trans (hmax other hother h) (Nat.le_of_lt hlt)
          · refine .inr ⟨best, List.mem_cons_of_mem _ hmem, by simp [hsome, hlt], hbest, ?_⟩
            exact List.forall_mem_cons.mpr ⟨fun _ => Nat.le_of_not_lt hlt, hmax⟩
      · -- an entry that does not start the token changes nothing
        rcases ih with ⟨hnone, hfree⟩ | ⟨best, hmem, hsome, hbest, hmax⟩
        · exact .inl ⟨by simp [hnone, hfirst], List.forall_mem_cons.mpr ⟨hfirst, hfree⟩⟩
        · refine .inr ⟨best, List.mem_cons_of_mem _ hmem, by simp [hsome, hfirst], hbest, ?_⟩
          exact List.forall_mem_cons.mpr ⟨fun h => absurd h hfirst, hmax⟩

/-- With every name once, a record binds the name of an entry to that entry's placeholder. -/
theorem find?_eq_some_of_mem {record : Placeholders m} (h : record.names.Nodup)
    {entry : String × Placeholder m} (hentry : entry ∈ record.values) :
    record.find? entry.1 = some entry.2 := by
  rw [find?, find?_of_nodup_map h hentry, Option.map_some]

/-- A name that a record binds has an entry. -/
theorem exists_mem_of_find? {record : Placeholders m} {name : String} {placeholder : Placeholder m}
    (h : record.find? name = some placeholder) : ∃ entry ∈ record.values, entry.1 = name := by
  rw [find?, Option.map_eq_some_iff] at h
  obtain ⟨entry, hfind, -⟩ := h
  exact ⟨entry, List.mem_of_find?_eq_some hfind, by simpa using List.find?_some hfind⟩

/-- Going through the entries of a record finds what going through the fronts of the token finds. -/
theorem longest?_values {record : Placeholders m} (h : record.names.Nodup) (token : List Char) :
    longest? record.values token = longestBound? record.find? token := by
  rcases longest?_cases record.values token with
    ⟨hnone, hfree⟩ | ⟨entry, hentry, hsome, hprefix, hmax⟩
  · rw [hnone]
    rcases longestBound?_cases record.find? token with
      ⟨hnone', -⟩ | ⟨name, value, -, hvalue, hname, -⟩
    · exact hnone'.symm
    · obtain ⟨entry, hentry, rfl⟩ := exists_mem_of_find? hvalue
      exact absurd hname (hfree entry hentry)
  · rw [hsome]
    refine (longestBound?_eq_some (find?_eq_some_of_mem h hentry) hprefix ?_).symm
    intro other hbound hother
    obtain ⟨placeholder, hplaceholder⟩ := Option.isSome_iff_exists.mp hbound
    obtain ⟨entry', hentry', rfl⟩ := exists_mem_of_find? hplaceholder
    exact hmax entry' hentry' hother

/-- The entry that a token takes is found among what the names were bound to last. -/
theorem longest?_ofBindings (bindings : List (Binding m)) (token : List Char) :
    longest? (ofBindings bindings).values token = longestBound? (latest? bindings) token := by
  rw [longest?_values (nodup_names_ofBindings bindings)]
  exact longestBound?_congr fun name _ => find?_ofBindings bindings name

end Placeholders

end Taglit.Output
