import Taglit.Json.Cause
import Mathlib.Data.List.Forall2

/-!
# Forms of JSON values

A reader of JSON values takes many values for the same thing: the members of an object may come in
any order, members of other names are passed over, and some members need not be there.  A `Form`
says which values these are.  It is a JSON value in which every member of an object is marked as one
that may be left out or not; `Form.canonical` is that value, and `Form.Admits` relates the form to
all values that differ from it in these ways, at any depth.

Readers go through the members of an object one after the other.  `Suits.exists_foldlM` says where
such a reader ends up if every member that it knows settles one field, in whatever order they come.
-/

namespace Taglit.Json

/-! ## Forms -/

/-- A member of an object in a form, which may be left out if it is optional. -/
structure Member (φ : Type) where
  name : String
  optional : Bool
  value : φ

/-- A JSON value in many guises: one value and no other, a list, or an object in which members of
other names are passed over. -/
inductive Form where
  | exactly (json : Json)
  | list (items : List Form)
  | record (members : List (Member Form))

mutual

/-- The value with all members, in their order, and no others. -/
def Form.canonical : Form → Json
  | .exactly json => json
  | .list items => .array (canonicalItems items)
  | .record members => .object (canonicalMembers members)

/-- The canonical values of a list of forms. -/
def canonicalItems : List Form → List Json
  | [] => []
  | item :: items => item.canonical :: canonicalItems items

/-- The members of an object with their canonical values. -/
def canonicalMembers : List (Member Form) → List (String × Json)
  | [] => []
  | ⟨name, _, value⟩ :: members => (name, value.canonical) :: canonicalMembers members

end

mutual

/-- A value has the given form.  An object keeps some members, has others of unknown names, and
orders them as it likes. -/
inductive Form.Admits : Form → Json → Prop where
  | exactly (json : Json) : Form.Admits (.exactly json) json
  | list {forms : List Form} {items : List Json} :
      List.Forall₂ Form.Admits forms items → Form.Admits (.list forms) (.array items)
  | record {members : List (Member Form)} {kept extra given : List (String × Json)} :
      Keeps members kept → (∀ m ∈ extra, m.1 ∉ members.map Member.name) →
      given.Perm (kept ++ extra) →
      Form.Admits (.record members) (.object given)

/-- Members are kept, but for some that may be left out. -/
inductive Keeps : List (Member Form) → List (String × Json) → Prop where
  | nil : Keeps [] []
  | given {name : String} {optional : Bool} {form : Form} {json : Json}
      {members : List (Member Form)} {kept : List (String × Json)} :
      Form.Admits form json → Keeps members kept →
      Keeps (⟨name, optional, form⟩ :: members) ((name, json) :: kept)
  | omitted {name : String} {form : Form} {members : List (Member Form)}
      {kept : List (String × Json)} :
      Keeps members kept → Keeps (⟨name, true, form⟩ :: members) kept

end

mutual

/-- The canonical value has the form. -/
theorem Form.admits_canonical (form : Form) : form.Admits form.canonical := by
  match form with
  | .exactly json => exact .exactly json
  | .list items => exact .list (forall₂_canonicalItems items)
  | .record members =>
      have hperm : (canonicalMembers members).Perm (canonicalMembers members ++ []) := by
        rw [List.append_nil]
      exact .record (keeps_canonicalMembers members) (by simp) hperm

/-- The same for a list of forms. -/
theorem forall₂_canonicalItems (items : List Form) :
    List.Forall₂ Form.Admits items (canonicalItems items) := by
  match items with
  | [] => exact .nil
  | item :: items => exact .cons (Form.admits_canonical item) (forall₂_canonicalItems items)

/-- The same for the members of an object, which are all kept. -/
theorem keeps_canonicalMembers (members : List (Member Form)) :
    Keeps members (canonicalMembers members) := by
  match members with
  | [] => exact .nil
  | ⟨_, _, value⟩ :: members =>
      exact .given (Form.admits_canonical value) (keeps_canonicalMembers members)

end

/-- A form of one value admits that value alone. -/
theorem Form.Admits.eq_of_exactly {json value : Json} (h : (Form.exactly value).Admits json) :
    json = value := by
  cases h
  rfl

/-! ## Objects of a form -/

/-- The members of an object suit those of a form: one of a known name has a value of the form of
that name, and one that is not there may be left out. -/
structure Suits (members : List (Member Form)) (given : List (String × Json)) : Prop where
  known : ∀ m ∈ given, m.1 ∈ members.map Member.name →
    ∃ f ∈ members, f.name = m.1 ∧ f.value.Admits m.2
  present : ∀ f ∈ members, f.name ∈ given.map Prod.fst ∨ f.optional = true

/-- Members that are kept have values of the form, and the others may be left out. -/
theorem Keeps.suits {members : List (Member Form)} {kept : List (String × Json)}
    (h : Keeps members kept) :
    (∀ m ∈ kept, ∃ f ∈ members, f.name = m.1 ∧ f.value.Admits m.2) ∧
      ∀ f ∈ members, f.name ∈ kept.map Prod.fst ∨ f.optional = true := by
  match h with
  | .nil => exact ⟨by simp, by simp⟩
  | .given hvalue hrest =>
      obtain ⟨hknown, hpresent⟩ := hrest.suits
      refine ⟨List.forall_mem_cons.mpr ⟨⟨_, List.mem_cons_self, rfl, hvalue⟩, fun m hm => ?_⟩,
        List.forall_mem_cons.mpr ⟨by simp, fun f hf => ?_⟩⟩
      · obtain ⟨f, hf, hm⟩ := hknown m hm
        exact ⟨f, List.mem_cons_of_mem _ hf, hm⟩
      · exact (hpresent f hf).imp_left (List.mem_cons_of_mem _)
  | .omitted hrest =>
      obtain ⟨hknown, hpresent⟩ := hrest.suits
      refine ⟨fun m hm => ?_, List.forall_mem_cons.mpr ⟨.inr rfl, hpresent⟩⟩
      obtain ⟨f, hf, hm⟩ := hknown m hm
      exact ⟨f, List.mem_cons_of_mem _ hf, hm⟩

/-- A value of the form of an object is an object whose members suit the form. -/
theorem Form.Admits.exists_suits {members : List (Member Form)} {json : Json}
    (h : (Form.record members).Admits json) :
    ∃ given, json = .object given ∧ Suits members given := by
  cases h with
  | @record _ kept extra given hkept hextra hperm =>
      obtain ⟨hknown, hpresent⟩ := hkept.suits
      refine ⟨given, rfl, fun m hm hname => ?_, fun f hf => (hpresent f hf).imp_left fun hkey => ?_⟩
      · -- a member of a known name is not one of the others
        rcases List.mem_append.mp (hperm.mem_iff.mp hm) with hm | hm
        · exact hknown m hm
        · exact absurd hname (hextra m hm)
      · have hkeys := (hperm.map Prod.fst).mem_iff (a := f.name)
        rw [hkeys, List.map_append]
        exact List.mem_append_left _ hkey

/-- A member that is always the same is found. -/
theorem lookup_eq_some {name : String} {json : Json} {members : List (String × Json)}
    (hmem : name ∈ members.map Prod.fst) (hsame : ∀ m ∈ members, m.1 = name → m.2 = json) :
    lookup name members = some json := by
  induction members with
  | nil => cases hmem
  | cons m members ih =>
      rw [lookup]
      split
      · next heq => rw [hsame m List.mem_cons_self heq]
      · next hne =>
          rw [List.map_cons, List.mem_cons] at hmem
          have hrest := hmem.resolve_left fun h => hne h.symm
          exact ih hrest fun k hk => hsame k (List.mem_cons_of_mem _ hk)

/-! ## Reading the members of an object -/

/-- A reader whose state is told from the names it has come across: a member of one of the `names`
adds its name, and any other one is passed over.  In the end it has come across the names that are
there. -/
theorem exists_foldlM_eq {σ : Type} {step : σ → String × Json → Except Cause σ}
    {state : List String → σ} {names : List String} {given : List (String × Json)}
    (hknown : ∀ m ∈ given, m.1 ∈ names → ∀ seen, step (state seen) m = .ok (state (m.1 :: seen)))
    (hother : ∀ m ∈ given, m.1 ∉ names → ∀ seen, step (state seen) m = .ok (state seen))
    (seen : List String) :
    ∃ final, (∀ name, name ∈ final ↔ name ∈ seen ∨ name ∈ names ∧ name ∈ given.map Prod.fst) ∧
      given.foldlM step (state seen) = .ok (state final) := by
  induction given generalizing seen with
  | nil => exact ⟨seen, by simp, rfl⟩
  | cons m given ih =>
      have ih := ih (fun k hk => hknown k (List.mem_cons_of_mem _ hk))
        fun k hk => hother k (List.mem_cons_of_mem _ hk)
      rw [List.foldlM_cons]
      -- a known name joins those that were seen; the rest starts from there
      by_cases hm : m.1 ∈ names
      · obtain ⟨final, hfinal, hrest⟩ := ih (m.1 :: seen)
        refine ⟨final, fun name => ?_, ?_⟩
        · rw [hfinal, List.map_cons, List.mem_cons, List.mem_cons]
          by_cases hname : name = m.1
          · simp [hname, hm]
          · simp [hname]
        · rw [hknown m List.mem_cons_self hm]
          exact hrest
      · obtain ⟨final, hfinal, hrest⟩ := ih seen
        refine ⟨final, fun name => ?_, ?_⟩
        · rw [hfinal, List.map_cons, List.mem_cons]
          by_cases hname : name = m.1
          · simp [hname, hm]
          · simp [hname]
        · rw [hother m List.mem_cons_self hm]
          exact hrest

/-- A reader that settles one field for each member of a form, and passes over all others, comes to
an end on every object of the form.  Then the fields that may not be left out are settled. -/
theorem Suits.exists_foldlM {σ : Type} {step : σ → String × Json → Except Cause σ}
    {state : List String → σ} {members : List (Member Form)} {given : List (String × Json)}
    (h : Suits members given)
    (hreads : ∀ f ∈ members, ∀ json, f.value.Admits json → ∀ seen,
      step (state seen) (f.name, json) = .ok (state (f.name :: seen)))
    (hother : ∀ m : String × Json, m.1 ∉ members.map Member.name → ∀ seen,
      step (state seen) m = .ok (state seen)) :
    ∃ final, (∀ f ∈ members, f.name ∈ final ∨ f.optional = true) ∧
      given.foldlM step (state []) = .ok (state final) := by
  have hknown : ∀ m ∈ given, m.1 ∈ members.map Member.name → ∀ seen,
      step (state seen) m = .ok (state (m.1 :: seen)) := by
    rintro ⟨key, json⟩ hm hname seen
    obtain ⟨f, hf, rfl, hvalue⟩ := h.known (key, json) hm hname
    exact hreads f hf json hvalue seen
  obtain ⟨final, hfinal, hfold⟩ := exists_foldlM_eq hknown (fun m _ => hother m) []
  refine ⟨final, fun f hf => (h.present f hf).imp_left fun hkey => ?_, hfold⟩
  exact (hfinal f.name).mpr (.inr ⟨List.mem_map_of_mem hf, hkey⟩)

end Taglit.Json
