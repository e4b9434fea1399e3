import Taglit.Literal
import Mathlib.Data.List.Nodup

/-!
# The holes of a literal

The segments of a literal are joined with a name in each hole.  A name is an underscore and the
number of its hole, and nothing marks where the number ends: a segment may start with digits, or be
empty.

`rawTemplate_recoverable` says that nothing is lost all the same.  The names differ and can be read
from the list of arguments.  If no segment has an underscore, the underscores of the source are
those of the holes.  Between two of them stand a number that is known, since the holes are numbered
in order, and a segment, so `segmentsIn` reads the segments back from the source.
-/

namespace Taglit

/-! ## Names of holes -/

/-- The names of two holes differ. -/
theorem holeName_injective : Function.Injective holeName :=
  fun _ _ h => Text.eq_of_repr_eq ((String.append_right_inj "_").mp h)

/-- The name of a hole is an underscore and the digits of its number. -/
theorem toList_holeName (index : Nat) : (holeName index).toList = '_' :: Nat.toDigits 10 index := by
  simp [holeName]

/-- What is no digit does not stand in a number. -/
theorem not_mem_toDigits {c : Char} (hc : c.isDigit = false) (number : Nat) :
    c ∉ Nat.toDigits 10 number := by
  intro hmem
  rw [Nat.isDigit_of_mem_toDigits (by decide) (by decide) hmem] at hc
  cases hc

/-- No comma stands in the name of a hole. -/
theorem comma_not_mem_holeName (index : Nat) : ',' ∉ (holeName index).toList := by
  rw [toList_holeName, List.mem_cons, not_or]
  exact ⟨by decide, not_mem_toDigits (by decide) index⟩

/-! ## Parameters -/

/-- The parameters are the names of the holes. -/
theorem parameters_rawTemplate (segments : List String) :
    (rawTemplate segments).parameters = (List.range (segments.length - 1)).map holeName := rfl

/-- There is one parameter less than there are segments. -/
theorem length_parameters (segments : List String) :
    (rawTemplate segments).parameters.length = segments.length - 1 := by
  rw [parameters_rawTemplate, List.length_map, List.length_range]

/-- The parameters differ. -/
theorem nodup_parameters (segments : List String) : (rawTemplate segments).parameters.Nodup :=
  List.Nodup.map holeName_injective List.nodup_range

/-- If there are holes, their names stand between the commas of the list of arguments. -/
theorem split_arguments {segments : List String} (h : 1 < segments.length) :
    ((rawTemplate segments).arguments.split ',').toList.map (·.copy) =
      (rawTemplate segments).parameters := by
  have hcomma : ∀ name ∈ (rawTemplate segments).parameters, ',' ∉ name.toList :=
    List.forall_mem_map.mpr fun index _ => comma_not_mem_holeName index
  have hholes : (rawTemplate segments).parameters ≠ [] := by
    apply List.ne_nil_of_length_pos
    rw [length_parameters]
    omega
  have hsplit := String.toList_split_intercalate hcomma
  rwa [if_neg hholes] at hsplit

/-! ## Segments and names in turn -/

/-- From hole number `index` on, each segment but the last one is followed by the name of a hole. -/
theorem join_afterHole (index : Nat) (first : String) (rest : List String) :
    String.join (first :: afterHole index rest) =
      String.join (List.zipWith (· ++ ·) (first :: rest)
        ((List.range' index rest.length).map holeName ++ [""])) := by
  induction rest generalizing index first with
  | nil => simp [afterHole]
  | cons segment rest ih =>
      rw [List.length_cons, List.range'_succ, List.map_cons, List.cons_append,
        List.zipWith_cons_cons, String.join_cons, String.join_cons, ← ih (index + 1) segment,
        afterHole, String.join_cons, String.append_assoc]

/-- The source is the segments, each but the last one with the name of its hole after it. -/
theorem source_rawTemplate {segments : List String} (h : segments ≠ []) :
    (rawTemplate segments).source =
      String.join (List.zipWith (· ++ ·) segments ((rawTemplate segments).parameters ++ [""])) := by
  obtain ⟨first, rest, rfl⟩ := List.exists_cons_of_ne_nil h
  rw [parameters_rawTemplate, List.length_cons, Nat.add_sub_cancel, List.range_eq_range']
  exact join_afterHole 0 first rest

/-! ## Segments read back -/

/-- Segments, each with the number of the hole before it, from hole number `index` on. -/
def numbered (index : Nat) : List String → List (List Char)
  | [] => []
  | segment :: segments =>
    (Nat.toDigits 10 index ++ segment.toList) :: numbered (index + 1) segments

/-- The segments without the numbers of the holes before them. -/
def withoutNumbers (index : Nat) : List (List Char) → List String
  | [] => []
  | piece :: pieces =>
    .ofList (piece.drop (Nat.toDigits 10 index).length) :: withoutNumbers (index + 1) pieces

/-- The segments of a source, if the underscores in it are those of its holes. -/
def segmentsIn (source : String) : List String :=
  match source.toList.splitOn '_' with
  | [] => []
  | first :: pieces => .ofList first :: withoutNumbers 0 pieces

/-- The numbers can be taken off again. -/
theorem withoutNumbers_numbered (index : Nat) (segments : List String) :
    withoutNumbers index (numbered index segments) = segments := by
  induction segments generalizing index with
  | nil => rfl
  | cons segment segments ih =>
      rw [numbered, withoutNumbers, List.drop_left, String.ofList_toList, ih]

/-- No underscore comes with the numbers. -/
theorem not_mem_numbered {segments : List String} (h : ∀ s ∈ segments, '_' ∉ s.toList)
    (index : Nat) : ∀ piece ∈ numbered index segments, '_' ∉ piece := by
  induction segments generalizing index with
  | nil => exact fun _ hpiece => absurd hpiece List.not_mem_nil
  | cons segment segments ih =>
      rw [List.forall_mem_cons] at h
      rw [numbered, List.forall_mem_cons, List.mem_append, not_or]
      exact ⟨⟨not_mem_toDigits (by decide) index, h.1⟩, ih h.2 (index + 1)⟩

/-- The start of the first piece may stand before the whole. -/
theorem intercalate_append_cons {α : Type} (separator xs piece : List α) (pieces : List (List α)) :
    separator.intercalate ((xs ++ piece) :: pieces) =
      xs ++ separator.intercalate (piece :: pieces) := by
  cases pieces with
  | nil => simp
  | cons next pieces => simp

/-- A source is its numbered segments with underscores between them. -/
theorem toList_join_afterHole (index : Nat) (first : String) (rest : List String) :
    (String.join (first :: afterHole index rest)).toList =
      ['_'].intercalate (first.toList :: numbered index rest) := by
  induction rest generalizing index first with
  | nil => simp [afterHole, numbered]
  | cons segment rest ih =>
      rw [afterHole, String.join_cons, String.join_cons, String.toList_append, String.toList_append,
        toList_holeName, ih, numbered, List.intercalate_cons_cons, intercalate_append_cons]
      simp only [List.append_assoc, List.cons_append, List.nil_append]

/-- The segments are read back from the source, whatever digits they start with. -/
theorem segmentsIn_source {segments : List String} (h : segments ≠ [])
    (hplain : ∀ s ∈ segments, '_' ∉ s.toList) :
    segmentsIn (rawTemplate segments).source = segments := by
  obtain ⟨first, rest, rfl⟩ := List.exists_cons_of_ne_nil h
  rw [List.forall_mem_cons] at hplain
  have hpieces : ∀ piece ∈ first.toList :: numbered 0 rest, '_' ∉ piece :=
    List.forall_mem_cons.mpr ⟨hplain.1, not_mem_numbered hplain.2 0⟩
  -- the underscores of the source are those before the numbers
  have hsplit : (rawTemplate (first :: rest)).source.toList.splitOn '_' =
      first.toList :: numbered 0 rest := by
    rw [rawTemplate, toList_join_afterHole]
    exact List.splitOn_intercalate '_' hpieces (List.cons_ne_nil _ _)
  rw [segmentsIn, hsplit]
  exact congrArg₂ List.cons String.ofList_toList (withoutNumbers_numbered 0 rest)

/-! ## Literals and their sources -/

/-- Every segment and every hole of a literal can be recovered.

* There is a name for each hole, an underscore and the number of the hole, and the names differ.
* The list of arguments is empty if there are no holes, and otherwise the names stand between its
  commas.
* The source is the segments in order, each but the last one followed by the name of the hole after
  it.
* If no segment has an underscore, no other literal of which this holds has the same source. -/
theorem rawTemplate_recoverable {segments : List String} (h : segments ≠ []) :
    ((rawTemplate segments).parameters.length + 1 = segments.length ∧
      (∀ i, i + 1 < segments.length →
        (rawTemplate segments).parameters[i]? = some ("_" ++ toString i)) ∧
      (rawTemplate segments).parameters.Nodup) ∧
    ((segments.length = 1 → (rawTemplate segments).arguments = "") ∧
      (1 < segments.length →
        ((rawTemplate segments).arguments.split ',').toList.map (·.copy) =
          (rawTemplate segments).parameters)) ∧
    (rawTemplate segments).source =
      String.join (List.zipWith (· ++ ·) segments ((rawTemplate segments).parameters ++ [""])) ∧
    ((∀ s ∈ segments, '_' ∉ s.toList) → ∀ others : List String, others ≠ [] →
      (∀ s ∈ others, '_' ∉ s.toList) → (rawTemplate others).source = (rawTemplate segments).source →
        others = segments) := by
  have hlength := length_parameters segments
  have hpos : 0 < segments.length := List.length_pos_iff.mpr h
  refine ⟨⟨by omega, fun i hi => ?_, nodup_parameters segments⟩, ⟨fun hone => ?_, split_arguments⟩,
    source_rawTemplate h, fun hplain others hothers hplain' hsource => ?_⟩
  · have hrange : i < segments.length - 1 := by omega
    rw [parameters_rawTemplate, List.getElem?_map, List.getElem?_range hrange]
    rfl
  · have hnil : (rawTemplate segments).parameters = [] := by
      apply List.eq_nil_of_length_eq_zero
      omega
    rw [RawTemplate.arguments, hnil]
    rfl
  · -- both literals are read back from one source
    calc others = segmentsIn (rawTemplate others).source := (segmentsIn_source hothers hplain').symm
      _ = segmentsIn (rawTemplate segments).source := by rw [hsource]
      _ = segments := segmentsIn_source h hplain

/-- Empty segments, and a digit that reads as part of the number of the hole before it. -/
theorem rawTemplate_recoverable_digits :
    (rawTemplate ["", "", "0"]).source = "_0_10" ∧
      ((rawTemplate ["", "", "0"]).arguments.split ',').toList.map (·.copy) = ["_0", "_1"] ∧
      (rawTemplate ["", "0", ""]).source ≠ (rawTemplate ["", "", "0"]).source := by
  obtain ⟨-, ⟨-, hsplit⟩, -, hinjective⟩ := rawTemplate_recoverable (List.cons_ne_nil "" ["", "0"])
  refine ⟨by decide, hsplit (by decide), fun hsource => ?_⟩
  have hothers : ["", "0", ""] = ["", "", "0"] :=
    hinjective (by decide) ["", "0", ""] (by decide) (by decide) hsource
  exact absurd hothers (by decide)

end Taglit
