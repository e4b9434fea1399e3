import Taglit.Output.Options

/-!
# Patterns filled in without effects

Output templates are filled in with placeholders that are plain texts or are worked out without
effects.  `render_ofSource` then reads a template off its segments.
-/

namespace Taglit.Output

/-- The text of a placeholder that is worked out without effects. -/
def Placeholder.value : Placeholder Id → String
  | text value => value
  | deferred value => value

/-- The characters of a segment with its placeholder filled in. -/
def Segment.filled (record : Placeholders Id) : Segment → List Char
  | literal text => text
  | token name =>
    match Placeholders.longest? record.values name with
    | none => '$' :: name
    | some (bound, placeholder) => placeholder.value.toList ++ name.drop bound.length

/-- Without effects, a segment is rendered as what it is filled in with. -/
theorem Segment.render_eq_filled (record : Placeholders Id) (segment : Segment) :
    (segment.render record : Id (List Char)) = segment.filled record := by
  cases segment with
  | literal text => rfl
  | token name =>
      cases h : Placeholders.longest? record.values name with
      | none => simp only [render, filled, h]; rfl
      | some entry =>
          obtain ⟨bound, placeholder⟩ := entry
          cases placeholder <;> simp only [render, filled, h] <;> rfl

/-- A template that is given by a text writes the segments of the text one after the other. -/
theorem render_ofSource (source : String) (record : Placeholders Id) :
    (Template.ofSource source).render record =
      .ofList ((segmentsOf source.toList).flatMap (Segment.filled record)) := by
  have hrender : Segment.render record = fun segment => pure (segment.filled record) :=
    funext (Segment.render_eq_filled record)
  rw [Template.ofSource, Template.render, Pattern.parse, Pattern.render, hrender, List.mapM_pure]
  rfl

end Taglit.Output
