import Mathlib.Data.List.Induction
import SeriesQuery.Proofs.Dictionaries
import SeriesQuery.Write.Point

/-!
Points and the calls that build them. Each call sets one tag or one field, and a point is known by
what the last call for each key has set.
-/

set_option autoImplicit false

namespace SeriesQuery

/-! ## Contents -/

namespace Point

theorem checkContent_eq_ok_iff {point : Point} :
    point.checkContent = .ok () ↔ point.measurement ≠ "" ∧ point.fields.entries ≠ [] := by
  unfold Point.checkContent
  split
  · next empty => simp [String.isEmpty_iff.1 empty]
  · next named =>
    split
    · next none =>
      simp only [Dictionary.isEmpty, List.isEmpty_iff] at none
      simp [none]
    · next some =>
      simp only [Dictionary.isEmpty, List.isEmpty_iff] at some
      simpa [some] using named

theorem checkContent_ne_timestampRange {point : Point} {instant : Time.Instant} :
    point.checkContent ≠ .error (.timestampRange instant) := by
  unfold Point.checkContent
  split
  · nofun
  · split <;> nofun

end Point

/-! ## Calls -/

/-- A call that builds a point. -/
inductive PointStep where
  | tag (key value : String)
  | field (key : String) (value : FieldValue)

namespace PointStep

def tag? (key : String) : PointStep → Option String
  | .tag own value => if own = key then some value else none
  | .field _ _ => none

def field? (key : String) : PointStep → Option FieldValue
  | .tag _ _ => none
  | .field own value => if own = key then some value else none

end PointStep

namespace Point

def step (point : Point) : PointStep → Point
  | .tag key value => point.addTag key value
  | .field key value => point.addField key value

def build (start : Point) (steps : List PointStep) : Point := steps.foldl step start

/-- What the last call for a tag sets it to; without such a call it stays as it was. -/
def lastTag? (start : Point) (steps : List PointStep) (key : String) : Option String :=
  (steps.reverse.findSome? (PointStep.tag? key)).or (start.tags.get? key)

def lastField? (start : Point) (steps : List PointStep) (key : String) : Option FieldValue :=
  (steps.reverse.findSome? (PointStep.field? key)).or (start.fields.get? key)

/-! ### One call -/

section
variable (point : Point) (call : PointStep)

@[simp] theorem measurement_step : (point.step call).measurement = point.measurement := by
  cases call <;> rfl

@[simp] theorem timestamp_step : (point.step call).timestamp = point.timestamp := by
  cases call <;> rfl

theorem tag_step (key : String) :
    (point.step call).tags.get? key = (call.tag? key).or (point.tags.get? key) := by
  cases call with
  | tag own value =>
    rw [step, addTag, Dictionary.get?_insert, PointStep.tag?]
    by_cases same : own = key <;> simp [same, Ne.symm]
  | field own value => rfl

theorem field_step (key : String) :
    (point.step call).fields.get? key = (call.field? key).or (point.fields.get? key) := by
  cases call with
  | tag own value => rfl
  | field own value =>
    rw [step, addField, Dictionary.get?_insert, PointStep.field?]
    by_cases same : own = key <;> simp [same, Ne.symm]

end

/-! ### Runs of calls -/

section
variable {Value : Type} (start : Point) (steps : List PointStep)

theorem build_kept {part : Point → Value}
    (kept : ∀ (point : Point) (call : PointStep), part (point.step call) = part point) :
    part (start.build steps) = part start := by
  induction steps using List.reverseRecOn with
  | nil => rfl
  | append_singleton steps call ih => rw [build, List.foldl_concat, kept, ← build, ih]

theorem build_last (part? : Point → Option Value) (sets? : PointStep → Option Value)
    (set : ∀ (point : Point) (call : PointStep),
      part? (point.step call) = (sets? call).or (part? point)) :
    part? (start.build steps) = (steps.reverse.findSome? sets?).or (part? start) := by
  -- The run is taken apart from its end, where the call is that comes first in reverse.
  induction steps using List.reverseRecOn with
  | nil => rfl
  | append_singleton steps call ih =>
    rw [build, List.foldl_concat, set, ← build, ih]
    cases found : sets? call <;> simp [found]

@[simp] theorem measurement_build : (start.build steps).measurement = start.measurement :=
  build_kept start steps measurement_step

@[simp] theorem timestamp_build : (start.build steps).timestamp = start.timestamp :=
  build_kept start steps timestamp_step

theorem tag_build (key : String) :
    (start.build steps).tags.get? key = start.lastTag? steps key := by
  apply build_last start steps (fun point => point.tags.get? key) (PointStep.tag? key)
  exact fun point call => tag_step point call key

theorem field_build (key : String) :
    (start.build steps).fields.get? key = start.lastField? steps key := by
  apply build_last start steps (fun point => point.fields.get? key) (PointStep.field? key)
  exact fun point call => field_step point call key

end

/-- Two ways to build a point that last set each key to the same value build the same point. -/
theorem build_eq {start other : Point} {steps others : List PointStep}
    (measurement : start.measurement = other.measurement)
    (timestamp : start.timestamp = other.timestamp)
    (tags : ∀ key, start.lastTag? steps key = other.lastTag? others key)
    (fields : ∀ key, start.lastField? steps key = other.lastField? others key) :
    start.build steps = other.build others := by
  have sameTags : (start.build steps).tags = (other.build others).tags :=
    Dictionary.eq_of_get? fun key => by rw [tag_build, tag_build, tags]
  have sameFields : (start.build steps).fields = (other.build others).fields :=
    Dictionary.eq_of_get? fun key => by rw [field_build, field_build, fields]
  have sameMeasurement : (start.build steps).measurement = (other.build others).measurement := by
    simpa using measurement
  have sameTimestamp : (start.build steps).timestamp = (other.build others).timestamp := by
    simpa using timestamp
  change Point.mk (start.build steps).measurement (start.build steps).fields
    (start.build steps).tags (start.build steps).timestamp = _
  rw [sameMeasurement, sameFields, sameTags, sameTimestamp]

end Point

end SeriesQuery
