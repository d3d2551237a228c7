import SeriesQuery.Proofs.Decimal.Numerals
import SeriesQuery.Proofs.Rrd.Sources

/-!
The first write to a file. It makes the file with a data source for every field that may come, from
a time before the point on, and then updates the data sources of the fields of the point with one
value each.
-/

set_option autoImplicit false

namespace SeriesQuery.Rrd

variable {World : Type}

/-! ## Colons -/

theorem colon_not_mem_plain (value : Float) : ':' ∉ (Decimal.plain value).toList :=
  fun member => absurd (Decimal.isNumeral_or_isAlpha_of_mem_plain member) (by decide)

theorem colon_not_mem_toString_int (value : Int) : ':' ∉ (toString value).toList :=
  fun member => absurd ((Decimal.numeric_toString_int value).numerals _ member) (by decide)

theorem splitAt_updateRow (point : Point) :
    Text.splitAt ':' (Store.updateRow point) = toString point.timestamp.seconds ::
      point.fields.entries.map fun entry => Decimal.plain entry.2.toFloat := by
  apply Text.splitAt_intercalate rfl (List.cons_ne_nil _ _)
  intro part member
  rcases List.mem_cons.1 member with rfl | member
  · exact colon_not_mem_toString_int _
  · obtain ⟨entry, -, rfl⟩ := List.mem_map.1 member
    exact colon_not_mem_plain _

end SeriesQuery.Rrd
