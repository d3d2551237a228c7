import SeriesQuery.Proofs.Language.Trimming
import SeriesQuery.Proofs.Time.RoundTrip

/-!
Every instant is read back from the lenient form too, in whatever year it lies.
-/

set_option autoImplicit false

namespace SeriesQuery.Time

section
variable {value : Nat}

theorem padded_starts (width value : Nat) :
    ∃ digit others, (padded width value).toList = digit :: others ∧ digit.isDigit = true := by
  have nonempty : (padded width value).toList ≠ [] := by
    rw [padded, String.toList_ofList]
    exact List.append_ne_nil_of_right_ne_nil _ Nat.toDigits_ne_nil
  obtain ⟨digit, others, text⟩ := List.exists_cons_of_ne_nil nonempty
  have member : digit ∈ (padded width value).toList := by simp [text]
  exact ⟨digit, others, text, isDigit_of_mem_padded member⟩

theorem dropWhile_padded (width value : Nat) (rest : List Char) :
    ((padded width value).toList ++ rest).dropWhile Text.isBlank =
      (padded width value).toList ++ rest := by
  obtain ⟨digit, others, text, isDigit⟩ := padded_starts width value
  rw [text, List.cons_append]
  exact dropWhile_of_stops (stops_cons (Language.isBlank_of_isDigit isDigit) _)

theorem readLoose_padded (fits : value < 10 ^ 2) (rest : List Char) :
    readLoose 2 ((padded 2 value).toList ++ rest) = some (value, rest) := by
  unfold readLoose
  rw [dropWhile_padded, readDigits_padded_of_le (by decide) (by decide) fits]

theorem readLooseChar_cons {c : Char} (solid : Text.isBlank c = false) (rest : List Char) :
    readLooseChar c (c :: rest) = some rest := by
  unfold readLooseChar
  rw [dropWhile_of_stops (stops_cons solid rest), readChar_cons]

theorem readLooseOffset_cons (rest : List Char) :
    readLooseOffset ('Z' :: rest) = some (0, rest) := by
  have other : (('Z' :: rest).take 3).map Char.toUpper ≠ ['U', 'T', 'C'] := by
    intro same
    have first : Char.toUpper 'Z' = 'U' := (List.cons.inj same).1
    exact absurd first (by decide)
  unfold readLooseOffset
  rw [dropWhile_of_stops (stops_cons (by decide) rest)]
  dsimp only
  rw [if_neg other, readOffset_cons]

theorem readDigits_unbounded (width value : Nat) (rest : List Char) :
    readDigits 1 none ((padded width value).toList ++ '-' :: rest) = some (value, '-' :: rest) := by
  have all : ∀ c ∈ (padded width value).toList, c.isDigit = true :=
    fun _ member => isDigit_of_mem_padded member
  have split := span_append all (stops_cons (by decide : Char.isDigit '-' = false) rest)
  rw [List.span_eq_takeWhile_dropWhile] at split
  have taken := congrArg Prod.fst split
  dsimp only at taken
  obtain ⟨digit, others, text, -⟩ := padded_starts width value
  have some : ¬(padded width value).toList.length < 1 := by simp [text]
  unfold readDigits
  dsimp only
  rw [taken, if_neg some, digitsValue_padded, List.drop_left]

end

theorem readLooseYear_yearText (year : Int) (rest : List Char) :
    readLooseYear ((yearText year).toList ++ '-' :: rest) = some (year, '-' :: rest) := by
  unfold yearText
  -- Four digits stand without a sign, and any other year with one.
  split
  · next usual =>
    have fits : year.toNat < 10 ^ 4 := by omega
    have read := readDigits_padded_of_le (by decide : 1 ≤ 4) (by decide) fits ('-' :: rest)
    obtain ⟨digit, others, text, isDigit⟩ := padded_starts 4 year.toNat
    have noMinus : digit ≠ '-' := by rintro rfl; cases isDigit
    have noPlus : digit ≠ '+' := by rintro rfl; cases isDigit
    unfold readLooseYear
    rw [dropWhile_padded]
    rw [text, List.cons_append] at read ⊢
    simp [noMinus, noPlus, read, Int.toNat_of_nonneg usual.1]
  · rw [String.toList_append, List.append_assoc]
    have read := readDigits_unbounded 4 year.natAbs rest
    unfold readLooseYear
    by_cases negative : year < 0
    · rw [if_pos negative, show "-".toList = ['-'] by decide, List.singleton_append,
        dropWhile_of_stops (stops_cons (by decide) _)]
      simp only [read, Option.map_some]
      rw [show -(year.natAbs : Int) = year by omega]
    · rw [if_neg negative, show "+".toList = ['+'] by decide, List.singleton_append,
        dropWhile_of_stops (stops_cons (by decide) _)]
      simp only [read, Option.map_some]
      rw [show (year.natAbs : Int) = year by omega]

theorem readLenient?_zulu (instant : Instant) : readLenient? instant.zulu = some instant := by
  have fits := instant.fits_reading
  unfold readLenient?
  rw [instant.toList_zulu_eq, Reading.behindYear]
  refine (bind_of_some (readLooseYear_yearText instant.date.year _) _).trans ?_
  refine (bind_of_some (readLooseChar_cons (by decide) _) _).trans ?_
  refine (bind_of_some (readLoose_padded fits.month _) _).trans ?_
  refine (bind_of_some (readLooseChar_cons (by decide) _) _).trans ?_
  refine (bind_of_some (readLoose_padded fits.day _) _).trans ?_
  refine (bind_of_some (readDivider_cons _) _).trans ?_
  refine (bind_of_some (readLoose_padded fits.hour _) _).trans ?_
  refine (bind_of_some (readLooseChar_cons (by decide) _) _).trans ?_
  refine (bind_of_some (readLoose_padded fits.minute _) _).trans ?_
  refine (bind_of_some (readLooseChar_cons (by decide) _) _).trans ?_
  refine (bind_of_some (readLoose_padded fits.second _) _).trans ?_
  refine (bind_of_some (readFraction_fractionText fits.nanos []) _).trans ?_
  refine (bind_of_some (readLooseOffset_cons []) _).trans ?_
  exact instant.instant?_reading

end SeriesQuery.Time
