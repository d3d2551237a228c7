import Mathlib.Data.List.Permutation
import Mathlib.Logic.Nontrivial.Basic
import SeriesQuery.Query.Basic

/-!
Tables in an order. Rows stand by the first of some keys on which they differ. A stable sort by more
keys after a stable sort is one stable sort, by the later keys first.
-/

set_option autoImplicit false

namespace SeriesQuery.Flux

abbrev SortKey := String × SortDirection

abbrev Cells (Value : Type) := String → Value

variable {Value : Type} [LinearOrder Value]

/-! ## Orders of rows -/

def Leads (direction : SortDirection) (first second : Value) : Prop :=
  match direction with
  | .ascending => first < second
  | .descending => second < first

theorem leads_trichotomy (direction : SortDirection) (first second : Value) :
    Leads direction first second ∨ first = second ∨ Leads direction second first := by
  cases direction with
  | ascending => exact lt_trichotomy first second
  | descending =>
    rcases lt_trichotomy first second with less | same | greater
    · exact .inr (.inr less)
    · exact .inr (.inl same)
    · exact .inl greater

theorem Leads.asymm {direction : SortDirection} {first second : Value}
    (leads : Leads direction first second) : ¬ Leads direction second first := by
  cases direction with
  | ascending => exact lt_asymm leads
  | descending => exact lt_asymm leads

theorem Leads.ne {direction : SortDirection} {first second : Value}
    (leads : Leads direction first second) : first ≠ second := by
  rintro rfl
  exact leads.asymm leads

/-- The first row may stand before the second: it leads by the first key on which they differ, or
they differ on none. -/
def InOrder : List SortKey → Cells Value → Cells Value → Prop
  | [], _, _ => True
  | (column, direction) :: later, first, second =>
    Leads direction (first column) (second column) ∨
      first column = second column ∧ InOrder later first second

instance (direction : SortDirection) (first second : Value) :
    Decidable (Leads direction first second) :=
  match direction with
  | .ascending => inferInstanceAs (Decidable (first < second))
  | .descending => inferInstanceAs (Decidable (second < first))

instance decidableInOrder : (keys : List SortKey) → (first second : Cells Value) →
    Decidable (InOrder keys first second)
  | [], _, _ => isTrue trivial
  | (column, direction) :: later, first, second =>
    have := decidableInOrder later first second
    inferInstanceAs (Decidable (Leads direction (first column) (second column) ∨
      first column = second column ∧ InOrder later first second))

/-- The rows differ on none of the keys. -/
def alike (keys : List SortKey) (first second : Cells Value) : Bool :=
  keys.all fun key => first key.1 == second key.1

theorem alike_cons {key : SortKey} {later : List SortKey} {first second : Cells Value} :
    alike (key :: later) first second = true ↔
      first key.1 = second key.1 ∧ alike later first second = true := by
  simp [alike]

theorem alike_append (early late : List SortKey) (first second : Cells Value) :
    alike (early ++ late) first second = (alike early first second && alike late first second) :=
  List.all_append

theorem alike_self (keys : List SortKey) (row : Cells Value) : alike keys row row = true := by
  simp [alike]

theorem inOrder_total (keys : List SortKey) (first second : Cells Value) :
    InOrder keys first second ∨ InOrder keys second first := by
  induction keys with
  | nil => exact .inl trivial
  | cons key later ih =>
    rcases leads_trichotomy key.2 (first key.1) (second key.1) with leads | same | leads
    · exact .inl (.inl leads)
    · exact ih.imp (fun before => .inr ⟨same, before⟩) fun after => .inr ⟨same.symm, after⟩
    · exact .inr (.inl leads)

theorem alike_iff {keys : List SortKey} {first second : Cells Value} :
    alike keys first second = true ↔ InOrder keys first second ∧ InOrder keys second first := by
  induction keys with
  | nil => simp [alike, InOrder]
  | cons key later ih =>
    rw [alike_cons, ih]
    constructor
    · rintro ⟨same, before, after⟩
      exact ⟨.inr ⟨same, before⟩, .inr ⟨same.symm, after⟩⟩
    · rintro ⟨leads | ⟨same, before⟩, other | ⟨back, after⟩⟩
      · exact absurd other leads.asymm
      · exact absurd back.symm leads.ne
      · exact absurd same.symm other.ne
      · exact ⟨same, before, after⟩

/-- Further keys count between rows that the first ones do not tell apart. -/
theorem inOrder_append {early late : List SortKey} {first second : Cells Value} :
    InOrder (early ++ late) first second ↔ InOrder early first second ∧
      (alike early first second = true → InOrder late first second) := by
  induction early with
  | nil => simp [InOrder, alike]
  | cons key early ih =>
    obtain ⟨column, direction⟩ := key
    rw [List.cons_append, InOrder, InOrder, ih, alike_cons]
    constructor
    · rintro (leads | ⟨same, before, further⟩)
      · exact ⟨.inl leads, fun found => absurd found.1 leads.ne⟩
      · exact ⟨.inr ⟨same, before⟩, fun found => further found.2⟩
    · rintro ⟨leads | ⟨same, before⟩, further⟩
      · exact .inl leads
      · exact .inr ⟨same, before, fun found => further ⟨same, found⟩⟩

theorem Leads.trans {direction : SortDirection} {first second third : Value}
    (leads : Leads direction first second) (further : Leads direction second third) :
    Leads direction first third := by
  cases direction with
  | ascending => exact lt_trans leads further
  | descending => exact lt_trans further leads

theorem InOrder.trans {keys : List SortKey} {first second third : Cells Value}
    (before : InOrder keys first second) (further : InOrder keys second third) :
    InOrder keys first third := by
  induction keys with
  | nil => trivial
  | cons key later ih =>
    obtain ⟨column, direction⟩ := key
    rcases before with leads | ⟨same, before⟩
    · rcases further with more | ⟨same, -⟩
      · exact .inl (leads.trans more)
      · exact .inl (same ▸ leads)
    · rcases further with leads | ⟨also, further⟩
      · exact .inl (same ▸ leads)
      · exact .inr ⟨same.trans also, ih before further⟩

/-! ## Stable sorting -/

/-- The second table has the rows of the first one in the order of the keys, and rows that the keys
do not tell apart as they stood. -/
structure StablySorted (keys : List SortKey) (before after : List (Cells Value)) : Prop where
  perm : after.Perm before
  sorted : after.Pairwise (InOrder keys)
  stable : ∀ row, after.filter (alike keys row) = before.filter (alike keys row)

theorem stablySorted_nil (table : List (Cells Value)) : StablySorted [] table table where
  perm := .refl _
  sorted := List.pairwise_of_forall fun _ _ => trivial
  stable _ := rfl

theorem StablySorted.trans {early late : List SortKey} {before between after : List (Cells Value)}
    (first : StablySorted early before between) (second : StablySorted late between after) :
    StablySorted (late ++ early) before after where
  perm := second.perm.trans first.perm
  sorted := by
    rw [List.pairwise_iff_forall_sublist]
    intro row other pair
    refine inOrder_append.2 ⟨List.pairwise_iff_forall_sublist.1 second.sorted pair, fun same => ?_⟩
    -- rows that tie still stand as the first sort left them
    have tied : [row, other].filter (alike late row) = [row, other] := by
      simp [alike_self, same]
    have kept : [row, other].Sublist between := by
      have filtered := pair.filter (alike late row)
      rw [tied, second.stable] at filtered
      exact filtered.trans List.filter_sublist
    exact List.pairwise_iff_forall_sublist.1 first.sorted kept
  stable row := by
    have split (table : List (Cells Value)) : table.filter (alike (late ++ early) row) =
        (table.filter (alike late row)).filter (alike early row) := by
      rw [List.filter_filter]
      congr 1
      funext other
      rw [alike_append, Bool.and_comm]
    calc after.filter (alike (late ++ early) row)
      _ = (after.filter (alike late row)).filter (alike early row) := split after
      _ = (between.filter (alike early row)).filter (alike late row) := by
        rw [second.stable, List.filter_comm]
      _ = (before.filter (alike late row)).filter (alike early row) := by
        rw [first.stable, List.filter_comm]
      _ = before.filter (alike (late ++ early) row) := (split before).symm

theorem StablySorted.eq_of_inOrder {keys : List SortKey} {first second : Cells Value}
    {after : List (Cells Value)} (made : StablySorted keys [first, second] after)
    (before : InOrder keys first second) : after = [first, second] := by
  rcases List.perm_pair.1 made.perm with same | swapped
  · exact same
  · have back : InOrder keys second first := by
      have sorted := made.sorted
      rw [swapped] at sorted
      exact List.rel_of_pairwise_cons sorted List.mem_cons_self
    have tied := alike_iff.2 ⟨before, back⟩
    have stable := made.stable first
    rw [swapped] at stable ⊢
    simpa [alike_self, tied] using stable

def mergeSorted (keys : List SortKey) (table : List (Cells Value)) : List (Cells Value) :=
  table.mergeSort fun first second => decide (InOrder keys first second)

theorem stablySorted_mergeSorted (keys : List SortKey) (table : List (Cells Value)) :
    StablySorted keys table (mergeSorted keys table) := by
  have transitive : ∀ first second third : Cells Value, decide (InOrder keys first second) = true →
      decide (InOrder keys second third) = true → decide (InOrder keys first third) = true := by
    simp only [decide_eq_true_eq]
    exact fun _ _ _ => InOrder.trans
  have total : ∀ first second : Cells Value, (decide (InOrder keys first second) ||
      decide (InOrder keys second first)) = true := by
    simpa using inOrder_total keys
  refine ⟨List.mergeSort_perm _ _, ?_, fun row => ?_⟩
  · simpa [mergeSorted] using List.pairwise_mergeSort transitive total table
  -- Rows with equal keys are in order among themselves as they stand in the table, so sorting keeps
  -- them as a sublist, and nothing else is like them.
  · have tied : (table.filter (alike keys row)).Pairwise
        fun first second => decide (InOrder keys first second) = true := by
      apply List.pairwise_of_forall_mem_list
      intro first firstMember second secondMember
      have before := (alike_iff.1 (List.mem_filter.1 firstMember).2).2
      have after := (alike_iff.1 (List.mem_filter.1 secondMember).2).1
      exact decide_eq_true (before.trans after)
    have kept := (List.sublist_mergeSort transitive total tied List.filter_sublist).filter
      (alike keys row)
    simp only [List.filter_filter, Bool.and_self] at kept
    exact (kept.eq_of_length ((List.mergeSort_perm _ _).filter _).length_eq.symm).symm

/-! ## Keys that count -/

/-- The keys without those on a column that stands before. -/
def decisive : List SortKey → List SortKey
  | [] => []
  | key :: later => key :: (decisive later).filter fun other => other.1 != key.1

theorem inOrder_filter {column : String} {first second : Cells Value}
    (same : first column = second column) (keys : List SortKey) :
    InOrder (keys.filter fun key => key.1 != column) first second ↔ InOrder keys first second := by
  induction keys with
  | nil => rfl
  | cons key later ih =>
    obtain ⟨other, direction⟩ := key
    by_cases dropped : other = column
    · subst dropped
      rw [List.filter_cons_of_neg (by simp), ih, InOrder]
      exact ⟨fun rest => .inr ⟨same, rest⟩,
        fun found => found.elim (fun leads => absurd same leads.ne) And.right⟩
    · rw [List.filter_cons_of_pos (by simpa using dropped), InOrder, InOrder, ih]

theorem inOrder_decisive (keys : List SortKey) (first second : Cells Value) :
    InOrder (decisive keys) first second ↔ InOrder keys first second := by
  induction keys with
  | nil => rfl
  | cons key later ih =>
    obtain ⟨column, direction⟩ := key
    rw [decisive, InOrder, InOrder]
    refine or_congr_right (and_congr_right fun same => ?_)
    rw [inOrder_filter same, ih]

theorem mem_columns_decisive {keys : List SortKey} {column : String} :
    column ∈ (decisive keys).map Prod.fst ↔ column ∈ keys.map Prod.fst := by
  induction keys with
  | nil => rfl
  | cons key later ih =>
    have kept : column ∈ ((decisive later).filter fun other => other.1 != key.1).map Prod.fst ↔
        column ∈ (decisive later).map Prod.fst ∧ column ≠ key.1 := by
      simp only [List.mem_map, List.mem_filter, bne_iff_ne]
      constructor
      · rintro ⟨other, ⟨member, apart⟩, rfl⟩
        exact ⟨⟨other, member, rfl⟩, apart⟩
      · rintro ⟨⟨other, member, rfl⟩, apart⟩
        exact ⟨other, ⟨member, apart⟩, rfl⟩
    rw [decisive, List.map_cons, List.map_cons, List.mem_cons, List.mem_cons, kept, ih]
    by_cases same : column = key.1 <;> simp [same]

theorem nodup_columns_decisive (keys : List SortKey) : ((decisive keys).map Prod.fst).Nodup := by
  induction keys with
  | nil => exact List.nodup_nil
  | cons key later ih =>
    rw [decisive, List.map_cons, List.nodup_cons]
    constructor
    · intro member
      obtain ⟨other, found, same⟩ := List.mem_map.1 member
      exact absurd same (by simpa using (List.mem_filter.1 found).2)
    · exact ih.sublist (List.filter_sublist.map Prod.fst)

theorem decisive_eq_self {keys : List SortKey} (distinct : (keys.map Prod.fst).Nodup) :
    decisive keys = keys := by
  induction keys with
  | nil => rfl
  | cons key later ih =>
    obtain ⟨absent, distinct⟩ := List.nodup_cons.1 distinct
    rw [decisive, ih distinct, List.filter_eq_self.2]
    intro other member
    rw [bne_iff_ne]
    rintro same
    exact absent (same ▸ List.mem_map_of_mem member)

theorem length_decisive_reverse (keys : List SortKey) :
    (decisive keys.reverse).length = (decisive keys).length := by
  have same : ((decisive keys.reverse).map Prod.fst).Perm ((decisive keys).map Prod.fst) := by
    rw [List.perm_ext_iff_of_nodup (nodup_columns_decisive _) (nodup_columns_decisive _)]
    intro column
    simp only [mem_columns_decisive, List.map_reverse, List.mem_reverse]
  simpa using same.length_eq

/-! ## Orders that agree -/

theorem inOrder_update {keys : List SortKey} {column : String} (absent : column ∉ keys.map Prod.fst)
    (first second : Cells Value) (value : Value) :
    InOrder keys (Function.update first column value) second ↔ InOrder keys first second := by
  induction keys with
  | nil => rfl
  | cons key later ih =>
    obtain ⟨other, direction⟩ := key
    rw [List.map_cons, List.mem_cons, not_or] at absent
    rw [InOrder, InOrder, ih absent.2, Function.update_of_ne (Ne.symm absent.1)]

theorem exists_leads (Value : Type) [LinearOrder Value] [Nontrivial Value]
    (direction : SortDirection) :
    ∃ first second : Value, Leads direction first second := by
  obtain ⟨low, high, less⟩ := exists_pair_lt Value
  cases direction with
  | ascending => exact ⟨low, high, less⟩
  | descending => exact ⟨high, low, less⟩

theorem isPrefix_of_inOrder [Nontrivial Value] {fine coarse : List SortKey}
    (fineDistinct : (fine.map Prod.fst).Nodup) (coarseDistinct : (coarse.map Prod.fst).Nodup)
    (refines : ∀ first second : Cells Value, InOrder fine first second → InOrder coarse first second) :
    coarse <+: fine := by
  induction coarse generalizing fine with
  | nil => exact List.nil_prefix
  | cons key coarse ih =>
    obtain ⟨column, direction⟩ := key
    obtain ⟨front, back, leads⟩ := exists_leads Value direction
    -- two rows that this key puts the other way round
    have refuted (first second : Cells Value) (before : InOrder fine first second)
        (contrary : Leads direction (second column) (first column)) : False :=
      (refines first second before).elim contrary.asymm fun same => contrary.ne same.1.symm
    cases fine with
    | nil =>
      exact (refuted (fun _ => back) (fun _ => front) trivial leads).elim
    | cons key fine =>
      obtain ⟨other, turned⟩ := key
      obtain ⟨fineAbsent, fineDistinct⟩ := List.nodup_cons.1 fineDistinct
      obtain ⟨coarseAbsent, laterDistinct⟩ := List.nodup_cons.1 coarseDistinct
      by_cases same : other = column
      · subst same
        by_cases agrees : turned = direction
        · subst agrees
          refine List.cons_prefix_cons.2 ⟨rfl, ih fineDistinct laterDistinct ?_⟩
          intro first second before
          have level : Function.update first other (second other) other = second other :=
            Function.update_self _ _ _
          have whole := refines (Function.update first other (second other)) second
            (.inr ⟨level, (inOrder_update fineAbsent _ _ _).2 before⟩)
          rcases whole with leads | ⟨-, rest⟩
          · exact absurd level leads.ne
          · exact (inOrder_update coarseAbsent _ _ _).1 rest
        · refine (refuted (fun _ => back) (fun _ => front) (.inl ?_) leads).elim
          cases turned <;> cases direction <;> first | exact absurd rfl agrees | exact leads
      · obtain ⟨before, after, early⟩ := exists_leads Value turned
        refine (refuted (fun found => if found = other then before else back)
          (fun found => if found = other then after else front) (.inl ?_) ?_).elim
        · simpa using early
        · simpa [Ne.symm same] using leads

end SeriesQuery.Flux
