import Mathlib.Data.List.Forall2

/-!
Steps that can fail: what succeeded was made of parts that succeeded, and a list of steps succeeds when
each of them does.
-/

set_option autoImplicit false

namespace SeriesQuery

variable {ε α β : Type}

theorem ok_bind (a : α) (next : α → Except ε β) : (.ok a >>= next) = next a := rfl

theorem exists_of_bind {first : Except ε α} {next : α → Except ε β} {b : β}
    (made : (first >>= next) = .ok b) : ∃ a, first = .ok a ∧ next a = .ok b := by
  cases first with
  | error problem => cases made
  | ok a => exact ⟨a, rfl, made⟩

theorem exists_of_map {first : Except ε α} {f : α → β} {b : β} (made : first.map f = .ok b) :
    ∃ a, first = .ok a ∧ f a = b := by
  cases first with
  | error problem => cases made
  | ok a => exact ⟨a, rfl, Except.ok.inj made⟩

theorem forall₂_of_mapM {step : α → Except ε β} {items : List α} {results : List β}
    (made : items.mapM step = .ok results) :
    List.Forall₂ (fun a b => step a = .ok b) items results := by
  induction items generalizing results with
  | nil =>
    rw [List.mapM_nil] at made
    cases made
    exact .nil
  | cons first others ih =>
    rw [List.mapM_cons] at made
    obtain ⟨head, headMade, made⟩ := exists_of_bind made
    obtain ⟨tail, tailMade, made⟩ := exists_of_bind made
    cases made
    exact .cons headMade (ih tailMade)

theorem mapM_of_forall_ok {step : α → Except ε β} {result : α → β} {items : List α}
    (each : ∀ item ∈ items, step item = .ok (result item)) :
    items.mapM step = .ok (items.map result) := by
  induction items with
  | nil => rfl
  | cons first others ih =>
    have ⟨head, tail⟩ := List.forall_mem_cons.1 each
    rw [List.mapM_cons, head, ih tail]
    rfl

theorem exists_zipWith_of_mapM {γ : Type} {step : α → Except ε β} {wrap : β → α → γ} {items : List α}
    {results : List γ}
    (made : items.mapM (fun item => do return wrap (← step item) item) = .ok results) :
    ∃ inners, List.Forall₂ (fun item inner => step item = .ok inner) items inners ∧
      results = List.zipWith (fun item inner => wrap inner item) items inners := by
  replace made := forall₂_of_mapM made
  induction made with
  | nil => exact ⟨[], .nil, rfl⟩
  | cons first _ ih =>
    obtain ⟨inner, stepped, wrapped⟩ := exists_of_bind first
    cases wrapped
    obtain ⟨inners, each, rfl⟩ := ih
    exact ⟨inner :: inners, .cons stepped each, rfl⟩

theorem exists_of_mem_right {R : α → β → Prop} {items : List α} {results : List β}
    (each : List.Forall₂ R items results) {b : β} (member : b ∈ results) :
    ∃ a ∈ items, R a b := by
  induction each with
  | nil => cases member
  | @cons a _ _ _ related _ ih =>
    rcases List.mem_cons.1 member with rfl | later
    · exact ⟨a, List.mem_cons_self, related⟩
    · obtain ⟨other, known, relatedOther⟩ := ih later
      exact ⟨other, List.mem_cons_of_mem _ known, relatedOther⟩

theorem forall₂_made {R : α → α → Prop} {S : β → β → Prop} {step other : α → Except ε β}
    {items others : List α} {results otherResults : List β} (each : List.Forall₂ R items others)
    (related : ∀ a ∈ items, ∀ b, R a b → ∀ x y, step a = .ok x → other b = .ok y → S x y)
    (made : items.mapM step = .ok results) (otherMade : others.mapM other = .ok otherResults) :
    List.Forall₂ S results otherResults := by
  replace made := forall₂_of_mapM made
  replace otherMade := forall₂_of_mapM otherMade
  induction each generalizing results otherResults with
  | nil =>
    cases made
    cases otherMade
    exact .nil
  | @cons a b _ _ pair _ ih =>
    cases made with
    | cons first rest =>
      cases otherMade with
      | cons second others =>
        exact .cons (related a List.mem_cons_self b pair _ _ first second)
          (ih (fun a member => related a (List.mem_cons_of_mem _ member)) rest others)

/-- What two runs of the same steps make of related starts is related. -/
theorem related_foldlM {R : β → β → Prop} {step : β → α → Except ε β} {items : List α}
    (keeps : ∀ item a b, R a b → ∀ c d, step a item = .ok c → step b item = .ok d → R c d)
    {first second last otherLast : β} (start : R first second)
    (made : items.foldlM step first = .ok last)
    (otherMade : items.foldlM step second = .ok otherLast) : R last otherLast := by
  induction items generalizing first second with
  | nil =>
    cases made
    cases otherMade
    exact start
  | cons item rest ih =>
    rw [List.foldlM_cons] at made otherMade
    obtain ⟨next, nextMade, made⟩ := exists_of_bind made
    obtain ⟨otherNext, otherNextMade, otherMade⟩ := exists_of_bind otherMade
    exact ih (keeps item _ _ start _ _ nextMade otherNextMade) made otherMade

/-! ## Readers of lists -/

theorem mapM_map {γ : Type} (f : α → β) (read : β → Option γ) (values : List α) :
    (values.map f).mapM read = values.mapM fun value => read (f value) := by
  induction values with
  | nil => rfl
  | cons value rest ih => rw [List.map_cons, List.mapM_cons, List.mapM_cons, ih]

theorem mapM_of_forall {read : α → Option β} {back : α → β} {values : List α}
    (reads : ∀ value ∈ values, read value = some (back value)) :
    values.mapM read = some (values.map back) := by
  induction values with
  | nil => rfl
  | cons value rest ih =>
    have ⟨first, others⟩ := List.forall_mem_cons.1 reads
    rw [List.mapM_cons, first, ih others, List.map_cons]
    rfl

theorem mapM_eq_some_iff {read : α → Option β} {back : α → β}
    (same : ∀ item, (read item).isSome = true → read item = some (back item)) {items : List α}
    {results : List β} :
    items.mapM read = some results ↔
      (∀ item ∈ items, (read item).isSome = true) ∧ results = items.map back := by
  constructor
  · intro found
    have each : ∀ item ∈ items, (read item).isSome = true := by
      induction items generalizing results with
      | nil => exact List.forall_mem_nil _
      | cons item rest ih =>
        rw [List.mapM_cons] at found
        cases first : read item with
        | none =>
          rw [first] at found
          cases found
        | some result =>
          cases others : rest.mapM read with
          | none =>
            rw [first, others] at found
            cases found
          | some _ => exact List.forall_mem_cons.2 ⟨by rw [first]; rfl, ih others⟩
    rw [mapM_of_forall fun item member => same item (each item member)] at found
    exact ⟨each, (Option.some.inj found).symm⟩
  · rintro ⟨each, rfl⟩
    exact mapM_of_forall fun item member => same item (each item member)

/-! ## Success -/

theorem exists_bind_iff {first : Except ε α} {next : α → Except ε β} :
    (∃ b, (first >>= next) = .ok b) ↔ ∃ a, first = .ok a ∧ ∃ b, next a = .ok b := by
  constructor
  · rintro ⟨b, made⟩
    obtain ⟨a, firstMade, nextMade⟩ := exists_of_bind made
    exact ⟨a, firstMade, b, nextMade⟩
  · rintro ⟨a, rfl, made⟩
    exact made

theorem exists_map_iff {first : Except ε α} {f : α → β} :
    (∃ b, first.map f = .ok b) ↔ ∃ a, first = .ok a := by
  constructor
  · rintro ⟨b, made⟩
    obtain ⟨a, firstMade, -⟩ := exists_of_map made
    exact ⟨a, firstMade⟩
  · rintro ⟨a, rfl⟩
    exact ⟨f a, rfl⟩

theorem exists_bind_pure_iff {first : Except ε α} {f : α → β} :
    (∃ b, (first >>= fun a => pure (f a)) = .ok b) ↔ ∃ a, first = .ok a := by
  rw [exists_bind_iff]
  exact exists_congr fun a => and_iff_left ⟨f a, rfl⟩

theorem exists_mapM_iff {step : α → Except ε β} {items : List α} :
    (∃ results, items.mapM step = .ok results) ↔ ∀ item ∈ items, ∃ result, step item = .ok result := by
  induction items with
  | nil => exact iff_of_true ⟨[], rfl⟩ (List.forall_mem_nil _)
  | cons first others ih =>
    rw [List.mapM_cons, exists_bind_iff, List.forall_mem_cons, ← ih]
    constructor
    · rintro ⟨head, headMade, made⟩
      obtain ⟨tail, tailMade, -⟩ := exists_bind_iff.1 made
      exact ⟨⟨head, headMade⟩, tail, tailMade⟩
    · rintro ⟨⟨head, headMade⟩, tail, tailMade⟩
      exact ⟨head, headMade, exists_bind_iff.2 ⟨tail, tailMade, head :: tail, rfl⟩⟩

theorem exists_foldlM_iff {step : β → α → Except ε β} {P : α → Prop}
    (each : ∀ state item, (∃ next, step state item = .ok next) ↔ P item) (items : List α) (state : β) :
    (∃ last, items.foldlM step state = .ok last) ↔ ∀ item ∈ items, P item := by
  induction items generalizing state with
  | nil => exact iff_of_true ⟨state, rfl⟩ (List.forall_mem_nil _)
  | cons first others ih =>
    rw [List.foldlM_cons, exists_bind_iff, List.forall_mem_cons, ← each state first]
    constructor
    · rintro ⟨next, nextMade, made⟩
      exact ⟨⟨next, nextMade⟩, (ih next).1 made⟩
    · rintro ⟨⟨next, nextMade⟩, passed⟩
      exact ⟨next, nextMade, (ih next).2 passed⟩

theorem not_exists_ok {problem : ε} : ¬ ∃ a : α, Except.error problem = .ok a := by
  rintro ⟨a, ⟨⟩⟩

theorem exists_error_iff {first : Except ε α} :
    (∃ problem, first = .error problem) ↔ ¬ ∃ a, first = .ok a := by
  cases first with
  | error problem => exact iff_of_true ⟨problem, rfl⟩ not_exists_ok
  | ok a => exact iff_of_false (by rintro ⟨problem, made⟩; cases made) (not_not.2 ⟨a, rfl⟩)

theorem error_of_bind {first : Except ε α} {next : α → Except ε β} {problem : ε}
    (failed : (first >>= next) = .error problem) :
    first = .error problem ∨ ∃ a, first = .ok a ∧ next a = .error problem := by
  cases first with
  | error other => exact .inl (congrArg Except.error (Except.error.inj failed))
  | ok a => exact .inr ⟨a, rfl, failed⟩

theorem map_eq_error_iff {first : Except ε α} {f : α → β} {problem : ε} :
    first.map f = .error problem ↔ first = .error problem := by
  cases first with
  | error other => simp [Except.map]
  | ok a => exact iff_of_false nofun nofun

theorem mapM_eq_error_iff {step : α → Except ε β} {items : List α} {problem : ε} :
    items.mapM step = .error problem ↔ ∃ (place : Nat) (item : α), items[place]? = some item ∧
      step item = .error problem ∧ ∀ earlier < place, ∀ other, items[earlier]? = some other →
        ∃ result, step other = .ok result := by
  induction items with
  | nil => exact iff_of_false nofun (by simp)
  | cons first others ih =>
    rw [List.mapM_cons]
    constructor
    · intro failed
      rcases error_of_bind failed with failed | ⟨head, made, failed⟩
      · exact ⟨0, first, rfl, failed, fun _ before => absurd before (Nat.not_lt_zero _)⟩
      · rcases error_of_bind failed with failed | ⟨tail, -, failed⟩
        · obtain ⟨place, item, found, failed, passed⟩ := ih.1 failed
          refine ⟨place + 1, item, found, failed, fun earlier before other known => ?_⟩
          cases earlier with
          | zero =>
            cases known
            exact ⟨head, made⟩
          | succ earlier => exact passed earlier (Nat.lt_of_succ_lt_succ before) other known
        · cases failed
    · rintro ⟨place, item, found, failed, passed⟩
      cases place with
      | zero =>
        cases found
        rw [failed]
        rfl
      | succ place =>
        obtain ⟨head, made⟩ := passed 0 (Nat.succ_pos _) first rfl
        have rest := ih.2 ⟨place, item, found, failed, fun earlier before =>
          passed (earlier + 1) (Nat.succ_lt_succ before)⟩
        rw [made, ok_bind, rest]
        rfl

theorem error_of_mapM {step : α → Except ε β} {items : List α} {problem : ε}
    (failed : items.mapM step = .error problem) : ∃ item ∈ items, step item = .error problem := by
  obtain ⟨place, item, found, failed, -⟩ := mapM_eq_error_iff.1 failed
  exact ⟨item, List.mem_of_getElem? found, failed⟩

end SeriesQuery
