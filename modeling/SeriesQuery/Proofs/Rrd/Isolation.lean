import SeriesQuery.Proofs.Rrd.Names

/-!
Each series has a file of its own. Where no name looks like a joint of the layout, different series
have different paths, and no tree of files leads both of them to one place.
-/

set_option autoImplicit false

namespace SeriesQuery.Rrd

/-! ## Flat files -/

/-- The tags as the name of a flat file writes them, with the joint before each. -/
def tagsText (entries : List (String × String)) : List Char :=
  entries.flatMap fun (key, value) => joint ++ (key.toList ++ '=' :: value.toList)

theorem tagsText_cons (entry : String × String) (rest : List (String × String)) :
    tagsText (entry :: rest) =
      joint ++ (entry.1.toList ++ '=' :: (entry.2.toList ++ tagsText rest)) := by
  simp [tagsText]

theorem toList_stemText {measurement : String} {tags : Tags} (carried : Carried measurement)
    (legible : Legible tags) :
    (stemText measurement tags).toList = measurement.toList ++ tagsText tags.entries := by
  rw [stemText, component_eq carried, toList_intercalate_joint, pairTexts, List.flatMap_map]
  refine congrArg _ (List.flatMap_congr fun entry member => ?_)
  rw [toList_pairText (legible entry member).1]

/-- Nothing, or a text that starts with the joint. -/
def Joined (text : List Char) : Prop := text = [] ∨ joint <+: text

theorem joined_tagsText (entries : List (String × String)) : Joined (tagsText entries) := by
  cases entries with
  | nil => exact .inl rfl
  | cons entry rest => exact .inr ⟨_, (List.append_assoc _ _ _).symm⟩

theorem Clear.eq_nil {text more rest others : List Char} (clear : Clear (text ++ more))
    (joined : Joined others) (same : others = more ++ rest) : more = [] := by
  match more with
  | [] => rfl
  | [c] =>
    obtain none | ⟨after, starts⟩ := joined
    · rw [none] at same
      cases same
    · rw [same] at starts
      obtain ⟨rfl, -⟩ := List.cons.inj starts
      exact absurd List.getLast?_concat clear.noTail
  | c :: d :: more =>
    obtain none | ⟨after, starts⟩ := joined
    · rw [none] at same
      cases same
    · rw [same] at starts
      obtain ⟨rfl, tail⟩ := List.cons.inj starts
      obtain ⟨rfl, -⟩ := List.cons.inj tail
      exact absurd (List.infix_append' text joint more) clear.noJoint

theorem Clear.append_inj {first second rest others : List Char} (clear : Clear first)
    (further : Clear second) (joined : Joined rest) (joinedOthers : Joined others)
    (same : first ++ rest = second ++ others) : first = second ∧ rest = others := by
  rcases List.append_eq_append_iff.1 same with ⟨more, rfl, split⟩ | ⟨more, rfl, split⟩
  · obtain rfl := further.eq_nil joined split
    exact ⟨(List.append_nil first).symm, split⟩
  · obtain rfl := clear.eq_nil joinedOthers split
    exact ⟨List.append_nil second, split.symm⟩

theorem tagsText_injective {entries others : List (String × String)}
    (clear : ∀ entry ∈ entries, '=' ∉ entry.1.toList ∧ Clear entry.2.toList)
    (further : ∀ entry ∈ others, '=' ∉ entry.1.toList ∧ Clear entry.2.toList)
    (same : tagsText entries = tagsText others) : entries = others := by
  induction entries generalizing others with
  | nil =>
    cases others with
    | nil => rfl
    | cons other rest => cases same
  | cons entry rest ih =>
    cases others with
    | nil => cases same
    | cons other more =>
      have ⟨⟨noSign, clearValue⟩, clear⟩ := List.forall_mem_cons.1 clear
      have ⟨⟨noOtherSign, clearOther⟩, further⟩ := List.forall_mem_cons.1 further
      rw [tagsText_cons, tagsText_cons] at same
      -- The first sign ends the key, and from there the next joint ends the value.
      have split := congrArg (Text.splitFirst? '=') (List.append_cancel_left same)
      rw [Text.splitFirst?_append noSign, Text.splitFirst?_append noOtherSign] at split
      obtain ⟨keys, tails⟩ := Prod.mk.inj (Option.some.inj split)
      obtain ⟨values, same⟩ := clearValue.append_inj clearOther (joined_tagsText _)
        (joined_tagsText _) tails
      rw [ih clear further same, Prod.ext (String.toList_inj.1 keys) (String.toList_inj.1 values)]

theorem stemText_injective {measurement other : String} {tags more : Tags}
    (separable : Separable .flat measurement tags) (further : Separable .flat other more)
    (same : stemText measurement tags = stemText other more) :
    measurement = other ∧ tags = more := by
  have ⟨clear, clearValues⟩ := separable.clear rfl
  have ⟨clearOther, clearMore⟩ := further.clear rfl
  have same := congrArg String.toList same
  rw [toList_stemText separable.carried separable.legible,
    toList_stemText further.carried further.legible] at same
  obtain ⟨names, same⟩ := clear.append_inj clearOther (joined_tagsText _) (joined_tagsText _) same
  have entries := tagsText_injective
    (fun entry member => ⟨(separable.legible entry member).2, clearValues entry member⟩)
    (fun entry member => ⟨(further.legible entry member).2, clearMore entry member⟩) same
  exact ⟨String.toList_inj.1 names, Dictionary.eq_of_entries entries⟩

theorem fileName_injective {stem other : String} (same : fileName stem = fileName other) :
    stem = other := (String.append_left_inj _).1 same

/-! ## Paths and places -/

namespace Layout

theorem isOwnName_rest (measurement : String) (tags : Tags) :
    ∀ name ∈ pairTexts tags ++ [fileName (component measurement)], Files.IsOwnName name := by
  intro name member
  rcases List.mem_append.1 member with member | member
  · obtain ⟨entry, -, rfl⟩ := List.mem_map.1 member
    exact isOwnName_pairText entry.1 entry.2
  · rw [List.mem_singleton.1 member]
    exact isOwnName_fileName (carried_component measurement)

theorem isName_component {measurement : String} (nonempty : measurement ≠ "") :
    Files.IsName (component measurement) :=
  (carried_component measurement).isName (component_ne_empty nonempty)

theorem components_injective {layout : Layout} (tagged : layout ≠ .untagged)
    {measurement other : String} {tags more : Tags} (separable : Separable layout measurement tags)
    (further : Separable layout other more)
    (same : layout.components measurement tags = layout.components other more) :
    measurement = other ∧ tags = more := by
  cases layout with
  | untagged => exact absurd rfl tagged
  | flat => exact stemText_injective separable further (fileName_injective (List.cons.inj same).1)
  | folder =>
    rw [components_folder, components_folder, component_eq separable.carried,
      component_eq further.carried] at same
    obtain ⟨rfl, same⟩ := List.cons.inj same
    exact ⟨rfl, separable.legible.eq_of_pairTexts further.legible (List.append_cancel_right same)⟩

theorem path_injective {layout : Layout} (tagged : layout ≠ .untagged) {base : String}
    {measurement other : String} {tags more : Tags} (separable : Separable layout measurement tags)
    (further : Separable layout other more)
    (same : layout.path base measurement tags = layout.path base other more) :
    measurement = other ∧ tags = more := by
  have names (text : String) (tags : Tags) (nonempty : text ≠ "") :
      ∀ name ∈ component text :: (pairTexts tags ++ [fileName (component text)]),
        Files.IsName name :=
    List.forall_mem_cons.2 ⟨isName_component nonempty,
      fun name member => (isOwnName_rest text tags name member).toIsName⟩
  have single (text : String) (tags : Tags) :
      ∀ name ∈ [fileName (stemText text tags)], Files.IsName name :=
    List.forall_mem_singleton.2 (isOwnName_fileName (carried_stemText text tags)).toIsName
  apply components_injective tagged separable further
  cases layout with
  | untagged => exact absurd rfl tagged
  | flat => exact Files.joinAll_injective (single measurement tags) (single other more) same
  | folder =>
    exact Files.joinAll_injective (names measurement tags separable.nonempty)
      (names other more further.nonempty) same

theorem components_eq_of_place {layout : Layout} (tagged : layout ≠ .untagged) {tree : Files.Tree}
    {base measurement other : String} {tags more : Tags} {place : Files.Location}
    (nonempty : measurement ≠ "") (otherNonempty : other ≠ "")
    (located : tree.locate (layout.path base measurement tags) = .ok place)
    (alsoLocated : tree.locate (layout.path base other more) = .ok place) :
    layout.components measurement tags = layout.components other more := by
  cases layout with
  | untagged => exact absurd rfl tagged
  | flat =>
    have own (text : String) (tags : Tags) := isOwnName_fileName (carried_stemText text tags)
    obtain ⟨location, next, reached, entered, rfl⟩ := Files.Tree.locate_joinAll_eq_ok
      (own measurement tags).toIsName (List.forall_mem_nil _) located
    obtain ⟨again, last, reachedAgain, enteredAgain, same⟩ := Files.Tree.locate_joinAll_eq_ok
      (own other more).toIsName (List.forall_mem_nil _) alsoLocated
    obtain rfl : location = again := Except.ok.inj (reached.symm.trans reachedAgain)
    rw [Files.Tree.enter_ownName_eq_ok (own measurement tags) entered,
      Files.Tree.enter_ownName_eq_ok (own other more) enteredAgain] at same
    exact List.append_cancel_left (List.append_cancel_right same)
  | folder =>
    obtain ⟨location, next, reached, entered, rfl⟩ := Files.Tree.locate_joinAll_eq_ok
      (isName_component nonempty) (isOwnName_rest measurement tags) located
    obtain ⟨again, last, reachedAgain, enteredAgain, same⟩ := Files.Tree.locate_joinAll_eq_ok
      (isName_component otherNonempty) (isOwnName_rest other more) alsoLocated
    obtain rfl : location = again := Except.ok.inj (reached.symm.trans reachedAgain)
    -- The name of the file tells the measurement, so that both enter the same directory with it.
    rw [← List.append_assoc, ← List.append_assoc] at same
    obtain ⟨above, files⟩ := List.append_inj' same rfl
    have measurements := fileName_injective (List.cons.inj files).1
    rw [measurements] at entered
    obtain rfl : next = last := Except.ok.inj (entered.symm.trans enteredAgain)
    rw [components_folder, components_folder, measurements, List.append_cancel_left above]

/-- Series with different names have different paths, which lead to different places. -/
theorem path_isolates {layout : Layout} (tagged : layout ≠ .untagged) (base : String)
    {measurement other : String} {tags more : Tags} (separable : Separable layout measurement tags)
    (further : Separable layout other more) (differ : (measurement, tags) ≠ (other, more)) :
    layout.path base measurement tags ≠ layout.path base other more ∧
      ∀ (tree : Files.Tree) (place : Files.Location),
        tree.locate (layout.path base measurement tags) = .ok place →
          tree.locate (layout.path base other more) ≠ .ok place := by
  constructor
  · intro same
    obtain ⟨names, tags⟩ := path_injective tagged separable further same
    exact differ (Prod.ext names tags)
  · intro tree place located alsoLocated
    have same := components_eq_of_place tagged separable.nonempty further.nonempty located
      alsoLocated
    obtain ⟨names, tags⟩ := components_injective tagged separable further same
    exact differ (Prod.ext names tags)

instance (layout : Layout) (measurement : String) (tags : Tags) :
    Decidable (Separable layout measurement tags) :=
  decidable_of_iff (measurement ≠ "" ∧ Carried measurement ∧ Legible tags ∧ (layout = .flat →
      Clear measurement.toList ∧ ∀ entry ∈ tags.entries, Clear entry.2.toList))
    ⟨fun ⟨nonempty, carried, legible, clear⟩ => ⟨nonempty, carried, legible, clear⟩,
      fun separable =>
        ⟨separable.nonempty, separable.carried, separable.legible, separable.clear⟩⟩

/-- A key may hold the joint and a value the sign, since neither is looked for there. -/
theorem path_isolates_tags :
    let first : Tags := .ofList [("host", "a=b"), ("rack__", "r")]
    let second : Tags := .ofList [("host", "a=b__rack_")]
    Separable .flat "cpu" first ∧ Separable .folder "cpu" second ∧
      Layout.flat.path "/data" "cpu" first ≠ Layout.flat.path "/data" "cpu=" first ∧
      Layout.folder.path "/data" "cpu" first ≠ Layout.folder.path "/data" "cpu" second := by
  intro first second
  have separable : Separable .flat "cpu" first := by decide +kernel
  have other : Separable .flat "cpu=" first := by decide +kernel
  have nested : Separable .folder "cpu" first := by decide +kernel
  have further : Separable .folder "cpu" second := by decide +kernel
  exact ⟨separable, further,
    (path_isolates (by decide) "/data" separable other (by decide +kernel)).1,
    (path_isolates (by decide) "/data" nested further (by decide +kernel)).1⟩

/-! ## Shared paths -/

/-- All names of a series are there, and a path holds them as they are. -/
def Ordinary (series : String × Tags) : Prop :=
  (series.1 ≠ "" ∧ Carried series.1) ∧ ∀ entry ∈ series.2.entries,
    (entry.1 ≠ "" ∧ Carried entry.1) ∧ entry.2 ≠ "" ∧ Carried entry.2

instance (series : String × Tags) : Decidable (Ordinary series) :=
  inferInstanceAs (Decidable ((series.1 ≠ "" ∧ Carried series.1) ∧ ∀ entry ∈ series.2.entries,
    (entry.1 ≠ "" ∧ Carried entry.1) ∧ entry.2 ≠ "" ∧ Carried entry.2))

/-- Two different series with one path below a base directory. -/
def Shares (layout : Layout) (first second : String × Tags) : Prop :=
  Ordinary first ∧ Ordinary second ∧ first ≠ second ∧
    layout.path "/data" first.1 first.2 = layout.path "/data" second.1 second.2

instance (layout : Layout) (first second : String × Tags) :
    Decidable (Shares layout first second) :=
  inferInstanceAs (Decidable (Ordinary first ∧ Ordinary second ∧ first ≠ second ∧
    layout.path "/data" first.1 first.2 = layout.path "/data" second.1 second.2))

/-- Names that look like joints share files: a joint in a measurement, at its end and in a value, at
the end of a value, and a sign in a key. -/
theorem path_shared_by_joints :
    Shares .flat ("cpu__host=a", .empty) ("cpu", .ofList [("host", "a")]) ∧
      Shares .flat ("cpu_", .ofList [("host", "a")]) ("cpu", .ofList [("_host", "a")]) ∧
      Shares .flat ("cpu", .ofList [("dc", "eu__host=a")])
        ("cpu", .ofList [("dc", "eu"), ("host", "a")]) ∧
      Shares .flat ("cpu", .ofList [("DC", "eu_"), ("host", "a")])
        ("cpu", .ofList [("DC", "eu"), ("_host", "a")]) ∧
      Shares .flat ("cpu", .ofList [("host", "a=b")]) ("cpu", .ofList [("host=a", "b")]) ∧
      Shares .folder ("cpu", .ofList [("host", "a=b")]) ("cpu", .ofList [("host=a", "b")]) := by
  decide +kernel

end Layout

end SeriesQuery.Rrd
