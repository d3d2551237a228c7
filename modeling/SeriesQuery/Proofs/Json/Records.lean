import Mathlib.Data.List.Nodup
import SeriesQuery.Proofs.Json.RoundTrip
import SeriesQuery.Proofs.Outcomes

/-!
Parts of what was written, as readers of records and lists find them.
-/

set_option autoImplicit false

namespace SeriesQuery.Json

open Value

/-! ## Lists -/

theorem itemTrees_map {α : Type} (encode : α → Value) (values : List α) :
    itemTrees (values.map encode) = values.map fun value => (encode value).tree := by
  induction values with
  | nil => rfl
  | cons value rest ih => rw [List.map_cons, itemTrees, ih, List.map_cons]

theorem list?_ofList {α β : Type} {encode : α → Value} {read : Tree → Option β} {back : α → β}
    {values : List α} (reads : ∀ value ∈ values, read (encode value).tree = some (back value)) :
    (ofList encode values).tree.list? read = some (values.map back) := by
  rw [ofList, tree, itemTrees_map]
  exact (mapM_map _ read values).trans (mapM_of_forall reads)

theorem list?_ofList_self {α : Type} {encode : α → Value} {read : Tree → Option α}
    (reads : ∀ value, read (encode value).tree = some value) (values : List α) :
    (ofList encode values).tree.list? read = some values := by
  have found : (ofList encode values).tree.list? read = some (values.map id) :=
    list?_ofList fun value _ => reads value
  rwa [List.map_id] at found

theorem list?_ofTexts (texts : List String) :
    (ofTexts texts).tree.list? Tree.string? = some texts :=
  list?_ofList_self (fun _ => rfl) texts

/-! ## Values that may be absent -/

theorem nullable?_of_ne {α : Type} {read : Tree → Option α} {tree : Tree} (other : tree ≠ .null) :
    tree.nullable? read = (read tree).map some := by
  cases tree with
  | null => exact absurd rfl other
  | _ => rfl

theorem nullable?_ofOption {α β : Type} {encode : α → Value} {read : Tree → Option β} {back : α → β}
    (present : ∀ value, (encode value).tree ≠ .null) {value? : Option α}
    (reads : ∀ value, value? = some value → read (encode value).tree = some (back value)) :
    (ofOption encode value?).tree.nullable? read = some (value?.map back) := by
  cases value? with
  | none => rfl
  | some value =>
    rw [ofOption, nullable?_of_ne (present value), reads value rfl]
    rfl

theorem nullable?_ofOption_self {α : Type} {encode : α → Value} {read : Tree → Option α}
    (present : ∀ value, (encode value).tree ≠ .null)
    (reads : ∀ value, read (encode value).tree = some value) (value? : Option α) :
    (ofOption encode value?).tree.nullable? read = some value? := by
  have found : (ofOption encode value?).tree.nullable? read = some (value?.map id) :=
    nullable?_ofOption present fun value _ => reads value
  rwa [Option.map_id] at found

/-! ## Leaves -/

theorem string?_string (text : String) : (Value.string text).tree.string? = some text := rfl

theorem bool?_bool (value : Bool) : (Value.bool value).tree.bool? = some value := rfl

theorem number?_integer {value : Int} (least : -2 ^ 63 ≤ value) (most : value < 2 ^ 64) :
    (Value.integer value).tree.number? = some (.integer value) :=
  number?_integerLiteral least most

theorem nat?_integer {bound value : Nat} (small : value < bound) (word : bound ≤ 2 ^ 64) :
    (Value.integer value).tree.nat? bound = some value := by
  unfold Tree.nat? Tree.integer?
  rw [number?_integer (by omega) (by omega)]
  dsimp only
  rw [if_pos (by omega)]
  rfl

theorem int64?_integer (value : Int64) :
    (Value.integer value.toInt).tree.int64? = some value := by
  have least := value.le_toInt
  have most := value.toInt_lt
  unfold Tree.int64? Tree.integer?
  rw [number?_integer (by omega) (by omega)]
  dsimp only
  rw [if_pos ⟨value.minValue_le_toInt, value.toInt_le⟩, Option.map_some, Int64.ofInt_toInt]

theorem int64?_integerLiteral (value : Nat) :
    (Tree.number (integerLiteral value)).int64? =
      if value < 2 ^ 63 then some (.ofNat value) else none := by
  have least : Int64.minValue.toInt = -2 ^ 63 := by decide
  have most : Int64.maxValue.toInt = 2 ^ 63 - 1 := by decide
  unfold Tree.int64? Tree.integer? Tree.number?
  dsimp only
  by_cases word : value < wordBound
  · have range : Int64.minValue.toInt ≤ value ∧ (value : Int) ≤ Int64.maxValue.toInt ↔
        value < 2 ^ 63 := by omega
    unfold wordBound UInt64.size at word
    rw [number?_integerLiteral (by omega) (by omega)]
    simp only [range]
    split
    · rw [Option.map_some, Int64.ofInt_eq_ofNat]
    · rfl
  · rw [number?_integerLiteral_of_large word, if_neg fun fits => word (fits.trans (by decide))]
    cases (integerLiteral value).float? <;> rfl

theorem uint64?_integer (count : UInt64) :
    (Value.integer count.toNat).tree.uint64? = some count := by
  rw [Tree.uint64?, nat?_integer count.toNat_lt_size (by decide), Option.map_some,
    UInt64.ofNat_toNat]

/-! ## Records -/

def parts (members : List (String × Value)) : List (String × Tree) :=
  members.map fun member => (member.1, member.2.tree)

theorem memberTrees_eq (members : List (String × Value)) :
    memberTrees members = (parts members).map fun part => (some part.1, part.2) := by
  induction members with
  | nil => rfl
  | cons member rest ih => rw [memberTrees, ih]; rfl

theorem mapM_named (found : List (String × Tree)) :
    (found.map fun part => (some part.1, part.2)).mapM
      (fun ((key?, value) : Option String × Tree) => do return (← key?, value)) = some found := by
  rw [mapM_map]
  exact (mapM_of_forall fun _ _ => rfl).trans (congrArg some (List.map_id found))

theorem eraseDups_of_nodup {names : List String} (distinct : names.Nodup) :
    names.eraseDups = names := by
  induction names with
  | nil => rfl
  | cons name rest ih =>
    have ⟨fresh, distinct⟩ := List.nodup_cons.1 distinct
    have others : rest.filter (fun other => !other == name) = rest := by
      refine List.filter_eq_self.2 fun other member => ?_
      have different : other ≠ name := fun same => fresh (same ▸ member)
      simp [different]
    rw [List.eraseDups_cons, others, ih distinct]

theorem members?_named {names : List String} {members : List (String × Tree)}
    (once : ((members.filter fun member => names.contains member.1).map (·.1)).Nodup) :
    (Tree.object (members.map fun member => (some member.1, member.2))).members? names =
      some ⟨true, members.filter fun member => names.contains member.1⟩ := by
  rw [Tree.members?, Tree.namedMembers?, mapM_named, Option.bind_eq_bind, Option.bind_some]
  dsimp only
  rw [eraseDups_of_nodup once, if_pos (List.length_map _)]
  rfl

theorem members?_object {names : List String} {members : List (String × Value)}
    (named : members.map (·.1) = names) (distinct : names.Nodup) :
    (Value.object members).tree.members? names = some ⟨true, parts members⟩ := by
  have keys : (parts members).map (·.1) = names := by
    rw [← named, parts, List.map_map]
    rfl
  have all : (parts members).filter (fun part => names.contains part.1) = parts members := by
    refine List.filter_eq_self.2 fun part member => ?_
    rw [← keys]
    exact List.contains_iff_mem.2 (List.mem_map_of_mem member)
  rw [tree, memberTrees_eq, members?_named (by rwa [all, keys]), all]

section
variable {α : Type} {members : List (String × Value)} {name : String} {value : Value}

theorem lookup_parts (members : List (String × Value)) (name : String) :
    (parts members).lookup name = (members.lookup name).map Value.tree := by
  induction members with
  | nil => rfl
  | cons member rest ih =>
    rw [parts, List.map_cons, List.lookup_cons, List.lookup_cons, ← parts, ih]
    cases name == member.1 <;> rfl

theorem bind_required {read : Tree → Option α} {found : α} {β : Type}
    (present : members.lookup name = some value) (reads : read value.tree = some found)
    (next : α → Option β) :
    ((⟨true, parts members⟩ : Members).required name read >>= next) = next found := by
  rw [Members.required, lookup_parts, present, Option.map_some, Option.bind_some, reads]
  rfl

theorem bind_optional {read : Tree → Option α} {found? : Option α} {β : Type}
    (present : members.lookup name = some value)
    (reads : value.tree.nullable? read = some found?) (next : Option α → Option β) :
    ((⟨true, parts members⟩ : Members).optional name read >>= next) = next found? := by
  rw [Members.optional, lookup_parts, present, Option.map_some]
  dsimp only
  rw [reads]
  rfl

end

/-- A record whose first member says which form it has. -/
theorem tagged?_object {room : Nat} {tag name : String} {members : List (String × Value)}
    (other : tag ∉ members.map (·.1))
    (whole : ((Value.object ((tag, .string name) :: members)).tree.value? room).isSome = true) :
    (Value.object ((tag, .string name) :: members)).tree.tagged? room tag =
      some (name, (Value.object members).tree) := by
  have others : ∀ part ∈ memberTrees members, part.1 ≠ some tag := by
    rw [memberTrees_eq, parts, List.map_map]
    intro part present same
    obtain ⟨member, inside, rfl⟩ := List.mem_map.1 present
    exact other (List.mem_map.2 ⟨member, inside, Option.some.inj same⟩)
  have none : (memberTrees members).filter (fun part => part.1 == some tag) = [] :=
    List.filter_eq_nil_iff.2 fun part present => by simp [others part present]
  have all : (memberTrees members).filter (fun part => part.1 != some tag) = memberTrees members :=
    List.filter_eq_self.2 fun part present => by simp [others part present]
  rw [← Option.not_isNone, Bool.not_eq_true'] at whole
  simp only [tree, memberTrees] at whole ⊢
  simp [Tree.tagged?, whole, none, all, Tree.string?]

end SeriesQuery.Json
