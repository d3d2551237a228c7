import SeriesQuery.Proofs.Rrd.Variables

/-!
Reads against the data sources that a file has. Of those that a query asks for, a read keeps the ones
that the file has; with none of them it takes all that the file has.
-/

set_option autoImplicit false

namespace SeriesQuery.Rrd

namespace Compiled

/-- The data sources that the query asks for; the placeholder is not asked for. -/
def asked (compiled : Compiled) : List String :=
  if compiled.explicitFields then compiled.fields else []

variable {compiled : Compiled} {sources : List String}

theorem resolve_nil (compiled : Compiled) : compiled.resolve [] = compiled := rfl

theorem resolve_eq (compiled : Compiled) (sources : List String) :
    compiled.resolve sources = { compiled with fields := (compiled.resolve sources).fields } := by
  unfold resolve
  split
  · rfl
  · rfl

theorem fields_resolve_of_mem (found : ∃ field ∈ compiled.asked, field ∈ sources) :
    (compiled.resolve sources).fields = compiled.asked.filter (· ∈ sources) := by
  obtain ⟨field, isAsked, isSource⟩ := found
  have explicit : compiled.explicitFields = true := by
    by_contra implicit
    rw [asked, if_neg implicit] at isAsked
    cases isAsked
  have all : compiled.asked = compiled.fields := if_pos explicit
  rw [all] at isAsked ⊢
  have some : sources.isEmpty = false := List.isEmpty_eq_false_iff.2 (List.ne_nil_of_mem isSource)
  have same : compiled.fields.filter sources.contains = compiled.fields.filter (· ∈ sources) :=
    List.filter_congr fun _ _ => List.contains_eq_mem ..
  have kept : (compiled.fields.filter (· ∈ sources)).isEmpty = false :=
    List.isEmpty_eq_false_iff.2
      (List.ne_nil_of_mem (List.mem_filter.2 ⟨isAsked, decide_eq_true isSource⟩))
  unfold resolve
  rw [some, if_neg Bool.false_ne_true, same]
  dsimp only
  rw [explicit, kept]
  rfl

theorem fields_resolve_of_not_mem (nonempty : sources ≠ [])
    (missing : ∀ field ∈ compiled.asked, field ∉ sources) :
    (compiled.resolve sources).fields = sources := by
  have some : sources.isEmpty = false := List.isEmpty_eq_false_iff.2 nonempty
  unfold resolve
  rw [some, if_neg Bool.false_ne_true]
  dsimp only
  cases explicit : compiled.explicitFields with
  | false => rfl
  | true =>
    have all : compiled.asked = compiled.fields := if_pos explicit
    have none : compiled.fields.filter sources.contains = [] :=
      List.filter_eq_nil_iff.2 fun field member present =>
        missing field (all ▸ member) (List.contains_iff_mem.1 present)
    rw [none]
    rfl

end Compiled

/-- A read that names its data sources, all of which the file has, reads just these. -/
theorem fields_resolve {compiled : Compiled} (explicit : compiled.explicitFields = true)
    (named : compiled.fields ≠ []) {sources : List String}
    (present : ∀ field ∈ compiled.fields, field ∈ sources) :
    (compiled.resolve sources).fields = compiled.fields := by
  have all : compiled.asked = compiled.fields := if_pos explicit
  obtain ⟨field, member⟩ := List.exists_mem_of_ne_nil _ named
  rw [Compiled.fields_resolve_of_mem ⟨field, all ▸ member, present field member⟩, all]
  exact List.filter_eq_self.2 fun field member => decide_eq_true (present field member)

/-- Nothing changes once all fields are there and the placeholder has made way. -/
theorem resolve_eq_self {compiled : Compiled} {sources : List String}
    (nonempty : compiled.fields ≠ []) (present : ∀ field ∈ compiled.fields, field ∈ sources)
    (placed : compiled.explicitFields = false → compiled.fields = sources) :
    compiled.resolve sources = compiled := by
  have same : (compiled.resolve sources).fields = compiled.fields := by
    cases explicit : compiled.explicitFields with
    | true => exact fields_resolve explicit nonempty present
    | false =>
      have none : compiled.asked = [] := by simp [Compiled.asked, explicit]
      have all := placed explicit
      rw [Compiled.fields_resolve_of_not_mem (all ▸ nonempty) (by simp [none]), all]
  rw [Compiled.resolve_eq, same]

/-! ## Queries -/

theorem asked_of_compile {layout : Layout} {base : String} {mode : Mode} {query : Query}
    {compiled : Compiled} (compiles : compile layout base mode query = .ok compiled) :
    compiled.asked = dropRepeats (requested query) := by
  obtain ⟨-, -, made⟩ := exists_of_bind compiles
  obtain ⟨interval?, -, made⟩ := exists_of_bind made
  cases made
  unfold Compiled.asked
  dsimp only
  rw [fieldsOf_eq]
  cases dropRepeats (requested query) with
  | nil => rfl
  | cons first others => rfl

/-- What becomes of a read whose query asks for some data sources, in a file that has others. -/
structure ResolvesTo (compiled : Compiled) (asked sources : List String) (resolved : Compiled) :
    Prop where
  nonempty : resolved.fields ≠ []
  declared : ∀ field ∈ resolved.fields, field ∈ sources
  kept : (∃ field ∈ asked, field ∈ sources) → resolved.fields = asked.filter (· ∈ sources)
  all : (∀ field ∈ asked, field ∉ sources) → resolved.fields = sources
  others : resolved = { compiled with fields := resolved.fields }
  settled : resolved.resolve sources = resolved

theorem resolvesTo_resolve (compiled : Compiled) {sources : List String} (nonempty : sources ≠ []) :
    ResolvesTo compiled compiled.asked sources (compiled.resolve sources) := by
  have explicit : (compiled.resolve sources).explicitFields = compiled.explicitFields := by
    rw [Compiled.resolve_eq]
  by_cases found : ∃ field ∈ compiled.asked, field ∈ sources
  · have kept := Compiled.fields_resolve_of_mem found
    obtain ⟨field, isAsked, isSource⟩ := found
    have filled : (compiled.resolve sources).fields ≠ [] := by
      rw [kept]
      exact List.ne_nil_of_mem (List.mem_filter.2 ⟨isAsked, decide_eq_true isSource⟩)
    have declared : ∀ field ∈ (compiled.resolve sources).fields, field ∈ sources := by
      intro field member
      rw [kept] at member
      exact of_decide_eq_true (List.mem_filter.1 member).2
    refine ⟨filled, declared, fun _ => kept, fun missing => absurd isSource (missing field isAsked),
      Compiled.resolve_eq compiled sources, resolve_eq_self filled declared fun implicit => ?_⟩
    -- A query that asks for nothing has no field that was found.
    rw [explicit] at implicit
    simp [Compiled.asked, implicit] at isAsked
  · have missing : ∀ field ∈ compiled.asked, field ∉ sources :=
      fun field isAsked isSource => found ⟨field, isAsked, isSource⟩
    have all := Compiled.fields_resolve_of_not_mem nonempty missing
    have filled : (compiled.resolve sources).fields ≠ [] := by rwa [all]
    have declared : ∀ field ∈ (compiled.resolve sources).fields, field ∈ sources := by simp [all]
    exact ⟨filled, declared, fun some => absurd some found, fun _ => all,
      Compiled.resolve_eq compiled sources, resolve_eq_self filled declared fun _ => all⟩

/-- A read of a query is resolved to what its query asks for, as far as the file has it, and to all
that the file has otherwise. A file without data sources leaves it as it is. -/
theorem resolve_exact {layout : Layout} {base : String} {mode : Mode} {query : Query}
    {compiled : Compiled} (compiles : compile layout base mode query = .ok compiled) :
    compiled.resolve [] = compiled ∧ ∀ sources ≠ [],
      ResolvesTo compiled (dropRepeats (requested query)) sources (compiled.resolve sources) := by
  refine ⟨Compiled.resolve_nil compiled, fun sources nonempty => ?_⟩
  rw [← asked_of_compile compiles]
  exact resolvesTo_resolve compiled nonempty

theorem resolve_exact_returning :
    ∃ compiled, compile .flat "/data" .xport returningQuery = .ok compiled ∧
      (compiled.resolve ["load", "usage"]).fields = ["usage", "usage"] ∧
      (compiled.resolve ["load", "speed"]).fields = ["load", "speed"] := by
  have asked : dropRepeats (requested returningQuery) = ["usage", "idle", "usage"] := by
    decide +kernel
  obtain ⟨compiled, compiles⟩ : ∃ compiled,
      compile .flat "/data" .xport returningQuery = .ok compiled := ⟨_, rfl⟩
  have resolves := (resolve_exact compiles).2
  rw [asked] at resolves
  refine ⟨compiled, compiles, ?_, ?_⟩
  · exact (resolves ["load", "usage"] (by decide)).kept (by decide)
  · exact (resolves ["load", "speed"] (by decide)).all (by decide)

end SeriesQuery.Rrd
