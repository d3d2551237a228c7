import SeriesQuery.Proofs.Entries
import SeriesQuery.Proofs.Rrd.Rows

/-!
Information on a file. The data sources are those that lines are about, in the order of their first
lines, whatever else stands on these lines and between them.
-/

set_option autoImplicit false

namespace SeriesQuery.Rrd

/-! ## Lines -/

/-- A line that gives an attribute of a data source, or any other line. -/
inductive InfoLine where
  | source (name : String) (attr value : List Char)
  | other (text : List Char)

namespace InfoLine

def key (name : String) (attr : List Char) : List Char :=
  "ds[".toList ++ (name.toList ++ ']' :: '.' :: attr)

def text : InfoLine → List Char
  | .source name attr value => key name attr ++ (" = ".toList ++ value)
  | .other text => text

def name? : InfoLine → Option String
  | .source name _ _ => some name
  | .other _ => none

/-- A name has letters, digits and underscores, an attribute has no space and no equals sign, and no
other line starts like one about a data source. -/
def Formed : InfoLine → Prop
  | .source name attr _ =>
    (∀ c ∈ name.toList, isNameChar c = true) ∧ ' ' ∉ attr ∧ '=' ∉ attr
  | .other text => ¬ "ds[".toList <+: Text.trimChars text

instance : (line : InfoLine) → Decidable line.Formed
  | .source name attr _ => inferInstanceAs (Decidable
    ((∀ c ∈ name.toList, isNameChar c = true) ∧ ' ' ∉ attr ∧ '=' ∉ attr))
  | .other text => inferInstanceAs (Decidable (¬ "ds[".toList <+: Text.trimChars text))

theorem notMem_name {name : String} {mark : Char}
    (named : ∀ c ∈ name.toList, isNameChar c = true)
    (apart : isNameChar mark = false) : mark ∉ name.toList := by
  intro member
  rw [named mark member] at apart
  cases apart

theorem apart_key {name : String} {attr : List Char}
    (named : ∀ c ∈ name.toList, isNameChar c = true) (noGap : ' ' ∉ attr) (noSign : '=' ∉ attr) :
    ∀ c ∈ key name attr, (c != ' ' && c != '=') = true := by
  have noGap : ' ' ∉ key name attr := by
    simp [key, notMem_name named (by decide : isNameChar ' ' = false), noGap]
  have noSign : '=' ∉ key name attr := by
    simp [key, notMem_name named (by decide : isNameChar '=' = false), noSign]
  intro c member
  rw [Bool.and_eq_true, bne_iff_ne, bne_iff_ne]
  exact ⟨fun same => noGap (same ▸ member), fun same => noSign (same ▸ member)⟩

theorem infoSource?_key {name : String} (apart : ']' ∉ name.toList) (attr : List Char) :
    infoSource? (key name attr) = some name.toList := by
  rw [infoSource?, key, Text.dropStart?_append, Option.bind_some, Text.splitFirst?_append apart]
  rfl

theorem infoPair?_source {name : String} {attr : List Char}
    (apart : ∀ c ∈ key name attr, (c != ' ' && c != '=') = true) (value : List Char) :
    ∃ rest, infoPair? (Text.trimChars (InfoLine.source name attr value).text) =
      some (key name attr, rest) := by
  have starts : Stops Text.isBlank (InfoLine.source name attr value).text :=
    stops_cons (by decide : Text.isBlank 'd' = false) _
  have ends : Language.EndsSolid (key name attr ++ " =".toList) :=
    Language.endsSolid_append (by decide)
      (by decide : Stops Text.isBlank " =".toList.reverse)
  -- Trimming may take all of the value, but it stops at the sign.
  have split : (InfoLine.source name attr value).text =
      (key name attr ++ " =".toList) ++ (' ' :: value) := by
    simp [text]
  rw [Text.trimChars, dropWhile_of_stops starts, split, dropEndWhile_append ends]
  generalize Text.dropEndWhile Text.isBlank (' ' :: value) = shown
  have taken : (key name attr ++ " =".toList ++ shown).span (fun c => c != ' ' && c != '=') =
      (key name attr, " =".toList ++ shown) := by
    rw [List.append_assoc]
    exact span_append apart (stops_cons (by decide) _)
  rw [infoPair?, taken]
  exact ⟨_, rfl⟩

theorem prefix_of_infoPair? {line name value : List Char}
    (read : infoPair? line = some (name, value)) : name <+: line := by
  unfold infoPair? at read
  rw [List.span_eq_takeWhile_dropWhile] at read
  split at read
  · cases read
  · next taken rest _ same =>
    split at read
    · cases read
      rw [← (Prod.mk.inj same).1]
      exact List.takeWhile_prefix _
    · cases read

theorem prefix_of_infoSource? {name source : List Char} (read : infoSource? name = some source) :
    "ds[".toList <+: name := by
  obtain ⟨found, split, -⟩ := Option.map_eq_some_iff.1 read
  obtain ⟨rest, dropped, -⟩ := Option.bind_eq_some_iff.1 split
  exact ⟨rest, (Text.eq_append_of_dropStart? dropped).symm⟩

/-! ## Steps and runs -/

theorem dataSources_addLine (info : FileInfo) {line : InfoLine} (formed : line.Formed) :
    (info.addLine line.text).dataSources = match line.name? with
      | some name => if name ∈ info.dataSources then info.dataSources
          else info.dataSources ++ [name]
      | none => info.dataSources := by
  cases line with
  | source name attr value =>
    obtain ⟨named, noGap, noSign⟩ := formed
    obtain ⟨rest, read⟩ := infoPair?_source (apart_key named noGap noSign) value
    have found : infoSource? (key name attr) = some name.toList :=
      infoSource?_key (notMem_name named (by decide)) attr
    simp only [FileInfo.addLine, read, found, String.ofList_toList, FileInfo.addSource, name?]
    by_cases known : name ∈ info.dataSources
    · simp [known]
    · simp [known]
  | other text =>
    unfold FileInfo.addLine
    split
    · rfl
    · next name value read =>
      split
      · next source found =>
        -- the key of a pair is where its line starts
        have starts := (prefix_of_infoSource? found).trans (prefix_of_infoPair? read)
        exact absurd starts formed
      · dsimp only
        split
        · rfl
        · split <;> rfl

end InfoLine

/-- The data sources that lines are about, one for each line. -/
def subjects (lines : List InfoLine) : List String := lines.filterMap InfoLine.name?

theorem dataSources_foldl (lines : List InfoLine) (formed : ∀ line ∈ lines, line.Formed)
    (info : FileInfo) :
    ((lines.map InfoLine.text).foldl FileInfo.addLine info).dataSources =
      (subjects lines).foldl (fun found name => if name ∈ found then found else found ++ [name])
        info.dataSources := by
  induction lines generalizing info with
  | nil => rfl
  | cons line others ih =>
    have ⟨first, formed⟩ := List.forall_mem_cons.1 formed
    rw [List.map_cons, List.foldl_cons, ih formed, InfoLine.dataSources_addLine info first,
      subjects, subjects, List.filterMap_cons]
    cases line.name? <;> rfl

/-- The data sources of a file are the names that lines are about, each of them once, in the order
of their first lines. Nothing else on these lines counts, and no other line. -/
theorem dataSources_read {names : List String} {lines : List InfoLine} {output : String}
    (broken : Broken (lines.map InfoLine.text) output.toList)
    (formed : ∀ line ∈ lines, line.Formed) (distinct : names.Nodup)
    (declared : ∀ name, name ∈ subjects lines ↔ name ∈ names)
    (ordered : names.Pairwise fun first second =>
      (subjects lines).idxOf first < (subjects lines).idxOf second) :
    (FileInfo.read output).dataSources = names := by
  rw [FileInfo.read, broken_iff.1 broken, dataSources_foldl lines formed, FileInfo.empty,
    foldl_added]
  exact eraseDups_eq_of_ordered distinct declared ordered

/-- Lines about two data sources between others, with values that look like such lines. -/
def loadLines : List InfoLine :=
  [.other "cf = ds[no].cf = 1".toList, .other [], .source "load" "index".toList "0".toList,
    .source "idle_1" "type".toList "ds[no].type = G ".toList, .other " ds".toList,
    .source "load" "min".toList []]

def loadText : String :=
  "cf = ds[no].cf = 1\n\r\nds[load].index = 0\r\n" ++
    "ds[idle_1].type = ds[no].type = G \n ds\nds[load].min = \n"

theorem dataSources_read_load :
    Broken (loadLines.map InfoLine.text) loadText.toList ∧
      (∀ line ∈ loadLines, line.Formed) ∧ ["load", "idle_1"].Nodup ∧
      (∀ name, name ∈ subjects loadLines ↔ name ∈ ["load", "idle_1"]) ∧
      ["load", "idle_1"].Pairwise (fun first second =>
        (subjects loadLines).idxOf first < (subjects loadLines).idxOf second) ∧
      (FileInfo.read loadText).dataSources = ["load", "idle_1"] := by
  have broken : Broken (loadLines.map InfoLine.text) loadText.toList :=
    broken_iff.2 (by decide +kernel)
  have formed : ∀ line ∈ loadLines, line.Formed := by decide
  have distinct : ["load", "idle_1"].Nodup := by decide
  have declared : ∀ name, name ∈ subjects loadLines ↔ name ∈ ["load", "idle_1"] := by
    have named : subjects loadLines = ["load", "idle_1", "load"] := by decide
    intro name
    rw [named]
    simp only [List.mem_cons, List.not_mem_nil, or_false]
    constructor
    · rintro (first | second | again)
      · exact .inl first
      · exact .inr second
      · exact .inl again
    · exact Or.imp_right .inl
  have ordered : ["load", "idle_1"].Pairwise fun first second =>
      (subjects loadLines).idxOf first < (subjects loadLines).idxOf second := by decide
  exact ⟨broken, formed, distinct, declared, ordered,
    dataSources_read broken formed distinct declared ordered⟩

end SeriesQuery.Rrd
