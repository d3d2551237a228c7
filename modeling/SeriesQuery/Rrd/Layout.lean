import SeriesQuery.Dictionary
import SeriesQuery.Files.Tree

/-!
Where series live on disk. Round robin files have no tags, so a measurement and its tags are written
into the path of the file, and read back from it.

| layout   | `cpu` with `host=a`, `dc=eu` |
|----------|------------------------------|
| flat     | `cpu__dc=eu__host=a.rrd`     |
| folder   | `cpu/dc=eu/host=a/cpu.rrd`   |
| untagged | `cpu.rrd`                    |
-/

set_option autoImplicit false

namespace SeriesQuery.Rrd

abbrev Tags := Dictionary String

inductive Layout where
  | flat
  | folder
  /-- Tags are dropped. -/
  | untagged
  deriving Repr, DecidableEq

def Layout.name : Layout → String
  | .flat => "flat"
  | .folder => "folder"
  | .untagged => "none"

structure SeriesFile where
  path : String
  tags : Tags
  deriving DecidableEq

def component (text : String) : String :=
  text.map fun c => if c = '/' ∨ c = '\\' ∨ c = '\x00' then '_' else c

def fileName (stem : String) : String := stem ++ ".rrd"

def pairText (key value : String) : String := component key ++ "=" ++ component value

def readPair? (text : List Char) : Option (String × String) :=
  (Text.splitFirst? '=' text).map fun (key, value) => (String.ofList key, String.ofList value)

/-- The stretches between double underscores. -/
def splitStem : List Char → List (List Char)
  | [] => [[]]
  | '_' :: '_' :: rest => [] :: splitStem rest
  | c :: rest =>
    match splitStem rest with
    | [] => [[c]]
    | part :: parts => (c :: part) :: parts

/-- Drops each entry that repeats the one before it. -/
def dropRepeats : List String → List String
  | [] => []
  | [single] => [single]
  | first :: second :: rest =>
    if first = second then dropRepeats (second :: rest) else first :: dropRepeats (second :: rest)

namespace Layout

def components (layout : Layout) (measurement : String) (tags : Tags) : List String :=
  let pairs := tags.entries.map fun (key, value) => pairText key value
  match layout with
  | .flat => [fileName ("__".intercalate (component measurement :: pairs))]
  | .folder => [component measurement] ++ pairs ++ [fileName (component measurement)]
  | .untagged => [fileName (component measurement)]

def path (layout : Layout) (base measurement : String) (tags : Tags) : String :=
  Files.joinAll base (layout.components measurement tags)

/-- The stems of the files directly in a directory; a missing directory has none. -/
def stems (tree : Files.Tree) (base : String) : Except Files.Problem (List String) :=
  match tree.directory base with
  | .ok location => .ok <| (tree.namesBelow location).filterMap (fun name =>
      if tree.isFileAt (location ++ [name]) then Files.stem? "rrd" name else none)
    |>.mergeSort fun first second => decide (first ≤ second)
  | .error .missing => .ok []
  | .error problem => .error problem

def readStem (stem : String) : String × Tags :=
  match splitStem stem.toList with
  | [] => ("", .empty)
  | measurement :: pairs => (String.ofList measurement, .ofList (pairs.filterMap readPair?))

def flatFiles (tree : Files.Tree) (base measurement : String) :
    Except Files.Problem (List SeriesFile) := do
  let stems ← stems tree base
  return stems.filterMap fun stem =>
    let (found, tags) := readStem stem
    if found = component measurement then some ⟨Files.join base (fileName stem), tags⟩ else none

def readFolders? (folders : List String) : Option Tags :=
  (folders.mapM fun folder => readPair? folder.toList).map Dictionary.ofList

/-- The files with a measurement's name, at any depth below its directory. -/
def folderFiles (tree : Files.Tree) (base measurement : String) : List SeriesFile :=
  let root := Files.join base (component measurement)
  match tree.directory root with
  | .error _ => []
  | .ok location =>
    let below := tree.files.filterMap fun file =>
      if location.isPrefixOf file then some (file.drop location.length) else none
    let below := below.mergeSort Files.comesFirst
    below.filterMap fun file =>
      if file.getLast? = some (fileName (component measurement)) then
        (readFolders? file.dropLast).map fun tags => ⟨Files.joinAll root file, tags⟩
      else none

def files (layout : Layout) (tree : Files.Tree) (base measurement : String) :
    Except Files.Problem (List SeriesFile) :=
  match layout with
  | .flat => flatFiles tree base measurement
  | .folder => .ok (folderFiles tree base measurement)
  | .untagged =>
    let path := Layout.untagged.path base measurement .empty
    .ok (if tree.isFile path then [⟨path, .empty⟩] else [])

def measurements (layout : Layout) (tree : Files.Tree) (base : String) :
    Except Files.Problem (List String) :=
  match layout with
  | .flat => do
    let stems ← stems tree base
    return dropRepeats (stems.map fun stem => (readStem stem).1)
  | .folder =>
    match tree.directory base with
    | .ok location => .ok <| (tree.namesBelow location).filter fun name =>
        tree.isDirectoryAt (location ++ [name]) && !(folderFiles tree base name).isEmpty
    | .error .missing => .ok []
    | .error problem => .error problem
  | .untagged => stems tree base

end Layout

end SeriesQuery.Rrd
