import SeriesQuery.Files.Path

/-!
A tree of files and directories, each known by the names on the way to it.
-/

set_option autoImplicit false

namespace SeriesQuery.Files

abbrev Location := List String

/-- Whether a location comes before another, or is it: name by name, a directory before what it
holds. -/
def comesFirst : Location → Location → Bool
  | [], _ => true
  | _ :: _, [] => false
  | first :: firsts, second :: seconds =>
    if first = second then comesFirst firsts seconds else decide (first < second)

structure Tree where
  files : List Location
  /-- Directories that need not hold a file. -/
  directories : List Location
  /-- Where relative paths start. -/
  workingDirectory : Location
  deriving Repr, DecidableEq

inductive Problem where
  | missing
  | notDirectory
  deriving Repr, DecidableEq

namespace Tree

def empty : Tree := ⟨[], [], []⟩

def isFileAt (tree : Tree) (location : Location) : Bool := tree.files.contains location

/-- Whether a directory is there: the root, one of its own, or one that holds another. -/
def isDirectoryAt (tree : Tree) (location : Location) : Bool :=
  location.isEmpty || tree.directories.any (location.isPrefixOf ·) ||
    tree.files.any fun file => location.length < file.length && location.isPrefixOf file

def enter (tree : Tree) (location : Location) (part : String) : Except Problem Location :=
  if tree.isDirectoryAt location then
    .ok (if part = "" ∨ part = "." then location
      else if part = ".." then location.dropLast
      else location ++ [part])
  else if tree.isFileAt location then .error .notDirectory
  else .error .missing

def locate (tree : Tree) (path : String) : Except Problem Location :=
  if path.isEmpty then .error .missing
  else if path.toList.contains '\x00' then .error .notDirectory
  else (parts path).foldlM tree.enter (if path.startsWith "/" then [] else tree.workingDirectory)

def isFile (tree : Tree) (path : String) : Bool :=
  match tree.locate path with
  | .ok location => tree.isFileAt location
  | .error _ => false

def directory (tree : Tree) (path : String) : Except Problem Location := do
  let location ← tree.locate path
  if tree.isDirectoryAt location then return location
  else if tree.isFileAt location then throw .notDirectory
  else throw .missing

def namesBelow (tree : Tree) (location : Location) : List String :=
  let found := (tree.files ++ tree.directories).filterMap fun other =>
    if location.isPrefixOf other then other[location.length]? else none
  found.eraseDups.mergeSort fun first second => decide (first ≤ second)

def addFile (tree : Tree) (location : Location) : Tree :=
  if tree.files.contains location then tree else { tree with files := tree.files ++ [location] }

def addDirectory (tree : Tree) (location : Location) : Tree :=
  { tree with directories := tree.directories ++ [location] }

/-- Goes on from a directory by one written component, and makes it if nothing is there. -/
def enterOrMake (state : Tree × Location) (part : String) : Except Problem (Tree × Location) := do
  let (tree, location) := state
  let next ← tree.enter location part
  if tree.isFileAt next then throw .notDirectory
  return (if tree.isDirectoryAt next then tree else tree.addDirectory next, next)

/-- The tree with a directory at a path and at all places on the way to it. -/
def makeDirectories (tree : Tree) (path : String) : Except Problem Tree := do
  let start := if path.startsWith "/" then [] else tree.workingDirectory
  return (← (parts path).foldlM enterOrMake (tree, start)).1

end Tree

end SeriesQuery.Files
