import SeriesQuery.Files.Tree

/-!
Files that a program can reach. What fails does so for a reason of the system.
-/

set_option autoImplicit false

namespace SeriesQuery.Files

structure Disk (m : Type → Type) where
  /-- What is at a path, on the way to it and below it. -/
  tree : String → m Tree
  read : String → m (Except String String)
  write : String → String → m (Except String Unit)
  /-- Makes a directory and those on the way to it. -/
  makeDirectories : String → m (Except String Unit)

def Problem.reason : Problem → String
  | .missing => "No such file or directory (os error 2)"
  | .notDirectory => "Not a directory (os error 20)"

/-- Whether anything is at a path. A file on the way to it is a problem. -/
def Tree.occupied (tree : Tree) (path : String) : Except Problem Bool :=
  match tree.locate path with
  | .ok location => .ok (tree.isFileAt location || tree.isDirectoryAt location)
  | .error .missing => .ok false
  | .error problem => .error problem

/-- The directory that a path lies in; the root lies in none. -/
def parent? (path : String) : Option String :=
  let trimmed := path.toList.reverse.dropWhile (· == '/')
  if trimmed.isEmpty then none
  else
    let above := trimmed.dropWhile (· != '/')
    let kept := above.dropWhile (· == '/')
    some (if kept.isEmpty then (if above.isEmpty then "" else "/")
      else String.ofList kept.reverse)

end SeriesQuery.Files
