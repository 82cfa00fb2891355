import Mathlib

/-!
# Paths in a tree of files

A file system as what stands at each canonical location, and the walk of a path through it: an empty component and a dot
stay, two dots go to the parent, and a symbolic link on the way is followed.  A path of one component that is no dot leads
nowhere but into the directory it starts from (`locate_of_name`).
-/

namespace FileTrees

/-- The names on the way from the root of the file system. -/
abbrev Location := List String

/-- What stands at a location; a link knows the canonical location that it leads to. -/
inductive Node
  | file (contents : List UInt8)
  | directory
  | link (target : Location)
  deriving DecidableEq

abbrev FileTree := Location → Option Node

namespace FileTree

variable (tree : FileTree)

/-- One component of a path, taken in the directory `location`. -/
def enter (location : Location) (name : String) : Location :=
  if name = "" ∨ name = "." then location
  else if name = ".." then location.dropLast
  else
    match tree (location ++ [name]) with
    | some (.link target) => target
    | _ => location ++ [name]

/-- The directory that the components lead to. -/
def walk : Location → List String → Option Location
  | location, [] => if tree location = some .directory then some location else none
  | location, name :: names =>
    if tree location = some .directory then walk (tree.enter location name) names else none

/-- The location of the entry that a path names, whose last component is not followed; a path that ends in a slash or in
dots names a directory. -/
def locate (location : Location) (names : List String) : Option Location :=
  match names.getLast? with
  | none => none
  | some name =>
    if name = "" ∨ name = "." ∨ name = ".." then none
    else (tree.walk location names.dropLast).map (· ++ [name])

end FileTree

def components (path : String) : List String := (path.toList.splitOn '/').map String.ofList

/-- `join`: an absolute path replaces the directory it is joined to. -/
def join (directory : Location) (path : String) : Location × List String :=
  if path.toList.head? = some '/' then ([], components path) else (directory, components path)

namespace FileTree

variable (tree : FileTree)

/-- The entry that `directory.join(path)` names, unless it is a directory; a path with a null character names nothing. -/
def fileAt (directory : Location) (path : String) : Option Location :=
  if '\x00' ∈ path.toList then none
  else
    ((tree.locate (join directory path).1 (join directory path).2)).filter fun location =>
      tree location ≠ none ∧ tree location ≠ some .directory

variable {tree}

theorem components_of_name {name : String} (h : '/' ∉ name.toList) : components name = [name] := by
  have hsplit : name.toList.splitOn '/' = [name.toList] := by
    refine List.splitOnP_eq_singleton fun c hc => ?_
    simpa using fun heq : c = '/' => h (heq ▸ hc)
  rw [components, hsplit, List.map_singleton, String.ofList_toList]

theorem locate_of_name {name : String} {directory location : Location}
    (h : tree.locate directory [name] = some location) : location = directory ++ [name] := by
  simp only [locate, List.getLast?_singleton, List.dropLast_singleton, walk] at h
  split at h
  · cases h
  split at h
  · exact (Option.some.inj h).symm
  · cases h

theorem fileAt_of_name {name : String} {directory location : Location} (hname : '/' ∉ name.toList)
    (h : tree.fileAt directory name = some location) : location = directory ++ [name] := by
  rw [fileAt] at h
  split at h
  · cases h
  have hhead : name.toList.head? ≠ some '/' := fun hslash => hname (List.mem_of_head? hslash)
  rw [join, if_neg hhead, components_of_name hname] at h
  exact locate_of_name (Option.filter_eq_some_iff.1 h).1

end FileTree

end FileTrees
