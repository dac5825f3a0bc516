import FormReply.Settings.Basic

/-!
# File trees

A file tree is a file, or a directory with named trees below it.  A path is followed one name after
another: an empty name and `.` stay where they are, `..` goes back to the directory around, and
nothing lies below a file, not even under an empty name.

* `Place.step?`, `Place.walk?`: where names lead;
* `find`: what a path leads to.
-/

namespace FormReply

/-- A file, or a directory and all that lies below it. -/
inductive FileTree where
  /-- A file with these bytes. -/
  | file (b : Bytes)
  /-- A directory with named entries. -/
  | directory (entries : List (Bytes × FileTree))

namespace FileTree

/-- What is found at the top of a tree. -/
def found : FileTree → Settings.File
  | .file b => .content b
  | .directory _ => .directory

/-- A tree, and the directories around it, innermost first. -/
structure Place where
  tree : FileTree
  /-- The directories around it. -/
  around : List FileTree := []

namespace Place

/-- Follows one name.  There is nothing around the outermost directory but itself. -/
def step? (p : Place) (name : Bytes) : Option Place :=
  match p.tree with
  | .file _ => none
  | .directory entries =>
    if name = [] ∨ name = [0x2E] then some p
    else if name = [0x2E, 0x2E] then
      match p.around with
      | [] => some p
      | outer :: around => some ⟨outer, around⟩
    else (entries.lookup name).map fun t => ⟨t, p.tree :: p.around⟩

/-- Follows names, one after another. -/
def walk? (p : Place) (names : List Bytes) : Option Place := names.foldlM step? p

end Place

/-- The greatest length of a path in bytes. -/
def maxPathLength : Nat := 4095

/-- The names in a path.  A path that does not begin with `/` continues the working directory. -/
def names (workingDirectory : List Bytes) (path : Bytes) : List Bytes :=
  (if path.head? = some 0x2F then [] else workingDirectory) ++ path.splitOn 0x2F

/-- What a path leads to.  An empty path and one that is too long lead nowhere. -/
def find (root : FileTree) (workingDirectory : List Bytes) (path : Bytes) : Settings.File :=
  if path = [] ∨ maxPathLength < path.length then .missing
  else
    match Place.walk? ⟨root, []⟩ (names workingDirectory path) with
    | none => .missing
    | some p => p.tree.found

example :
    let root := directory [([0x61], directory [([0x62], file [])])]
    find root [[0x61]] [0x62] = .content [] ∧ find root [[0x61]] [0x62, 0x2F] = .missing ∧
      find root [] [0x61, 0x2F] = .directory := by decide

end FileTree

end FormReply
