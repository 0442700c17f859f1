import VoxelCache.Fault

/-!
# File trees

A file tree is a directory with files and further directories.  A path is walked
part by part; empty parts and single dots stay where they are, double dots go
back up, and a path that begins with a slash starts at the root.  Reading
succeeds if the walk ends at a file.
-/

namespace VoxelCache

section FileTree

/-- A file, or a directory with its entries. -/
inductive FileTree where
  | file (content : ByteArray)
  | directory (entries : List (String × FileTree))

namespace FileTree

/-- Longest part of a path, in bytes. -/
def longestName : Nat := 255

/-- Longest path, in bytes. -/
def longestPath : Nat := 4095

/-- Walk from a place in the tree; `above` has the directories above it, the nearest first. -/
def walk (above : List FileTree) (place : FileTree) :
    List String → Except FileFault FileTree
  | [] => .ok place
  | part :: rest =>
      match place with
      | file _ => .error .notADirectory
      | directory entries =>
          if longestName < part.utf8ByteSize then
            .error .nameTooLong
          else if part = "" ∨ part = "." then
            walk above place rest
          else if part = ".." then
            match above with
            | [] => walk [] place rest
            | parent :: further => walk further parent rest
          else
            match entries.lookup part with
            | some next => walk (place :: above) next rest
            | none => .error .notFound

/-- Read the file at a path. -/
def read (root working : FileTree) (path : String) : Except FileFault ByteArray :=
  if path.toList.contains '\x00' then
    .error .nulInName
  else if path = "" then
    .error .notFound
  else if longestPath < path.utf8ByteSize then
    .error .nameTooLong
  else
    let parts := path.splitOn "/"
    let found :=
      if parts.head? = some "" then walk [] root parts else walk [root] working parts
    match found with
    | .ok (file content) => .ok content
    | .ok (directory _) => .error .isADirectory
    | .error fault => .error fault

/-- A directory without entries. -/
def vacant : FileTree :=
  directory []

/-- The directories that every system has, with the file that is always empty. -/
def bare : FileTree :=
  let names := ["bin", "boot", "etc", "home", "lib", "media", "mnt", "opt", "proc", "root",
    "run", "sbin", "srv", "sys", "tmp", "usr", "var"]
  directory (("dev", directory [("null", file ByteArray.empty)]) ::
    names.map fun name => (name, vacant))

end FileTree

end FileTree

end VoxelCache
