/-
This file describes the files that a path can lead to.
-/

import ImpalaAdapter.Text.Search

namespace ImpalaAdapter

/-- A file holds a text, or there is a reason why it cannot be read as one. -/
inductive FileEntry where
  | text (content : String)
  | unreadable (reason : String)
  | directory
deriving DecidableEq

/-- The content of a file, or the reason why there is none. -/
def FileEntry.read : FileEntry → Except String String
  | .text content => .ok content
  | .unreadable reason => .error reason
  | .directory => .error "Is a directory (os error 21)"

/-- A file system tells what is found at a path, if anything is. -/
structure FileSystem where
  entry? : String → Option FileEntry

def FileSystem.contains (files : FileSystem) (path : String) : Bool :=
  (files.entry? path).isSome

def isAbsolute (path : String) : Bool :=
  path.toList.head? == some '/'

/-- One slash stands between a directory and a name in it. The empty path is the working
directory. -/
def joinPath (directory name : String) : String :=
  if directory.isEmpty || directory.toList.getLast? = some '/' then directory ++ name
  else directory ++ "/" ++ name

/-- A file tree lists its nodes by the names on their way from the root of the file system. The
directories on the way to a node belong to the tree. -/
structure FileTree where
  workingDirectory : List String
  nodes : List (List String × FileEntry)

namespace FileTree

def names (path : String) : List String :=
  (Text.splitAt (· == '/') path.toList).map String.ofList

def node? (tree : FileTree) (location : List String) : Option FileEntry :=
  match tree.nodes.lookup location with
  | some entry => some entry
  | none =>
      if tree.nodes.any (fun node => location.isPrefixOf node.1) ||
          location.isPrefixOf tree.workingDirectory then
        some .directory
      else none

/-- Every name on a path but the last has to lead to a directory. -/
def walk (tree : FileTree) : List String → List String → Option (List String)
  | location, [] => some location
  | location, name :: rest =>
      if tree.node? location ≠ some .directory then none
      else if name = "" ∨ name = "." then walk tree location rest
      else if name = ".." then walk tree location.dropLast rest
      else walk tree (location ++ [name]) rest

/-- A relative path starts at the working directory, and the empty path leads nowhere. -/
def entry? (tree : FileTree) (path : String) : Option FileEntry :=
  if path.isEmpty then none
  else do
    let location ← tree.walk (if isAbsolute path then [] else tree.workingDirectory) (names path)
    tree.node? location

def fileSystem (tree : FileTree) : FileSystem :=
  { entry? := tree.entry? }

end FileTree

end ImpalaAdapter
