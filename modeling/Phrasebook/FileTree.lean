import Phrasebook.Path

/-!
File trees: the files that a command can see, as a value.

A tree lists its files and directories by the names that lead to them from the
root.  A directory need not be listed when something in it is, and the working
directory is always there.  A path given as text is resolved against the tree
one segment at a time, so that two dots lead to the real parent directory and
nothing can be reached through a missing directory or through a file.
-/

namespace Phrasebook

/-- What a file holds: text, or bytes that are not UTF-8. -/
inductive Contents where
  | text (t : Text)
  | binary

def Contents.ofBytes (bytes : ByteArray) : Contents :=
  match String.fromUTF8? bytes with
  | some s => .text s.toList
  | none => .binary

inductive FileNode where
  | file (contents : Contents)
  | directory

def FileNode.isDirectory : FileNode → Bool
  | .file _ => false
  | .directory => true

inductive FileError where
  | notFound
  | notDirectory
  | isDirectory
  | notText
  deriving DecidableEq, Repr

/-- The wording of a cause, as the system words it. -/
def FileError.message : FileError → Text
  | .notFound => "No such file or directory (os error 2)".toList
  | .notDirectory => "Not a directory (os error 20)".toList
  | .isDirectory => "Is a directory (os error 21)".toList
  | .notText => "stream did not contain valid UTF-8".toList

/-- The names that lead to a place from the root. -/
abbrev Place := List Text

/-- Files and directories by place, and the directory that relative paths
start from. -/
structure FileTree where
  entries : List (Place × FileNode)
  workingDirectory : Place

namespace FileTree

/-- A place has to be a directory because something lies in it. -/
def isInner (tree : FileTree) (place : Place) : Bool :=
  place.isPrefixOf tree.workingDirectory ||
    tree.entries.any fun e => place.isPrefixOf e.1

def at? (tree : FileTree) (place : Place) : Option FileNode :=
  match tree.entries.lookup place with
  | some node => some node
  | none => if tree.isInner place then some .directory else none

/-- Follows one segment of a path; only a directory leads further. -/
def step (tree : FileTree) (place : Place) (segment : Text) : Except FileError Place :=
  match tree.at? place with
  | none => .error .notFound
  | some (.file _) => .error .notDirectory
  | some .directory =>
      if Path.isTrivial segment then .ok place
      else if segment = ['.', '.'] then .ok place.dropLast
      else .ok (place ++ [segment])

/-- The place that a path leads to, and what stands there. -/
def resolve (tree : FileTree) (path : Text) : Except FileError (Place × FileNode) :=
  if path.isEmpty then .error .notFound
  else do
    let start := if Path.isAbsolute path then [] else tree.workingDirectory
    let place ← (Path.segments path).foldlM tree.step start
    match tree.at? place with
    | some node => return (place, node)
    | none => .error .notFound

/-- Something stands at the end of a path. -/
def contains (tree : FileTree) (path : Text) : Bool :=
  (tree.resolve path).toOption.isSome

def hasDirectory (tree : FileTree) (path : Text) : Bool :=
  (tree.resolve path).toOption.any (·.2.isDirectory)

/-- The text of the file at the end of a path. -/
def readText (tree : FileTree) (path : Text) : Except FileError Text := do
  match ← tree.resolve path with
  | (_, .directory) => .error .isDirectory
  | (_, .file .binary) => .error .notText
  | (_, .file (.text t)) => return t

/-- The names in the directory at a place, each once. -/
def names (tree : FileTree) (place : Place) : List Text :=
  ((tree.workingDirectory :: tree.entries.map Prod.fst).filterMap fun p =>
    if place.isPrefixOf p then (p.drop place.length).head? else none).eraseDups

/-- The paths of the files at and below the end of a path, each extending it
by the names that lead on. -/
def filesUnder (tree : FileTree) (path : Text) : Except FileError (List Text) := do
  match ← tree.resolve path with
  | (_, .file _) => return [path]
  | (place, .directory) =>
      return tree.entries.filterMap fun
        | (p, .file _) =>
            if place.isPrefixOf p then
              some ((p.drop place.length).foldl Path.join path)
            else none
        | (_, .directory) => none

end FileTree

end Phrasebook
