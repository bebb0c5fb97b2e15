import Phrasebook.Config.Read

/-!
Finding the settings that apply to a directory.

The directory and then its parents are searched for a configuration file, the
parents being taken from the text of the path.  The search ends at the first
directory with such a file, or at the first one that holds a repository.
-/

namespace Phrasebook.Config

/-- The directories to search, in order: a path and those left when its last
components are taken away one by one. -/
def searchPath (path : Text) : Nat → List Text
  | 0 => [path]
  | fuel + 1 =>
      match Path.parent? path with
      | none => [path]
      | some parent => path :: searchPath parent fuel

/-- The first configuration file in the given directories, before any of them
that holds a repository. -/
def findIn (tree : FileTree) : List Text → Option Text
  | [] => none
  | directory :: later =>
      let file := Path.join directory fileName
      if tree.contains file then some file
      else if tree.contains (Path.join directory ".git".toList) then none
      else findIn tree later

/-- The path of the configuration file for a directory. -/
def find? (tree : FileTree) (start : Text) : Option Text :=
  findIn tree (searchPath start (start.length + 1))

/-- The settings in the file at a path. -/
def load (tree : FileTree) (path : Text) : Except ConfigError Config := do
  let document ← (tree.readText path).mapError .unreadable
  match ofDocument document with
  | .error e => .error (.malformed path (e.message document))
  | .ok c =>
      c.validate
      return c

/-- Settings, and whether they come from a file. -/
structure Loaded where
  config : Config
  fromFile : Bool
  deriving DecidableEq, Repr

/-- The settings for a directory; the defaults if there is no file. -/
def loadFor (tree : FileTree) (start : Text) : Except ConfigError Loaded :=
  match find? tree start with
  | none => .ok ⟨{}, false⟩
  | some path => (load tree path).map (⟨·, true⟩)

end Phrasebook.Config
