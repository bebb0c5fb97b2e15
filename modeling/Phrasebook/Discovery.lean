import Phrasebook.Glob.Search
import Phrasebook.Text.Sorted

/-!
Discovery: the templates of a project.

Entries to look in are paths below a base directory, or patterns that stand for
the directories they match.  Entries to pass over are paths below the base, or
patterns that the whole path of a template may match.  A template is named by
the path on which it was reached, and listed once for each such path.
-/

namespace Phrasebook

/-- What discovery passes over, and why. -/
inductive DiscoveryWarning where
  | invalidIgnore (pattern : Text) (cause : Glob.PatternError)
  | invalidInclude (pattern : Text) (cause : Glob.PatternError)
  | missingInclude (path : Text)
  | unreachable (path : Text) (cause : FileError)
  deriving DecidableEq, Repr

def DiscoveryWarning.message : DiscoveryWarning → Text
  | .invalidIgnore pattern cause =>
      "Invalid ignore pattern '".toList ++ pattern ++ "': ".toList ++ cause.message
  | .invalidInclude pattern cause =>
      "Invalid glob pattern '".toList ++ pattern ++ "': ".toList ++ cause.message
  | .missingInclude path => "Include path does not exist: ".toList ++ path
  | .unreachable path cause =>
      "Cannot access path: IO error for operation on ".toList ++ path ++ ": ".toList ++
        cause.message

/-- What to pass over: everything below some paths, and what some patterns
match. -/
structure IgnoreRules where
  paths : List Text := []
  patterns : List Glob.Pattern := []
  deriving DecidableEq, Repr

namespace IgnoreRules

/-- The rules of the given entries for a base directory. -/
def ofEntries (base : Text) (entries : List Text) : IgnoreRules where
  paths := (entries.filter fun e => !Glob.isGlob e).map (Path.join base)
  patterns := (entries.filter Glob.isGlob).filterMap fun e =>
    (Glob.Pattern.ofText e).toOption

/-- The entries that give no rule. -/
def warnings (entries : List Text) : List DiscoveryWarning :=
  (entries.filter Glob.isGlob).filterMap fun e =>
    match Glob.Pattern.ofText e with
    | .ok _ => none
    | .error cause => some (.invalidIgnore e cause)

/-- A path is passed over. -/
def ignores (rules : IgnoreRules) (path : Text) : Bool :=
  rules.paths.any (Path.isBelow · path) || rules.patterns.any (·.matches path)

end IgnoreRules

structure Discovery where
  /-- Paths in increasing order, each once. -/
  files : List Text
  /-- The number of places that could not be reached. -/
  skipped : Nat
  warnings : List DiscoveryWarning
  deriving DecidableEq, Repr

namespace Discovery

/-- The places to look in for one entry. -/
def rootsOf (tree : FileTree) (base entry : Text) : Except DiscoveryWarning (List Text) :=
  let path := Path.join base entry
  if Glob.isGlob entry then
    match Glob.search tree path with
    | .ok found => .ok (found.filter tree.hasDirectory)
    | .error cause => .error (.invalidInclude entry cause)
  else if tree.contains path then .ok [path]
  else .error (.missingInclude path)

/-- The places to look in, and the entries that lead nowhere. -/
def roots (tree : FileTree) (base : Text) (includes : List Text) :
    List Text × List DiscoveryWarning :=
  if includes.isEmpty then ([base], [])
  else
    let found := includes.map (rootsOf tree base)
    (found.flatMap fun r => r.toOption.getD [],
      found.filterMap fun
        | .ok _ => none
        | .error w => some w)

/-- The files at and below a place. -/
def filesAt (tree : FileTree) (root : Text) : Except DiscoveryWarning (List Text) :=
  (tree.filesUnder root).mapError (.unreachable root)

/-- The templates below `base`. -/
def run (tree : FileTree) (base : Text) (includes ignores : List Text) : Discovery :=
  let rules := IgnoreRules.ofEntries base ignores
  let (places, includeWarnings) := roots tree base includes
  let found := places.map (filesAt tree)
  let files := (found.flatMap fun r => r.toOption.getD []).filter fun path =>
    Path.isTemplate path && !rules.ignores path
  let failures := found.filterMap fun
    | .ok _ => none
    | .error w => some w
  { files := Text.sortDistinct files
    skipped := failures.length
    warnings := IgnoreRules.warnings ignores ++ includeWarnings ++ failures }

end Discovery

end Phrasebook
