import Phrasebook.FileTree
import Phrasebook.Glob.Pattern

/-!
Searching a file tree for the paths that match a pattern.

The pattern is taken apart at its separators, and each part is matched against
one component of a path.  A part without wildcards is followed as it is, which
is the only way to an entry such as two dots; any other part is matched against
the names in the directory reached so far.  Two stars as the last part match
the directories below the one reached, and before the last part they match any
way down, the empty one included.
-/

namespace Phrasebook.Glob

/-- The directory that relative patterns start from. -/
def here : Text := ['.']

/-- The path of `name` in a directory; the starting directory is left out,
however it is spelled. -/
def childPath (directory name : Text) : Text :=
  if Path.components directory = [here] then name else Path.join directory name

/-- The segments of a pattern; a separator at its end adds none. -/
def patternSegments (t : Text) : List Text :=
  let segments := Path.segments t
  if segments.getLast? = some [] then segments.dropLast else segments

/-- A pattern without those of its first parts that are recursive. -/
def dropRecursive : List Pattern → List Pattern
  | [] => []
  | p :: ps => if p.isRecursive then dropRecursive ps else p :: ps

/-- What remains to be done during a search. -/
inductive Task where
  /-- Match the patterns against the entries of the directory at a path. -/
  | enter (path : Text) (patterns : List Pattern)
  /-- Match the last component of a path against the first pattern. -/
  | check (path : Text) (patterns : List Pattern)
  | done (path : Text)
  deriving DecidableEq, Repr

/-- The task at a path that has matched all patterns but the given ones. -/
def Task.proceed (path : Text) (patterns : List Pattern) : Task :=
  if patterns.isEmpty then .done path else .enter path patterns

/-- The tasks for the entries of a directory. -/
def enterTasks (tree : FileTree) (path : Text) : List Pattern → List Task
  | [] => []
  | p :: ps =>
      match p.literal? with
      | some name =>
          let next := childPath path name
          let isSpecial := name = ['.'] || name = ['.', '.']
          if isSpecial && tree.hasDirectory path || !isSpecial && tree.contains next then
            [.proceed next ps]
          else []
      | none =>
          match tree.resolve path with
          | .ok (place, .directory) =>
              let entries := (tree.names place).map fun name =>
                Task.check (childPath path name) (p :: ps)
              let specials :=
                if p.head? = some (.char '.') then
                  [['.'], ['.', '.']].filter p.matches
                else []
              entries ++ specials.map fun name => .proceed (Path.join path name) ps
          | _ => []

/-- The tasks for a path whose last component has to match the first of the
patterns, which is not recursive. -/
def matchTasks (path : Text) : List Pattern → List Task
  | [] => []
  | p :: ps =>
      match Path.fileName? path with
      | some name => if p.matches name then [.proceed path ps] else []
      | none => []

/-- The tasks that take the place of a check. -/
def checkTasks (tree : FileTree) (path : Text) : List Pattern → List Task
  | [] => []
  | p :: ps =>
      if p.isRecursive then
        let later := dropRecursive ps
        let below := if tree.hasDirectory path then [Task.enter path (p :: later)] else []
        if later.isEmpty then
          below ++ (if tree.hasDirectory path then [.done path] else [])
        else below ++ matchTasks path later
      else matchTasks path (p :: ps)

/-- The paths that a task leads to, in at most `fuel` steps. -/
def Task.run (tree : FileTree) : Nat → Task → List Text
  | 0, _ => []
  | _ + 1, .done path => [path]
  | fuel + 1, .enter path patterns =>
      (enterTasks tree path patterns).flatMap (Task.run tree fuel)
  | fuel + 1, .check path patterns =>
      (checkTasks tree path patterns).flatMap (Task.run tree fuel)

/-- More steps than a search can take: each step uses up a pattern or goes down
one level of the tree. -/
def searchBound (tree : FileTree) (patterns : List Pattern) : Nat :=
  let depth := (tree.workingDirectory :: tree.entries.map Prod.fst).foldl
    (fun d p => max d p.length) 0
  3 * (patterns.length + 1) * (depth + 2)

/-- The paths in a tree that match the pattern spelled by a text. -/
def search (tree : FileTree) (t : Text) : Except PatternError (List Text) := do
  let _ ← Pattern.ofText t
  let (start, relative) :=
    if Path.isAbsolute t then ([Path.separator], t.drop 1) else (here, t)
  let patterns ← (patternSegments relative).mapM Pattern.ofText
  let patterns := if relative.isEmpty then [[]] else patterns
  let found := (Task.enter start patterns).run tree (searchBound tree patterns)
  if t.getLast? = some Path.separator then return found.filter tree.hasDirectory
  else return found

end Phrasebook.Glob
