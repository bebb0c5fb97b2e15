import Phrasebook.Extraction
import Phrasebook.FileTree
import Phrasebook.Issue
import Phrasebook.Template.Parse
import Phrasebook.Text.Sorted

/-!
Extraction from many templates.

Each template is read and searched on its own.  One that cannot be read or
processed contributes an issue and no msgids; the others contribute all they
have, in the order of their paths.
-/

namespace Phrasebook

/-- Why a template contributes nothing. -/
inductive TemplateFailure where
  | unreadable (cause : FileError)
  | unprocessed (source : Text) (error : FragmentError)
  deriving DecidableEq, Repr

namespace TemplateFailure

def message : TemplateFailure → Text
  | .unreadable cause => "Failed to read file: ".toList ++ cause.message
  | .unprocessed _ error => error.cause.message

def issue (path : Text) (f : TemplateFailure) : Issue :=
  .unprocessed path f.message <|
    match f with
    | .unreadable _ => none
    | .unprocessed source error =>
        some (.inSource path source error.line error.column)

end TemplateFailure

/-- What one template contributes: its source and what is found in it. -/
def extractFile (read : Text → Except FileError Text) (path : Text) :
    Except TemplateFailure (Text × Extraction) := do
  let source ← (read path).mapError .unreadable
  let found ← (Extraction.ofTemplate (Template.parse source path)).mapError
    (.unprocessed source)
  return (source, found)

/-- The issue of a warning about a template with the given source. -/
def LiteralWarning.issue (path source : Text) (w : LiteralWarning) : Issue :=
  let spot := SourceSpot.inSource path source w.line w.column
  match w.cause with
  | .malformedLiteral literal reason => .malformedLiteral literal reason spot
  | cause => .malformedLiteral [] cause.message spot

/-- What a number of templates contribute. -/
structure Batch where
  catalog : Catalog
  issues : List Issue
  /-- The templates that contribute nothing, in the order of their paths. -/
  failures : List (Text × TemplateFailure)
  checked : Nat

namespace Batch

abbrev Outcomes := List (Text × Except TemplateFailure (Text × Extraction))

/-- The catalog of the templates that were processed. -/
def catalogOf (os : Outcomes) : Catalog :=
  os.foldl
    (fun c o =>
      match o.2 with
      | .ok (_, found) => c.merge found.catalog
      | .error _ => c)
    .empty

def issuesOf (o : Text × Except TemplateFailure (Text × Extraction)) : List Issue :=
  match o with
  | (path, .ok (source, found)) => found.warnings.map (LiteralWarning.issue path source)
  | (path, .error f) => [f.issue path]

/-- Reads and searches the templates at the given paths, which are in order. -/
def run (read : Text → Except FileError Text) (paths : List Text) : Batch :=
  let outcomes : Outcomes := paths.map fun path => (path, extractFile read path)
  { catalog := catalogOf outcomes
    issues := Issue.sort (outcomes.flatMap issuesOf)
    failures := outcomes.filterMap fun
      | (_, .ok _) => none
      | (path, .error f) => some (path, f)
    checked := paths.length }

/-- Reads and searches the templates at the given paths, each once and in the
order of the paths. -/
def ofPaths (read : Text → Except FileError Text) (paths : List Text) : Batch :=
  run read (Text.sortDistinct paths)

end Batch

end Phrasebook
