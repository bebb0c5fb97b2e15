import Phrasebook.Text.Basic

/-!
Paths as text.

The functions here look at the text alone and never at a file system: joining
adds a component and taking the parent removes one, so the parent of a path
that ends in two dots is the path without them and not the directory above.
-/

namespace Phrasebook.Path

def separator : Char := '/'

def isAbsolute (p : Text) : Bool :=
  p.head? = some separator

/-- `p` taken relative to `base`; an absolute path stays as it is. -/
def join (base p : Text) : Text :=
  if isAbsolute p || base.isEmpty then p
  else if base.getLast? = some separator then base ++ p
  else base ++ separator :: p

def segments (p : Text) : List Text :=
  Text.split separator p

/-- A segment that leads nowhere: an empty one, or a single dot. -/
def isTrivial (segment : Text) : Bool :=
  segment.isEmpty || segment = ['.']

/-- The front part of a path that is never trivial: the root, or a single dot
at the very start. -/
def head (p : Text) : Text :=
  if isAbsolute p then [separator]
  else if (segments p).head? = some ['.'] then ['.']
  else []

/-- The segments after the front part. -/
def bodySegments (p : Text) : List Text :=
  segments (p.drop (head p).length)

/-- The components of a path: its front part, and the segments after it that
are not trivial. -/
def components (p : Text) : List Text :=
  let names := (bodySegments p).filter fun s => !isTrivial s
  if (head p).isEmpty then names else head p :: names

/-- All components of `base` come first among those of `p`. -/
def isBelow (base p : Text) : Bool :=
  (components base).isPrefixOf (components p)

/-- Segments without the trivial ones at the end. -/
def dropTrivialEnd (ss : List Text) : List Text :=
  (ss.reverse.dropWhile isTrivial).reverse

/-- A path without its last component; `none` if it has none but the root. -/
def parent? (p : Text) : Option Text :=
  match (dropTrivialEnd (bodySegments p)).reverse with
  | [] => if head p = ['.'] then some [] else none
  | _ :: front =>
      some (head p ++ Text.join [separator] (dropTrivialEnd front.reverse))

/-- The last component, if it is a name. -/
def fileName? (p : Text) : Option Text :=
  match (components p).getLast? with
  | none => none
  | some name =>
      if name = [separator] || name = ['.'] || name = ['.', '.'] then none else some name

/-- What follows the last dot of the file name, unless that dot is its first
character. -/
def extension? (p : Text) : Option Text := do
  let name ← fileName? p
  match (Text.split '.' name).reverse with
  | extension :: front =>
      if front = [] || front = [[]] then none else some extension
  | [] => none

def isTemplate (p : Text) : Bool :=
  extension? p = some "haml".toList

end Phrasebook.Path
