import Phrasebook.Config.Basic
import Phrasebook.Json.Skip

/-!
Reading settings from the text of a configuration file.

The settings are an object; what it does not mention keeps its default, and
keys that mean nothing are passed over.  A list gives the values in the order
of their declaration instead.
-/

namespace Phrasebook.Config

open Json Json.Reader

/-- The settings that an object can give. -/
inductive Field where
  | includes
  | ignores
  | backend
  | magic
  | escapeHtml
  deriving DecidableEq, Repr

namespace Field

def all : List Field :=
  [.includes, .ignores, .backend, .magic, .escapeHtml]

def key : Field → Text
  | .includes => "includes".toList
  | .ignores => "ignores".toList
  | .backend => "backend".toList
  | .magic => "magicTranslations".toList
  | .escapeHtml => "escapeHtml".toList

def ofKey? (key : Text) : Option Field :=
  all.find? fun f => f.key = key

/-- Reads the value of a setting into a record of settings. -/
def read (c : Config) : Field → Reader Config
  | .includes => do return { c with includes := ← texts }
  | .ignores => do return { c with ignores := ← texts }
  | .backend => do return { c with backend := ← text }
  | .magic => do return { c with magic := ← boolean }
  | .escapeHtml => do return { c with escapeHtml := ← boolean }

end Field

/-- Fails because a setting is given twice.  This is noticed before the value
of the second one, where the object was expected to end. -/
def duplicate {α : Type} (f : Field) : Reader α := do
  if (← peekToken) = some '}' then advance
  fail (.duplicateField f.key)

/-- Reads the members of an object whose brace has been read; `seen` holds the
settings that it has given.  Every round reads at least one character. -/
def readMembers : Nat → Bool → List Field → Config → Reader Config
  | 0, _, _, _ => failAtNext .endInObject
  | fuel + 1, first, seen, c => do
      if ← hasKey first then
        advance
        match Field.ofKey? (← string) with
        | none =>
            colon
            skip
            readMembers fuel false seen c
        | some f =>
            if f ∈ seen then duplicate f
            else
              colon
              readMembers fuel false (f :: seen) (← f.read c)
      else
        advance
        return c

/-- Reads the given settings from a list, as many as it has. -/
def readElements : List Field → Bool → Config → Reader Config
  | [], _, c => return c
  | f :: fs, first, c => do
      if ← hasElement first then readElements fs false (← f.read c)
      else return c

def reader : Reader Config := do
  match ← peekToken with
  | none => failAtNext .endInValue
  | some '{' =>
      advance
      readMembers ((← remaining) + 1) true [] {}
  | some '[' =>
      advance
      let c ← readElements Field.all true {}
      endList
      return c
  | some _ => mismatch "struct Config".toList

/-- The settings that make up a whole document. -/
def ofDocument (document : Text) : Except Failure Config := do
  let whole : Reader Config := do
    let c ← reader
    match ← peekToken with
    | some _ => failAtNext .trailingCharacters
    | none => return c
  (whole.run document).map Prod.fst

end Phrasebook.Config
