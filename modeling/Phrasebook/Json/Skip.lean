import Phrasebook.Json.Reader

/-!
Passing over a JSON value of any kind.

A value that nobody asks for is only checked for its shape.  Surrogates need
not be paired in it, numbers may have any size, and lists and objects are
followed by a stack of the brackets that are open.
-/

namespace Phrasebook.Json.Reader

inductive Bracket where
  | list
  | object
  deriving DecidableEq, Repr

/-- Passes over a string whose opening quote has been read, in at most `fuel`
steps. -/
def skipString : Nat → Reader Unit
  | 0 => fail .endInString
  | fuel + 1 => do
      match ← peek with
      | none => fail .endInString
      | some '"' => advance
      | some '\\' =>
          advance
          match ← peek with
          | none => fail .endInString
          | some 'u' =>
              advance
              let _ ← (fun t => readHexUnit t : Reader Nat)
              skipString fuel
          | some c =>
              if (escapeValue? c).isSome then advance *> skipString fuel
              else failAtNext .invalidEscape
      | some c => if c.toNat < 0x20 then fail .controlCharacter else advance *> skipString fuel

/-- Passes over an exponent from its letter on. -/
def skipExponent : Reader Unit := do
  advance
  let sign ← peek
  if sign = some '+' || sign = some '-' then advance
  match ← peek with
  | none => fail .invalidNumber
  | some c => if c.isDigit then discard digits else failAtNext .invalidNumber

/-- Passes over what may follow the whole part of a number. -/
def skipAfterWhole : Reader Unit := do
  match ← peek with
  | some '.' =>
      advance
      if (← digits).isEmpty then failAtNext .invalidNumber
      match ← peek with
      | some 'e' | some 'E' => skipExponent
      | _ => return
  | some 'e' | some 'E' => skipExponent
  | _ => return

def skipNumber : Reader Unit := do
  match ← peek with
  | none => fail .invalidNumber
  | some '0' =>
      advance
      if (← peek).any Char.isDigit then failAtNext .invalidNumber
      skipAfterWhole
  | some c =>
      if c.isDigit then
        discard digits
        skipAfterWhole
      else failAtNext .invalidNumber

/-- Passes over a scalar, or over the bracket that opens a list or an
object. -/
def skipStart : Reader (Option Bracket) := do
  match ← peekToken with
  | none => failAtNext .endInValue
  | some 'n' => advance; word "ull".toList; return none
  | some 't' => advance; word "rue".toList; return none
  | some 'f' => advance; word "alse".toList; return none
  | some '-' => advance; skipNumber; return none
  | some '"' => advance; skipString ((← remaining) + 1); return none
  | some '[' => advance; return some .list
  | some '{' => advance; return some .object
  | some c => if c.isDigit then skipNumber *> return none else failAtNext .expectedValue

/-- Passes over closing brackets as far as one stands next, and over the comma
after them; `afterValue` tells that a value comes just before.  The answer is
the brackets that stay open. -/
def skipClosers : Nat → Bool → List Bracket → Reader (List Bracket)
  | _, _, [] => return []
  | 0, _, brackets => return brackets
  | fuel + 1, afterValue, bracket :: outer => do
      match ← peekToken with
      | none => failAtNext (if bracket = .list then .endInList else .endInObject)
      | some c =>
          if c = ',' && afterValue then advance *> return bracket :: outer
          else if c = (if bracket = .list then ']' else '}') then
            advance *> skipClosers fuel true outer
          else if afterValue then
            failAtNext (if bracket = .list then .expectedListEnd else .expectedObjectEnd)
          else return bracket :: outer

def skipKey : Reader Unit := do
  match ← peekToken with
  | some '"' =>
      advance
      skipString ((← remaining) + 1)
      colon
  | some _ => failAtNext .keyNotString
  | none => failAtNext .endInObject

/-- Passes over a value inside the given open brackets and over all that is
left of them, in at most `fuel` steps. -/
def skipWithin : Nat → List Bracket → Reader Unit
  | 0, _ => failAtNext .endInValue
  | fuel + 1, outer => do
      let start ← skipStart
      let brackets ← skipClosers ((← remaining) + 1) start.isNone (start.toList ++ outer)
      match brackets with
      | [] => return
      | bracket :: outer =>
          if bracket = .object then skipKey
          skipWithin fuel (bracket :: outer)

def skip : Reader Unit := do
  skipWithin ((← remaining) + 1) []

end Phrasebook.Json.Reader
