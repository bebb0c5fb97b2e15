import Phrasebook.Decimal.Binary64
import Phrasebook.Json.StringLiteral

/-!
Reading JSON from the front of a text.

A reader fails either after what it has read or at the character that it is
looking at; in the second case the position counts the first byte of that
character as read.
-/

namespace Phrasebook.Json

/-- Reads from the front of a text. -/
abbrev Reader := StateT Text (Except Failure)

namespace Reader

/-- Fails after what has been read. -/
def fail {α : Type} (problem : Problem) : Reader α := fun t =>
  .error ⟨problem, Text.utf8Size t⟩

def failAtNext {α : Type} (problem : Problem) : Reader α := fun t =>
  .error ⟨problem, Text.utf8Size t - 1⟩

/-- The next character, which stays unread. -/
def peek : Reader (Option Char) := fun t => .ok (t.head?, t)

def advance : Reader Unit := fun t => .ok ((), t.tail)

def remaining : Reader Nat := fun t => .ok (t.length, t)

/-- Blank characters between the tokens of a document. -/
def isSpace (c : Char) : Bool :=
  c = ' ' || c = '\n' || c = '\t' || c = '\r'

/-- Skips blank characters and looks at the next one. -/
def peekToken : Reader (Option Char) := fun t =>
  let t := t.dropWhile isSpace
  .ok (t.head?, t)

/-- Reads the digits that come next. -/
def digits : Reader Text := fun t =>
  .ok (t.takeWhile Char.isDigit, t.dropWhile Char.isDigit)

/-- Reads the rest of a word whose first letter has been read. -/
def word : Text → Reader Unit
  | [] => pure ()
  | c :: cs => do
      match ← peek with
      | none => fail .endInValue
      | some d => if d = c then advance *> word cs else failAtNext .expectedWord

/-- Reads a string literal whose opening quote has been read. -/
def string : Reader Text := fun t =>
  (readString t).map fun (value, rest) => (value, rest)

/-! ### Numbers -/

/-- The greatest significand that is kept. -/
def maxSignificand : Nat := Decimal.powTwo 64 - 1

/-- The greatest exponent that is kept. -/
def maxPower : Nat := Decimal.powTwo 31 - 1

def digitValue (c : Char) : Nat :=
  c.toNat - '0'.toNat

/-- A number with further digits appended as long as it stays within `bound`,
and the digits that are left over. -/
def appendDigits (bound n : Nat) : Text → Nat × Text
  | [] => (n, [])
  | c :: cs =>
      if n * 10 + digitValue c ≤ bound then appendDigits bound (n * 10 + digitValue c) cs
      else (n, c :: cs)

/-- A number with a fraction or an exponent, or one too long to be kept. -/
def real (negative : Bool) (significand : Nat) (exponent : Int) : Reader Found := do
  match Decimal.Binary64.ofDecimal? significand exponent with
  | none => fail .numberOutOfRange
  | some f =>
      let shown := (Decimal.shortest f).write
      return .real (if negative then '-' :: shown else shown)

/-- Reads the exponent of a number from its letter on. -/
def exponentPart (negative : Bool) (significand : Nat) (start : Int) : Reader Found := do
  advance
  let sign ← peek
  if sign = some '+' || sign = some '-' then advance
  match ← peek with
  | none => fail .endInValue
  | some c =>
      if !c.isDigit then failAtNext .invalidNumber
      else
        let before ← get
        let ds ← digits
        let (power, left) := appendDigits maxPower 0 ds
        if left.isEmpty then
          real negative significand (if sign = some '-' then start - power else start + power)
        else if significand ≠ 0 && sign ≠ some '-' then
          set (before.drop (ds.length - left.length + 1))
          fail .numberOutOfRange
        else return .real (if negative then "-0.0".toList else "0.0".toList)

/-- Reads the fraction of a number from its point on. -/
def fractionPart (negative : Bool) (significand dropped : Nat) : Reader Found := do
  advance
  let ds ← digits
  if ds.isEmpty then
    match ← peek with
    | some _ => failAtNext .invalidNumber
    | none => failAtNext .endInValue
  else
    let (significand, left) := appendDigits maxSignificand significand ds
    let exponent : Int := (dropped : Int) - (ds.length - left.length : Nat)
    match ← peek with
    | some 'e' | some 'E' => exponentPart negative significand exponent
    | _ => real negative significand exponent

/-- What a number is once its whole part has been read, of which `dropped`
digits were too many. -/
def afterWhole (negative : Bool) (significand dropped : Nat) : Reader Found := do
  match ← peek with
  | some '.' => fractionPart negative significand dropped
  | some 'e' | some 'E' => exponentPart negative significand dropped
  | _ =>
      if 0 < dropped then real negative significand dropped
      else if !negative then return .natural significand
      else if 0 < significand ∧ significand ≤ Decimal.powTwo 63 then
        return .negative significand
      else real true significand 0

def number (negative : Bool) : Reader Found := do
  match ← peek with
  | none => fail .endInValue
  | some '0' =>
      advance
      match ← peek with
      | some c => if c.isDigit then failAtNext .invalidNumber else afterWhole negative 0 0
      | none => afterWhole negative 0 0
  | some c =>
      if c.isDigit then
        let ds ← digits
        let (significand, left) := appendDigits maxSignificand 0 ds
        afterWhole negative significand left.length
      else failAtNext .invalidNumber

/-! ### Values of another kind -/

/-- Fails because the value that comes next is not what is wanted.  A scalar is
read first, while a list or an object stays unread. -/
def mismatch {α : Type} (expected : Text) : Reader α := do
  let found (f : Found) : Reader α := fail (.invalidType f expected)
  match ← peek with
  | some 'n' => advance; word "ull".toList; found .null
  | some 't' => advance; word "rue".toList; found (.boolean true)
  | some 'f' => advance; word "alse".toList; found (.boolean false)
  | some '"' => advance; found (.string (← string))
  | some '[' => found .sequence
  | some '{' => found .map
  | some '-' => advance; found (← number true)
  | some c => if c.isDigit then found (← number false) else failAtNext .expectedValue
  | none => failAtNext .expectedValue

def text : Reader Text := do
  match ← peekToken with
  | none => failAtNext .endInValue
  | some '"' => advance; string
  | some _ => mismatch "a string".toList

def boolean : Reader Bool := do
  match ← peekToken with
  | none => failAtNext .endInValue
  | some 't' => advance; word "rue".toList; return true
  | some 'f' => advance; word "alse".toList; return false
  | some _ => mismatch "a boolean".toList

/-! ### Lists and objects -/

/-- Whether a list goes on; `first` tells that nothing of it has been read. -/
def hasElement (first : Bool) : Reader Bool := do
  match ← peekToken with
  | none => failAtNext .endInList
  | some ']' => return false
  | some c =>
      if first then return true
      else if c = ',' then
        advance
        match ← peekToken with
        | some ']' => failAtNext .trailingComma
        | some _ => return true
        | none => failAtNext .endInValue
      else failAtNext .expectedListEnd

def endList : Reader Unit := do
  match ← peekToken with
  | some ']' => advance
  | some ',' =>
      advance
      match ← peekToken with
      | some ']' => failAtNext .trailingComma
      | _ => failAtNext .trailingCharacters
  | some _ => failAtNext .trailingCharacters
  | none => failAtNext .endInList

/-- Whether an object goes on with another key, whose quote comes next. -/
def hasKey (first : Bool) : Reader Bool := do
  match ← peekToken with
  | none => failAtNext .endInObject
  | some '}' => return false
  | some c =>
      if first then
        if c = '"' then return true else failAtNext .keyNotString
      else if c = ',' then
        advance
        match ← peekToken with
        | some '"' => return true
        | some '}' => failAtNext .trailingComma
        | some _ => failAtNext .keyNotString
        | none => failAtNext .endInValue
      else failAtNext .expectedObjectEnd

def colon : Reader Unit := do
  match ← peekToken with
  | some ':' => advance
  | some _ => failAtNext .expectedColon
  | none => failAtNext .endInObject

/-- The elements of a list, each read by `element`; every round but the last
reads at least one character. -/
def elements {α : Type} (element : Reader α) : Nat → Bool → Reader (List α)
  | 0, _ => failAtNext .endInList
  | fuel + 1, first => do
      if ← hasElement first then
        let a ← element
        return a :: (← elements element fuel false)
      else return []

def texts : Reader (List Text) := do
  match ← peekToken with
  | none => failAtNext .endInValue
  | some '[' =>
      advance
      let ts ← elements text ((← remaining) + 1) true
      endList
      return ts
  | some _ => mismatch "a sequence".toList

end Reader

end Phrasebook.Json
