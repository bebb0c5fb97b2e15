import Phrasebook.Text.Quoted

/-!
Failures of reading JSON, and where they are noticed.

A failure remembers how many bytes of the document were still unread when it
was noticed.  Together with the whole document that number gives a line and a
column, both counted from one; columns count bytes.
-/

namespace Phrasebook.Json

/-- What was found where a value of another kind was wanted. -/
inductive Found where
  | natural (n : Nat)
  | negative (n : Nat)
  | real (digits : Text)
  | boolean (b : Bool)
  | null
  | string (t : Text)
  | sequence
  | map
  deriving DecidableEq, Repr

def Found.describe : Found → Text
  | .natural n => "integer `".toList ++ Text.ofNat n ++ "`".toList
  | .negative n => "integer `-".toList ++ Text.ofNat n ++ "`".toList
  | .real digits => "floating point `".toList ++ digits ++ "`".toList
  | .boolean true => "boolean `true`".toList
  | .boolean false => "boolean `false`".toList
  | .null => "null".toList
  | .string t => "string ".toList ++ t.quoted
  | .sequence => "sequence".toList
  | .map => "map".toList

inductive Problem where
  | endInValue
  | endInList
  | endInObject
  | endInString
  | expectedColon
  | expectedListEnd
  | expectedObjectEnd
  | expectedWord
  | expectedValue
  | invalidEscape
  | invalidNumber
  | numberOutOfRange
  | controlCharacter
  | keyNotString
  | loneSurrogate
  | endOfHexEscape
  | trailingComma
  | trailingCharacters
  | invalidType (found : Found) (expected : Text)
  | duplicateField (name : Text)
  deriving DecidableEq, Repr

def Problem.describe : Problem → Text
  | .endInValue => "EOF while parsing a value".toList
  | .endInList => "EOF while parsing a list".toList
  | .endInObject => "EOF while parsing an object".toList
  | .endInString => "EOF while parsing a string".toList
  | .expectedColon => "expected `:`".toList
  | .expectedListEnd => "expected `,` or `]`".toList
  | .expectedObjectEnd => "expected `,` or `\x7d`".toList
  | .expectedWord => "expected ident".toList
  | .expectedValue => "expected value".toList
  | .invalidEscape => "invalid escape".toList
  | .invalidNumber => "invalid number".toList
  | .numberOutOfRange => "number out of range".toList
  | .controlCharacter =>
      "control character (\\u0000-\\u001F) found while parsing a string".toList
  | .keyNotString => "key must be a string".toList
  | .loneSurrogate => "lone leading surrogate in hex escape".toList
  | .endOfHexEscape => "unexpected end of hex escape".toList
  | .trailingComma => "trailing comma".toList
  | .trailingCharacters => "trailing characters".toList
  | .invalidType found expected =>
      "invalid type: ".toList ++ found.describe ++ ", expected ".toList ++ expected
  | .duplicateField name => "duplicate field `".toList ++ name ++ "`".toList

/-- A cause, and the number of bytes left unread when it was noticed. -/
structure Failure where
  problem : Problem
  unread : Nat
  deriving DecidableEq, Repr

/-- A line and a column.  The column counts the bytes of the line that were
read, so it is zero just after a line feed. -/
structure Position where
  line : Nat
  column : Nat
  deriving DecidableEq, Repr

/-- The position reached from `p` by reading `n` bytes of a text; reading may
stop inside a character. -/
def Position.advance (p : Position) : Text → Nat → Position
  | [], _ => p
  | c :: t, n =>
      if n < c.utf8Size then ⟨p.line, p.column + n⟩
      else if c = '\n' then Position.advance ⟨p.line + 1, 0⟩ t (n - c.utf8Size)
      else Position.advance ⟨p.line, p.column + c.utf8Size⟩ t (n - c.utf8Size)

/-- Where a failure was noticed in a document. -/
def Failure.position (f : Failure) (document : Text) : Position :=
  Position.advance ⟨1, 0⟩ document (document.utf8Size - f.unread)

def Failure.message (f : Failure) (document : Text) : Text :=
  let p := f.position document
  f.problem.describe ++ " at line ".toList ++ Text.ofNat p.line ++
    " column ".toList ++ Text.ofNat p.column

end Phrasebook.Json
