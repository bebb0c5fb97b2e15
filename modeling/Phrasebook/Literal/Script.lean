import Phrasebook.Error
import Phrasebook.Json.StringLiteral

/-!
Script literals: the strings of script code, in either kind of quotes.

A literal is read as the JSON string that it denotes.  JSON has no escaped
apostrophe and wants tabs and double quotes escaped, so these are changed
first, and a backslash at the very end is taken for an escaped one.
-/

namespace Phrasebook.Literal.Script

/-- The body of the JSON string that a literal denotes. -/
def toJson : Text → Text
  | [] => []
  | [c] =>
      if c = '\\' then ['\\', '\\']
      else if c = '"' then ['\\', '"']
      else if c = '\t' then ['\\', 't']
      else [c]
  | c :: d :: t =>
      if c = '\\' then
        if d = '\'' then d :: toJson t else c :: d :: toJson t
      else if c = '"' then '\\' :: c :: toJson (d :: t)
      else if c = '\t' then '\\' :: 't' :: toJson (d :: t)
      else c :: toJson (d :: t)

/-- The JSON string that a literal denotes. -/
def document (raw : Text) : Text :=
  '"' :: toJson raw ++ ['"']

/-- The value of a JSON string that makes up a whole document. -/
def readDocument (document : Text) : Except Json.Failure Text :=
  match document with
  | [] => .error ⟨.endInValue, 0⟩
  | '"' :: t =>
      match Json.readString t with
      | .error e => .error e
      | .ok (value, []) => .ok value
      | .ok (_, c :: rest) =>
          .error ⟨.trailingCharacters, Text.utf8Size (c :: rest) - 1⟩
  | t => .error ⟨.expectedValue, Text.utf8Size t - 1⟩

/-- The text that the body of a literal stands for. -/
def decode (raw : Text) : Except Error Text :=
  match readDocument (document raw) with
  | .ok value => .ok value
  | .error e => .error (.malformedLiteral raw (e.message (document raw)))

end Phrasebook.Literal.Script
