import Phrasebook.Delimited
import Phrasebook.Template.Node
import Phrasebook.Text.Alphanumeric

/-!
Reading a tag line: name, class and id shortcuts, attribute groups, marks for
removing whitespace, the action, and what is left as the inline value.
-/

namespace Phrasebook.TagLine

def isNameChar (c : Char) : Bool :=
  isAlphanumeric c || c = '_' || c = '-' || c = ':'

def isShortcutChar (c : Char) : Bool :=
  isNameChar c && c ≠ ':'

/-- A mark that starts a class or id shortcut. -/
def isShortcutMark (c : Char) : Bool :=
  c = '.' || c = '#'

/-- A line body that is a tag: it starts with a percent sign or with a
shortcut. -/
def startsTag : Text → Bool
  | [] => false
  | c :: t => c = '%' || (isShortcutMark c && t.head?.any isShortcutChar)

/-- What follows the class and id shortcuts at the front of a text. -/
def skipShortcuts : Text → Text
  | [] => []
  | [c] => [c]
  | c :: d :: t =>
      if isShortcutMark c && isShortcutChar d then
        skipShortcuts (t.dropWhile isShortcutChar)
      else c :: d :: t
  termination_by t => t.length
  decreasing_by
    have := Text.length_dropWhile_le isShortcutChar t
    simp
    omega

/-- The closing delimiter of an attribute group, told by its opening one. -/
def groupCloser? (c : Char) : Option Char :=
  if c = '{' then some '}'
  else if c = '(' then some ')'
  else if c = '[' then some ']'
  else none

/-- The attribute groups at the front of a text, of which only hashes are
kept, and the text after them; `none` if one of them never closes. -/
def readGroups? : Text → Option (List Text × Text)
  | [] => some ([], [])
  | c :: t =>
      match groupCloser? c with
      | none => some ([], c :: t)
      | some closer =>
          match h : Delimited.split? c closer 0 t with
          | none => none
          | some (inside, rest) =>
              have := Delimited.length_lt_of_split? h
              (readGroups? rest).map fun (hashes, rest) =>
                (if c = '{' then inside :: hashes else hashes, rest)
  termination_by t => t.length
  decreasing_by
    simp
    omega

/-- The action at the front of a text, and the text after it. -/
def readAction (t : Text) : Option TagAction × Text :=
  match t with
  | '&' :: '=' :: t => (some .evaluateEscaped, t)
  | '!' :: '=' :: t => (some .evaluateUnescaped, t)
  | '=' :: t => (some .evaluate, t)
  | '~' :: t => (some .preserve, t)
  | '&' :: t => (some .escaped, t)
  | '!' :: t => (some .unescaped, t)
  | '/' :: t => (some .selfClose, t)
  | t => (none, t)

/-- The name of a tag and the text after it; a tag that starts with a shortcut
is a `div`. -/
def readName (t : Text) : Text × Text :=
  match t with
  | '%' :: t => Text.cut isNameChar t
  | t => ("div".toList, t)

/-- A tag line as far as its value. -/
structure Head where
  name : Text
  hashes : List Text
  action : Option TagAction
  /-- The value with the blank characters after it. -/
  rest : Text
  deriving DecidableEq, Repr

/-- Reads a tag line; `none` if an attribute group is still open at its end. -/
def read? (t : Text) : Option Head := do
  let (name, t) := readName t
  let (hashes, t) ← readGroups? (skipShortcuts t)
  let (action, t) := readAction (t.dropWhile fun c => c = '<' || c = '>')
  return ⟨name, hashes, action, Text.unindented t⟩

/-- The nodes of a tag.  The tag starts on line `line` at the end of `before`;
its value stands on the last line of the text, which attribute groups may
spread over several. -/
def nodes? (line : Nat) (before body : Text) : Option (List Node) := do
  let head ← read? body
  let front := before ++ body.take (body.length - head.rest.length)
  let lead := (front.reverse.takeWhile (· ≠ '\n')).reverse
  let tag : Tag :=
    { name := head.name
      action := head.action
      value := Text.trimEnd head.rest
      offset := Text.utf8Size lead
      column := lead.length + 1 }
  let tagNode : Node := ⟨line + front.count '\n', .tag tag⟩
  return if head.hashes.isEmpty then [tagNode]
    else [⟨line, .attributes head.hashes⟩, tagNode]

end Phrasebook.TagLine
