import Phrasebook.Error

/-!
Backends: the libraries in which localized templates look up their text.
-/

namespace Phrasebook

/-- The lookup libraries; with `custom` the application brings its own
lookup method. -/
inductive Backend where
  | i18n
  | gettext
  | fastGettext
  | custom
  deriving DecidableEq, Repr

namespace Backend

def all : List Backend :=
  [.i18n, .gettext, .fastGettext, .custom]

def name : Backend → Text
  | .i18n => "i18n".toList
  | .gettext => "gettext".toList
  | .fastGettext => "fast_gettext".toList
  | .custom => "custom".toList

/-- The module with the lookup method of a backend. -/
def helpers? : Backend → Option Text
  | .i18n => some "I18n::Gettext::Helpers".toList
  | .gettext => some "GetText".toList
  | .fastGettext => some "FastGettext::Translation".toList
  | .custom => none

def ofName (name : Text) : Except Error Backend :=
  match all.find? fun b => b.name = name with
  | some b => .ok b
  | none => .error (.unknownBackend name)

theorem ofName_name (b : Backend) : ofName b.name = .ok b := by
  cases b <;> rfl

end Backend

end Phrasebook
