import ScriptProxy.Text.Alphabetic

/-!
# Script identifiers

The names under which a script can reach a property: a letter, `_` or `$`, followed by letters,
numbers, `_` and `$`.
-/

namespace ScriptProxy.Text

def isIdentifierStart (c : Char) : Bool := isAlphabetic c || c == '_' || c == '$'

def isIdentifierPart (c : Char) : Bool := isIdentifierStart c || isNumeric c

def isIdentifier (s : String) : Bool :=
  match s.toList with
  | [] => false
  | c :: r => isIdentifierStart c && r.all isIdentifierPart

end ScriptProxy.Text
