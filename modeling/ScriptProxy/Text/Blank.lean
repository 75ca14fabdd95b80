import ScriptProxy.Text.Ranges

/-!
# Blank characters

The Unicode property White_Space, and the operations on texts that depend on it. Scripts have their
own blanks, which differ from it in two characters.
-/

namespace ScriptProxy.Text

/-- The property White_Space. -/
def blankRanges : List Range :=
  [(0x9, 0xD), (0x20, 0x20), (0x85, 0x85), (0xA0, 0xA0), (0x1680, 0x1680), (0x2000, 0x200A),
    (0x2028, 0x2029), (0x202F, 0x202F), (0x205F, 0x205F), (0x3000, 0x3000)]

def isBlank (c : Char) : Bool := Range.anyHolds blankRanges c.toNat

/-- Every blank of ASCII text is among them. -/
theorem isBlank_of_isWhitespace {c : Char} (h : c.isWhitespace) : isBlank c := by
  simp only [Char.isWhitespace, Bool.or_eq_true, decide_eq_true_eq] at h
  rcases h with ((rfl | rfl) | rfl) | rfl <;> decide

/-- Whether a text holds nothing but blanks. -/
def allBlank (s : String) : Bool := s.toList.all isBlank

/-- The text without the blanks at its two ends. -/
def trim (s : String) : String :=
  String.ofList ((s.toList.dropWhile isBlank).reverse.dropWhile isBlank).reverse

/-- Whether a character is a blank of scripts: the byte order mark is one, the control character
that goes to the next line is not. -/
def isScriptBlank (c : Char) : Bool := (isBlank c && c != '\x85') || c == '\ufeff'

/-- Whether a character ends a line of a script. -/
def endsLine (c : Char) : Bool :=
  c == '\n' || c == '\r' || c == '\u2028' || c == '\u2029'

theorem isScriptBlank_of_endsLine {c : Char} (h : endsLine c) : isScriptBlank c := by
  simp only [endsLine, Bool.or_eq_true, beq_iff_eq] at h
  rcases h with ((rfl | rfl) | rfl) | rfl <;> decide

end ScriptProxy.Text
