import ProcessWatch.Text.Extending
import ProcessWatch.Text.Ignorable
import ProcessWatch.Text.Unprintable

/-!
# Strings quoted for a message

A string in an error message stands between quotes, on one line, with every character that shows
nothing of its own or would be drawn on the quote before it written by its code point.
-/

namespace ProcessWatch.Text

/-- A code point in braces, in lower-case hexadecimal without leading zeros. -/
def codePoint (c : Char) : List Char :=
  ['\\', 'u', '\x7b'] ++ Nat.toDigits 16 c.toNat ++ ['\x7d']

/-- Whether a character is drawn on the one before. The sound marks of narrow Japanese letters stand
beside it, although they belong to it. -/
def isDrawnOnPrevious (c : Char) : Bool := isExtending c && c ∉ ['\uff9e', '\uff9f']

/-- Whether a character is readable between quotes as it is. -/
def isReadable (c : Char) : Bool := isPrintable c && !isDrawnOnPrevious c && !isIgnorable c

/-- One character between the quotes. -/
def quoteChar (c : Char) : List Char :=
  if c = '\x00' then ['\\', '0']
  else if c = '\t' then ['\\', 't']
  else if c = '\r' then ['\\', 'r']
  else if c = '\n' then ['\\', 'n']
  else if c = '\\' then ['\\', '\\']
  else if c = '"' then ['\\', '"']
  else if isReadable c then [c]
  else codePoint c

/-- A string as it is shown in a message. -/
def quoted (s : String) : String := "\"" ++ String.ofList (s.toList.flatMap quoteChar) ++ "\""

end ProcessWatch.Text
