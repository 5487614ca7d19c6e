/-!
# Ink

Text with a colour or a weight, for terminals that can show it.
-/

namespace ProcessWatch

/-- How a piece of text stands out. -/
inductive Ink where
  | bold
  | dim
  | red
  | green
  | yellow
  | faintBlue
  | faintBlack
  | banner
deriving Repr, DecidableEq

namespace Ink

def codes : Ink → List String
  | bold => ["1"]
  | dim => ["2"]
  | red => ["31"]
  | green => ["32"]
  | yellow => ["33"]
  | faintBlue => ["34", "2"]
  | faintBlack => ["30", "2"]
  | banner => ["38;5;39", "1"]

def sequence (code : String) : String := "\x1b[" ++ code ++ "m"

/-- Text in an ink; without colours just the text. -/
def paint (colored : Bool) (ink : Ink) (text : String) : String :=
  if colored then String.join (ink.codes.map sequence) ++ text ++ sequence "0" else text

end Ink

end ProcessWatch
