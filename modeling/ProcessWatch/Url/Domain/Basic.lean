import ProcessWatch.Text.Composition
import ProcessWatch.Text.Joining
import ProcessWatch.Text.Mark
import ProcessWatch.Url.Domain.Direction
import ProcessWatch.Url.Domain.Mapping
import ProcessWatch.Url.Punycode

/-!
# Names of domains

The name of a domain may hold characters of all scripts. For the network it is put into one of the
ways it can be written, checked, and written in ASCII, label by label. A label that is in ASCII
already is checked as what it stands for.
-/

namespace ProcessWatch.Url.Domain

/-- What a label in ASCII begins with that stands for one with other characters. -/
def encodedMark : List Char := ['x', 'n', '-', '-']

/-- The longest label in ASCII that is decoded. -/
def maxEncoded : Nat := 2000

/-- The longest label with other characters that is encoded. -/
def maxDecoded : Nat := 1000

def isAscii (label : List Char) : Bool := label.all fun c => c.toNat < 128

/-- The one way to write a text, unless it has characters that may not stand in a name. -/
def mapped? (text : List Char) : Option (List Char) := do
  return Text.composed (← text.mapM mapChar?).flatten

/-- The label that another one stands for. What is encoded is written in the one way already and is
not in ASCII. -/
def decodedLabel? (label : List Char) : Option (List Char) := do
  if label.take 4 ≠ encodedMark then return label
  let code := label.drop 4
  if !isAscii code || maxEncoded < code.length then none
  let decoded ← Punycode.decode? code
  if isAscii decoded || decoded.any (fun c => mapChar? c ≠ some [c])
      || Text.composed decoded ≠ decoded then none
  return decoded

/-! ## Checks of labels -/

/-- A character that keeps two letters apart. -/
def nonJoiner : Char := '\u200c'

/-- A character that joins two letters. -/
def joiner : Char := '\u200d'

/-- Whether the next letter of a text joins; characters on letters do not count. -/
def reaches (joins : Char → Bool) (text : List Char) : Bool :=
  (text.dropWhile fun c => !joins c && Text.isTransparent c).head?.any joins

/-- The class of marks that suppress the vowel of a letter. -/
def silencing : Nat := 9

/-- Whether a character may stand between others, given from the nearest one on. Joiners are needed
behind a letter without its vowel, and one of them between letters that would join. -/
def fitsBetween (before : List Char) (c : Char) (after : List Char) : Bool :=
  (c ≠ nonJoiner && c ≠ joiner)
    || before.head?.any (fun previous => Text.markClass previous = silencing)
    || (c = nonJoiner && reaches Text.joinsNext before && reaches Text.joinsPrevious after)

/-- Whether all joiners behind the beginning of a label, given from its end, are where they may
be. -/
def joinersFit (before : List Char) : List Char → Bool
  | [] => true
  | c :: after => fitsBetween before c after && joinersFit (c :: before) after

/-- Whether a label is sound by itself. -/
def isSound (label : List Char) : Bool :=
  label.head?.all (fun c => !Text.isMark c) && joinersFit [] label
    && (isAscii label || label.length ≤ maxDecoded)

/-- Whether the directions of labels fit each other. -/
def areInOrder (labels : List (List Char)) : Bool :=
  !labels.any (fun label => label.any fun c => (Direction.of c).isRightToLeft)
    || labels.all directionsFit

/-- Writes a label in ASCII. -/
def labelText (label : List Char) : String :=
  if isAscii label then String.ofList label
  else String.ofList (encodedMark ++ Punycode.encode label)

/-- The name of a domain in ASCII. -/
def toAscii? (name : String) : Option String := do
  let mapped ← mapped? name.toList
  let labels ← ((String.ofList mapped).splitOn ".").mapM fun label => decodedLabel? label.toList
  if labels.all isSound && areInOrder labels then some (".".intercalate (labels.map labelText))
  else none

end ProcessWatch.Url.Domain
