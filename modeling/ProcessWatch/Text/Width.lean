import ProcessWatch.Text.Emoji
import ProcessWatch.Text.Extending
import ProcessWatch.Text.Ignorable
import ProcessWatch.Text.Joining
import ProcessWatch.Text.Mark
import ProcessWatch.Text.Wide

/-!
# The room a text takes

Columns of a terminal that a text fills. A character of its own takes two if it is wide, none if it
is drawn on the one before or not at all, and one otherwise. Some sequences take less or more than
their characters do: pictures that are joined into one, signs whose style a selector chooses, and
letters that are written as one sign.

A text is measured from its end, since what a character takes depends on what stands behind it:
`Behind` is all that has to be known of that.
-/

namespace ProcessWatch.Text

/-! ## Single characters -/

/-- Hangul vowels and final consonants, which belong to the syllable before, and signs that are
drawn around or above what stands behind them. -/
def enclosed : Ranges :=
  [(0x605, 0x605), (0x70f, 0x70f), (0x890, 0x891), (0x8e2, 0x8e2), (0xd4e, 0xd4e), (0x1160, 0x11ff),
   (0xa8fa, 0xa8fa), (0xd7b0, 0xd7c6), (0xd7cb, 0xd7fb), (0x111c2, 0x111c3), (0x113d1, 0x113d1),
   (0x1193f, 0x1193f), (0x11941, 0x11941), (0x11a84, 0x11a89), (0x11d46, 0x11d46),
   (0x11f02, 0x11f02)]

/-- Columns that a character fills among characters that do not change it. -/
def charWidth (c : Char) : Nat :=
  if c.toNat ≤ 0xa0 then 1
  else if c = '\u115f' || c = '\u17a4' then 2
  else if c = '\u17d8' then 3
  else if c = '\u2d7f' then 1
  else if isIgnorable c || isExtending c || enclosed.contain c then 0
  else if isWide c then 2
  else 1

/-! ## What stands behind a character -/

/-- The beginning of a text, as far as it can change what the character before it takes. -/
inductive Joint where
  | none
  | lineFeed
  | picture
  | shade
  | indicator
  | indicators
  /-- A joiner and a picture behind it; before them a sign in a key can stand. -/
  | joined
  | joinedKey
  /-- Regional indicators before a joiner and a picture. -/
  | joinedIndicator
  | joinedFlag
  | joinedFlagAndIndicator
  /-- The letters and digits of a flag's name before a joiner and a picture. -/
  | flagName (letters digits : Nat)
  | alef
  | lamed (joiner : Bool)
  | ya (joiner : Bool)
  | yaWithVowel
  | tifinagh (joiner : Bool)
  | tifinaghSign
  | lisuTone
  | orkhonI (joiner : Bool)
  | khmerLetter
  | kiratE
  | kiratAi
deriving Repr, DecidableEq

namespace Joint

/-- Whether letters come together at a joint, whatever selectors stand between them. -/
def isScript : Joint → Bool
  | alef | lamed _ | ya _ | yaWithVowel | tifinagh _ | tifinaghSign | lisuTone | orkhonI _
  | khmerLetter => true
  | _ => false

/-- Whether letters come together at a joint, whatever joiners stand between them. -/
def takesJoiner (joint : Joint) : Bool := joint.isScript && joint != alef

/-- A joint of letters with a joiner before it. -/
def withJoiner : Joint → Joint
  | lamed _ => lamed true
  | ya _ => ya true
  | tifinagh _ => tifinagh true
  | orkhonI _ => orkhonI true
  | joint => joint

/-- Whether a joint continues a picture. -/
def isJoined (joint : Joint) : Bool := joint = joined || joint = joinedKey

end Joint

/-- The styles that a selector chooses. -/
inductive Style where
  | sign
  | picture
deriving Repr, DecidableEq

/-- What stands behind a character. -/
structure Behind where
  joint : Joint
  /-- The style that a selector before the joint chooses for the character. -/
  style : Option Style
deriving Repr, DecidableEq

namespace Behind

def nothing : Behind := ⟨.none, none⟩

def of (joint : Joint) : Behind := ⟨joint, none⟩

end Behind

/-! ## Letters with joints of their own -/

/-- Whether a letter is an alef, of which a lam before it makes one sign with it. -/
def isAlef (c : Char) : Bool :=
  Ranges.contain [(0x622, 0x623), (0x625, 0x625), (0x627, 0x627), (0x671, 0x673), (0x675, 0x675),
    (0x773, 0x774), (0x870, 0x882)] c

def isLam (c : Char) : Bool :=
  Ranges.contain [(0x644, 0x644), (0x6b5, 0x6b8), (0x76a, 0x76a), (0x8a6, 0x8a6), (0x8c7, 0x8c7)] c

/-- Whether a Khmer letter can be written below the one before. -/
def isKhmerLetter (c : Char) : Bool :=
  Ranges.contain [(0x1780, 0x1782), (0x1784, 0x1787), (0x1789, 0x178c), (0x178e, 0x1793),
    (0x1795, 0x1798), (0x179b, 0x179d), (0x17a0, 0x17a0), (0x17a2, 0x17a2), (0x17a7, 0x17a7),
    (0x17ab, 0x17ac), (0x17af, 0x17af)] c

/-- Whether a letter is a consonant of Tifinagh. -/
def isTifinagh (c : Char) : Bool := Ranges.contain [(0x2d31, 0x2d65), (0x2d6f, 0x2d6f)] c

/-- Whether a letter of a flag's name. -/
def isFlagLetter (c : Char) : Bool := 0xe0061 ≤ c.toNat && c.toNat ≤ 0xe007a

/-- Whether a character is a digit of a flag's name. -/
def isFlagDigit (c : Char) : Bool := 0xe0030 ≤ c.toNat && c.toNat ≤ 0xe0039

/-- The joint that a character makes of its own. -/
def jointOf (c : Char) : Joint :=
  if isPicture c then .picture
  else if isShade c then .shade
  else if isIndicator c then .indicator
  else if isAlef c then .alef
  else if c = '\u05dc' then .lamed false
  else if c = '\u1a10' then .ya false
  else if isTifinagh c then .tifinagh false
  else if c = '\ua4fc' || c = '\ua4fd' then .lisuTone
  else if c.toNat = 0x10c03 then .orkhonI false
  else if isKhmerLetter c then .khmerLetter
  else if c.toNat = 0x16d67 then .kiratE
  else if c.toNat = 0x16d68 then .kiratAi
  else .none

/-! ## Measuring -/

/-- The joiner of no width. -/
def joiner : Char := '\u200d'

/-- What a character adds that is one sign with what stands behind it, and the joint that they make;
`none` if they are two signs. -/
def merge? (c : Char) : Joint → Option (Int × Joint)
  | .alef =>
    if isLam c then some (0, .none)
    else if isTransparent c && charWidth c = 0 then some (0, .alef)
    else none
  | .lamed true => if c = '\u05d0' then some (0, .none) else none
  | .khmerLetter => if c = '\u17d2' then some (-1, .none) else none
  | .ya true => if c = '\u1a17' then some (0, .yaWithVowel) else none
  | .yaWithVowel => if c = '\u1a15' then some (0, .none) else none
  | .tifinagh withJoiner =>
    if c = '\u2d7f' then some (1, .tifinaghSign)
    else if withJoiner && isTifinagh c then some (0, .none)
    else none
  | .tifinaghSign => if isTifinagh c then some (-1, .none) else none
  | .lisuTone => if 0xa4f8 ≤ c.toNat && c.toNat ≤ 0xa4fb then some (0, .none) else none
  | .orkhonI true => if c.toNat = 0x10c32 then some (0, .none) else none
  | .shade =>
    if isShadeable c then some (0, .picture)
    else if c = joiner then some (0, .joined)
    else none
  | .indicator => if isIndicator c then some (1, .indicators) else none
  | .indicators =>
    if isIndicator c then some (1, .indicators)
    else if c = joiner then some (0, .joined)
    else none
  | .picture => if c = joiner then some (0, .joined) else none
  | .joined =>
    if c = '\u20e3' then some (0, .joinedKey)
    else if isIndicator c then some (1, .joinedIndicator)
    else if isShade c then some (0, .shade)
    else if c.toNat = 0xe007f then some (0, .flagName 0 0)
    else if isPicture c then some (0, .picture)
    else none
  | .joinedIndicator => if isIndicator c then some (-1, .joinedFlag) else none
  | .joinedFlag =>
    if isIndicator c then some (3, .joinedFlagAndIndicator)
    else if c = joiner then some (0, .joined)
    else none
  | .joinedFlagAndIndicator =>
    if isIndicator c then some (-1, .joinedFlag)
    else if c = joiner then some (0, .joined)
    else none
  | .flagName letters digits =>
    if isFlagLetter c && digits = 0 && letters < 6 then some (0, .flagName (letters + 1) 0)
    else if isFlagDigit c && letters < 5 && digits < 3 then some (0, .flagName letters (digits + 1))
    else if c.toNat = 0x1f3f4 && (digits = 3 || (digits = 0 && 3 ≤ letters)) then some (0, .picture)
    else none
  | .kiratE =>
    if c.toNat = 0x16d63 || c.toNat = 0x16d69 then some (0, .none)
    else if c.toNat = 0x16d67 then some (0, .kiratAi)
    else if c.toNat = 0x16d68 then some (1, .kiratE)
    else none
  | .kiratAi => if c.toNat = 0x16d63 then some (0, .none) else none
  | _ => none

/-- What a character adds that no selector applies to, and what it is to the one before it. -/
def measureBefore (c : Char) (joint : Joint) : Int × Behind :=
  if c.toNat ≤ 0xa0 then
    if c = '\n' then (1, .of .lineFeed)
    else if c = '\r' && joint = .lineFeed then (0, .nothing)
    else (1, .nothing)
  else if c = '\ufe0f' then
    (0, ⟨if joint.isScript || joint.isJoined then joint else .none, some .picture⟩)
  else if c = '\ufe0e' then (0, ⟨if joint.isScript then joint else .none, some .sign⟩)
  else if joint.takesJoiner && c = joiner then (0, .of joint.withJoiner)
  else if joint.takesJoiner && isIgnorable c && isMark c then (0, .of joint)
  else match merge? c joint with
    | some (added, joint) => (added, .of joint)
    | none => (charWidth c, .of (jointOf c))

/-- What a character adds, and what it is to the one before it. -/
def measure (c : Char) (behind : Behind) : Int × Behind :=
  match behind.style with
  | some .picture =>
    if canBePicture c then (if behind.joint.isJoined then 0 else 2, .of .picture)
    else measureBefore c (if behind.joint.isScript then behind.joint else .none)
  | some .sign =>
    if canBeSign c then (1, .nothing) else measureBefore c behind.joint
  | none => measureBefore c behind.joint

/-- Columns that a text on one line fills. -/
def width (s : String) : Nat :=
  (s.toList.foldr (fun c (sum, behind) =>
    let (added, behind) := measure c behind
    (sum + added, behind)) ((0 : Int), Behind.nothing)).1.toNat

end ProcessWatch.Text
