import ProcessWatch.Decimal.Shortest
import ProcessWatch.Json.Basic

/-!
# JSON text

A value is written either on one line without blanks, or with one field or item a line and two
blanks of indentation a level. No text of a value on one line holds a line break: inside a string
every control character is escaped.
-/

namespace ProcessWatch

namespace Number

/-- Text of the digits `d₁d₂…` without a power of ten, where `exponent` is that of `d₁`. At least
one digit stands on each side of the point: `0.00125`, `12.5`, `1250.0`. -/
def positional (digits : List Char) (exponent : Int) : String :=
  if exponent < 0 then
    "0." ++ String.ofList (List.replicate (-exponent - 1).toNat '0' ++ digits)
  else
    let whole := exponent.toNat + 1
    let padded := digits ++ List.replicate (whole - digits.length) '0'
    let fraction := padded.drop whole
    String.ofList (padded.take whole) ++ "."
      ++ (if fraction.isEmpty then "0" else String.ofList fraction)

/-- Text of the digits `d₁d₂…` with an explicit power of ten, whose sign is always written:
`1e+16`, `1.25e-7`. -/
def scientific (digits : List Char) (exponent : Int) : String :=
  let mantissa := match digits with
    | d :: e :: rest => String.ofList (d :: '.' :: e :: rest)
    | short => String.ofList short
  mantissa ++ "e" ++ (if exponent < 0 then "-" else "+") ++ toString exponent.natAbs

/-- Text of a double: its shortest digits, with an exponent only below `0.00001` and from `1e+16`
on. What is no number has no text in JSON and is written `null`. -/
def floatText (x : Float) : String :=
  match Binary64.ofFloat x with
  | .nan | .infinite _ => "null"
  | .finite negative significand exponent =>
    let sign := if negative then "-" else ""
    if significand = 0 then sign ++ "0.0"
    else
      let short := Decimal.shortest significand exponent
      let digits := short.digits.map Nat.digitChar
      if -5 ≤ short.exponent ∧ short.exponent ≤ 15 then
        sign ++ positional digits short.exponent
      else
        sign ++ scientific digits short.exponent

/-- Text of a number; a floating-point number always shows a point or an exponent. -/
def text : Number → String
  | .int value => toString value
  | .float value => floatText value

end Number

namespace Json

/-- One character of a string as it stands between the quotes. -/
def escape (c : Char) : List Char :=
  if c = '"' then ['\\', '"']
  else if c = '\\' then ['\\', '\\']
  else if c = '\x08' then ['\\', 'b']
  else if c = '\x0c' then ['\\', 'f']
  else if c = '\n' then ['\\', 'n']
  else if c = '\r' then ['\\', 'r']
  else if c = '\t' then ['\\', 't']
  else if c.toNat < 0x20 then
    ['\\', 'u', '0', '0', Nat.digitChar (c.toNat / 16), Nat.digitChar (c.toNat % 16)]
  else [c]

/-- A string between quotes. -/
def quote (s : String) : String := "\"" ++ String.ofList (s.toList.flatMap escape) ++ "\""

mutual

/-- Text of a value on one line. -/
def compact : Json → String
  | .null => "null"
  | .bool true => "true"
  | .bool false => "false"
  | .number n => n.text
  | .string s => quote s
  | .array items => "[" ++ compactItems items ++ "]"
  | .object fields => "\x7b" ++ compactFields fields ++ "\x7d"

def compactItems : List Json → String
  | [] => ""
  | [item] => compact item
  | item :: next :: rest => compact item ++ "," ++ compactItems (next :: rest)

def compactFields : List (String × Json) → String
  | [] => ""
  | [(key, value)] => quote key ++ ":" ++ compact value
  | (key, value) :: next :: rest =>
    quote key ++ ":" ++ compact value ++ "," ++ compactFields (next :: rest)

end

/-- A line break and the blanks of a level of nesting. -/
def newline (level : Nat) : String := "\n" ++ String.ofList (List.replicate (2 * level) ' ')

mutual

/-- Text of a value over several lines, as it stands at a level of nesting. -/
def prettyAt (level : Nat) : Json → String
  | .array [] => "[]"
  | .array (item :: rest) =>
    "[" ++ prettyItems (level + 1) (item :: rest) ++ newline level ++ "]"
  | .object [] => "\x7b\x7d"
  | .object (field :: rest) =>
    "\x7b" ++ prettyFields (level + 1) (field :: rest) ++ newline level ++ "\x7d"
  | .null => "null"
  | .bool true => "true"
  | .bool false => "false"
  | .number n => n.text
  | .string s => quote s

def prettyItems (level : Nat) : List Json → String
  | [] => ""
  | [item] => newline level ++ prettyAt level item
  | item :: next :: rest =>
    newline level ++ prettyAt level item ++ "," ++ prettyItems level (next :: rest)

def prettyFields (level : Nat) : List (String × Json) → String
  | [] => ""
  | [(key, value)] => newline level ++ quote key ++ ": " ++ prettyAt level value
  | (key, value) :: next :: rest =>
    newline level ++ quote key ++ ": " ++ prettyAt level value ++ ","
      ++ prettyFields level (next :: rest)

end

def pretty (value : Json) : String := prettyAt 0 value

end Json

end ProcessWatch
