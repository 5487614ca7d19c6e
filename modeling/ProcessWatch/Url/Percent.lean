import ProcessWatch.Text.Digits

/-!
# Percent-encoding

Characters that may not stand in a part of an address are written as their bytes, each as a percent
sign and two hexadecimal digits. Every part has a set of its own; characters outside ASCII and
controls are always encoded.
-/

namespace ProcessWatch.Url

def encodeByte (byte : UInt8) : String :=
  let digit (n : Nat) : Char := if n < 10 then Char.ofNat (48 + n) else Char.ofNat (55 + n)
  String.ofList ['%', digit (byte.toNat / 16), digit (byte.toNat % 16)]

/-- Whether a character is encoded in every part. -/
def isControl (c : Char) : Bool := c.toNat < 0x20 || 0x7e < c.toNat

/-- Encodes the characters of a set, and those that are always encoded. -/
def percentEncode (set : List Char) (text : String) : String :=
  String.join <| text.toList.map fun c =>
    if isControl c || c ∈ set then String.join (c.toString.toUTF8.toList.map encodeByte)
    else c.toString

def fragmentSet : List Char := [' ', '"', '<', '>', '\x60']

def querySet : List Char := [' ', '"', '#', '<', '>']

def specialQuerySet : List Char := '\'' :: querySet

def pathSet : List Char := ['#', '?', '\x7b', '\x7d'] ++ fragmentSet

def userSet : List Char := ['/', ':', ';', '=', '@', '[', '\\', ']', '^', '|'] ++ pathSet

/-- Decodes all bytes that are encoded; a percent sign without two digits stands for itself. -/
def percentDecode : List Char → List UInt8
  | '%' :: high :: low :: rest =>
    match Text.hexDigit? high, Text.hexDigit? low with
    | some high, some low => (high * 16 + low).toUInt8 :: percentDecode rest
    | _, _ => 37 :: percentDecode (high :: low :: rest)
  | c :: rest => c.toString.toUTF8.toList ++ percentDecode rest
  | [] => []

end ProcessWatch.Url
