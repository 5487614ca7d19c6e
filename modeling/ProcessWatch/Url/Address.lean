import ProcessWatch.Url.Percent

/-!
# Network addresses in hosts

IPv4 addresses in the forms that are in use, with up to four numbers in base 8, 10 or 16, and IPv6
addresses, whose longest run of zeros is left out when they are written.
-/

namespace ProcessWatch.Url

def ipv4Number? : List Char → Option Nat
  | [] => none
  | '0' :: 'x' :: digits | '0' :: 'X' :: digits => Text.digits? 16 digits
  | '0' :: digits => Text.digits? 8 digits
  | digits => Text.digits? 10 digits

/-- The parts of a host between its dots; a dot at the end counts for nothing. -/
def hostParts (host : String) : List String :=
  let parts := host.splitOn "."
  if parts.getLast? = some "" && 1 < parts.length then parts.dropLast else parts

/-- Whether a host claims to be an IPv4 address: its last part is a number. -/
def endsInNumber (host : String) : Bool :=
  match (hostParts host).getLast? with
  | some part =>
    (!part.isEmpty && part.toList.all Char.isDigit)
      || ((part.startsWith "0x" || part.startsWith "0X")
        && ((part.toList.drop 2).all fun c => (Text.hexDigit? c).isSome))
  | none => false

/-- The value of an IPv4 address: the last number fills the bytes that the others leave. -/
def ipv4? (host : String) : Option Nat := do
  let parts := hostParts host
  let numbers ← parts.mapM fun part => ipv4Number? part.toList
  let last ← numbers.getLast?
  let leading := numbers.dropLast
  if 3 < leading.length || leading.any (255 < ·) then none
  if 1 <<< (8 * (4 - leading.length)) ≤ last then none
  let value := leading.foldl (fun value n => value * 256 + n) 0
  return value * 1 <<< (8 * (4 - leading.length)) + last

def ipv4Text (value : Nat) : String :=
  ".".intercalate ([24, 16, 8, 0].map fun shift => toString (value >>> shift % 256))

/-! ## IPv6 -/

/-- A number of an IPv4 address at the end of an IPv6 address: decimal, up to 255, without leading
zeros. -/
def plainByte? (text : String) : Option Nat := do
  let digits := text.toList
  if digits.isEmpty || 3 < digits.length || (digits.head? = some '0' && digits != ['0']) then none
  (Text.digits? 10 digits).filter (· ≤ 255)

/-- The pieces of an IPv4 address at the end of an IPv6 address. -/
def embedded? (text : String) : Option (List Nat) := do
  match ← (text.splitOn ".").mapM plainByte? with
  | [a, b, c, d] => some [a * 256 + b, c * 256 + d]
  | _ => none

def piece? (text : String) : Option Nat :=
  if text.isEmpty || 4 < text.length then none else Text.digits? 16 text.toList

/-- The pieces between colons; the last ones may be written as an IPv4 address. -/
def pieces? (closing : Bool) : List String → Option (List Nat)
  | [] => some []
  | [last] =>
    if closing && last.contains '.' then embedded? last else (piece? last).map ([·])
  | first :: rest => do return (← piece? first) :: (← pieces? closing rest)

/-- The pieces of one side of the gap in an IPv6 address. -/
def side? (closing : Bool) (text : String) : Option (List Nat) :=
  if text.isEmpty then some [] else pieces? closing (text.splitOn ":")

/-- The eight pieces of an IPv6 address. A gap stands for at least one zero. -/
def ipv6? (text : String) : Option (List Nat) := do
  match text.splitOn "::" with
  | [whole] =>
    let pieces ← side? true whole
    if pieces.length = 8 then some pieces else none
  | [front, back] =>
    let front ← side? false front
    let back ← side? true back
    let zeros := 8 - (front.length + back.length)
    if zeros = 0 then none else some (front ++ List.replicate zeros 0 ++ back)
  | _ => none

/-- The longest run of at least two zeros, the first one of several: where it starts and its
length. -/
def zeroRun (start : Nat) (best : Nat × Nat) : List Nat → Nat × Nat
  | [] => best
  | piece :: rest =>
    let run := ((piece :: rest).takeWhile (· = 0)).length
    zeroRun (start + 1) (if 2 ≤ run && best.2 < run then (start, run) else best) rest

def ipv6Text (pieces : List Nat) : String :=
  let write (pieces : List Nat) : String :=
    ":".intercalate (pieces.map fun piece => String.ofList (Nat.toDigits 16 piece))
  match zeroRun 0 (0, 0) pieces with
  | (_, 0) => write pieces
  | (start, length) => write (pieces.take start) ++ "::" ++ write (pieces.drop (start + length))

end ProcessWatch.Url
