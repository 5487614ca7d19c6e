/-!
# Punycode

A label of a domain with characters outside ASCII is written in ASCII: its ASCII characters, and
behind them where the others go in, in ascending order, as numbers of base 36 whose digits have
weights that adapt to the label. Every number says how far the next place is from the last one,
where all places for one character come before those for the next.
-/

namespace ProcessWatch.Url.Punycode

def digit (n : Nat) : Char := if n < 26 then Char.ofNat (97 + n) else Char.ofNat (22 + n)

/-- The bias for a remaining delta; `rounds` bounds the halvings. -/
def shrink : Nat → Nat → Nat → Nat
  | 0, k, delta => k + 36 * delta / (delta + 38)
  | rounds + 1, k, delta =>
    if 455 < delta then shrink rounds (k + 36) (delta / 35) else k + 36 * delta / (delta + 38)

/-- The bias after a delta was written, the `count`th of a label. -/
def adapt (delta count : Nat) (first : Bool) : Nat :=
  let delta := if first then delta / 700 else delta / 2
  shrink delta 0 (delta + delta / count)

/-- The lowest digit that ends a number at a place. -/
def threshold (k bias : Nat) : Nat := if k ≤ bias then 1 else min (k - bias) 26

/-- Writes a delta; `places` bounds the number of digits. -/
def number (bias : Nat) : Nat → Nat → Nat → List Char
  | 0, _, _ => []
  | places + 1, k, q =>
    let t := threshold k bias
    if q < t then [digit q]
    else digit (t + (q - t) % (36 - t)) :: number bias places (k + 36) ((q - t) / (36 - t))

/-- Where the encoder stands: the delta to be written next, the bias, the number of characters that
are written, and the digits so far. -/
structure State where
  delta : Nat
  bias : Nat
  count : Nat
  digits : List Char

/-- Encodes the places of one character, in a label of which all lower ones are written. -/
def step (basic : Nat) (label : List Char) (code : Nat) (state : State) : State :=
  label.foldl (fun state c =>
    if c.toNat < code then { state with delta := state.delta + 1 }
    else if c.toNat = code then
      { delta := 0
        bias := adapt state.delta (state.count + 1) (state.count = basic)
        count := state.count + 1
        digits := state.digits ++ number state.bias (state.delta + 1) 36 state.delta }
    else state) state

/-- Encodes the characters outside ASCII, given in ascending order; `last` is the one before. -/
def steps (basic : Nat) (label : List Char) : Nat → List Nat → State → State
  | _, [], state => state
  | last, code :: codes, state =>
    let skipped := (code - last) * (state.count + 1)
    let next := step basic label code { state with delta := state.delta + skipped }
    steps basic label (code + 1) codes { next with delta := next.delta + 1 }

def encode (label : List Char) : List Char :=
  let basic := label.filter fun c => c.toNat < 128
  let codes := ((label.map Char.toNat).filter (128 ≤ ·)).mergeSort.eraseReps
  let start : State := ⟨0, 72, basic.length, []⟩
  let written := steps basic.length label 128 codes start
  basic ++ (if basic.isEmpty then [] else ['-']) ++ written.digits

/-! ## Decoding -/

def digit? (c : Char) : Option Nat :=
  if c.isAlpha then some (c.toLower.toNat - 97)
  else if c.isDigit then some (c.toNat - 22)
  else none

/-- What no number of a label reaches. -/
def limit : Nat := UInt32.size

/-- Adds a number to `value`. The digit at place `k` counts `weight` times; a digit below the
threshold is the last one. What follows the number is left. -/
def addNumber? (bias : Nat) : Nat → Nat → Nat → List Char → Option (Nat × List Char)
  | _, _, _, [] => none
  | k, weight, value, c :: rest => do
    let digit ← digit? c
    let t := threshold k bias
    let value := value + digit * weight
    if limit ≤ value then none
    else if digit < t then return (value, rest)
    else if limit ≤ weight * (36 - t) then none
    else addNumber? bias (k + 36) (weight * (36 - t)) value rest

/-- Puts characters into a label where numbers say; `code` is the last one and `place` the place
behind it. There are at most `count` numbers. -/
def insertAll? (label : List Char) (code place bias : Nat) : Nat → List Char → Option (List Char)
  | _, [] => some label
  | 0, _ => none
  | count + 1, digits => do
    let (value, rest) ← addNumber? bias 36 1 place digits
    let places := label.length + 1
    let code := code + value / places
    let next := value % places
    if code.isValidChar then
      insertAll? (label.insertIdx next (Char.ofNat code)) code (next + 1)
        (adapt (value - place) places (place = 0)) count rest
    else none

/-- Decodes a label. The last hyphen ends the ASCII characters, unless there are none. -/
def decode? (text : List Char) : Option (List Char) :=
  let digits := (text.reverse.takeWhile (· ≠ '-')).reverse
  match text.take (text.length - digits.length) with
  | [] => insertAll? [] 128 0 72 digits.length digits
  | [_] => none
  | basic => insertAll? basic.dropLast 128 0 72 digits.length digits

end ProcessWatch.Url.Punycode
