import ProcessWatch.Json.Basic

/-!
# Reading a number character by character

The whole digits and the digits after the point form one significand, which takes digits as long as
it fits 64 bits; later whole digits only move the point, later digits after the point are dropped. A
number without point and exponent that fits 64 bits, signed or unsigned, is a whole number. Any
other is the significand as a double, multiplied or divided once by a power of ten; it must be
finite.
-/

namespace ProcessWatch

/-- The part of a numeral that was read last. -/
inductive Numeral.Stage where
  | sign
  | zero
  | whole
  | point
  | fraction
  | mark
  | markSign
  | power
deriving Repr, DecidableEq

/-- A numeral of which a part was read. -/
structure Numeral where
  negative : Bool
  stage : Numeral.Stage
  significand : Nat
  /-- The power of ten of the last digit of the significand. -/
  shift : Int
  /-- Whether the significand takes no more digits. -/
  full : Bool
  /-- Whether the numeral can no longer be a whole number. -/
  floating : Bool
  powerNegative : Bool
  power : Nat
deriving Repr

namespace Numeral

/-- The digit that a character stands for. -/
def digit? (c : Char) : Option Nat := if c.isDigit then some (c.toNat - '0'.toNat) else none

/-- A numeral that starts with `c`. -/
def start? (c : Char) : Option Numeral :=
  let blank : Numeral := ⟨false, .sign, 0, 0, false, false, false, 0⟩
  if c = '-' then some { blank with negative := true }
  else match digit? c with
    | some 0 => some { blank with stage := .zero }
    | some d => some { blank with stage := .whole, significand := d }
    | none => none

def takeWhole (n : Numeral) (d : Nat) : Numeral :=
  if n.full || UInt64.size ≤ n.significand * 10 + d then
    { n with stage := .whole, shift := n.shift + 1, full := true, floating := true }
  else
    { n with stage := .whole, significand := n.significand * 10 + d }

def takeFraction (n : Numeral) (d : Nat) : Numeral :=
  if n.full || UInt64.size ≤ n.significand * 10 + d then
    { n with stage := .fraction, full := true }
  else
    { n with stage := .fraction, significand := n.significand * 10 + d, shift := n.shift - 1 }

def takePower (n : Numeral) (d : Nat) : Numeral :=
  { n with stage := .power, power := n.power * 10 + d }

def takePoint (n : Numeral) : Numeral := { n with stage := .point, full := false, floating := true }

/-- Takes the letter before the exponent. -/
def takeMark (n : Numeral) : Numeral := { n with stage := .mark, floating := true }

/-- What a further character does to a numeral. -/
inductive Taken where
  | more (numeral : Numeral)
  /-- The numeral is complete and the character is not part of it. -/
  | complete
  /-- No numeral goes on like this. -/
  | malformed

def isMark (c : Char) : Bool := c = 'e' || c = 'E'

def take (n : Numeral) (c : Char) : Taken :=
  match n.stage, digit? c with
  | .sign, some 0 => .more { n with stage := .zero }
  | .sign, some d => .more (n.takeWhole d)
  | .sign, none => .malformed
  | .zero, some _ => .malformed
  | .zero, none =>
    if c = '.' then .more n.takePoint else if isMark c then .more n.takeMark else .complete
  | .whole, some d => .more (n.takeWhole d)
  | .whole, none =>
    if c = '.' then .more n.takePoint else if isMark c then .more n.takeMark else .complete
  | .point, some d => .more (n.takeFraction d)
  | .point, none => .malformed
  | .fraction, some d => .more (n.takeFraction d)
  | .fraction, none => if isMark c then .more n.takeMark else .complete
  | .mark, some d => .more (n.takePower d)
  | .mark, none =>
    if c = '+' then .more { n with stage := .markSign }
    else if c = '-' then .more { n with stage := .markSign, powerNegative := true }
    else .malformed
  | .markSign, some d => .more (n.takePower d)
  | .markSign, none => .malformed
  | .power, some d => .more (n.takePower d)
  | .power, none => .complete

def isComplete (n : Numeral) : Bool :=
  match n.stage with
  | .zero | .whole | .fraction | .power => true
  | .sign | .point | .mark | .markSign => false

/-- The double nearest to a power of ten. -/
def tenTo (k : Nat) : Float := Float.ofScientific 1 false k

/-- A double times a power of ten; nothing if that is beyond all doubles. A power below `-308` is
taken in two steps. -/
def scale? (x : Float) (power : Int) : Option Float :=
  if 308 < power then
    if x == 0 then some x else none
  else if 0 ≤ power then
    let scaled := x * tenTo power.toNat
    if scaled.isInf then none else some scaled
  else if -308 ≤ power then some (x / tenTo (-power).toNat)
  else if -616 ≤ power then some (x / tenTo 308 / tenTo (-power - 308).toNat)
  else some 0

/-- The number that a complete numeral stands for; nothing if it is beyond all doubles. -/
def value? (n : Numeral) : Option Number :=
  let magnitude := n.significand.toUInt64.toFloat
  if n.floating then
    let power := if n.powerNegative then n.shift - n.power else n.shift + n.power
    (scale? magnitude power).map fun x => .float (if n.negative then -x else x)
  else if n.negative then
    if n.significand = 0 ∨ 1 <<< 63 < n.significand then some (.float (-magnitude))
    else some (.int (-n.significand))
  else some (.int n.significand)

end Numeral

end ProcessWatch
