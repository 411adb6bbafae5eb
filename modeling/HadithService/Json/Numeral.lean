import HadithService.Json.Basic

/-!
# Numerals

A numeral is a number as it is written: a sign, digits, and perhaps a fraction and an exponent.
`Numeral.number?` is the number it is held as.  A numeral without fraction and exponent is held
as a whole number when 64 bits suffice.  Any other is held as a binary fraction: its digits, as
many as fit into 64 bits, are rounded once, and a single multiplication or division by a power
of ten, itself rounded, brings them to their place.  A numeral too large for any binary fraction
is held as no number.
-/

namespace HadithService

/-- A number as it is written.  The digits of the fraction are none when there is no point; the
exponent comes with whether it is negative. -/
structure Numeral where
  isNegative : Bool
  whole : List Char
  fraction : List Char
  exponent : Option (Bool × List Char)
deriving DecidableEq, Repr

namespace Numeral

/-- The digits at the start of some characters, and what follows them. -/
def digitSpan (cs : List Char) : List Char × List Char :=
  (cs.takeWhile Char.isDigit, cs.dropWhile Char.isDigit)

/-- The exponent that some characters are, in full. -/
def exponentOf? : List Char → Option (Option (Bool × List Char))
  | [] => some none
  | e :: rest =>
    if e == 'e' || e == 'E' then
      let (isNegative, ds) :=
        match rest with
        | '-' :: ds => (true, ds)
        | '+' :: ds => (false, ds)
        | ds => (false, ds)
      if ds.isEmpty || !ds.all Char.isDigit then none else some (some (isNegative, ds))
    else none

/-- The numeral that some characters are.  The digits before the point are not empty and do not
start with a needless zero; a point is followed by a digit, and so is an exponent's sign. -/
def ofChars? (cs : List Char) : Option Numeral :=
  let (isNegative, unsigned) :=
    match cs with
    | '-' :: rest => (true, rest)
    | rest => (false, rest)
  let (whole, afterWhole) := digitSpan unsigned
  let wholeIsSound :=
    match whole with
    | [] => false
    | ['0'] => true
    | '0' :: _ => false
    | _ => true
  if !wholeIsSound then none
  else
    match afterWhole with
    | '.' :: rest =>
      let (fraction, afterFraction) := digitSpan rest
      if fraction.isEmpty then none
      else (exponentOf? afterFraction).map fun e => ⟨isNegative, whole, fraction, e⟩
    | _ => (exponentOf? afterWhole).map fun e => ⟨isNegative, whole, [], e⟩

/-- The value of some digits, up to the first one that would lead beyond 64 bits, and the digits
from that one on. -/
def gather : Nat → List Char → Nat × List Char
  | n, [] => (n, [])
  | n, d :: rest =>
    let next := n * 10 + (d.toNat - '0'.toNat)
    if next < UInt64.size then gather next rest else (n, d :: rest)

/-- The value of an exponent's digits.  Beyond a thousand million no digit makes a difference. -/
def exponentValue (ds : List Char) : Nat :=
  ds.foldl (fun n d => if n < 1000000000 then n * 10 + (d.toNat - '0'.toNat) else n) 0

/-- The binary fraction nearest to a power of ten. -/
def powerOfTen (n : Nat) : Float :=
  Float.ofScientific 1 false n

/-- A number of at most 64 bits brought to its place by powers of ten.  Below the least power of
ten a binary fraction has, the division is made in steps. -/
def scaled (x : Float) (exponent : Int) : Nat → Option Float
  | 0 => some x
  | fuel + 1 =>
    if 0 ≤ exponent then
      if exponent ≤ 308 then
        let y := x * powerOfTen exponent.toNat
        if y.isInf then none else some y
      else if x == 0 then some x
      else none
    else if -308 ≤ exponent then some (x / powerOfTen (-exponent).toNat)
    else if x == 0 then some x
    else scaled (x / powerOfTen 308) (exponent + 308) fuel

/-- The binary fraction that a numeral is held as. -/
def real? (m : Numeral) : Option Float :=
  let (n, leftOver) := gather 0 m.whole
  -- a digit after the point may still fit although one before it did not
  let (n, unread) := gather n m.fraction
  let places := m.fraction.length - unread.length
  let power : Int :=
    match m.exponent with
    | none => 0
    | some (isNegative, ds) => if isNegative then -exponentValue ds else exponentValue ds
  let exponent : Int := leftOver.length - places + power
  (scaled (UInt64.ofNat n).toFloat exponent 4).map fun x => if m.isNegative then -x else x

/-- The number that a numeral is held as. -/
def number? (m : Numeral) : Option Number :=
  let (n, leftOver) := gather 0 m.whole
  if leftOver.isEmpty && m.fraction.isEmpty && m.exponent.isNone then
    if !m.isNegative then some (.natural n)
    else if 0 < n && n ≤ Nat.pow 2 63 then some (.negative n)
    else m.real?.map fun x => .real x.toBits
  else m.real?.map fun x => .real x.toBits

end Numeral

/-- The binary fraction nearest to a number, as a pattern of bits. -/
def Number.toReal : Number → UInt64
  | .natural n => (UInt64.ofNat n).toFloat.toBits
  | .negative n => (-(UInt64.ofNat n).toFloat).toBits
  | .real bits => bits

end HadithService
