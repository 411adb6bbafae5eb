/-!
# Shortest decimals

A binary fraction is written with the fewest decimal digits that still identify it among its
neighbours.  `Binary.interval` is the stretch of numbers nearer to a value than to either
neighbour; `Binary.shortest` looks for the coarsest power of ten with a multiple in it, and
takes the multiple nearest to the value.  When the two multiples around the value are equally
near, the caller says which one wins.
-/

namespace HadithService.Decimal

/-- A number `significand * 2 ^ exponent`, with the facts about its format that fix its
neighbours: `atEdge` tells that the next smaller number is only half as far as the next
larger one. -/
structure Binary where
  significand : Nat
  exponent : Int
  atEdge : Bool

/-- A format of binary fractions: the number of stored bits and the exponent of the least
numbers. -/
structure BinaryFormat where
  storedBits : Nat
  exponentBits : Nat
  leastExponent : Int

/-- The format of 64-bit numbers. -/
def double : BinaryFormat := ⟨52, 11, -1074⟩

/-- The format of 32-bit numbers. -/
def single : BinaryFormat := ⟨23, 8, -149⟩

/-- The sign bit of a number, given as a bit pattern. -/
def BinaryFormat.isNegative (f : BinaryFormat) (bits : Nat) : Bool :=
  bits / Nat.pow 2 (f.storedBits + f.exponentBits) % 2 == 1

/-- The size of a finite number, given as a bit pattern. -/
def BinaryFormat.magnitude (f : BinaryFormat) (bits : Nat) : Binary :=
  let stored := bits % Nat.pow 2 f.storedBits
  let scale := bits / Nat.pow 2 f.storedBits % Nat.pow 2 f.exponentBits
  if scale == 0 then ⟨stored, f.leastExponent, false⟩
  else
    ⟨Nat.pow 2 f.storedBits + stored, f.leastExponent + (scale - 1 : Nat),
      stored == 0 && scale > 1⟩

/-- A number `coefficient * 10 ^ exponent`. -/
structure Scaled where
  coefficient : Nat
  exponent : Int
deriving DecidableEq, Repr

/-- Which of two equally near decimals is taken: the larger one, or the one with an even last
digit. -/
inductive Tie where
  | up
  | even
deriving DecidableEq, Repr

/-- The factor `base ^ e` as a numerator and a denominator. -/
def power (base : Nat) (e : Int) : Nat × Nat :=
  (Nat.pow base e.toNat, Nat.pow base (-e).toNat)

/-- The nearest multiple of `10 ^ e` that identifies the number, if there is one. -/
def Binary.onGrid (tie : Tie) (b : Binary) (e : Int) : Option Nat :=
  -- All quantities are multiples of a quarter of the last binary place over `den`.
  let (num, den') := power 2 (b.exponent - 2)
  let (grid, den'') := power 10 e
  let unit := grid * den'
  let scale := num * den''
  let value := 4 * b.significand * scale
  let low := (4 * b.significand - if b.atEdge then 1 else 2) * scale
  let high := (4 * b.significand + 2) * scale
  let inside (n : Nat) : Bool :=
    if b.significand % 2 == 0 then low ≤ n * unit && n * unit ≤ high
    else low < n * unit && n * unit < high
  let below := value / unit
  let above := below + 1
  match inside below, inside above with
  | false, false => none
  | true, false => some below
  | false, true => some above
  | true, true =>
    let down := value - below * unit
    let up := above * unit - value
    if down < up then some below
    else if up < down then some above
    else match tie with
      | .up => some above
      | .even => some (if below % 2 == 0 then below else above)

/-- The coarsest grid with a multiple that identifies the number, from `10 ^ e` on downwards. -/
def Binary.shortestFrom (tie : Tie) (b : Binary) (e : Int) : Nat → Scaled
  | 0 => ⟨0, 0⟩
  | fuel + 1 =>
    match b.onGrid tie e with
    | some digits => ⟨digits, e⟩
    | none => b.shortestFrom tie (e - 1) fuel

/-- The fewest digits that identify the number.  The search starts above the number's own size
and ends at most twenty places below it. -/
def Binary.shortest (tie : Tie) (b : Binary) : Scaled :=
  if b.significand == 0 then ⟨0, 0⟩
  else
    let size : Int := b.exponent + (Nat.log2 b.significand + 1 : Nat)
    b.shortestFrom tie (size * 30103 / 100000 + 2) 32

/-- The decimal digits of a number. -/
def digits (n : Nat) : List Char :=
  Nat.toDigits 10 n

/-- A number in positional notation, without a point when it is whole. -/
def Scaled.positional (s : Scaled) : List Char :=
  let ds := digits s.coefficient
  if 0 ≤ s.exponent then
    if s.coefficient == 0 then ds else ds ++ List.replicate s.exponent.toNat '0'
  else
    let places := (-s.exponent).toNat
    let padded := List.replicate (places + 1 - ds.length) '0' ++ ds
    padded.take (padded.length - places) ++ '.' :: padded.drop (padded.length - places)

/-- A number with a point or an exponent: positional from `10 ^ -5` up to sixteen digits before
the point, and one digit before the point elsewhere. -/
def Scaled.scientific (s : Scaled) : List Char :=
  let ds := digits s.coefficient
  let point : Int := ds.length + s.exponent
  if s.coefficient == 0 then ['0', '.', '0']
  else if 0 ≤ s.exponent && point ≤ 16 then s.positional ++ ['.', '0']
  else if -5 < point && point ≤ 16 then s.positional
  else
    let exponent := if point ≤ 0 then '-' :: digits (1 - point).toNat else digits (point - 1).toNat
    match ds with
    | [] => []
    | [d] => d :: 'e' :: exponent
    | d :: more => d :: '.' :: more ++ 'e' :: exponent

/-- A finite 64-bit number in positional notation, with the fewest digits that identify it; of
two equally near ones the larger is taken. -/
def positional (bits : UInt64) : String :=
  let n := bits.toNat
  let text := ((double.magnitude n).shortest .up).positional
  String.ofList (if double.isNegative n then '-' :: text else text)

/-- A finite 64-bit number with a point or an exponent, with the fewest digits that identify it;
of two equally near ones the even is taken. -/
def scientific (bits : UInt64) : String :=
  let n := bits.toNat
  let text := ((double.magnitude n).shortest .even).scientific
  String.ofList (if double.isNegative n then '-' :: text else text)

/-- A finite 32-bit number with a point or an exponent, with the fewest digits that identify it. -/
def scientificSingle (bits : UInt32) : String :=
  let n := bits.toNat
  let text := ((single.magnitude n).shortest .even).scientific
  String.ofList (if single.isNegative n then '-' :: text else text)

end HadithService.Decimal
