import HadithService.Json.Token
import HadithService.Text.Words

/-!
# Network addresses

The address that a request comes from, of the old kind with four numbers or of the new kind with
eight groups.  `Address.text` writes it in its canonical form: of the longest run of zero groups
nothing is left but two colons, and an address of the old kind inside one of the new kind keeps
its own look.
-/

namespace HadithService.Http

/-- An address: four numbers of eight bits, or eight groups of sixteen. -/
inductive Address where
  | v4 (a b c d : Nat)
  | v6 (groups : List Nat)
deriving DecidableEq, Repr

namespace Address

/-- A number of an address of the old kind: at most three digits, no needless zero. -/
def octet? (cs : List Char) : Option Nat :=
  let n := Nat.ofDigitChars 10 cs 0
  if cs.isEmpty || 3 < cs.length || !cs.all Char.isDigit then none
  else if cs.head? == some '0' && 1 < cs.length then none
  else if n < 256 then some n
  else none

/-- An address of the old kind. -/
def v4? (cs : List Char) : Option (Nat × Nat × Nat × Nat) :=
  match (Text.pieces (· == '.') cs).mapM octet? with
  | some [a, b, c, d] => some (a, b, c, d)
  | _ => none

/-- A group of an address of the new kind. -/
def group? (cs : List Char) : Option Nat :=
  if cs.isEmpty || 4 < cs.length then none
  else (cs.mapM Token.hexValue?).map fun ds => ds.foldl (fun n d => n * 16 + d) 0

/-- Groups between colons.  The last two may have the look of an address of the old kind. -/
def groups? (cs : List Char) : Option (List Nat) :=
  if cs.isEmpty then some []
  else
    let parts := Text.pieces (· == ':') cs
    let front := parts.dropLast.mapM group?
    match front, parts.getLast? with
    | some front, some last =>
      match v4? last, group? last with
      | some (a, b, c, d), _ => some (front ++ [a * 256 + b, c * 256 + d])
      | none, some g => some (front ++ [g])
      | none, none => none
    | _, _ => none

/-- The texts before and after the first two colons side by side. -/
def aroundGap : List Char → Option (List Char × List Char)
  | ':' :: ':' :: rest => some ([], rest)
  | c :: rest => (aroundGap rest).map fun (before, after) => (c :: before, after)
  | [] => none

/-- An address of the new kind. -/
def v6? (cs : List Char) : Option (List Nat) :=
  match aroundGap cs with
  | none => (groups? cs).filter fun gs => gs.length == 8
  | some (before, after) =>
    if before.contains '.' then none
    else
      match groups? before, groups? after with
      | some gs, some hs =>
        if gs.length + hs.length ≤ 7 then
          some (gs ++ List.replicate (8 - gs.length - hs.length) 0 ++ hs)
        else none
      | _, _ => none

/-- Whether a text is a number below a bound. -/
def isNumberBelow (bound : Nat) (cs : List Char) : Bool :=
  !cs.isEmpty && cs.all Char.isDigit && Nat.ofDigitChars 10 cs 0 < bound

/-- The address of the new kind before an optional zone. -/
def zoned? (cs : List Char) : Option (List Nat) :=
  match Text.pieces (· == '%') cs with
  | [address] => v6? address
  | [address, zone] => if isNumberBelow UInt32.size zone then v6? address else none
  | _ => none

/-- The address of a text with an address and a port. -/
def ofPeer? (peer : String) : Option Address :=
  match peer.toList with
  | '[' :: rest =>
    match Text.pieces (· == ']') rest with
    | [address, ':' :: port] =>
      if isNumberBelow UInt16.size port then (zoned? address).map Address.v6 else none
    | _ => none
  | cs =>
    match Text.pieces (· == ':') cs with
    | [address, port] =>
      if isNumberBelow UInt16.size port then (v4? address).map fun (a, b, c, d) => .v4 a b c d
      else none
    | _ => none

/-- The characters of an address of the old kind. -/
def v4Text (a b c d : Nat) : String :=
  String.intercalate "." ([a, b, c, d].map toString)

/-- Groups with colons between them. -/
def groupsText (gs : List Nat) : String :=
  String.intercalate ":" (gs.map fun g => String.ofList (Nat.toDigits 16 g))

/-- How many zeros a list starts with. -/
def zeroRun (gs : List Nat) : Nat :=
  (gs.takeWhile fun g => g == 0).length

/-- The place and the length of the longest run of zeros, the first one if there are several,
among the tails of a list that starts at a place. -/
def longestZeros : Nat → List Nat → Nat × Nat
  | _, [] => (0, 0)
  | i, g :: rest =>
    let here := zeroRun (g :: rest)
    let (j, there) := longestZeros (i + 1) rest
    if there ≤ here then (i, here) else (j, there)

/-- The canonical form of an address. -/
def text : Address → String
  | .v4 a b c d => v4Text a b c d
  | .v6 [0, 0, 0, 0, 0, 0xffff, g, h] => "::ffff:" ++ v4Text (g / 256) (g % 256) (h / 256) (h % 256)
  | .v6 gs =>
    let (i, n) := longestZeros 0 gs
    if n ≤ 1 then groupsText gs else groupsText (gs.take i) ++ "::" ++ groupsText (gs.drop (i + n))

end Address

end HadithService.Http
