/-!
# Texts in bytes

Bytes that come over the network need not be the encoding of a text.  `Symbol.ofBytes` reads
what it can: a symbol is a character, or the mark of a stretch of bytes that no character has.
Such a stretch is as long as the beginning of some character's encoding, or else one byte.
-/

namespace HadithService

/-- A character, or `none` for bytes that encode no character. -/
abbrev Symbol := Option Char

namespace Symbol

/-- The rest of a character that has begun: how many bytes are owed, the bounds of the next one,
and the bits read so far. -/
structure Owed where
  count : Nat
  low : Nat
  high : Nat
  bits : Nat

/-- The symbol or the beginning that a byte makes when no character has begun. -/
def first (b : Nat) : Symbol ⊕ Owed :=
  if b < 0x80 then .inl (some (Char.ofNat b))
  else if b < 0xc2 then .inl none
  else if b < 0xe0 then .inr ⟨1, 0x80, 0xbf, b - 0xc0⟩
  else if b < 0xf0 then
    .inr ⟨2, if b == 0xe0 then 0xa0 else 0x80, if b == 0xed then 0x9f else 0xbf, b - 0xe0⟩
  else if b < 0xf5 then
    .inr ⟨3, if b == 0xf0 then 0x90 else 0x80, if b == 0xf4 then 0x8f else 0xbf, b - 0xf0⟩
  else .inl none

/-- The symbols read so far, the last one first, and the character that has begun. -/
structure Decoding where
  done : List Symbol
  owed : Option Owed

/-- Takes a byte as the first of a character. -/
def Decoding.start (done : List Symbol) (b : Nat) : Decoding :=
  match first b with
  | .inl x => ⟨x :: done, none⟩
  | .inr o => ⟨done, some o⟩

/-- Takes a byte. -/
def Decoding.step (d : Decoding) (b : UInt8) : Decoding :=
  match d.owed with
  | none => Decoding.start d.done b.toNat
  | some o =>
    if o.low ≤ b.toNat && b.toNat ≤ o.high then
      let bits := o.bits * 64 + (b.toNat - 0x80)
      if o.count ≤ 1 then ⟨some (Char.ofNat bits) :: d.done, none⟩
      else ⟨d.done, some ⟨o.count - 1, 0x80, 0xbf, bits⟩⟩
    else Decoding.start (none :: d.done) b.toNat

/-- The symbols of a sequence of bytes. -/
def ofBytes (bytes : List UInt8) : List Symbol :=
  let d := bytes.foldl Decoding.step ⟨[], none⟩
  match d.owed with
  | none => d.done.reverse
  | some _ => (none :: d.done).reverse

/-- The symbols of a text. -/
def ofText (s : String) : List Symbol :=
  s.toList.map some

/-- The text of some symbols, with the replacement character for each that is none. -/
def toText (symbols : List Symbol) : String :=
  String.ofList (symbols.map fun x => x.getD '\ufffd')

end Symbol

end HadithService
