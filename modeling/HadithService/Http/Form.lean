import HadithService.Json.Token
import HadithService.Text.Utf8
import HadithService.Text.Words

/-!
# Query strings

A query is a list of pairs, a name and a value with an equals sign between them, separated by
ampersands.  A plus sign stands for a space, and a percent sign with two hexadecimal digits for
a byte.  Whatever is not well formed is taken as it is, and bytes that are no text are replaced.
-/

namespace HadithService.Http.Form

/-- The bytes of a text with its percent signs resolved. -/
def percentDecode : List UInt8 → List UInt8
  | [] => []
  | [b] => [b]
  | [b, c] => [b, c]
  | b :: c :: d :: rest =>
    if b == 0x25 then
      match Token.hexValue? (Char.ofNat c.toNat), Token.hexValue? (Char.ofNat d.toNat) with
      | some m, some n => UInt8.ofNat (m * 16 + n) :: percentDecode rest
      | _, _ => b :: percentDecode (c :: d :: rest)
    else b :: percentDecode (c :: d :: rest)

/-- The text of a name or a value. -/
def decode (bytes : List UInt8) : String :=
  Symbol.toText (Symbol.ofBytes (percentDecode (bytes.map fun b => if b == 0x2b then 0x20 else b)))

/-- The bytes before and after the first equals sign; after it there are none if there is none. -/
def cut (bytes : List UInt8) : List UInt8 × List UInt8 :=
  (bytes.takeWhile (· != 0x3d), (bytes.dropWhile (· != 0x3d)).drop 1)

/-- The pairs of a query. -/
def pairs (query : String) : List (String × String) :=
  (Text.words (· == 0x26) query.toUTF8.toList).map fun p => (decode (cut p).1, decode (cut p).2)

end HadithService.Http.Form
