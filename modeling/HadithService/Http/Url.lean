import HadithService.Decimal.Whole
import HadithService.Json.Basic
import HadithService.Text.Words

/-!
# Web addresses

The address of a server and what is asked of it.  An address need not be tidy: blanks around it,
tabs and line breaks vanish, a backslash counts as a slash, steps to the same or a higher folder
are taken, and what cannot stand in an address is written as bytes after percent signs.
-/

namespace HadithService.Http

/-- A web address: whether the connection is secure, the server, its port if it is given, and
the target of requests. -/
structure Url where
  isSecure : Bool
  host : String
  port : Option Nat
  target : String
deriving DecidableEq, Repr

namespace Url

/-- A text without the slashes at its end. -/
def withoutLastSlashes (s : String) : String :=
  String.ofList (s.toList.reverse.dropWhile fun c => c == '/').reverse

/-- The digits of a byte after a percent sign. -/
def percentByte (b : UInt8) : List Char :=
  ['%', (hexDigit (b.toNat / 16)).toUpper, (hexDigit b.toNat).toUpper]

/-- A text in which the bytes of some characters stand after percent signs. -/
def percentEncode (mustEncode : Char → Bool) (cs : List Char) : List Char :=
  cs.flatMap fun c =>
    if mustEncode c then (String.singleton c).toUTF8.toList.flatMap percentByte else [c]

/-- A character that never stands in an address as it is. -/
def isHidden (c : Char) : Bool :=
  c.toNat ≤ 0x20 || 0x7f ≤ c.toNat || ['"', '#', '<', '>'].contains c

/-- A character that does not stand in a path as it is. -/
def isHiddenInPath (c : Char) : Bool :=
  isHidden c || ['?', '\x60', '\x7b', '\x7d'].contains c

/-- A character that does not stand in a query as it is. -/
def isHiddenInQuery (c : Char) : Bool :=
  isHidden c || c == '\''

/-- A slash of either kind. -/
def isSlash (c : Char) : Bool :=
  c == '/' || c == '\\'

/-- Whether a segment stands for the folder it is in. -/
def isSame (segment : List Char) : Bool :=
  [".", "%2e"].contains (String.ofList (segment.map Char.toLower))

/-- Whether a segment stands for the folder above. -/
def isAbove (segment : List Char) : Bool :=
  ["..", ".%2e", "%2e.", "%2e%2e"].contains (String.ofList (segment.map Char.toLower))

/-- The segments of a path, the last one first, after some segments with all steps taken. -/
def walk : List (List Char) → List (List Char) → List (List Char)
  | done, [] => done
  | done, segment :: rest =>
    let isLast := rest.isEmpty
    if isAbove segment then walk (if isLast then [] :: done.drop 1 else done.drop 1) rest
    else if isSame segment then walk (if isLast then [] :: done else done) rest
    else walk (segment :: done) rest

/-- A path with all steps taken. -/
def pathText (cs : List Char) : List Char :=
  let path := match cs with
    | [] => []
    | c :: rest => if isSlash c then rest else c :: rest
  (walk [] (Text.pieces isSlash path)).reverse.flatMap fun segment =>
    '/' :: percentEncode isHiddenInPath segment

/-- The target of requests to what follows the server in an address. -/
def targetOf (cs : List Char) : String :=
  let sent := cs.takeWhile fun c => c != '#'
  let path := sent.takeWhile fun c => c != '?'
  let query := sent.dropWhile fun c => c != '?'
  String.ofList
    (pathText path ++ match query with
      | [] => []
      | mark :: rest => mark :: percentEncode isHiddenInQuery rest)

/-- Whether the scheme of an address is one of a secure connection; none for a scheme of
another kind. -/
def isSecure? (scheme : List Char) : Option Bool :=
  match String.ofList (scheme.map Char.toLower) with
  | "http" => some false
  | "https" => some true
  | _ => none

/-- A character of the name of a server. -/
def isHostChar (c : Char) : Bool :=
  0x20 < c.toNat && c.toNat < 0x7f &&
    !"#%/:<>?@[\\]^|".toList.contains c

/-- A server and perhaps its port. -/
def server? (cs : List Char) : Option (String × Option Nat) :=
  let host := cs.takeWhile fun c => c != ':'
  let port := (cs.dropWhile fun c => c != ':').drop 1
  if host.isEmpty || !host.all isHostChar then none
  else
    let name := String.ofList (host.map Char.toLower)
    if port.isEmpty then some (name, none)
    else
      match Decimal.digitsBelow UInt16.size 0 port with
      | .ok n => some (name, some n)
      | .error _ => none

/-- The characters of an address that count. -/
def tidied (s : String) : List Char :=
  let isBlank := fun c : Char => c.toNat ≤ 0x20
  let start := s.toList.dropWhile isBlank
  ((start.reverse.dropWhile isBlank).reverse).filter fun c => c != '\t' && c != '\n' && c != '\r'

/-- The address that a text is, if it is one of a web server. -/
def read? (s : String) : Option Url := do
  let cs := tidied s
  let scheme := cs.takeWhile fun c => c != ':'
  let isSecure ← isSecure? scheme
  let rest := ((cs.dropWhile fun c => c != ':').drop 1).dropWhile isSlash
  let isEnd := fun c : Char => isSlash c || c == '?' || c == '#'
  let authority := rest.takeWhile fun c => !isEnd c
  let (host, port) ← server? (authority.reverse.takeWhile fun c => c != '@').reverse
  return ⟨isSecure, host, port, targetOf (rest.dropWhile fun c => !isEnd c)⟩

end Url

end HadithService.Http
