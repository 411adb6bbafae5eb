/-!
# The targets of requests

A request names what it is for by a path and, after a question mark, a query.  What follows a
number sign is not sent.  Only some characters may stand in a target as they are.
-/

namespace HadithService.Http

/-- The texts before and after the first colon that two slashes follow. -/
def aroundScheme : List Char → Option (List Char × List Char)
  | ':' :: '/' :: '/' :: rest => some ([], rest)
  | c :: rest => (aroundScheme rest).map fun (before, after) => (c :: before, after)
  | [] => none

/-- A path and a query. -/
structure Target where
  path : String
  query : String
deriving DecidableEq, Repr

namespace Target

/-- A character that no target contains: a control character, a space, and some that would have
to be written as bytes after a percent sign. -/
def isForbidden (c : Char) : Bool :=
  c.toNat ≤ 0x20 || ['<', '>'].contains c

/-- A character of a path. -/
def isPathChar (c : Char) : Bool :=
  !isForbidden c && c != '\x60'

/-- A character of a query. -/
def isQueryChar (c : Char) : Bool :=
  !isForbidden c && c != '"'

/-- A character of a host name. -/
def isHostChar (c : Char) : Bool :=
  c.isAlphanum || ['-', '.', '_', '~'].contains c

/-- A target that consists of a path and perhaps a query. -/
def ofPath? (cs : List Char) : Option Target :=
  let sent := cs.takeWhile fun c => c != '#'
  let path := sent.takeWhile fun c => c != '?'
  let query := (sent.dropWhile fun c => c != '?').drop 1
  if path.all isPathChar && query.all isQueryChar then
    some ⟨String.ofList path, String.ofList query⟩
  else none

/-- The target of a whole address, given what follows its scheme. -/
def ofAddress? (cs : List Char) : Option Target :=
  let isHostEnd := fun c : Char => ['/', '?', '#'].contains c
  let host := cs.takeWhile fun c => !isHostEnd c
  match cs.dropWhile fun c => !isHostEnd c with
  | '/' :: rest => if host.isEmpty then none else ofPath? ('/' :: rest)
  | rest => if host.isEmpty then none else ofPath? ('/' :: rest)

/-- The greatest number of bytes of a target. -/
def limit : Nat := 65534

/-- The target that a text is: a path, a whole address, the name of a host alone, which has no
path, or a star. -/
def read? (s : String) : Option Target :=
  if limit < s.utf8ByteSize then none
  else
    match s.toList with
    | [] => none
    | ['*'] => some ⟨"*", ""⟩
    | '/' :: rest => ofPath? ('/' :: rest)
    | cs =>
      match aroundScheme cs with
      | some (_, rest) => ofAddress? rest
      | none => if cs.all isHostChar then some ⟨"", ""⟩ else none

end Target

end HadithService.Http
