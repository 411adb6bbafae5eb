import HadithService.Http.Message
import HadithService.Text.Sanitize

/-!
# Sharing answers with pages

A browser hands an answer to a page only if the answer says that the page's origin may see it.
The service lets any origin see its answers, unless the address under which it is public pins
them to one.  A browser first asks by the method `OPTIONS` which requests it may make.
-/

namespace HadithService.Http

/-- Whose pages may see answers: everybody's, also because the origin that was asked for cannot
stand in a header, or those of one origin. -/
inductive Sharing where
  | anyone
  | unusable (origin : String)
  | restricted (origin : String)
deriving DecidableEq, Repr

/-- The origin of a web address: its scheme and its host, without the path. -/
def originOf (url : String) : Option String :=
  match aroundScheme (Text.trimChars url.toList) with
  | none => none
  | some (scheme, rest) =>
    let host := rest.takeWhile fun c => c != '/'
    if scheme.isEmpty || host.isEmpty then none
    else some (String.ofList (scheme ++ "://".toList ++ host))

/-- A character that may stand in a header. -/
def isHeaderChar (c : Char) : Bool :=
  c == '\t' || (0x20 ≤ c.toNat && c.toNat != 0x7f)

/-- A text that may be the value of a header. -/
def isHeaderValue (s : String) : Bool :=
  s.toList.all isHeaderChar

namespace Sharing

/-- Whose pages may see the answers of a service that is public under an address. -/
def ofBase (base : Option String) : Sharing :=
  match base.bind originOf with
  | none => .anyone
  | some origin => if isHeaderValue origin then .restricted origin else .unusable origin

/-- The origins that may see answers, as a header names them. -/
def origins : Sharing → String
  | .restricted origin => origin
  | _ => "*"

/-- The headers of every answer. -/
def headers (s : Sharing) : List Header :=
  [⟨"vary", "origin, access-control-request-method, access-control-request-headers"⟩,
   ⟨"access-control-allow-origin", s.origins⟩]

/-- The headers that tell which requests may be made. -/
def permissions : List Header :=
  [⟨"access-control-allow-methods", "GET,POST,OPTIONS"⟩,
   ⟨"access-control-allow-headers", "content-type"⟩]

end Sharing

end HadithService.Http
