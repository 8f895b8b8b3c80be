/-!
# Service/Route — the endpoint a request reaches

A request names its target as a URL, which its client resolves against the service's base
`http://testserver/`; the service then routes the path it receives.

* The client drops the fragment and the query. A target with a scheme and a host is absolute and
  keeps its path; any other target is relative, and its path, without its leading slashes, goes
  after the base's `/`. The `.` and `..` segments of the path are resolved, and the path is
  percent-decoded (`targetPath`).
* The service percent-decodes the path once more and routes it (`destination`). An endpoint
  matches its own path, and also its path followed by one line feed, since the end of an
  endpoint's pattern matches before a final line feed.
* An endpoint that matches but takes another method refuses the request (405). When no endpoint
  matches, a path other than `/` that ends in slashes is redirected to the path without them,
  if an endpoint matches that with any method, and the client follows the redirect with the same
  method and body. Any other path is not found (404).

Main statements: `destination_own` (an endpoint's own path and method reach it) and
`destination_slash` (so does its path with a slash after it).
-/

namespace MarkupTidy.Service

/-! ## Endpoints -/

/-- What the service does: answer that it is up, lay out, compact, or check a text. -/
inductive Endpoint where
  | health
  | layout
  | compaction
  | check
  deriving DecidableEq, Repr, Inhabited

/-- The path of an endpoint. -/
def Endpoint.path : Endpoint → String
  | .health => "/health"
  | .layout => "/prettify"
  | .compaction => "/minify"
  | .check => "/validate"

/-- The method an endpoint takes. -/
def Endpoint.method : Endpoint → String
  | .health => "GET"
  | _ => "POST"

/-- The endpoints, in the order they are tried. -/
def endpoints : List Endpoint := [.health, .layout, .compaction, .check]

/-- Whether an endpoint's pattern matches a path: its own path, or that followed by a line
feed. -/
def Endpoint.matches (e : Endpoint) (path : String) : Bool :=
  path = e.path || path = e.path ++ "\n"

/-! ## Paths -/

/-- The value of a hexadecimal digit. -/
def hexDigit? (c : Char) : Option Nat :=
  if '0' ≤ c && c ≤ '9' then some (c.toNat - '0'.toNat)
  else if 'a' ≤ c && c ≤ 'f' then some (c.toNat - 'a'.toNat + 10)
  else if 'A' ≤ c && c ≤ 'F' then some (c.toNat - 'A'.toNat + 10)
  else none

/-- Percent-decoding: `%` and two hexadecimal digits stand for a byte, and any other `%` stands
for itself. An ASCII byte is its character; a byte beyond ASCII is taken as the replacement
character, and since no endpoint's path holds one, how such bytes would decode together does not
change where a request goes. -/
def percentDecoded : List Char → List Char
  | '%' :: tail@(a :: b :: rest) =>
    match hexDigit? a, hexDigit? b with
    | some x, some y =>
      let byte := 16 * x + y
      (if byte < 128 then Char.ofNat byte else '�') :: percentDecoded rest
    | _, _ => '%' :: percentDecoded tail
  | c :: rest => c :: percentDecoded rest
  | [] => []

/-- A path with its `.` segments dropped, each `..` segment dropping the segment before it but
never the empty one before a leading slash. -/
def withoutDotSegments (path : List Char) : List Char :=
  let kept := (path.splitOn '/').foldl (fun out s =>
    if s = ['.'] then out
    else if s = ['.', '.'] then (if out = [] || out = [[]] then out else out.dropLast)
    else out ++ [s]) []
  ['/'].intercalate kept

/-- Whether a character may follow the first letter of a scheme. -/
def isSchemeChar (c : Char) : Bool :=
  c.isAlphanum || c = '+' || c = '-' || c = '.'

/-- A target's scheme, when it starts with one and a colon, and the rest of the target. -/
def splitScheme (cs : List Char) : List Char × List Char :=
  match cs with
  | c :: rest =>
    let name := rest.takeWhile isSchemeChar
    match rest.drop name.length with
    | ':' :: after => if c.isAlpha then (c :: name, after) else ([], cs)
    | _ => ([], cs)
  | [] => ([], cs)

/-- The path the service receives for a target, decoded by the client and once more by the
service. -/
def targetPath (target : String) : String :=
  let (scheme, rest) := splitScheme (target.toList.takeWhile (· != '#'))
  let (host, rest) := match rest with
    | '/' :: '/' :: r =>
      (r.takeWhile fun c => c != '/' && c != '?', r.dropWhile fun c => c != '/' && c != '?')
    | r => ([], r)
  let path := rest.takeWhile (· != '?')
  let path := if scheme.isEmpty || host.isEmpty then '/' :: path.dropWhile (· = '/') else path
  let path := withoutDotSegments path
  let path := if path.isEmpty then ['/'] else path
  String.ofList (percentDecoded (percentDecoded path))

/-! ## Routing -/

/-- Where a request goes: an endpoint, a refusal of its method, or nowhere. -/
inductive Destination where
  | reached (e : Endpoint)
  | wrongMethod
  | notFound
  deriving DecidableEq, Repr

/-- Where a path routes a method, with no redirect. -/
def routeOnce (method path : String) : Option Destination :=
  match endpoints.find? fun e => e.matches path && e.method = method with
  | some e => some (.reached e)
  | none => if endpoints.any (·.matches path) then some .wrongMethod else none

/-- Where a request with a method and a received path goes, a redirect followed. -/
def destination (method path : String) : Destination :=
  match routeOnce method path with
  | some d => d
  | none =>
    let stripped := String.ofList (path.toList.reverse.dropWhile (· = '/')).reverse
    if path != "/" && path.endsWith "/" && endpoints.any (·.matches stripped) then
      (routeOnce method stripped).getD .notFound
    else .notFound

/-- An endpoint's own path and method reach it. -/
theorem destination_own (e : Endpoint) : destination e.method e.path = .reached e := by
  cases e <;> decide

/-- An endpoint's path with a slash after it reaches it too, by the redirect. -/
theorem destination_slash (e : Endpoint) :
    destination e.method (e.path ++ "/") = .reached e := by
  cases e <;> decide +kernel

end MarkupTidy.Service
