import FailOpenCache.Admin.Body
import FailOpenCache.Admin.MediaType
import FailOpenCache.Admin.Response
import FailOpenCache.Cache.Invalidation
import FailOpenCache.Text.Hexadecimal

/-!
# The admin interface

A request is routed by its path, and the path says which methods it allows. Whatever is wrong with
a request is found before anything is done: first the form of the body, then its contents, then
whether the cache can serve it. A request that is not answered with success changes nothing, and
one that only reads changes nothing either. An invalidation that panics leaves its request without a
response.
-/

namespace FailOpenCache.Admin

/-- The body of a request. -/
structure Content where
  /-- The bytes of the body. -/
  bytes : List UInt8
deriving DecidableEq

/-- A text is sent as its bytes. -/
instance : Coe String Content := ⟨fun text => ⟨Payload.textBytes text⟩⟩

/-- A request. -/
structure Request where
  /-- The method. -/
  method : String
  /-- The path, with the query behind it. -/
  target : String
  /-- The declared media type of the body. -/
  contentType : Option String
  /-- The body. -/
  body : Content
deriving DecidableEq

/-- Where a path leads. -/
inductive Route where
  /-- The health of the cache. -/
  | health
  /-- The counters of the cache. -/
  | statistics
  /-- Invalidation by a pattern. -/
  | invalidate
  /-- Invalidation by a tag, which is given as it stands in the path. -/
  | tag (segment : List Char)
  /-- A new lifetime rule. -/
  | lifetime
deriving DecidableEq

/-- The path of a target, without what stands behind it. -/
def pathOf (target : String) : List Char :=
  target.toList.takeWhile fun character => character != '?' && character != '#'

/-- What the paths of tags start with. -/
def tagPath : List Char := "/cache/tags/".toList

/-- The tag of a path: one segment that is not empty. -/
def tagSegment? (path : List Char) : Option (List Char) :=
  if tagPath.isPrefixOf path then
    let segment := path.drop tagPath.length
    if segment.isEmpty || segment.contains '/' then none else some segment
  else none

/-- Where a path leads, if it leads anywhere. -/
def route? (path : List Char) : Option Route :=
  if path = "/health".toList then some .health
  else if path = "/stats".toList then some .statistics
  else if path = "/cache/invalidate".toList then some .invalidate
  else if path = "/cache/ttl".toList then some .lifetime
  else (tagSegment? path).map .tag

/-- The bytes of a path segment; a percent sign and two hexadecimal digits stand for one byte, and
any other percent sign for itself. -/
def segmentBytes : List UInt8 → List UInt8
  | 0x25 :: high :: low :: rest =>
    match Text.hexadecimalValue? (Char.ofNat high.toNat),
        Text.hexadecimalValue? (Char.ofNat low.toNat) with
    | some first, some second => UInt8.ofNat (16 * first + second) :: segmentBytes rest
    | _, _ => 0x25 :: segmentBytes (high :: low :: rest)
  | byte :: rest => byte :: segmentBytes rest
  | [] => []

/-- The text of a path segment, if its bytes are one. -/
def segmentText? (segment : List Char) : Option String :=
  Payload.ofBytes? (segmentBytes (Payload.textBytes (String.ofList segment)))

/-- How many bytes a body may have. -/
def bodyLimit : Nat := 2097152

/-- The values of the fields of a body in the declared form. -/
def readBody (fields : List Field) (request : Request) : Except FormError FieldValues :=
  if (request.contentType.map MediaType.accepts).getD false then
    if bodyLimit < request.body.bytes.length then .error .tooLong
    else match Body.read fields request.body.bytes with
      | .ok values => .ok values
      | .error .malformed => .error .malformed
      | .error .wrongShape => .error .wrongShape
  else .error .mediaType

/-- The text of a field, the empty one if it has none. -/
def textOf (values : FieldValues) (name : String) : String :=
  match values.lookup name with
  | some (.text value) => value
  | _ => ""

/-- The number of a field, zero if it has none. -/
def countOf (values : FieldValues) (name : String) : Nat :=
  match values.lookup name with
  | some (.count value) => value
  | _ => 0

/-- How many bytes a pattern or a stem may have. -/
def lengthLimit : Nat := 256

/-- The fault of a text that must not be longer than the limit. -/
def lengthFault? (noun text : String) : Option AppError :=
  if lengthLimit < text.utf8ByteSize then
    some (.invalidRequest (noun ++ " exceeds maximum length of " ++ Text.naturalText lengthLimit ++
      " characters"))
  else none

/-- The fault of a pattern: it must not be blank. -/
def patternFault? (pattern : String) : Option AppError :=
  if Text.allBlank pattern then some (.invalidRequest "Pattern cannot be empty")
  else lengthFault? "Pattern" pattern

/-- The fault of a stem: it must not be empty. -/
def stemFault? (stem : String) : Option AppError :=
  if stem = "" then some (.invalidRequest "Prefix cannot be empty")
  else lengthFault? "Prefix" stem

/-- The fields of a request to invalidate. -/
def invalidateFields : List Field := [⟨"pattern", .text⟩]

/-- The fields of a request for a lifetime rule. -/
def lifetimeFields : List Field := [⟨"prefix", .text⟩, ⟨"seconds", .count⟩]

section

variable [Libraries] {σ : Type} [BackingStore σ]

/-- Answer with a response and change nothing. -/
def refuse (response : Response) : StateM (Session σ) (Ending Response) :=
  pure (.returned response)

/-- Invalidate a target, if the cache is connected. -/
def invalidateNow (target : String) (invalidation : InvalidationTarget) :
    StateM (Session σ) (Ending Response) := do
  let session ← get
  if session.isConnected then
    let ending ← Session.invalidateTarget invalidation
    return ending.map fun removed => .ofDocument 200 (removalDocument target removed)
  else return .returned (AppError.unavailable ("cache is " ++ session.status.name)).response

/-- Serve a request to invalidate by a pattern. -/
def serveInvalidate (request : Request) : StateM (Session σ) (Ending Response) :=
  match readBody invalidateFields request with
  | .error error => refuse error.response
  | .ok values =>
    let pattern := textOf values "pattern"
    match patternFault? pattern with
    | some error => refuse error.response
    | none => invalidateNow pattern (.pattern pattern)

/-- Serve a request to invalidate by a tag. -/
def serveTag (segment : List Char) : StateM (Session σ) (Ending Response) :=
  match segmentText? segment with
  | none => refuse FormError.path.response
  | some tag => invalidateNow tag (.tag tag)

/-- Serve a request for a lifetime rule, with or without a connection. -/
def serveLifetime (request : Request) : StateM (Session σ) (Ending Response) :=
  match readBody lifetimeFields request with
  | .error error => refuse error.response
  | .ok values =>
    let rule := (textOf values "prefix", countOf values "seconds")
    match stemFault? rule.1 with
    | some error => refuse error.response
    | none => do
      modify fun session => session.override rule.1 rule.2
      return .returned
        (.ofDocument 200 (overrideDocument rule (← get).cache.rules.overrides.entries))

/-- Serve a request that reads. -/
def serveRead (document : Session σ → Document) : StateM (Session σ) Response := do
  return .ofDocument 200 (document (← get))

/-- Serve a request on a path that can be read; a request for the head alone gets no body. -/
def serveReadable (method : String) (document : Session σ → Document) :
    StateM (Session σ) (Ending Response) :=
  if method = "GET" then do return .returned (← serveRead document)
  else if method = "HEAD" then do return .returned { ← serveRead document with body := "" }
  else refuse (.notAllowed "GET,HEAD")

/-- Serve a request on a route. -/
def serveRoute (route : Route) (request : Request) (timestamp : String) :
    StateM (Session σ) (Ending Response) :=
  match route with
  | .health =>
    serveReadable request.method fun session => healthDocument session.status timestamp
  | .statistics =>
    serveReadable request.method fun session => reportDocument session.cache.report
  | .invalidate =>
    if request.method = "POST" then serveInvalidate request else refuse (.notAllowed "POST")
  | .tag segment =>
    if request.method = "DELETE" then serveTag segment else refuse (.notAllowed "DELETE")
  | .lifetime =>
    if request.method = "PUT" then serveLifetime request else refuse (.notAllowed "PUT")

/-- Serve a request at the instant of a timestamp. A request for the options is answered alike on
every path. -/
def serve (request : Request) (timestamp : String) : StateM (Session σ) (Ending Response) :=
  if request.method = "OPTIONS" then refuse (.empty 200)
  else match route? (pathOf request.target) with
    | none => refuse (.empty 404)
    | some route => serveRoute route request timestamp

end

end FailOpenCache.Admin
