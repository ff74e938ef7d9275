import FailOpenCache.Cache.Session
import FailOpenCache.Document.Printer
import FailOpenCache.Text.Decimal

/-!
# Responses of the admin interface

Documents in responses keep the members in the order in which they are listed here. A refusal is
either one of the application, with a document that states the error, or one of the request's
form, with a plain text or nothing at all.
-/

namespace FailOpenCache.Admin

/-- A response. -/
structure Response where
  /-- The status code. -/
  status : Nat
  /-- The media type of the body, if there is a body. -/
  contentType : Option String
  /-- The methods that the path allows, if the method was not one of them. -/
  allow : Option String
  /-- The body. -/
  body : String
deriving DecidableEq

/-- The headers of a response. Any page may read it. -/
def Response.headers (response : Response) : List (String × String) :=
  (response.contentType.map fun value => ("content-type", value)).toList ++
    (response.allow.map fun value => ("allow", value)).toList ++
    [("access-control-allow-origin", "*")]

/-- The media type of documents. -/
def documentType : String := "application/json"

/-- The media type of plain texts. -/
def plainType : String := "text/plain; charset=utf-8"

/-- A response with a document. -/
def Response.ofDocument (status : Nat) (document : Document) : Response :=
  ⟨status, some documentType, none, document.text⟩

/-- A response with a plain text. -/
def Response.ofText (status : Nat) (text : String) : Response :=
  ⟨status, some plainType, none, text⟩

/-- A response without a body. -/
def Response.empty (status : Nat) : Response := ⟨status, none, none, ""⟩

/-- The response to a method that the path does not allow. -/
def Response.notAllowed (allowed : String) : Response := ⟨405, none, some allowed, ""⟩

/-- An error of the application. -/
inductive AppError where
  /-- The request asks for what cannot be. -/
  | invalidRequest (text : String)
  /-- The cache cannot serve the request now. -/
  | unavailable (text : String)
  /-- Something else went wrong. -/
  | internal (text : String)
deriving DecidableEq

namespace AppError

/-- The text of an error. -/
def text : AppError → String
  | invalidRequest text => text
  | unavailable text => text
  | internal text => text

/-- The wording of an error. -/
def message : AppError → String
  | invalidRequest text => "Invalid request: " ++ text
  | unavailable text => "Cache unavailable: " ++ text
  | internal text => "Internal error: " ++ text

/-- The status code of an error. -/
def status : AppError → Nat
  | invalidRequest _ => 400
  | unavailable _ => 503
  | internal _ => 500

/-- The response to a request that ends in an error. -/
def response (error : AppError) : Response :=
  .ofDocument error.status (.object [("error", .string error.text)])

end AppError

/-- A refusal of the form of a request. -/
inductive FormError where
  /-- The body is not declared to be in the interchange format. -/
  | mediaType
  /-- The body is too long. -/
  | tooLong
  /-- The body is malformed. -/
  | malformed
  /-- The body has the wrong shape. -/
  | wrongShape
  /-- The path holds bytes that are no text. -/
  | path
deriving DecidableEq

namespace FormError

/-- The status code of a refusal. -/
def status : FormError → Nat
  | mediaType => 415
  | tooLong => 413
  | malformed => 400
  | wrongShape => 422
  | path => 400

/-- The wording of a refusal. What a reader adds to it is its own. -/
def message : FormError → String
  | mediaType => "Expected request with \x60Content-Type: application/json\x60"
  | tooLong => "Failed to buffer the request body: length limit exceeded"
  | malformed => "Failed to parse the request body as JSON"
  | wrongShape => "Failed to deserialize the JSON body into the target type"
  | path => "Invalid URL"

/-- The response to a request whose form is refused. -/
def response (error : FormError) : Response := .ofText error.status error.message

end FormError

/-- The counters and the share of hits. -/
def reportMembers (report : Report) : List (String × Document) :=
  [("hits", .integer report.counters.hits),
    ("misses", .integer report.counters.misses),
    ("store_errors", .integer report.counters.storeErrors),
    ("decode_errors", .integer report.counters.decodeErrors),
    ("fallback_ops", .integer report.counters.fallbackOperations),
    ("computations", .integer report.counters.computations),
    ("fallback_entries", .integer report.fallbackEntries),
    ("guards", .integer report.guards),
    ("hit_rate", .real report.counters.hitRate)]

/-- The document of a report. -/
def reportDocument (report : Report) : Document := .object (reportMembers report)

/-- The document that states the health of a cache. A cache without a store is healthy, one whose
store could not be reached is not. -/
def healthDocument (status : Status) (timestamp : String) : Document :=
  let health := match status with
    | .failed => "degraded"
    | .connected | .notConfigured => "healthy"
  .object [("status", .string health), ("cache", .string status.name),
    ("timestamp", .string timestamp)]

/-- The document that states how many keys an invalidation removed. -/
def removalDocument (target : String) (removed : Nat) : Document :=
  .object [("target", .string target), ("removed", .integer removed)]

/-- The document of a lifetime rule. -/
def overrideMembers (rule : String × Seconds) : List (String × Document) :=
  [("prefix", .string rule.1), ("seconds", .integer rule.2)]

/-- The document that states a rule and all rules. -/
def overrideDocument (rule : String × Seconds) (rules : List (String × Seconds)) : Document :=
  .object (overrideMembers rule ++
    [("overrides", .array (rules.map fun other => .object (overrideMembers other)))])

end FailOpenCache.Admin
