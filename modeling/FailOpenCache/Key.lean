import FailOpenCache.Bytes.Sha256
import FailOpenCache.Document.Printer
import FailOpenCache.Payload

/-!
# Cache keys

The key of a call is a stem, a colon and the digest of the canonical text of its arguments, so the
order of keyword arguments never changes it. Handles of live objects and keywords whose names
start with an underscore take no part in the key. Keys of lists and of one subject's data are
readable instead: they state their parameters, in the order of the names.
-/

namespace FailOpenCache.Key

/-- One argument of a cached call. -/
inductive Argument where
  /-- A value, which takes part in the key. -/
  | value (document : Document)
  /-- A live object, which does not. -/
  | handle
deriving DecidableEq

/-- The document of an argument that takes part in keys. -/
def Argument.document? : Argument → Option Document
  | value document => some document
  | handle => none

/-- The name starts with an underscore. -/
def isPrivate (name : String) : Bool :=
  match name.toList with
  | '_' :: _ => true
  | _ => false

/-- The keyword arguments that take part in a key, in the order of their names: no handles, no
private names and none of the excluded names. -/
def keywordMembers (excluded : List String) (keywords : List (String × Argument)) :
    List (String × Document) :=
  sortByName <| keywords.filterMap fun keyword =>
    if isPrivate keyword.1 || excluded.contains keyword.1 then none
    else keyword.2.document?.map fun document => (keyword.1, document)

/-- The digest of the canonical text of a document. -/
def digest (document : Document) : String :=
  String.ofList (Sha256.digest (Payload.textBytes document.text))

/-- The document that stands for the arguments of a call. -/
def callDocument (arguments : List Argument) (keywords : List (String × Argument)) : Document :=
  .object [("args", .array (arguments.filterMap Argument.document?)),
    ("kwargs", .object (keywordMembers [] keywords))]

/-- The key of a call. -/
def ofCall (stem : String) (arguments : List Argument) (keywords : List (String × Argument)) :
    String :=
  stem ++ ":" ++ digest (callDocument arguments keywords)

/-- The parameters of a readable key, in the order of their names; of several under one name the
last one counts. -/
def spellParameters (parameters : List (String × String)) : String :=
  "_".intercalate ((sortByName parameters).map fun parameter => parameter.1 ++ "=" ++ parameter.2)

/-- A readable key, followed by its parameters if it has any. -/
def withParameters (key : String) (parameters : List (String × String)) : String :=
  if parameters.isEmpty then key else key ++ ":" ++ spellParameters parameters

/-- The key of data that belong to one subject. -/
def ofUser (stem user : String) (parameters : List (String × String)) : String :=
  withParameters (stem ++ ":user:" ++ user) parameters

/-- The key of a list that belongs to no subject. -/
def ofList (stem : String) (parameters : List (String × String)) : String :=
  withParameters (stem ++ ":list") parameters

/-- What the keys of tag records start with. -/
def tagStem : String := "tag:"

/-- The key of the record of a tag's members. -/
def ofTag (tag : String) : String := tagStem ++ tag

/-- The names of keyword arguments that carry plumbing of the request handler. -/
def plumbingNames : List String := ["request", "db", "background_tasks", "current_user", "service"]

/-- How the results of a request handler are cached. -/
structure EndpointPolicy where
  /-- What its keys start with. -/
  stem : String
  /-- The lifetime of its results, if the policy states one. -/
  lifetime : Option Nat
  /-- Each subject has results of its own. -/
  perUser : Bool
  /-- The tags of its results. -/
  tags : List String
deriving DecidableEq

/-- The key of a handler's result. Plumbing takes no part in it; a policy per subject puts the
subject in front of the digest, if there is one. -/
def EndpointPolicy.key (policy : EndpointPolicy) (user : Option String)
    (keywords : List (String × Argument)) : String :=
  let hash := digest (.object (keywordMembers plumbingNames keywords))
  match user, policy.perUser with
  | some user, true => policy.stem ++ ":u" ++ user ++ ":" ++ hash
  | _, _ => policy.stem ++ ":" ++ hash

end FailOpenCache.Key
