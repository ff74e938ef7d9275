import FailOpenCache.Lifetimes
import FailOpenCache.Text.Blank
import FailOpenCache.Text.Decimal

/-!
# Configuration

Every setting has a default and a variable of the environment. A variable that is not set, or
whose value without the blanks around it is no number in range, leaves the default. The list of
lifetime rules is read piece by piece, and a malformed piece is skipped without harm to the
others.
-/

namespace FailOpenCache

/-- The settings of a cache and its server. -/
structure Configuration where
  /-- Where the store is, if one is configured. -/
  storeUrl : Option String
  /-- The lifetime of keys that no rule is for. -/
  defaultLifetime : Seconds
  /-- The lifetimes of keys by their stems. -/
  overrides : List (String × Seconds)
  /-- The size in bytes from which payloads are compressed. -/
  compressionThreshold : Nat
  /-- How many keys a page of a walk has. -/
  scanBatch : Nat
  /-- How long a call to the store may take. -/
  storeTimeout : Millis
  /-- How many locks the table of guards may have before a new one prunes it. -/
  maxGuards : Nat
  /-- How many keys a store in memory holds at most. -/
  memoryCapacity : Nat
  /-- The time between two sweeps. -/
  sweepInterval : Seconds
  /-- The port of the server. -/
  port : Nat
deriving DecidableEq

namespace Configuration

/-- The settings of an empty environment. -/
def standard : Configuration where
  storeUrl := none
  defaultLifetime := LifetimeRules.usualDefault
  overrides := []
  compressionThreshold := 1024
  scanBatch := 100
  storeTimeout := 5000
  maxGuards := 10000
  memoryCapacity := 10000
  sweepInterval := 30
  port := 3000

/-- The pieces of a list between its separators. -/
def pieces (separator : Char) : List Char → List (List Char)
  | [] => [[]]
  | character :: rest =>
    match pieces separator rest with
    | [] => [[character]]
    | piece :: later =>
      if character = separator then [] :: piece :: later else (character :: piece) :: later

/-- Cut a list at the last place where a character stands. -/
def cutAtLast? (mark : Char) : List Char → Option (List Char × List Char)
  | [] => none
  | character :: rest =>
    match cutAtLast? mark rest with
    | some (before, behind) => some (character :: before, behind)
    | none => if character = mark then some ([], rest) else none

/-- The rule of one piece of the list of rules: a stem that is not blank, an equals sign and
seconds. -/
def readOverride? (piece : List Char) : Option (String × Seconds) :=
  match cutAtLast? '=' piece with
  | none => none
  | some (stem, seconds) =>
    let stem := Text.trim stem
    if stem = [] then none
    else (Text.readUnsigned? lastWord (Text.trim seconds)).map fun lifetime =>
      (String.ofList stem, lifetime)

/-- The rules of a list, in order; malformed pieces are left out. -/
def readOverrides (text : String) : List (String × Seconds) :=
  (pieces ',' text.toList).filterMap readOverride?

/-- The number of a variable, if it is one up to a limit. -/
def readSetting? (limit : Nat) (text : String) : Option Nat :=
  Text.readUnsigned? limit (Text.trim text.toList)

/-- The settings of an environment, which gives the values of the variables that are set. -/
def ofEnvironment (valueOf : String → Option String) : Configuration :=
  let setting (name : String) (limit default : Nat) : Nat :=
    ((valueOf name).bind (readSetting? limit)).getD default
  { storeUrl := ((valueOf "REDIS_URL").map Text.trimmed).filter (· ≠ "")
    defaultLifetime := setting "CACHE_DEFAULT_TTL" lastWord standard.defaultLifetime
    overrides := ((valueOf "CACHE_TTL_OVERRIDES").map readOverrides).getD []
    compressionThreshold :=
      setting "CACHE_COMPRESSION_THRESHOLD" lastWord standard.compressionThreshold
    scanBatch := setting "CACHE_SCAN_BATCH" lastWord standard.scanBatch
    storeTimeout := setting "REDIS_TIMEOUT_MS" lastWord standard.storeTimeout
    maxGuards := setting "CACHE_MAX_GUARDS" lastWord standard.maxGuards
    memoryCapacity := setting "CACHE_MEMORY_MAX_ENTRIES" lastWord standard.memoryCapacity
    sweepInterval := setting "CLEANUP_INTERVAL" lastWord standard.sweepInterval
    port := setting "SERVER_PORT" 65535 standard.port }

end Configuration

end FailOpenCache
