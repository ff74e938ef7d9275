import FailOpenCache.Ending
import FailOpenCache.Store.Capabilities
import FailOpenCache.Store.Error

/-!
# Requests to a backing store

A backing store is anything that answers requests. What a request is answered with depends on the
request: `Request.Reply` gives its type. A page of a walk is the one answer that may not come at
all, since room is made for its keys before they are looked for. Every request but the handshake and
the farewell belongs to one group of operations, and a store that does not offer it answers that it
is unsupported.
-/

namespace FailOpenCache

/-- An operation of a backing store, without its arguments. -/
inductive Operation where
  /-- The handshake. -/
  | ping
  /-- The farewell. -/
  | close
  /-- Read a value. -/
  | get
  /-- Write a value. -/
  | set
  /-- Delete keys. -/
  | delete
  /-- Probe a key. -/
  | probe
  /-- Add to a counter. -/
  | increment
  /-- One page of a walk over the keys. -/
  | scan
  /-- Read several values. -/
  | getMany
  /-- Write several values. -/
  | setMany
  /-- Add a member to sets. -/
  | addMember
  /-- Read the members of a set. -/
  | members
deriving DecidableEq

/-- The name of an operation. -/
def Operation.name : Operation → String
  | ping => "ping"
  | close => "close"
  | get => "get"
  | set => "set"
  | delete => "delete"
  | probe => "exists"
  | increment => "increment"
  | scan => "scan"
  | getMany => "get_many"
  | setMany => "set_many"
  | addMember => "sadd"
  | members => "smembers"

/-- The group of an operation; the handshake and the farewell belong to none. -/
def Operation.group? : Operation → Option OperationGroup
  | ping | close => none
  | get | set | delete | probe => some .keyValue
  | increment => some .counters
  | scan => some .scan
  | getMany | setMany => some .pipeline
  | addMember | members => some .sets

/-- A request to a backing store. -/
inductive Request where
  /-- The handshake. -/
  | ping
  /-- The farewell. -/
  | close
  /-- Read the payload under a key. -/
  | get (key : String)
  /-- Write a payload with a lifetime. -/
  | set (key payload : String) (lifetime : Seconds)
  /-- Delete keys, and count those that were there. -/
  | delete (keys : List String)
  /-- Say whether a key is there. -/
  | probe (key : String)
  /-- Add to a counter, and say what it holds then. -/
  | increment (key : String) (amount : Int)
  /-- Read a page of the keys that match a pattern, from a cursor on. -/
  | scan (cursor : Nat) (pattern : String) (count : Nat)
  /-- Read the payloads under several keys, in order. -/
  | getMany (keys : List String)
  /-- Write several payloads with one lifetime. -/
  | setMany (items : List (String × String)) (lifetime : Seconds)
  /-- Add a member to several sets, and give them a lifetime unless it is zero. -/
  | addMember (keys : List String) (member : String) (lifetime : Seconds)
  /-- Read the members of a set. -/
  | members (key : String)
deriving DecidableEq

/-- One page of a walk. The walk is over once the cursor to go on from is zero. -/
structure Page where
  /-- The keys of the page. -/
  keys : List String
  /-- The cursor of the next page, or zero. -/
  next : Nat
deriving DecidableEq

namespace Request

/-- The operation of a request. -/
def operation : Request → Operation
  | ping => .ping
  | close => .close
  | get _ => .get
  | set _ _ _ => .set
  | delete _ => .delete
  | probe _ => .probe
  | increment _ _ => .increment
  | scan _ _ _ => .scan
  | getMany _ => .getMany
  | setMany _ _ => .setMany
  | addMember _ _ _ => .addMember
  | members _ => .members

/-- What a request is answered with. -/
def Reply : Request → Type
  | ping | close | set _ _ _ | setMany _ _ | addMember _ _ _ => Unit
  | get _ => Option String
  | delete _ => Nat
  | probe _ => Bool
  | increment _ _ => Int
  | scan _ _ _ => Ending Page
  | getMany _ => List (Option String)
  | members _ => List String

/-- The answer of a store that offers nothing: it can be greeted and left, and does not support
anything else. -/
def decline : (request : Request) → Except StoreError request.Reply
  | ping => .ok ()
  | close => .ok ()
  | get _ => .error (.unsupported Operation.get.name)
  | set _ _ _ => .error (.unsupported Operation.set.name)
  | delete _ => .error (.unsupported Operation.delete.name)
  | probe _ => .error (.unsupported Operation.probe.name)
  | increment _ _ => .error (.unsupported Operation.increment.name)
  | scan _ _ _ => .error (.unsupported Operation.scan.name)
  | getMany _ => .error (.unsupported Operation.getMany.name)
  | setMany _ _ => .error (.unsupported Operation.setMany.name)
  | addMember _ _ _ => .error (.unsupported Operation.addMember.name)
  | members _ => .error (.unsupported Operation.members.name)

end Request

/-- A backing store: a state that answers requests and changes by answering them. -/
class BackingStore (σ : Type) where
  /-- A short name. -/
  name : σ → String
  /-- The groups of operations that the store declares. -/
  capabilities : σ → Capabilities
  /-- How many pages a walk may have at most. -/
  pageBound : σ → Nat
  /-- Answer a request at an instant. -/
  answer : (request : Request) → Millis → σ → Except StoreError request.Reply × σ

/-- A store that declares groups and offers nothing. -/
structure BareStore where
  /-- The groups that it declares. -/
  declared : Capabilities
deriving DecidableEq

instance : BackingStore BareStore where
  name _ := "bare"
  capabilities store := store.declared
  pageBound _ := 1
  answer request _ store := (request.decline, store)

end FailOpenCache
