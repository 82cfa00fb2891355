import Mathlib.Data.List.AList
import Krometrail.Lib.Runs

/-!
# Network requests

The normalizer keeps a context for every network request that it has seen the beginning of and not the end, in a map of
bounded size.  The four methods of the network domain arrive in four streams, each pumped by a task of its own.  The
parameters of an event are given as the accessors of the source read them; initiators, failure kinds and source times,
which go into the payloads unread, are left out.
-/

namespace Krometrail.Events.Requests

open Runs (Run System exists_reachable exists_run)

inductive NetworkResourceType
  | document | stylesheet | image | media | font | script | textTrack | xhr | fetch | prefetch | eventSource | webSocket
  | manifest | signedExchange | ping | cspViolationReport | preflight | other
  deriving DecidableEq

inductive NormalizeError
  | invalidPayload | requestLimit

/-- A `RequestContext`. -/
structure RequestContext (Id : Type) where
  id : Id
  method : Option String
  resourceType : Option NetworkResourceType
  url : Option String
  longLived : Bool

def isLongLived (resourceType : Option NetworkResourceType) : Bool :=
  resourceType = some .webSocket || resourceType = some .eventSource

/-- What `privacy::sanitized_url` and `privacy::http_method` make of a value: it may be refused, or absent. -/
abbrev Sanitized := Except NormalizeError (Option String)

/-- The `response` of an event, or its `redirectResponse`; the status is that of `HttpStatus::new`. -/
structure ResponseParams where
  url : Sanitized
  status : Option Nat
  fromDiskCache : Bool
  fromServiceWorker : Bool

structure RequestParams where
  method : Sanitized
  url : Sanitized

/-- The parameters of an event, by its method. -/
inductive Params
  | requestWillBeSent (request : Option RequestParams) (resourceType : Option NetworkResourceType)
      (redirectResponse : Option ResponseParams)
  | responseReceived (response : Option ResponseParams) (resourceType : Option NetworkResourceType)
  | loadingFinished
  | loadingFailed (resourceType : Option NetworkResourceType)

inductive Method
  | requestWillBeSent | responseReceived | loadingFinished | loadingFailed
  deriving DecidableEq

def Params.method : Params → Method
  | requestWillBeSent .. => .requestWillBeSent
  | responseReceived .. => .responseReceived
  | loadingFinished => .loadingFinished
  | loadingFailed _ => .loadingFailed

/-- The last event of a request. -/
def Method.isEnd : Method → Bool
  | loadingFinished | loadingFailed => true
  | _ => false

/-- A `BrowserEventPayload` of the network domain. -/
inductive Payload (Id : Type)
  | requestStarted (id : Id) (method : String) (resourceType : NetworkResourceType) (url : String)
  | responseReceived (id : Id) (method : Option String) (resourceType : Option NetworkResourceType) (url : Option String)
      (status : Nat) (fromDiskCache fromServiceWorker : Bool)
  | requestFinished (id : Id)
  | requestFailed (id : Id) (method : Option String) (resourceType : Option NetworkResourceType) (url : Option String)

/-- `request_id`. -/
def Payload.id {Id : Type} : Payload Id → Id
  | requestStarted id .. => id
  | responseReceived id .. => id
  | requestFinished id => id
  | requestFailed id .. => id

variable {Key Id : Type} [DecidableEq Key]

/-- An `EventNormalizer`, with the number of identifiers that it has taken from its source. -/
structure Normalizer (Key Id : Type) where
  requests : AList (fun _ : Key => RequestContext Id)
  nextId : Nat

/-- What a handler answers with, and the normalizer afterwards. -/
abbrev Handled (Key Id : Type) := Except NormalizeError (List (Payload Id)) × Normalizer Key Id

def responsePayload (context : RequestContext Id) (response : ResponseParams) : Except NormalizeError (Payload Id) :=
  match response.status with
  | none => .error .invalidPayload
  | some status => .ok (.responseReceived context.id context.method context.resourceType context.url status
      response.fromDiskCache response.fromServiceWorker)

namespace Normalizer

variable (ids : Nat → Id) (limit : Nat) (n : Normalizer Key Id)

def size : Nat := n.requests.keys.length

/-- `request_started`, behind the checks of its parameters. -/
def insertStarted (key : Key) (method url : String) (resourceType : NetworkResourceType)
    (redirectResponse : Option ResponseParams) : Handled Key Id :=
  let started (id : Id) (earlier : List (Payload Id)) (nextId : Nat) : Handled Key Id :=
    (.ok (earlier ++ [.requestStarted id method resourceType url]),
      ⟨n.requests.insert key ⟨id, some method, some resourceType, some url, isLongLived (some resourceType)⟩, nextId⟩)
  match n.requests.lookup key with
  | some previous =>
    match redirectResponse with
    | some redirect =>
      match responsePayload previous redirect with
      | .ok payload => started previous.id [payload] n.nextId
      | .error error => (.error error, n)
    | none => started previous.id [] n.nextId
  | none => if limit ≤ n.size then (.error .requestLimit, n) else started (ids n.nextId) [] (n.nextId + 1)

def requestStarted (key : Key) (request : Option RequestParams) (resourceType : Option NetworkResourceType)
    (redirectResponse : Option ResponseParams) : Handled Key Id :=
  match request with
  | some ⟨.ok (some method), .ok (some url)⟩ =>
    n.insertStarted ids limit key method url (resourceType.getD .other) redirectResponse
  | _ => (.error .invalidPayload, n)

/-- `response_received`: the entry is made before the payload is. -/
def responseReceived (key : Key) (response : Option ResponseParams) (resourceType : Option NetworkResourceType) :
    Handled Key Id :=
  match response with
  | none => (.error .invalidPayload, n)
  | some response =>
    let answer (context : RequestContext Id) (n : Normalizer Key Id) : Handled Key Id :=
      ((responsePayload context response).map ([·]), n)
    match n.requests.lookup key with
    | some context => answer context n
    | none =>
      if limit ≤ n.size then (.error .requestLimit, n)
      else
        match response.url with
        | .error error => (.error error, ⟨n.requests, n.nextId + 1⟩)
        | .ok url =>
          let context := ⟨ids n.nextId, none, resourceType, url, isLongLived resourceType⟩
          answer context ⟨n.requests.insert key context, n.nextId + 1⟩

/-- The entry of a request that ends, or a new context. -/
def take (key : Key) (resourceType : Option NetworkResourceType) : RequestContext Id × Normalizer Key Id :=
  match n.requests.lookup key with
  | some context => (context, ⟨n.requests.erase key, n.nextId⟩)
  | none => (⟨ids n.nextId, none, resourceType, none, isLongLived resourceType⟩, ⟨n.requests, n.nextId + 1⟩)

def requestFinished (key : Key) : Handled Key Id :=
  let taken := n.take ids key none
  (.ok [.requestFinished taken.1.id], taken.2)

def requestFailed (key : Key) (resourceType : Option NetworkResourceType) : Handled Key Id :=
  let taken := n.take ids key resourceType
  (.ok [.requestFailed taken.1.id taken.1.method taken.1.resourceType taken.1.url], taken.2)

/-- `normalize_network`; the key is absent when `NetworkRequestKey::new` refuses it. -/
def normalizeNetwork (key : Option Key) (params : Params) : Handled Key Id :=
  match key with
  | none => (.error .invalidPayload, n)
  | some key =>
    match params with
    | .requestWillBeSent request resourceType redirectResponse => n.requestStarted ids limit key request resourceType redirectResponse
    | .responseReceived response resourceType => n.responseReceived ids limit key response resourceType
    | .loadingFinished => n.requestFinished ids key
    | .loadingFailed resourceType => n.requestFailed ids key resourceType

end Normalizer

/-- An event that has been processed. -/
structure Entry (Key Id : Type) where
  key : Option Key
  method : Method
  outcome : Except NormalizeError (List (Payload Id))
  before : AList (fun _ : Key => RequestContext Id)
  after : AList (fun _ : Key => RequestContext Id)

/-- The identifiers that an event carries. -/
def Entry.ids (entry : Entry Key Id) : List Id :=
  match entry.outcome with
  | .ok payloads => payloads.map Payload.id
  | .error _ => []

/-- The last event of the request. -/
def Entry.isEndOf (entry : Entry Key Id) (key : Key) : Bool := entry.key = some key && entry.method.isEnd

/-- An event of the request before its last. -/
def Entry.isPartOf (entry : Entry Key Id) (key : Key) : Bool := entry.key = some key && !entry.method.isEnd

structure State (Key Id : Type) where
  /-- What each of the four subscriptions is still going to deliver. -/
  streams : Method → List (Option Key × Params)
  normalizer : Normalizer Key Id
  log : List (Entry Key Id)

/-- The pump of a method takes its next event. -/
def State.exec (ids : Nat → Id) (limit : Nat) (s : State Key Id) (method : Method) : Option (State Key Id) :=
  match s.streams method with
  | [] => none
  | (key, params) :: rest =>
    let handled := s.normalizer.normalizeNetwork ids limit key params
    some {
      streams := Function.update s.streams method rest
      normalizer := handled.2
      log := s.log ++ [⟨key, method, handled.1, s.normalizer.requests, handled.2.requests⟩] }

/-- No event has been processed, and each subscription delivers events of its method. -/
def State.IsInitial (s : State Key Id) : Prop :=
  s.normalizer = ⟨∅, 0⟩ ∧ s.log = [] ∧ ∀ method, ∀ event ∈ s.streams method, event.2.method = method

/-- The four pumps of a target, in any order. -/
def correlation (ids : Nat → Id) (limit : Nat) : System (State Key Id) Method Unit :=
  .ofExec State.IsInitial (State.exec ids limit)

/-- The events of a request up to its last. -/
def eventsOf (key : Key) : List (Entry Key Id) → List (Entry Key Id)
  | [] => []
  | entry :: log =>
    if entry.isEndOf key then [entry]
    else if entry.key = some key then entry :: eventsOf key log
    else eventsOf key log

namespace State

variable (ids : Nat → Id) (limit : Nat) (s : State Key Id)

/-- The last event of the request has been processed. -/
def Ended (key : Key) : Prop := ∃ entry ∈ s.log, entry.isEndOf key = true

/-- An event before the last of the request has been processed. -/
def Begun (key : Key) : Prop := ∃ entry ∈ s.log, entry.isPartOf key = true

structure Correlated : Prop where
  /-- The events of one request up to its last carry one identifier. -/
  sameId : ∀ key, ∀ a ∈ eventsOf key s.log, ∀ b ∈ eventsOf key s.log, ∀ id ∈ a.ids, ∀ id' ∈ b.ids, id = id'
  /-- Two live requests do not share one. -/
  distinct : ∀ key key' context context', s.normalizer.requests.lookup key = some context →
    s.normalizer.requests.lookup key' = some context' → context.id = context'.id → key = key'
  bounded : s.normalizer.size ≤ limit
  /-- A refused event leaves the map as it was. -/
  refused : ∀ entry ∈ s.log, ∀ error, entry.outcome = .error error → entry.after = entry.before
  /-- When every request has ended, nothing is left. -/
  drained : (∀ key, s.Begun key → s.Ended key) → s.normalizer.requests = ∅

/-- A response that makes an entry is accepted. -/
def Acceptable (key : Key) (response : Option ResponseParams) : Prop :=
  s.normalizer.requests.lookup key = none → s.normalizer.size < limit → ∀ params ∈ response,
    ∀ url, params.url = .ok url → params.status ≠ none

/-- No request goes on after its last event, and no response that makes an entry is refused. -/
def Orderly (method : Method) : Prop :=
  ∀ event ∈ (s.streams method).head?, ∀ key ∈ event.1, match event.2 with
    | .requestWillBeSent _ _ _ => ¬ s.Ended key
    | .responseReceived response _ => ¬ s.Ended key ∧ s.Acceptable limit key response
    | _ => True

end State

end Krometrail.Events.Requests
