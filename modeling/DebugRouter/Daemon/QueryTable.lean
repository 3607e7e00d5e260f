import DebugRouter.Daemon.Tables
import DebugRouter.Library.SlotMap
import Mathlib.Algebra.Order.Field.Rat
import Mathlib.Logic.Function.Basic

/-!
`MemoizedQueryTable` with its nested maps, its pending queries as objects and its timers. A timer's
callback holds the query it was made for; `forEach` runs while its callback deletes.
-/
namespace DebugRouter.Daemon

open Library Function

/-- A `PendingQuery`; `timer` is the handle of its retry timer. -/
structure PendingQueryObject where
  sentAt : Nat
  timer : Option Nat

/-- What the callback of a retry timer has captured. Without an entry `setRetryTimer` captures no
query. -/
structure RetryTimer where
  clientId : Int
  requestType : String
  pendingQuery : Option Nat
  retry : Json

/-- The inner maps of `pendingQueries` and the pending queries are objects; a handle that `timers`
gives nothing for has fired or was cleared. -/
structure QueryTable where
  definitions : List (String × String)
  validityPeriodMs : ℚ
  notifications : OrderedMap Int (OrderedMap String MemoizedNotification)
  pendingQueries : SlotMap Int Nat
  clientMaps : Nat → SlotMap String Nat
  nextMap : Nat
  queries : Nat → PendingQueryObject
  nextQuery : Nat
  timers : Nat → Option RetryTimer
  nextTimer : Nat
  now : Nat

namespace QueryTable
variable (s : QueryTable) (clientId : Int) (requestType : String)

def new (definitions : List (String × String)) (validityPeriodMs : ℚ) (now : Nat) : QueryTable :=
  ⟨definitions, validityPeriodMs, .empty, .empty, fun _ => .empty, 0, fun _ => ⟨0, none⟩, 0,
    fun _ => none, 0, now⟩

/-- Request and notification types are not memoized when they are missing or empty. -/
def notificationTypeOf (requestType : Option String) : Option (String × String) := do
  let requestType ← requestType
  let definition ← s.definitions.find? (·.1 = requestType)
  if requestType = "" ∨ definition.2 = "" then none else some (requestType, definition.2)

def requestTypeOf (notificationType : Option String) : Option (String × String) := do
  let notificationType ← notificationType
  let definition ← s.definitions.find? (·.2 = notificationType)
  if notificationType = "" ∨ definition.1 = "" then none else some (notificationType, definition.1)

def expired (time : Nat) : Bool := s.validityPeriodMs < ((s.now - time : Nat) : ℚ)

def notificationAt (notificationType : String) : Option MemoizedNotification :=
  (s.notifications.get? clientId).bind (·.get? notificationType)

def getFreshNotification (notificationType : String) : Option MemoizedNotification :=
  (s.notificationAt clientId notificationType).filter fun notification =>
    !s.expired notification.receivedAt

def pendingAt : Option Nat :=
  (s.pendingQueries.get? clientId).bind fun m => (s.clientMaps m).get? requestType

def clearRetryTimer (pendingQuery : Nat) : QueryTable :=
  match (s.queries pendingQuery).timer with
  | none => s
  | some timer =>
    { s with
        timers := update s.timers timer none
        queries := update s.queries pendingQuery { s.queries pendingQuery with timer := none } }

def clearPending : QueryTable :=
  match s.pendingQueries.get? clientId with
  | none => s
  | some m =>
    match (s.clientMaps m).get? requestType with
    | none => s
    | some pendingQuery =>
      let s := s.clearRetryTimer pendingQuery
      let s := { s with clientMaps := update s.clientMaps m ((s.clientMaps m).delete requestType) }
      if (s.clientMaps m).size = 0 then
        { s with pendingQueries := s.pendingQueries.delete clientId }
      else s

def isPending : QueryTable × Bool :=
  match s.pendingAt clientId requestType with
  | none => (s, false)
  | some pendingQuery =>
    if s.expired (s.queries pendingQuery).sentAt then (s.clearPending clientId requestType, false)
    else (s, true)

def clientMap : QueryTable × Nat :=
  match s.pendingQueries.get? clientId with
  | some m => (s, m)
  | none =>
    ({ s with
        pendingQueries := s.pendingQueries.set clientId s.nextMap
        clientMaps := update s.clientMaps s.nextMap .empty
        nextMap := s.nextMap + 1 }, s.nextMap)

def markPending : QueryTable :=
  let (s, m) := s.clientMap clientId
  { s with
      clientMaps := update s.clientMaps m ((s.clientMaps m).set requestType s.nextQuery)
      queries := update s.queries s.nextQuery ⟨s.now, none⟩
      nextQuery := s.nextQuery + 1 }

def query (message : Json) : QueryTable × MemoizedQueryDecision :=
  match s.notificationTypeOf (getCustomizedType message) with
  | none => (s, .notMemoized)
  | some (requestType, notificationType) =>
    match s.getFreshNotification clientId notificationType with
    | some cached => (s, .cached cached.message cached.parsedValue)
    | none =>
      let (s, pending) := s.isPending clientId requestType
      if pending then (s, .pending) else (s.markPending clientId requestType, .forward requestType)

def recordNotification (message : String) (parsedValue : Json) : QueryTable :=
  match s.requestTypeOf (getCustomizedType parsedValue) with
  | none => s
  | some (notificationType, requestType) =>
    let clientNotifications := (s.notifications.get? clientId).getD .empty
    let clientNotifications := clientNotifications.set notificationType ⟨message, parsedValue, s.now⟩
    { s with notifications := s.notifications.set clientId clientNotifications }.clearPending
      clientId requestType

def handleSendFailure : QueryTable := s.clearPending clientId requestType

def createRetryTimer (pendingQuery : Option Nat) (retry : Json) : QueryTable × Nat :=
  ({ s with
      timers := update s.timers s.nextTimer (some ⟨clientId, requestType, pendingQuery, retry⟩)
      nextTimer := s.nextTimer + 1 }, s.nextTimer)

def setTimer (pendingQuery timer : Nat) : QueryTable :=
  { s with
    queries := update s.queries pendingQuery { s.queries pendingQuery with timer := some timer } }

/-- Without a map of the client nothing happens before the call throws; without an entry in it the
timer has been made by then. -/
def setRetryTimer (retry : Json) : QueryTable :=
  match s.pendingQueries.get? clientId with
  | none => s
  | some m =>
    match (s.clientMaps m).get? requestType with
    | none => (s.createRetryTimer clientId requestType none retry).1
    | some pendingQuery =>
      let (s, timer) := s.createRetryTimer clientId requestType (some pendingQuery) retry
      s.setTimer pendingQuery timer

/-- A live timer fires; `retried` is what the retry returned. -/
def onRetryTimer (timer : Nat) (retried : Bool) : QueryTable :=
  match s.timers timer with
  | none => s
  | some ⟨clientId, requestType, pendingQuery, retry⟩ =>
    let s := { s with timers := update s.timers timer none }
    match pendingQuery with
    | none => s
    | some pendingQuery =>
      let s := { s with
        queries := update s.queries pendingQuery { s.queries pendingQuery with sentAt := s.now } }
      if retried then
        let (s, timer) := s.createRetryTimer clientId requestType (some pendingQuery) retry
        s.setTimer pendingQuery timer
      else s.clearPending clientId requestType

def clearEach (m : Nat) : QueryTable :=
  forEach (fun s : QueryTable => s.clientMaps m)
    (fun s requestType _ => s.clearPending clientId requestType) s

def clearClient : QueryTable :=
  let s := { s with notifications := s.notifications.delete clientId }
  match s.pendingQueries.get? clientId with
  | none => s
  | some m => s.clearEach clientId m

def clear : QueryTable :=
  let s := { s with notifications := .empty }
  forEach (fun s : QueryTable => s.pendingQueries) (fun s clientId m => s.clearEach clientId m) s

end QueryTable

inductive QueryAct where
  | query (clientId : Int) (message : Json)
  | setRetryTimer (clientId : Int) (requestType : String) (retry : Json)
  | recordNotification (clientId : Int) (message : String) (parsedValue : Json)
  | handleSendFailure (clientId : Int) (requestType : String)
  | clearClient (clientId : Int)
  | clear
  | fire (timer : Nat) (retried : Bool)
  | tick (elapsed : Nat)

namespace QueryTable

def step (s : QueryTable) : QueryAct → QueryTable
  | .query clientId message => (s.query clientId message).1
  | .setRetryTimer clientId requestType retry => s.setRetryTimer clientId requestType retry
  | .recordNotification clientId message parsedValue =>
    s.recordNotification clientId message parsedValue
  | .handleSendFailure clientId requestType => s.handleSendFailure clientId requestType
  | .clearClient clientId => s.clearClient clientId
  | .clear => s.clear
  | .fire timer retried => s.onRetryTimer timer retried
  | .tick elapsed => { s with now := s.now + elapsed }

end QueryTable

end DebugRouter.Daemon
