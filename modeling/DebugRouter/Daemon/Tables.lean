import DebugRouter.Daemon.Message

/-!
The Host's two tables: the routes of requests waiting for their replies, and the queries
whose notifications are remembered. A route is opened once and leaves the table for one of
four reasons; `opened` and `removals` record that.
-/
namespace DebugRouter.Daemon

open Library

inductive Requester where
  | control (id : Nat)
  | webSocket (id : Int)
  deriving DecidableEq

/-- `promise` stands for the `resolve`/`reject` pair of a request that awaits its reply. -/
structure PendingRoute where
  requester : Requester
  clientId : Int
  originalId : SafeInteger
  promise : Option Nat
  deriving DecidableEq

inductive Removal where
  | reply | timeout | clear | sendFailure
  deriving DecidableEq

structure PendingRouteTable where
  routes : OrderedMap Nat PendingRoute
  nextGlobalMessageId : Nat
  opened : List Nat
  removals : List (Nat × Removal)

namespace PendingRouteTable
variable (table : PendingRouteTable)

def empty : PendingRouteTable := ⟨.empty, 1, [], []⟩

/-- `n + 1` on doubles: from `2 ^ 53` on the sum is rounded back. -/
def increment (n : Nat) : Nat := min (n + 1) (2 ^ 53)

def add (route : PendingRoute) : PendingRouteTable × Nat :=
  let globalMessageId := table.nextGlobalMessageId
  ({ table with
      routes := table.routes.set globalMessageId route
      nextGlobalMessageId := increment globalMessageId
      opened := table.opened ++ [globalMessageId] }, globalMessageId)

def get (globalMessageId : Nat) : Option PendingRoute := table.routes.get? globalMessageId

def remove (globalMessageId : Nat) (reason : Removal) : PendingRouteTable :=
  if table.routes.has globalMessageId then
    { table with
        routes := table.routes.delete globalMessageId
        removals := table.removals ++ [(globalMessageId, reason)] }
  else table

def clearMatching (matching : PendingRoute → Bool) : PendingRouteTable × List PendingRoute :=
  let removed := table.routes.entries.filter fun e => matching e.2
  ({ table with
      routes := table.routes.filter fun _ route => !matching route
      removals := table.removals ++ removed.map fun e => (e.1, .clear) }, removed.map Prod.snd)

def clearByControlId (controlId : Nat) : PendingRouteTable × List PendingRoute :=
  table.clearMatching fun route => route.requester = .control controlId

def clearByWebClientId (webClientId : Int) : PendingRouteTable × List PendingRoute :=
  table.clearMatching fun route => route.requester = .webSocket webClientId

def clearByClientId (clientId : Int) : PendingRouteTable × List PendingRoute :=
  table.clearMatching fun route => route.clientId = clientId

def clear : PendingRouteTable × List PendingRoute := table.clearMatching fun _ => true

end PendingRouteTable

structure MemoizedNotification where
  message : String
  parsedValue : Json
  receivedAt : Nat

/-- `retry` is the message the query's timer sends again, once there is a timer. -/
structure PendingQuery where
  sentAt : Nat
  retry : Option Json

inductive MemoizedQueryDecision where
  | notMemoized
  | forward (requestType : String)
  | pending
  | cached (message : String) (parsedValue : Json)

structure MemoizedQueryTable where
  validityPeriodMs : Nat
  notifications : OrderedMap (Int × String) MemoizedNotification
  pendingQueries : OrderedMap (Int × String) PendingQuery

namespace MemoizedQueryTable
variable (table : MemoizedQueryTable) (now : Nat) (clientId : Int)

def empty : MemoizedQueryTable := ⟨1000, .empty, .empty⟩

def definitions : List (String × String) := [("ListSession", "SessionList")]

def notificationTypeOf (requestType : String) : Option String :=
  (definitions.find? (·.1 = requestType)).map Prod.snd

def requestTypeOf (notificationType : String) : Option String :=
  (definitions.find? (·.2 = notificationType)).map Prod.fst

def getFreshNotification (notificationType : String) : Option MemoizedNotification :=
  (table.notifications.get? (clientId, notificationType)).filter fun notification =>
    now - notification.receivedAt ≤ table.validityPeriodMs

def clearPending (requestType : String) : MemoizedQueryTable :=
  { table with pendingQueries := table.pendingQueries.delete (clientId, requestType) }

def isPending (requestType : String) : Bool :=
  ((table.pendingQueries.get? (clientId, requestType)).filter fun query =>
    now - query.sentAt ≤ table.validityPeriodMs).isSome

/-- A query that is not pending any more is overwritten, its retry timer with it. -/
def markPending (requestType : String) : MemoizedQueryTable :=
  { table with
      pendingQueries := table.pendingQueries.set (clientId, requestType) ⟨now, none⟩ }

def query (message : Json) : MemoizedQueryTable × MemoizedQueryDecision :=
  match getCustomizedType message with
  | none => (table, .notMemoized)
  | some requestType =>
    match notificationTypeOf requestType with
    | none => (table, .notMemoized)
    | some notificationType =>
      match table.getFreshNotification now clientId notificationType with
      | some cached => (table, .cached cached.message cached.parsedValue)
      | none =>
        if table.isPending now clientId requestType then (table, .pending)
        else ((table.clearPending clientId requestType).markPending now clientId requestType,
          .forward requestType)

def recordNotification (message : String) (parsedValue : Json) : MemoizedQueryTable :=
  match getCustomizedType parsedValue with
  | none => table
  | some notificationType =>
    match requestTypeOf notificationType with
    | none => table
    | some requestType =>
      { table with
          notifications :=
            table.notifications.set (clientId, notificationType) ⟨message, parsedValue, now⟩
              }.clearPending
        clientId requestType

def setRetryTimer (requestType : String) (retryMessage : Json) : MemoizedQueryTable :=
  match table.pendingQueries.get? (clientId, requestType) with
  | some query =>
    { table with
        pendingQueries :=
          table.pendingQueries.set (clientId, requestType) { query with retry := some retryMessage } }
  | none => table

/-- The timer of a pending query fires; `retried` is what the retry callback returned. The second
component is the message that went out. -/
def onRetryTimer (requestType : String) (retried : Bool) : MemoizedQueryTable × Option Json :=
  match (table.pendingQueries.get? (clientId, requestType)).bind PendingQuery.retry with
  | some message =>
    if retried then
      ({ table with
          pendingQueries := table.pendingQueries.set (clientId, requestType) ⟨now, some message⟩ },
        some message)
    else (table.clearPending clientId requestType, none)
  | none => (table, none)

def clearClient : MemoizedQueryTable :=
  { table with
      notifications := table.notifications.filter fun key _ => key.1 ≠ clientId
      pendingQueries := table.pendingQueries.filter fun key _ => key.1 ≠ clientId }

def clear : MemoizedQueryTable := { table with notifications := .empty, pendingQueries := .empty }

end MemoizedQueryTable

end DebugRouter.Daemon
