import DebugRouter.Daemon.Tables
import Mathlib.Logic.Function.Basic

/-!
`PendingRouteTable` with its timers. A timer is a handle, and its callback holds the global id it
was made for.
-/
namespace DebugRouter.Daemon

open Library List OrderedMap Function PendingRouteTable

structure TimedRoute extends PendingRoute where
  globalMessageId : Nat
  timer : Nat

/-- `timers` gives nothing for a handle that has fired, was cleared or is not made yet. A live timer
may have lost its route, but no route its timer. -/
structure RouteTable where
  routes : OrderedMap Nat TimedRoute
  nextGlobalMessageId : Nat
  timers : Nat → Option Nat
  nextTimer : Nat
  keyed : routes.All fun id route => route.globalMessageId = id
  armed : routes.All fun id route => timers route.timer = some id
  unmade : ∀ timer, nextTimer ≤ timer → timers timer = none
  spent : routes.All fun id _ => id < nextGlobalMessageId ∨ nextGlobalMessageId = 2 ^ 53

namespace RouteTable
variable (table : RouteTable)

def empty : RouteTable :=
  ⟨.empty, 1, fun _ => none, 0, all_empty, all_empty, fun _ _ => rfl, all_empty⟩

variable (input : PendingRoute)

theorem armed_add :
    (table.routes.set table.nextGlobalMessageId
      ⟨input, table.nextGlobalMessageId, table.nextTimer⟩).All fun id rt =>
      update table.timers table.nextTimer (some table.nextGlobalMessageId) rt.timer = some id := by
  refine OrderedMap.All.set (fun id rt hf => ?_) (update_self ..)
  have live : table.timers rt.timer = some id := table.armed id rt hf
  rw [update_of_ne, live]
  intro hs
  rw [hs, table.unmade _ le_rfl] at live
  cases live

theorem unmade_add (timer : Nat) (h : table.nextTimer + 1 ≤ timer) :
    update table.timers table.nextTimer (some table.nextGlobalMessageId) timer = none := by
  rw [update_of_ne (by omega), table.unmade timer (by omega)]

theorem spent_add (rt : TimedRoute) : (table.routes.set table.nextGlobalMessageId rt).All fun id _ =>
      id < increment table.nextGlobalMessageId ∨ increment table.nextGlobalMessageId = 2 ^ 53 := by
  unfold increment
  refine OrderedMap.All.set (fun id old hf => ?_) (by omega)
  have before := table.spent id old hf
  omega

def add (input : PendingRoute) : RouteTable × TimedRoute :=
  let globalMessageId := table.nextGlobalMessageId
  let route : TimedRoute := ⟨input, globalMessageId, table.nextTimer⟩
  ({ routes := table.routes.set globalMessageId route
     nextGlobalMessageId := increment globalMessageId
     timers := update table.timers table.nextTimer (some globalMessageId)
     nextTimer := table.nextTimer + 1
     keyed := table.keyed.set rfl
     armed := table.armed_add input
     unmade := table.unmade_add
     spent := table.spent_add route }, route)

variable {gid timer : Nat}

theorem armed_clear {rt : TimedRoute} (h : table.routes.get? gid = some rt)
    (shouldClearTimer : Bool) :
    (table.routes.delete gid).All fun id o =>
      (if shouldClearTimer then update table.timers rt.timer none else table.timers) o.timer =
        some id := by
  intro id o hk
  rw [get?_delete] at hk
  split at hk
  · cases hk
  next ha =>
    have hl : table.timers o.timer = some id := table.armed id o hk
    have own : table.timers rt.timer = some gid := table.armed gid rt h
    split
    · rw [update_of_ne, hl]
      intro hs
      rw [hs, own] at hl
      exact ha (Option.some.inj hl).symm
    · exact hl

theorem unmade_clear {handle : Nat} (clears : Bool) (timer : Nat) (h : table.nextTimer ≤ timer) :
    (if clears then update table.timers handle none else table.timers) timer = none := by
  split
  · rw [update_apply]
    split
    · rfl
    · exact table.unmade timer h
  · exact table.unmade timer h

def remove (globalMessageId : Nat) (shouldClearTimer : Bool) : RouteTable × Option TimedRoute :=
  match found : table.routes.get? globalMessageId with
  | none => (table, none)
  | some route =>
    ({ table with
        routes := table.routes.delete globalMessageId
        timers := if shouldClearTimer then update table.timers route.timer none else table.timers
        keyed := table.keyed.delete globalMessageId
        armed := table.armed_clear found shouldClearTimer
        unmade := table.unmade_clear shouldClearTimer
        spent := table.spent.delete globalMessageId }, some route)

def take (globalMessageId : Nat) : RouteTable × Option TimedRoute := table.remove globalMessageId true

theorem routes_remove (globalMessageId : Nat) (shouldClearTimer : Bool) :
    (table.remove globalMessageId shouldClearTimer).1.routes =
      table.routes.delete globalMessageId := by
  unfold remove
  split
  next hm => exact (delete_of_missing hm).symm
  · rfl

theorem timers_expire (gid : Nat) : (table.remove gid false).1.timers = table.timers := by
  unfold remove
  split <;> rfl

theorem nextGlobalMessageId_remove (gid : Nat) (shouldClearTimer : Bool) :
    (table.remove gid shouldClearTimer).1.nextGlobalMessageId = table.nextGlobalMessageId := by
  unfold remove
  split <;> rfl

theorem armed_expire (h : table.timers timer = some gid) :
    (table.remove gid false).1.routes.All fun id rt => update
    (table.remove gid false).1.timers timer none rt.timer = some id := by
  intro id rt hf
  have own : (table.remove gid false).1.timers rt.timer = some id :=
    (table.remove gid false).1.armed id rt hf
  rw [update_of_ne, own]
  intro hs
  rw [timers_expire, hs, h] at own
  rw [routes_remove, get?_delete, if_pos (Option.some.inj own).symm] at hf
  cases hf

def onTimer (timer : Nat) : RouteTable × Option TimedRoute :=
  match live : table.timers timer with
  | none => (table, none)
  | some globalMessageId =>
    let removed := table.remove globalMessageId false
    ({ removed.1 with
        timers := update removed.1.timers timer none
        armed := table.armed_expire live
        unmade := removed.1.unmade_clear true }, removed.2)

def clearNext (matching : PendingRoute → Bool) (cleared : RouteTable × List TimedRoute)
    (pendingRoute : TimedRoute) :
    RouteTable × List TimedRoute :=
  if matching pendingRoute.toPendingRoute then
    let (table, route) := cleared.1.remove pendingRoute.globalMessageId true
    (table, cleared.2 ++ route.toList)
  else cleared

def clearMatching (matching : PendingRoute → Bool) : RouteTable × List TimedRoute :=
  table.routes.values.foldl (clearNext matching) (table, [])

def clearByControlId (controlId : Nat) : RouteTable × List TimedRoute :=
  table.clearMatching fun route => route.requester = .control controlId

def clearByWebClientId (webClientId : Int) : RouteTable × List TimedRoute :=
  table.clearMatching fun route => route.requester = .webSocket webClientId

def clearByClientId (clientId : Int) : RouteTable × List TimedRoute :=
  table.clearMatching fun route => route.clientId = clientId

def clear : RouteTable × List TimedRoute := table.clearMatching fun _ => true

/- A route that is opened and taken back -/

theorem take_add :
    let taken := ((table.add input).1.take (table.add input).2.globalMessageId).1
    taken.routes = table.routes.delete table.nextGlobalMessageId ∧ taken.timers = table.timers := by
  have found : (table.add input).1.routes.get? table.nextGlobalMessageId = some (table.add input).2 :=
    get?_set.trans (if_pos rfl)
  refine ⟨(routes_remove ..).trans delete_set, ?_⟩
  change ((table.add input).1.remove table.nextGlobalMessageId true).1.timers = table.timers
  unfold remove
  split
  next hm =>
    rw [found] at hm
    cases hm
  next rt hh =>
    rw [found] at hh
    cases hh
    have unset : table.timers table.nextTimer = none := table.unmade _ le_rfl
    change update (update table.timers table.nextTimer _) table.nextTimer none = table.timers
    rw [update_idem, ← unset, update_eq_self]

theorem take_add_iff :
    ((table.add input).1.take (table.add input).2.globalMessageId).1.routes = table.routes ↔
      table.routes.has table.nextGlobalMessageId = false := by
  rw [(table.take_add input).1, has_eq_false]
  constructor
  · intro hs
    rw [← hs, get?_delete, if_pos rfl]
  · exact delete_of_missing

end RouteTable

end DebugRouter.Daemon
