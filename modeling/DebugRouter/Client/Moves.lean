import DebugRouter.Client.DaemonClient

/-!
What the pieces of a step come to, as equations on the state: `rejectAllPendingRpc`, `closeSocket`
and the activations of `connectInternal`.
-/
namespace DebugRouter.Client.DaemonClient

open Library Protocol

variable {c : DaemonClient}

/- Rejecting the table -/

theorem foldl_settle (ids : List Int) (out : Outcome) (c : DaemonClient) :
    ids.foldl (fun c id => c.settle id out) c = { c with
        pendingRpc := ids.foldl .delete c.pendingRpc
        timers := c.timers.filter (· ∉ ids)
        settlements := c.settlements ++ ids.map (·, out) } := by
  induction ids generalizing c with
  | nil => simp
  | cons id xs ih =>
    rw [List.foldl_cons, ih]
    simp [settle, List.filter_filter, Bool.and_comm]

variable (err : String) (t : TransportId) (f : FlowId)

theorem rejectAll_eq : c.rejectAllPendingRpc err = { c with
        pendingRpc := .empty
        timers := c.timers.filter (· ∉ c.pendingRpc.keys)
        settlements := c.settlements ++ c.pendingRpc.keys.map (·, .rejected none err) } := by
  rw [rejectAllPendingRpc, foldl_settle, OrderedMap.foldl_delete_keys]

/- Closing the socket -/

def unheard (c : DaemonClient) (t : TransportId) : Transport :=
  if c.unsubscribe = some t then
    { c.transports t with messageListener := none, closeListener := none }
  else c.transports t

theorem unsubscribeTransport_eq :
    c.unsubscribeTransport = { c with transports := c.unheard, unsubscribe := none } := by
  unfold unsubscribeTransport
  cases ho : c.unsubscribe with
  | none =>
    have same : c.unheard = c.transports := funext fun t => by simp [unheard, ho]
    rw [same]
    cases c
    cases ho
    rfl
  | some u =>
    have same : c.unheard = Function.update c.transports u
        { c.transports u with messageListener := none, closeListener := none } := by
      funext t
      by_cases hh : t = u
      · subst hh
        simp [unheard, ho]
      · simp [unheard, ho, hh, Ne.symm hh]
    rw [same]
    rfl

theorem endTransport_eq :
    (c.endTransport t).1 =
      { c with
        transports := fun u =>
          if u = t ∧ (c.transports u).destroyed = false then
            { c.transports u with writable := false }
          else c.transports u } := by
  unfold endTransport
  split
  next destroyed =>
    have same : ∀ u, ¬ (u = t ∧ (c.transports u).destroyed = false) := by
      rintro u ⟨rfl, hl⟩
      simp [hl] at destroyed
    simp [same]
  next hl =>
    simp only [update, mk.injEq, and_self, and_true]
    funext u
    by_cases hh : u = t
    · subst hh
      simp [hl]
    · simp [hh]

/-- A transport once the client has let go of its own: no listener of the client, and its end
begun. -/
def released (c : DaemonClient) (t : TransportId) : Transport :=
  if c.controlTransport = some t ∧ (c.transports t).destroyed = false then
    { c.unheard t with writable := false }
  else c.unheard t

theorem unheard_destroyed : (c.unheard t).destroyed = (c.transports t).destroyed := by
  unfold unheard
  split <;> rfl

theorem closeSocket_eq : (c.closeSocket err).1 = { c with
        transports := c.released
        controlTransport := none
        unsubscribe := none
        status := .disconnected
        pendingRpc := .empty
        timers := c.timers.filter (· ∉ c.pendingRpc.keys)
        settlements := c.settlements ++ c.pendingRpc.keys.map (·, .rejected none err)
        events := c.events ++
    (c.controlTransport.map fun _ => ConnectionEvent.disconnected err).toList } := by
  simp only [closeSocket, unsubscribeTransport_eq, rejectAll_eq]
  cases hc : c.controlTransport with
  | none =>
    have same : c.released = c.unheard := funext fun t => by simp [released, hc]
    simp [same]
    rfl
  | some t =>
    have same : c.released = fun u =>
        if u = t ∧ (c.unheard u).destroyed = false then { c.unheard u with writable := false }
        else c.unheard u := by
      funext u
      simp only [released, hc, Option.some.injEq, unheard_destroyed, eq_comm]
    simp [same, endTransport_eq]
    rfl

/- The activations of `connectInternal` -/

/-- What an activation of `connectInternal` does between two awaits, besides its own bookkeeping. -/
inductive FlowMove (c : DaemonClient) : DaemonClient → Prop
  | waited (status : Status) (flows : FlowId → Option Flow) (nextFlow : FlowId)
      (promise : Option FlowId)
      (lowered : status = c.status ∨ status ≠ .connected) :
      FlowMove c { c with
        status := status, flows := flows, nextFlow := nextFlow, connectPromise := promise }
  | opened (status : Status) (flows : FlowId → Option Flow) (nextFlow : FlowId)
      (promise : Option FlowId)
      (lowered : status = c.status ∨ status ≠ .connected) (live : c.closed = false) :
      FlowMove c { c with
          transports := Function.update c.transports c.nextTransport .created
          nextTransport := c.nextTransport + 1
          controlTransport := some c.nextTransport
          status := status, flows := flows, nextFlow := nextFlow, connectPromise := promise }
  | replaced (error : String) (flows : FlowId → Option Flow) (nextFlow : FlowId)
      (promise : Option FlowId) :
      FlowMove c { (c.closeSocket error).1 with
        flows := flows, nextFlow := nextFlow, connectPromise := promise }

variable {c' : DaemonClient}

theorem FlowMove.booked {st : Status} {flows : FlowId → Option Flow} {nextFlow : FlowId}
    {pr : Option FlowId}
    (hm : FlowMove { c with
      status := st, flows := flows, nextFlow := nextFlow, connectPromise := pr } c')
    (hlo : st = c.status ∨ st ≠ .connected) : FlowMove c c' := by
  cases hm with
  | waited status' flows' next' promise' lowered' =>
    exact .waited status' flows' next' promise' (by grind)
  | opened status' flows' next' promise' lowered' hl =>
    exact .opened status' flows' next' promise' (by grind) hl
  | replaced err flows' next' promise' =>
    have same := FlowMove.replaced (c := c) err flows' next' promise'
    rw [closeSocket_eq] at same ⊢
    exact same

theorem registerTransport_move (luck : Luck) : FlowMove c (c.registerTransport f luck) := by
  unfold registerTransport
  split
  · exact .waited _ _ _ _ (.inl rfl)
  next hl =>
    split
    · exact .waited .disconnected _ _ _ (.inr nofun)
    · exact .opened _ _ _ _ (.inl rfl) (by simpa using hl)

theorem proceed_move (ensureDaemon : Bool) (luck : Luck) :
    FlowMove c (c.proceed f ensureDaemon luck) := by
  unfold proceed
  split
  · exact .waited .disconnected _ _ _ (.inr nofun)
  · split
    · exact .waited .connecting _ _ _ (.inr nofun)
    · exact .booked (registerTransport_move f luck) (.inr nofun)

theorem attemptFlow_move (flow : Flow) (luck : Luck) : FlowMove c (c.attemptFlow f flow luck) := by
  have moved : FlowMove { c with flows := Function.update c.flows f (some flow) }
      (c.attemptFlow f flow luck) := by
    unfold attemptFlow
    split
    · exact .waited .disconnected _ _ _ (.inr nofun)
    · dsimp only
      split
      next replaced _ _ hc _ =>
        have first := congrArg Prod.fst hc
        subst first
        exact .replaced _ _ _ _
      · exact proceed_move f flow.ensureDaemon luck
  exact .booked moved (.inl rfl)

theorem connectInternal_move (ensureDaemon : Bool) (luck : Luck) :
    FlowMove c (c.connectInternal ensureDaemon luck) := by
  unfold connectInternal
  split
  · exact .waited _ _ _ _ (.inl rfl)
  · exact .booked (attemptFlow_move _ _ luck) (.inl rfl)

theorem FlowMove.kept (h : FlowMove c c') (pr : Option FlowId) :
    FlowMove c { c' with connectPromise := pr } := by
  cases h with
  | waited _ _ _ _ hl => exact .waited _ _ _ _ hl
  | opened _ _ _ _ hl hli => exact .opened _ _ _ _ hl hli
  | replaced => exact .replaced _ _ _ _

theorem connect_move (luck : Luck) : FlowMove c (c.connect luck) := by
  unfold connect
  split
  · exact .waited _ _ _ _ (.inl rfl)
  · exact (connectInternal_move true luck).kept _

theorem call_move (method : ControlRpcMethod) (params : Json) (ensureDaemon : Bool) (luck : Luck) :
    FlowMove c (c.call method params ensureDaemon luck) := by
  unfold call
  split
  · exact .waited _ _ _ _ (.inl rfl)
  · split
    · exact connect_move luck
    · exact connectInternal_move false luck

theorem resume_move (ensured : Ensured) (luck : Luck) : FlowMove c (c.resume f ensured luck) := by
  have hu : FlowMove c c := .waited _ _ _ _ (.inl rfl)
  unfold resume
  cases c.flows f with
  | none => exact hu
  | some flow =>
    dsimp only
    cases flow.point with
    | closing t ended =>
      dsimp only
      split
      · exact proceed_move f _ luck
      · exact hu
    | ensuring =>
      cases ensured with
      | usable => exact registerTransport_move f luck
      | retry => exact attemptFlow_move f _ luck
      | thrown => exact .waited .disconnected _ _ _ (.inr nofun)
    | registering t =>
      dsimp only
      cases (c.transports t).handshake with
      | pending => exact hu
      | resolved | rejected => exact .waited _ _ _ _ (.inl rfl)
    | delaying => exact attemptFlow_move f _ luck
    | returned | thrown | finished => exact hu

theorem settleConnect_move : FlowMove c (c.settleConnect f) := by
  unfold settleConnect
  split <;> exact .waited _ _ _ _ (.inl rfl)

end DebugRouter.Client.DaemonClient
