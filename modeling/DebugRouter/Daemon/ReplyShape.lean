import DebugRouter.Daemon.IdRewriting
import DebugRouter.Daemon.Recollection

/-!
What `sendMessageWithReply` resolves with. The reply is the runtime's value with two fields of its
payload rewritten, as long as the payload is an object: the payload is copied into a new object,
whatever it was.
-/
namespace DebugRouter.Daemon

open Library JsonText List Option Json Traffic

def messageChange (data : Json) : List (List Step × Json) :=
  match rawMessage data with
  | none | some (.str _) => []
  | some message => [(messagePath, .str (stringify message))]

def runtimeIdChange (data : Json) (clientId : Int) : List (List Step × Json) :=
  if (prop (innerData data) "client_id").isSome then [(clientIdPath, ofInt clientId)] else []

def replyChanges (data : Json) (clientId : Int) : List (List Step × Json) :=
  messageChange data ++ runtimeIdChange data clientId

def Preserved (data reply : Json) (clientId : Int) : Prop :=
  reply.reads = override (replyChanges data clientId) data.reads

/-- The payload is an object, if there is one. -/
def PayloadKept (data : Json) : Prop :=
  ∀ inner, innerData data = some inner → inner.truthy = true → inner.isObject = true

/-- An own `sender` is the runtime's id. -/
def SenderKept (data : Json) (clientId : Int) : Prop :=
  ∀ sender, prop (data.get? "data") "sender" = some sender → sender = ofInt clientId

variable {data inner : Json} {cid : Int}

theorem get?_of_not_object (h : inner.isObject = false) (key : String) : inner.get? key = none := by
  cases inner with
  | obj fs => cases h
  | null | bool _ | num _ | str _ | arr _ => rfl

theorem replyChanges_of_not_object (h : ∀ inner, innerData data = some inner → inner.isObject = false)
    (cid : Int) : replyChanges data cid = [] := by
  have missing : ∀ key, prop (innerData data) key = none := by
    intro key
    cases hh : innerData data with
    | none => rfl
    | some inner => exact get?_of_not_object (h inner hh) key
  simp [replyChanges, messageChange, runtimeIdChange, rawMessage, missing]

theorem isObject_eq_false_of_falsy (h : inner.truthy = false) : inner.isObject = false := by
  cases inner with
  | obj fs => cases h
  | null | bool _ | num _ | str _ | arr _ => rfl

variable (key : String)

theorem isObject_setOwn (value v : Json) : (setOwn key value v).isObject = v.isObject := by
  unfold setOwn
  split
  · exact isObject_setField v key value
  · rfl

theorem innerData_modifyAt (f : Json → Json) (data : Json) :
    innerData (data.modifyAt ["data", "data"] f) = (innerData data).map f := by
  rw [innerData, innerData, prop, prop, get?_modifyAt, if_pos rfl]
  cases data.get? "data" with
  | none => rfl
  | some envelope =>
    rw [map_some, bind_some, bind_some, get?_modifyAt, if_pos rfl]
    rfl

theorem reads_normalizePayload (h : inner.isObject = true) (cid : Int) :
    (normalizePayload inner cid).reads = override ((match inner.get? "message" with
        | none | some (.str _) => []
        | some msg => [([Step.field "message"], .str (stringify msg))]) ++
        if (inner.get? "client_id").isSome then [([.field "client_id"], ofInt cid)] else [])
          inner.reads := by
  have copied : obj (spread inner) = inner := by
    cases inner with
    | obj fs => rfl
    | null | bool _ | num _ | str _ | arr _ => cases h
  have named : (setOwn "client_id" (ofInt cid) inner).reads = override
      (if (inner.get? "client_id").isSome then [([.field "client_id"], ofInt cid)] else [])
        inner.reads := by
    rw [setOwn, hasOwn]
    split
    · exact reads_setField h "client_id" (isLeaf_ofInt cid)
    · rfl
  have still : (setOwn "client_id" (ofInt cid) inner).isObject = true := by rwa [isObject_setOwn]
  rw [normalizePayload, copied, stringifyMessage, get?_setOwn _ _ (by decide), ← override_append,
    ← named]
  cases inner.get? "message" with
  | none => rfl
  | some msg =>
    cases msg with
    | str text => rfl
    | null | bool _ | num _ | arr _ | obj _ => exact reads_setField still "message" rfl

theorem normalizeRaw_eq (hf : innerData data = some inner) (ht : inner.truthy = true) (cid : Int) :
    normalizeRawResponse data cid = data.modifyAt ["data", "data"] (normalizePayload · cid) := by
  obtain ⟨envelope, ho, hp⟩ := bind_eq_some_iff.mp hf
  rw [normalizeRawResponse, hf]
  simp [ht, modifyAt, ho, hp]

theorem reads_normalizeRaw (hf : innerData data = some inner) (ho : inner.isObject = true)
    (clientId : Int) : Preserved data (normalizeRawResponse data clientId) clientId := by
  have ht : inner.truthy = true := by
    cases inner with
    | obj fs => rfl
    | null | bool _ | num _ | str _ | arr _ => cases ho
  have hh : data.follow (["data", "data"].map .field) = some inner := (follow_dataPath data).trans hf
  have hb :=
    reads_modifyAt_of (f := (normalizePayload · clientId)) hh (reads_normalizePayload ho clientId)
  have raw : rawMessage data = inner.get? "message" := by rw [rawMessage, prop, hf, bind_some]
  have hn : prop (innerData data) "client_id" = inner.get? "client_id" := by rw [prop, hf, bind_some]
  rw [Preserved, normalizeRaw_eq hf ht, hb, replyChanges, messageChange, runtimeIdChange, raw, hn,
    map_append]
  congr 2
  · cases inner.get? "message" with
    | none => rfl
    | some message => cases message <;> rfl
  · split <;> rfl

theorem top_normalizePayload (inner : Json) (cid : Int) :
    (normalizePayload inner cid).top = .obj [] := by
  have object : (normalizePayload inner cid).isObject = true := by
    unfold normalizePayload stringifyMessage
    split
    · rw [isObject_setOwn]
      rfl
    · rw [isObject_setOwn]
      rfl
    · rw [isObject_setField, isObject_setOwn]
      rfl
  cases hc : normalizePayload inner cid with
  | obj fs => rfl
  | null | bool _ | num _ | str _ | arr _ =>
    rw [hc] at object
    cases object

theorem reads_dataPath_of_not_object (hf : innerData data = some inner) (ht : inner.truthy = true)
    (hp : inner.isObject = false) (cid : Int) :
    (normalizeRawResponse data cid).reads dataPath = some (.obj []) ∧
      data.reads dataPath ≠ some (.obj []) := by
  constructor
  · rw [normalizeRaw_eq hf ht, reads, follow_dataPath, innerData_modifyAt, hf, map_some,
      map_some, top_normalizePayload]
  · rw [reads, follow_dataPath, hf, map_some]
    cases inner with
    | obj fs => cases hp
    | null | bool _ | num _ | str _ | arr _ => rintro ⟨⟩

theorem preserved_iff (data : Json) (cid : Int) :
    Preserved data (normalizeRawResponse data cid) cid ↔ PayloadKept data := by
  constructor
  · intro hpr inner hf ht
    by_contra hp
    rw [Bool.not_eq_true] at hp
    obtain ⟨hc, hb⟩ := reads_dataPath_of_not_object hf ht hp cid
    have none : replyChanges data cid = [] :=
      replyChanges_of_not_object (fun o hh => by cases hf.symm.trans hh; exact hp) cid
    rw [hpr, none, override_nil] at hc
    exact hb hc
  · intro hk
    cases hf : innerData data with
    | none =>
      have none : replyChanges data cid = [] :=
        replyChanges_of_not_object (fun o hh => by cases hf.symm.trans hh) cid
      rw [Preserved, none, normalizeRawResponse, hf, override_nil]
    | some inner =>
      cases ht : inner.truthy with
      | true => exact reads_normalizeRaw hf (hk inner hf ht) cid
      | false =>
        have hp := isObject_eq_false_of_falsy ht
        have none : replyChanges data cid = [] :=
          replyChanges_of_not_object (fun o hh => by cases hf.symm.trans hh; exact hp) cid
        rw [Preserved, none, normalizeRawResponse, hf, override_nil]
        simp [ht]

/- A reply that claims its route -/

theorem payloadKept_writeMessageId {pl : CustomizedPayload} {old : SafeInteger}
    (h : getRoutableCustomizedPayload data = some (pl, old)) (id : Int) :
    PayloadKept (writeMessageId data pl id) := by
  simp only [getRoutableCustomizedPayload, bind_eq_bind, bind_eq_some_iff, some.injEq,
    Prod.mk.injEq] at h
  obtain ⟨pl, hf, _, -, rfl, rfl⟩ := h
  obtain ⟨outer, container, message, h1, h2, h3, -⟩ := payload_inner hf
  have hi : innerData data = some container := by rw [innerData, prop, h1, bind_some, h2]
  intro written hh _
  rw [writeMessageId, innerData_modifyAt, hi, map_some] at hh
  cases hh
  rw [isObject_setField]
  exact isObject_of_get? h3

variable {r : Registry} {t : Traffic} {value reply : Json} {source : MessageSource}
  {control promise : Nat}

theorem Traffic.settled_not_mem_notification {msg : String} :
    .settled control promise (.ok reply) ∉ (t.handleNotification r cid msg value source).2 := by
  intro settled
  rcases mem_append.mp settled with web | event
  · unfold Registry.sendMessageToWeb at web
    split at web
    · obtain ⟨_, -, hs⟩ := mem_map.mp web
      cases hs
    · cases web
  · obtain ⟨_, -, hs⟩ := mem_map.mp event
    cases hs

theorem Traffic.settled_deliverReply {rt : PendingRoute}
    (h : .settled control promise (.ok reply) ∈ (t.deliverReply r rt value source).2) :
    rt.requester = .control control ∧ rt.promise = some promise ∧
      reply = normalizeRawResponse value rt.clientId := by
  unfold deliverReply at h
  split at h
  next requester hp =>
    cases mem_singleton.mp h
    exact ⟨requester, hp, rfl⟩
  · unfold Registry.sendToControl at h
    split at h
    · cases mem_singleton.mp h
    · cases h
  · unfold Registry.sendMessageToWebClient at h
    split at h
    · cases mem_singleton.mp h
    · cases h

theorem Traffic.preserved_reply {message : String}
    (h : .settled control promise (.ok reply) ∈ (t.handleRuntimeMessage r cid message source).2) :
    ∃ pl gid rt,
      getRoutableCustomizedPayload (parseJsonMessageOrNull message) = some (pl, gid) ∧
      t.routeOf gid = some rt ∧ rt.requester = .control control ∧ rt.promise = some promise ∧
      Preserved (writeMessageId (parseJsonMessageOrNull message) pl rt.originalId.1) reply cid := by
  unfold handleRuntimeMessage at h
  dsimp only at h
  split at h
  · exact absurd h settled_not_mem_notification
  next pl gid hr =>
    split at h
    · cases h
    next rt hl =>
      split at h
      next own =>
        obtain ⟨requester, hp, rfl⟩ := settled_deliverReply h
        refine ⟨pl, gid, rt, hr, hl, requester, hp, ?_⟩
        rw [own]
        exact (preserved_iff _ cid).mpr (payloadKept_writeMessageId hr _)
      · cases h

/- A reply from the cache -/

theorem innerData_rewriteRuntime (data : Json) (cid : Int) :
    innerData (rewriteRuntimeClientIdData data cid) =
      (innerData data).map (setOwn "client_id" (ofInt cid)) := by
  rw [rewriteRuntimeClientIdData, innerData_modifyAt]
  congr 1
  rw [innerData, innerData, prop, prop, get?_modifyAt, if_pos rfl]
  cases data.get? "data" with
  | none => rfl
  | some envelope => exact get?_setOwn envelope _ (by decide)

theorem truthy_setOwn (value v : Json) : (setOwn key value v).truthy = v.truthy := by
  unfold setOwn
  split
  · cases v <;> rfl
  · rfl

theorem payloadKept_rewriteRuntime (data : Json) (cid : Int) :
    PayloadKept (rewriteRuntimeClientIdData data cid) ↔ PayloadKept data := by
  unfold PayloadKept
  rw [innerData_rewriteRuntime]
  cases innerData data with
  | none => simp
  | some inner => simp [isObject_setOwn, truthy_setOwn]

theorem replyChanges_rewriteRuntime (data : Json) (clientId : Int) :
    replyChanges (rewriteRuntimeClientIdData data clientId) clientId =
      replyChanges data clientId := by
  have hs : ∀ key, key ≠ "client_id" →
      prop (innerData (rewriteRuntimeClientIdData data clientId)) key =
        prop (innerData data) key := by
    intro key ho
    rw [innerData_rewriteRuntime]
    cases innerData data with
    | none => rfl
    | some inner => exact get?_setOwn inner _ ho
  have own : (prop (innerData (rewriteRuntimeClientIdData data clientId)) "client_id").isSome =
      (prop (innerData data) "client_id").isSome := by
    rw [innerData_rewriteRuntime]
    cases innerData data with
    | none => rfl
    | some inner =>
      change (get? "client_id" (setOwn _ _ inner)).isSome = (inner.get? "client_id").isSome
      unfold setOwn
      split
      next hf =>
        rw [hasOwn] at hf
        obtain ⟨old, hh⟩ := isSome_iff_exists.mp hf
        rw [get?_setField (isObject_of_get? hh), if_pos rfl, hf]
        rfl
      · rfl
  rw [replyChanges, replyChanges, messageChange, messageChange, runtimeIdChange, runtimeIdChange,
    rawMessage, rawMessage, hs "message" (by decide), own]

theorem follow_senderPath (data : Json) :
    data.follow senderPath = prop (data.get? "data") "sender" := by
  rw [senderPath, follow, step?, prop]
  cases data.get? "data" with
  | none => rfl
  | some envelope =>
    rw [bind_some, bind_some, follow, step?]
    cases envelope.get? "sender" <;> rfl

theorem override_replyChanges_senderPath (data : Json) (cid : Int)
    (reading : List Step → Option Json) :
    override (replyChanges data cid) reading senderPath = reading senderPath := by
  have ha : ∀ e ∈ replyChanges data cid, ¬ e.1 <+: senderPath := by
    intro e mem
    rcases mem_append.mp mem with hm | named
    · unfold messageChange at hm
      split at hm
      · cases hm
      · cases hm
      · cases mem_singleton.mp hm
        exact (by decide : ¬ messagePath <+: senderPath)
    · unfold runtimeIdChange at named
      split at named
      · cases mem_singleton.mp named
        exact (by decide : ¬ clientIdPath <+: senderPath)
      · cases named
  unfold override
  have none : (replyChanges data cid).find? (fun e => e.1.isPrefixOf senderPath) = none := by
    rw [find?_eq_none]
    intro e mem starts
    have part := isPrefixOf_iff_prefix.mp starts
    exact ha e mem part
  rw [none]

def senderChange (data : Json) (clientId : Int) : List (List Step × Json) :=
  if (prop (data.get? "data") "sender").isSome then [(senderPath, ofInt clientId)] else []

theorem override_replyChanges_rewritten (data : Json) (clientId : Int) :
    override (replyChanges data clientId) (rewriteRuntimeClientIdData data clientId).reads =
      override (replyChanges data clientId) (override (senderChange data clientId) data.reads) := by
  have changes : identityChanges data clientId =
    runtimeIdChange data clientId ++ senderChange data clientId := rfl
  rw [reads_rewriteRuntime, changes, replyChanges, ← override_append (messageChange data),
    ← override_append (messageChange data), ← override_append (runtimeIdChange data clientId),
    override_override]

theorem override_senderChange_iff (data : Json) (clientId : Int) :
    override (senderChange data clientId) data.reads senderPath = data.reads senderPath ↔
      SenderKept data clientId := by
  have hf := follow_senderPath data
  unfold senderChange SenderKept
  cases hfo : prop (data.get? "data") "sender" with
  | none => simp [override_nil]
  | some sender =>
    rw [hfo] at hf
    rw [isSome_some, if_pos rfl, override_cons, if_pos prefix_rfl, if_pos rfl, reads, hf,
      map_some, some.injEq]
    constructor
    · intro hs _ hh
      cases hh
      cases sender with
      | num n => exact hs.symm
      | null | bool _ | str _ | arr _ | obj _ => cases hs
    · intro hk
      rw [hk sender rfl]
      rfl

theorem senderChange_same (h : SenderKept data cid) :
    override (senderChange data cid) data.reads = data.reads := by
  unfold senderChange
  split
  next own =>
    obtain ⟨sender, hf⟩ := isSome_iff_exists.mp own
    have hh : data.follow senderPath = some (ofInt cid) := by rw [follow_senderPath, hf, h sender hf]
    exact override_same hh (isLeaf_ofInt cid)
  · rfl

theorem cached_preserved_iff (data : Json) (clientId : Int) :
    Preserved data (normalizeRawResponse (rewriteRuntimeClientIdData data clientId) clientId)
      clientId ↔
      PayloadKept data ∧ SenderKept data clientId := by
  have made := preserved_iff (rewriteRuntimeClientIdData data clientId) clientId
  rw [payloadKept_rewriteRuntime, Preserved, replyChanges_rewriteRuntime,
    override_replyChanges_rewritten] at made
  constructor
  · intro hpr
    have kept : PayloadKept data := by
      intro inner hf ht
      by_contra hp
      rw [Bool.not_eq_true] at hp
      have hr : innerData (rewriteRuntimeClientIdData data clientId) =
          some (setOwn "client_id" (ofInt clientId) inner) := by
        rw [innerData_rewriteRuntime, hf, map_some]
      have hc := (reads_dataPath_of_not_object hr (by rwa [truthy_setOwn]) (by rwa [isObject_setOwn])
        clientId).1
      have none : replyChanges data clientId = [] :=
        replyChanges_of_not_object (fun o hh => by cases hf.symm.trans hh; exact hp) clientId
      rw [hpr, none, override_nil] at hc
      exact (reads_dataPath_of_not_object hf ht hp clientId).2 hc
    refine ⟨kept, (override_senderChange_iff data clientId).mp ?_⟩
    have both := congrFun ((made.mpr kept).symm.trans hpr) senderPath
    rwa [override_replyChanges_senderPath, override_replyChanges_senderPath] at both
  · rintro ⟨kept, hs⟩
    rw [Preserved, made.mpr kept, senderChange_same hs]

namespace Host
variable {h : Host} {msg : Json} {nty : String} {note : MemoizedNotification}

theorem withReply_cached {ty : String} {id : SafeInteger}
    (hco : h.registry.controls.has control = true)
    (hk : (h.registry.appClients.has cid || h.registry.usbClients.has cid) = true)
    (hr : messageId msg = some id) (ha : getCustomizedType msg = some ty)
    (hm : MemoizedQueryTable.notificationTypeOf ty = some nty)
    (hf : h.traffic.memo.notifications.get? (cid, nty) = some note)
    (hv : h.traffic.clock - note.receivedAt ≤ h.traffic.memo.validityPeriodMs) (rpc : Nat)
    (fails : Bool) :
    h.outputs (.sendMessageWithReply control rpc cid msg fails) =
      [.settled control h.traffic.nextPromise (.ok (normalizeRawResponse note.parsedValue cid))] := by
  have hh : h.outputs (.sendMessageWithReply control rpc cid msg fails) =
      (h.traffic.sendMessageWithReply h.registry control rpc cid msg fails).2 :=
    congrArg Prod.snd (if_pos hco)
  obtain ⟨pl, hhe, -⟩ := map_eq_some_iff.mp hr
  rw [← customizedType_clone] at ha
  have hd : (OutboundMessage.value msg).decode = some (cloneJsonValue msg) := rfl
  have hc := toRuntime_cached (t := { h.traffic with nextPromise := h.traffic.nextPromise + 1 })
    hk hd ha hm hf hv ⟨.control control, some h.traffic.nextPromise⟩ fails
  rw [hh, sendMessageWithReply, hhe]
  dsimp only
  rw [hc]
  rfl

end Host

end DebugRouter.Daemon
