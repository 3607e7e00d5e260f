import DebugRouter.Daemon.AppReplies
import DebugRouter.Daemon.InPlace
import DebugRouter.Library.JsonSteps

/-!
Ids on the way out and back. A forwarded message differs from the requester's in the inner id and in
a truthy `client_id`; the reply that is delivered differs from the runtime's in the inner id, and
for a Driver in the runtime's identity. Values are compared at every path, as their JSON text says
them.
-/
namespace DebugRouter.Daemon

open Library JsonText List Option Json

def dataPath : List Step := [.field "data", .field "data"]

def clientIdPath : List Step := dataPath ++ [.field "client_id"]

def senderPath : List Step := [.field "data", .field "sender"]

def messagePath : List Step := dataPath ++ [.field "message"]

def idPath : List Step := messagePath ++ [.field "id"]

/-- The text of `w` says at every path what the reading says. -/
def ReadsAs (w : Json) (reading : List Step → Option Json) : Prop :=
  ∀ path, w.reads path = (reading path).map written

/-- `w` is `v` with another inner id and with `changes`; the inner message keeps its form. -/
inductive IdReplaced (id : Int) (changes : List (List Step × Json)) (v w : Json) : Prop where
  | object {message : Json} (raw : v.follow messagePath = some message)
      (isObject : message.isObject = true)
      (reads : ReadsAs w (override ((idPath, ofInt id) :: changes) v.reads))
  | text {text text' : String} {inner inner' : Json} (raw : v.follow messagePath = some (.str text))
      (parsed : parse text = some inner) (parsed' : parse text' = some inner')
      (inner_reads : ReadsAs inner' (override [([.field "id"], ofInt id)] inner.reads))
      (reads : ReadsAs w (override ((messagePath, .str text') :: changes) v.reads))

def clientIdChange (data : Json) (clientId : Int) : List (List Step × Json) :=
  if isTruthy (prop (innerData data) "client_id") then [(clientIdPath, ofInt clientId)] else []

def identityChanges (data : Json) (clientId : Int) : List (List Step × Json) :=
  (if (prop (innerData data) "client_id").isSome then [(clientIdPath, ofInt clientId)] else []) ++
    if (prop (data.get? "data") "sender").isSome then [(senderPath, ofInt clientId)] else []

def OutboundMessage.Carries (input : Json) : OutboundMessage → Prop
  | .text message => parse message = some input
  | .value v => v = input

/- What the functions on values change -/

variable {d : Json}

theorem follow_dataPath (data : Json) : data.follow dataPath = innerData data := by
  unfold dataPath innerData prop
  rw [follow, step?]
  cases data.get? "data" with
  | none => rfl
  | some envelope =>
    rw [bind_some, bind_some, follow, step?]
    cases envelope.get? "data" <;> rfl

theorem follow_messagePath (data : Json) : data.follow messagePath = rawMessage data := by
  rw [messagePath, follow_append, follow_dataPath, rawMessage, prop]
  cases innerData data with
  | none => rfl
  | some cont =>
    rw [bind_some, bind_some, follow, step?]
    cases cont.get? "message" <;> rfl

theorem isLeaf_ofInt (n : Int) : (ofInt n).isLeaf = true := rfl

theorem reads_rewriteId (d : Json) (cid : Int) :
    (rewriteClientId d cid).reads = override (clientIdChange d cid) d.reads := by
  unfold rewriteClientId clientIdChange
  split
  next hn =>
    cases hi : innerData d with
    | none =>
      rw [hi] at hn
      cases hn
    | some cont =>
      have ho : cont.isObject = true := by
        rw [hi, prop, bind_some] at hn
        cases hf : cont.get? "client_id" with
        | none =>
          rw [hf] at hn
          cases hn
        | some old => exact isObject_of_get? hf
      exact reads_modifyAt ["data", "data"] ((follow_dataPath d).trans hi) ho "client_id"
        (isLeaf_ofInt cid)
  · rfl

theorem reads_setOwn (p : List String) (key : String) (n : Int) (d : Json) :
    (d.modifyAt p (setOwn key (ofInt n))).reads =
      override (if ((d.follow (p.map .field)).bind (get? key)).isSome then
        [(p.map .field ++ [.field key], ofInt n)] else []) d.reads := by
  cases hf : d.follow (p.map .field) with
  | none => exact reads_modifyAt_of_missing hf _
  | some inner =>
    rw [bind_some]
    cases own : inner.get? key with
    | none =>
      have same : (setOwn key (ofInt n) inner).reads = override [] inner.reads := by
        simp [setOwn, hasOwn, own, override_nil]
      exact reads_modifyAt_of hf same
    | some old =>
      have hw : (setOwn key (ofInt n) inner).reads =
          override [([.field key], ofInt n)] inner.reads := by
        rw [setOwn, hasOwn, own, isSome_some, if_pos rfl]
        exact reads_setField (isObject_of_get? own) key (isLeaf_ofInt n)
      exact reads_modifyAt_of hf hw

theorem reads_rewriteRuntime (data : Json) (cid : Int) :
    (rewriteRuntimeClientIdData data cid).reads = override (identityChanges data cid) data.reads := by
  have first := reads_setOwn ["data"] "sender" cid data
  have hse :=
    reads_setOwn ["data", "data"] "client_id" cid
      (data.modifyAt ["data"] (setOwn "sender" (ofInt cid)))
  have hs : (data.follow (["data"].map .field)).bind (get? "sender") =
      prop (data.get? "data") "sender" := by
    rw [map_singleton, follow, step?, prop]
    cases data.get? "data" <;> rfl
  have hi : (data.modifyAt ["data"] (setOwn "sender" (ofInt cid))).follow
      (["data", "data"].map .field) =
      innerData data := by
    rw [show ["data", "data"].map Step.field = dataPath from rfl, follow_dataPath, innerData,
      innerData, prop, prop, get?_modifyAt, if_pos rfl]
    cases data.get? "data" with
    | none => rfl
    | some envelope => exact get?_setOwn envelope _ (by decide)
  rw [hs] at first
  rw [hi, first, override_append] at hse
  exact hse

variable {pl : CustomizedPayload} {old : SafeInteger} {v w : Json}

theorem idReplaced_writeMessageId (hr : getRoutableCustomizedPayload d = some (pl, old)) (id : Int)
    (changes : List (List Step × Json)) (hb : d.reads = override changes v.reads)
    (raw : rawMessage v = rawMessage d)
    (later : List (List Step × Json)) (ha : ∀ e ∈ later, e.1 = clientIdPath ∨ e.1 = senderPath)
    (ht : ReadsAs w (override later (writeMessageId d pl id).reads)) :
    IdReplaced id (later ++ changes) v w := by
  simp only [getRoutableCustomizedPayload, bind_eq_bind, bind_eq_some_iff, some.injEq,
    Prod.mk.injEq] at hr
  obtain ⟨pl, hhf, _, hv, rfl, rfl⟩ := hr
  obtain ⟨outer, container, message, h1, h2, h3, hp⟩ := payload_inner hhf
  have ho := isObject_of_messageId hv
  have inner : innerData d = some container := by rw [innerData, prop, h1, bind_some, h2]
  have hh : rawMessage d = some message := by rw [rawMessage, prop, inner, bind_some, h3]
  have hc := isObject_of_get? h3
  have hfo : v.follow messagePath = some message := by rw [follow_messagePath, raw, hh]
  have hho : ∀ e ∈ later, ¬ e.1 <+: messagePath ∧ ¬ messagePath <+: e.1 := by
    intro e mem
    rcases ha e mem with same | same <;> rw [same] <;> decide
  have off_id : ∀ e ∈ later, ¬ e.1 <+: idPath ∧ ¬ idPath <+: e.1 := by
    intro e mem
    rcases ha e mem with same | same <;> rw [same] <;> decide
  cases hf : pl.messageWasString with
  | false =>
    have same : message = pl.message := by
      rw [hf] at hp
      cases message with
      | str t => cases congrArg Prod.snd hp
      | null | bool _ | num _ | arr _ | obj _ => exact congrArg Prod.fst hp
    have value : writeMessageId d pl id =
        d.modifyAt ["data", "data", "message"] (·.setField "id" (ofInt id)) := by
      simp [writeMessageId, modifyAt, h1, h2, h3, same, CustomizedPayload.encode, hf]
    have reads : (writeMessageId d pl id).reads = override [(idPath, ofInt id)] d.reads := by
      rw [value]
      exact reads_modifyAt ["data", "data", "message"] ((follow_messagePath d).trans hh) (same ▸ ho)
        "id"
        (isLeaf_ofInt id)
    refine .object hfo (same ▸ ho) fun p => ?_
    rw [ht, reads, hb, override_append, override_append, append_assoc, singleton_append,
      override_move off_id]
  | true =>
    cases message with
    | str src =>
      have hin : parse src = some pl.message := by
        have first : parseJsonMessageOrNull src = pl.message := congrArg Prod.fst hp
        unfold parseJsonMessageOrNull at first
        cases hp : parse src with
        | some value =>
          rw [hp] at first
          exact congrArg some first
        | none =>
          rw [hp] at first
          rw [← first] at ho
          cases ho
      have reads : (writeMessageId d pl id).reads =
          override [(messagePath, .str (stringify (pl.message.setField "id" (ofInt id))))]
            d.reads := by
        rw [writeMessageId, CustomizedPayload.encode, hf]
        exact reads_modifyAt ["data", "data"] ((follow_dataPath d).trans inner) hc "message" rfl
      refine .text hfo hin (parse_stringify (pl.message.setField "id" (ofInt id))) (fun p => ?_)
        fun p => ?_
      · rw [reads_normalize, reads_setField ho "id" (isLeaf_ofInt id)]
      · rw [ht, reads, hb, override_append, override_append, append_assoc, singleton_append,
          override_move hho]
    | null | bool _ | num _ | arr _ | obj _ =>
      rw [hf] at hp
      cases congrArg Prod.snd hp

/- Out -/

theorem decode_carries {req : OutboundMessage} {input : Json} (h : req.Carries input) :
    ∃ d, req.decode = some d ∧ messageId d = messageId input ∧
      (∀ p, (d.reads p).map Json.written = (input.reads p).map Json.written) ∧ d.Keyed := by
  cases req with
  | text msg => exact ⟨input, h, rfl, fun _ => rfl, keyed_parse h⟩
  | value v =>
    obtain rfl : v = input := h
    refine ⟨cloneJsonValue v, rfl, messageId_clone v, fun p => ?_, ?_⟩
    · rw [clone_eq, Json.reads_normalize, Option.map_map]
      congr 1
      funext u
      exact Json.written_written u
    · rw [clone_eq]
      exact Json.keyed_normalize v

theorem IdReplaced.of_same {id : Int} {changes : List (List Step × Json)} {v' : Json}
    (hs : ∀ p, (v.reads p).map written = (v'.reads p).map written)
    (hre : IdReplaced id changes v w) : IdReplaced id changes v' w := by
  have face : ∀ {p x}, v.follow p = some x →
      ∃ y, v'.follow p = some y ∧ y.top.written = x.top.written := by
    intro p x hfo
    have hh := hs p
    rw [reads, reads, hfo] at hh
    obtain ⟨_, hr, top⟩ := map_eq_some_iff.mp hh.symm
    obtain ⟨y, ht, rfl⟩ := map_eq_some_iff.mp hr
    exact ⟨y, ht, top⟩
  cases hre with
  | object raw his reads =>
    obtain ⟨y, raw', top⟩ := face raw
    have object : y.isObject = true := by
      rw [← isObject_written_top, top, isObject_written_top]
      exact his
    exact .object raw' object fun p => (reads p).trans (map_written_override _ hs p)
  | text raw hp hp' hi reads =>
    obtain ⟨y, raw', top⟩ := face raw
    rw [written_top_eq_str top] at raw'
    exact .text raw' hp hp' hi fun p => (reads p).trans (map_written_override _ hs p)

namespace Traffic
variable {r : Registry} {t : Traffic} {cid : Int} {req : OutboundMessage} {tgt : Target}
variable {fails : Bool}
  {out : Json}

theorem runtime_not_mem_toTargetDriver (tgt : Target) (id : Int) (msg : String) (val : Json) :
    .runtime cid out ∉ (t.sendMessageToTargetDriver r tgt id msg val).2 := by
  unfold sendMessageToTargetDriver
  split
  · simp [settle]
  · simp only [Registry.sendToControl]
    split <;> simp
  · simp only [Registry.sendMessageToWebClient]
    split <;> simp

theorem forwarded (mem : .runtime cid out ∈ (t.sendMessageToRuntime r cid req tgt fails).outputs) :
    ∃ d memo ty, req.decode = some d ∧
      t.sendMessageToRuntime r cid req tgt fails =
        { t with memo := memo }.forward (rewriteClientId d (if r.appClients.has cid then cid else -1))
          cid tgt ty false := by
  unfold sendMessageToRuntime at mem ⊢
  dsimp only at mem ⊢
  split at mem
  next hk =>
    rw [if_pos hk]
    cases hd : req.decode with
    | none =>
      rw [hd] at mem
      cases mem
    | some d =>
      rw [hd] at mem
      dsimp only at mem ⊢
      split at mem
      · cases mem
      next hc =>
        rw [if_neg hc]
        have sent : ∀ memo ty, .runtime cid out ∈ ({ t with memo := memo }.forward
            (rewriteClientId d (if r.appClients.has cid then cid else -1)) cid tgt ty
              fails).outputs → fails = false := by
          intro memo ty mem
          unfold forward at mem
          cases fails with
          | false => rfl
          | true => cases mem
        split at mem
        · exact absurd mem (runtime_not_mem_toTargetDriver _ _ _ _)
        · cases mem
        · obtain rfl := sent _ _ mem
          exact ⟨d, _, none, rfl, rfl⟩
        · obtain rfl := sent _ _ mem
          exact ⟨d, _, _, rfl, rfl⟩
  · cases mem

variable {oid : SafeInteger}

theorem forwarded_with_id
    (mem : .runtime cid out ∈ (t.sendMessageToRuntime r cid req tgt fails).outputs)
    (hn : ∀ d, req.decode = some d → messageId d = some oid) :
    ∃ d pl, req.decode = some d ∧
      getRoutableCustomizedPayload
        (rewriteClientId d (if r.appClients.has cid then cid else -1)) = some (pl, oid) ∧
      out = writeMessageId (rewriteClientId d (if r.appClients.has cid then cid else -1)) pl
        t.routes.nextGlobalMessageId ∧
      (t.sendMessageToRuntime r cid req tgt fails).traffic.routes.get t.routes.nextGlobalMessageId =
        some ⟨tgt.requester, cid, oid, tgt.promise⟩ := by
  obtain ⟨d, memo, ty, hd, hs⟩ := forwarded mem
  have id := hn d hd
  rw [← messageId_rewriteId d (if r.appClients.has cid then cid else -1), messageId,
    map_eq_some_iff] at id
  obtain ⟨⟨pl, _⟩, hr, rfl⟩ := id
  rw [hs] at mem ⊢
  refine ⟨d, pl, hd, hr, ?_, ?_⟩
  · simp only [forward, rewriteOutboundMessageData, hr, Bool.false_eq_true, if_false, mem_singleton,
      Output.runtime.injEq, true_and] at mem
    exact mem
  · simp only [forward, rewriteOutboundMessageData, hr, Bool.false_eq_true, if_false]
    exact OrderedMap.get?_set.trans (if_pos rfl)

theorem claimed {text : String} {answer : Json} {id : SafeInteger} {globalMessageId : Nat}
    {route : PendingRoute} (source : MessageSource) (hpa : parse text = some answer)
    (hna : messageId answer = some id) (hs : id.1 = globalMessageId)
    (hl : t.routes.get globalMessageId = some route) (hf : route.clientId = cid)
    (ho : route.originalId = oid) :
    ∃ payload, getRoutableCustomizedPayload answer = some (payload, id) ∧
      t.handleRuntimeMessage r cid text source =
        { t with routes := t.routes.remove globalMessageId .reply }.deliverReply r route
          (writeMessageId answer payload oid.1) source := by
  rw [messageId, map_eq_some_iff] at hna
  obtain ⟨⟨payload, found⟩, hr, hh⟩ := hna
  rw [show found = id from hh] at hr
  have above : 0 ≤ id.1 := by omega
  have hn : id.1.toNat = globalMessageId := by omega
  have found : t.routeOf id = some route := by rw [routeOf, if_pos above, hn, hl]
  refine ⟨payload, hr, ?_⟩
  simp only [handleRuntimeMessage, parseJsonMessageOrNull, hpa, getD_some, hr, found, if_pos hf, hn,
    ho]

end Traffic

theorem identityChanges_writeMessageId (h : getRoutableCustomizedPayload d = some (pl, old))
    (id clientId : Int) :
    identityChanges (writeMessageId d pl id) clientId = identityChanges d clientId := by
  simp only [getRoutableCustomizedPayload, bind_eq_bind, bind_eq_some_iff, some.injEq,
    Prod.mk.injEq] at h
  obtain ⟨pl, hf, _, hv, rfl, rfl⟩ := h
  obtain ⟨outer, container, message, h1, h2, h3, -⟩ := payload_inner hf
  have inside : prop (innerData (writeMessageId d pl id)) "client_id" =
      prop (innerData d) "client_id" := by
    simp [innerData, prop, writeMessageId, get?_modifyAt, h1, h2, get?_setField (isObject_of_get? h3)]
  have ho : prop ((writeMessageId d pl id).get? "data") "sender" = prop (d.get? "data") "sender" := by
    simp [prop, writeMessageId, get?_modifyAt, h1]
  rw [identityChanges, identityChanges, inside, ho]

namespace InPlace

/-- A message on its way out, in memory: read into new objects, then written to. -/
def prepareOutbound (cells : Cells) (data : Json) (transportId globalMessageId : Int) : Cells × Val :=
  let (cells, v) := cells.alloc data
  (replaceMessageId (rewriteClientId cells v transportId) v globalMessageId, v)

theorem owns_prepareOutbound {cs : Cells} (hs : cs.Sound) (hk : d.Keyed) {transportId : Int}
    {pl : Daemon.CustomizedPayload} {oid : SafeInteger}
    (hr : getRoutableCustomizedPayload (Daemon.rewriteClientId d transportId) = some (pl, oid))
    (gid : Int) :
    Cells.Owns cs (prepareOutbound cs d transportId gid).1 (prepareOutbound cs d transportId gid).2
      (Daemon.writeMessageId (Daemon.rewriteClientId d transportId) pl gid) := by
  have owns := owns_replaceMessageId (owns_rewriteId (Cells.owns_alloc hs hk) transportId) gid
  rw [hr] at owns
  exact owns

end InPlace

namespace Host

/-- A message with an inner id that is forwarded to a runtime, and the runtime's answer while the
route is live. -/
theorem ids_replaced_and_restored (enableWebSocket : Bool) (acts : List HostAct) (clientId : Int)
    (request : OutboundMessage) (target : Target) (sendFails : Bool) {input : Json}
    (carries : request.Carries input)
    {originalId : SafeInteger} (named : messageId input = some originalId) :
    let h := acts.foldl step (initial enableWebSocket)
    let globalMessageId := h.traffic.routes.nextGlobalMessageId
    let transportId := if h.registry.appClients.has clientId then clientId else -1
    let sent := h.traffic.sendMessageToRuntime h.registry clientId request target sendFails
    let route : PendingRoute := ⟨target.requester, clientId, originalId, target.promise⟩
    ∀ out, .runtime clientId out ∈ sent.outputs →
      (h.traffic.routes.opened.length < 2 ^ 53 → globalMessageId ∉ h.traffic.routes.opened) ∧
      sent.traffic.routes.get globalMessageId = some route ∧
      (∃ data value, request.decode = some data ∧ parse (stringify out) = some value ∧
        IdReplaced globalMessageId (clientIdChange data transportId) input value ∧
        ∀ cells : Cells, cells.Sound → Cells.Owns cells
          (InPlace.prepareOutbound cells data transportId globalMessageId).1
          (InPlace.prepareOutbound cells data transportId globalMessageId).2 out) ∧
      ∀ (t : Traffic) (r : Registry) (source : MessageSource) (text : String) (answer : Json)
        (id : SafeInteger),
        t.routes.get globalMessageId = some route → parse text = some answer →
          messageId answer = some id →
        id.1 = globalMessageId →
        (∀ control, target = ⟨.control control, none⟩ → ∃ reply value,
          (t.handleRuntimeMessage r clientId text source).2 =
            r.sendToControl control (.clientMessage source clientId reply) ∧
          parse reply = some value ∧ IdReplaced originalId.1 [] answer value) ∧
        ∀ driver promise, target = ⟨.webSocket driver, promise⟩ → ∃ reply value,
          (t.handleRuntimeMessage r clientId text source).2 = r.sendMessageToWebClient driver reply ∧
          parse reply = some value ∧
            IdReplaced originalId.1 (identityChanges answer clientId) answer value := by
  intro h globalMessageId transportId sent route out mem
  have alone : h.Isolated := invariant_foldl isolated_step (isolated_initial enableWebSocket) acts
  obtain ⟨data, hd, hs, hsa, hk⟩ := decode_carries carries
  have known : ∀ data', request.decode = some data' → messageId data' = some originalId := by
    intro data' ha
    rw [hd] at ha
    cases ha
    rw [hs, named]
  obtain ⟨data', payload, ha, hr, hw, ho⟩ := Traffic.forwarded_with_id mem known
  rw [hd] at ha
  cases ha
  refine ⟨?_, ho, ?_, ?_⟩
  · intro few listed
    rw [(alone.accounted.parted few).1, mem_range'_1] at listed
    have hc : globalMessageId = _ := alone.accounted.counted
    omega
  · have hre : IdReplaced globalMessageId (clientIdChange data transportId) data out.normalize := by
      refine idReplaced_writeMessageId hr globalMessageId _ (reads_rewriteId data transportId)
        (rawMessage_rewriteId data transportId).symm [] nofun fun path => ?_
      rw [reads_normalize, hw]
      rfl
    refine ⟨data, out.normalize, hd, parse_stringify out, hre.of_same hsa, fun cells hso => ?_⟩
    rw [hw]
    exact InPlace.owns_prepareOutbound hso hk hr globalMessageId
  · intro t r source text answer id hl hp han hn
    obtain ⟨payload, hr, hh⟩ := Traffic.claimed (r := r) source hp han hn hl rfl rfl
    constructor
    · rintro control rfl
      refine ⟨_, _, by rw [hh]; rfl, parse_stringify _, ?_⟩
      refine idReplaced_writeMessageId hr originalId.1 [] rfl rfl [] nofun fun path => ?_
      rw [reads_normalize]
      rfl
    · rintro driver promise rfl
      refine ⟨_, _, by rw [hh]; rfl, parse_stringify _, ?_⟩
      have hre := idReplaced_writeMessageId (w := (rewriteRuntimeClientIdData
        (writeMessageId answer payload originalId.1) clientId).normalize) hr originalId.1 [] rfl rfl
        (identityChanges answer clientId) ?_ ?_
      · rw [append_nil] at hre
        exact hre
      · intro e listed
        simp only [identityChanges, mem_append] at listed
        rcases listed with listed | listed
        · split at listed
          · exact .inl (congrArg Prod.fst (mem_singleton.mp listed))
          · cases listed
        · split at listed
          · exact .inr (congrArg Prod.fst (mem_singleton.mp listed))
          · cases listed
      · intro path
        rw [reads_normalize, reads_rewriteRuntime, identityChanges_writeMessageId hr]

theorem openPage_id_replaced :
    let h := connecting.foldl step (initial false)
    ∃ out value, .runtime 1 out ∈
        (h.traffic.sendMessageToRuntime h.registry 1 (.value appRequest) ⟨.control 1, none⟩
          false).outputs ∧
      parse (stringify out) = some value ∧
        IdReplaced 1 [(clientIdPath, ofInt (-1))] appRequest value := by
  intro h
  have known : (h.registry.appClients.has 1 || h.registry.usbClients.has 1) = true := by
    decide +kernel
  have read : (OutboundMessage.value appRequest).decode = some appRequest := by
    rw [OutboundMessage.decode, clone_eq]
    decide +kernel
  have named : messageId appRequest = some ⟨7, by decide⟩ := by decide +kernel
  have sent := toRuntime_app (t := h.traffic) known read rfl rfl
    (validId_ofInt ⟨7, by decide⟩ rfl) ⟨.control 1, none⟩
  have hs := congrArg Sent.outputs sent
  dsimp only at hs
  have mem := mem_singleton_self (Output.runtime 1 (outboundApp appRequest
    (.obj [("id", ofInt 7), ("method", .str "openPage"), ("params", .obj [])])
    (if h.registry.appClients.has 1 then 1 else -1) h.traffic.routes.nextGlobalMessageId))
  rw [← hs] at mem
  obtain ⟨-, -, ⟨data, value, hr, hpa, hre, -⟩, -⟩ := ids_replaced_and_restored false connecting 1
    (.value appRequest) ⟨.control 1, none⟩ false rfl named _ mem
  rw [read] at hr
  cases hr
  have number : h.traffic.routes.nextGlobalMessageId = 1 := by decide +kernel
  have onUsb : h.registry.appClients.has 1 = false := by decide +kernel
  have change : clientIdChange appRequest (-1) = [(clientIdPath, ofInt (-1))] := by decide +kernel
  have plain : IdReplaced h.traffic.routes.nextGlobalMessageId
      (clientIdChange appRequest (if h.registry.appClients.has 1 then 1 else -1)) appRequest value :=
    hre
  rw [number, onUsb, if_neg Bool.false_ne_true, change] at plain
  exact ⟨_, value, mem, hpa, plain⟩

/-- The number `1e999` of a request is read as an infinity and sent as null. -/
theorem huge_number_nulled :
    let h := connecting.foldl step (initial false)
    let text :=
      "\x7b\"event\":\"Customized\",\"data\":\x7b\"type\":\"App\",\"data\":\x7b\"message\":" ++
      "\x7b\"id\":7,\"method\":\"m\",\"params\":\x7b\x7d,\"limit\":1e999\x7d\x7d\x7d\x7d"
    ∃ input out value, parse text = some input ∧ messageId input = some ⟨7, by decide⟩ ∧
      (h.traffic.sendMessageToRuntime h.registry 1 (.text text) ⟨.control 1, none⟩ false).outputs =
        [.runtime 1 out] ∧
      parse (stringify out) = some value ∧
      input.reads (messagePath ++ [.field "limit"]) = some (.num (.infinite false)) ∧
      value.reads (messagePath ++ [.field "limit"]) = some .null := by
  intro h text
  let message : Json :=
    .obj [("id", ofInt 7), ("method", .str "m"), ("params", .obj []),
      ("limit", .num (.infinite false))]
  let input : Json :=
    .obj [("event", .str "Customized"),
      ("data", .obj [("type", .str "App"), ("data", .obj [("message", message)])])]
  have hp : parse text = some input := by decide +kernel
  have known : (h.registry.appClients.has 1 || h.registry.usbClients.has 1) = true := by
    decide +kernel
  have read : (OutboundMessage.text text).decode = some input := hp
  have sent := toRuntime_app (t := h.traffic) known read rfl rfl
    (validId_ofInt ⟨7, by decide⟩ rfl) ⟨.control 1, none⟩
  refine ⟨input, _, _, hp,
    by decide +kernel, congrArg Sent.outputs sent, parse_stringify _, by decide +kernel, ?_⟩
  rw [reads_normalize]
  decide +kernel

end Host

end DebugRouter.Daemon
