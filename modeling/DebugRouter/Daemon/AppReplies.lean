import DebugRouter.Daemon.Replies
import DebugRouter.Native.AppActions

/-!
App requests through both sides. The Host sends the request with a global id in its inner message;
the runtime reads it as an object, answers with the text of one, and the id in that text claims the
route.
-/
namespace DebugRouter.Daemon

open Library Native Option Json MemoizedQueryTable Traffic JsonText

structure AppRequest (data : Json) (originalId : SafeInteger) : Prop where
  type : getCustomizedType data = some "App"
  message : ∃ message method params, rawMessage data = some message ∧
    message.get? "method" = some (.str method) ∧
    message.get? "params" = some (.obj params) ∧ getValidMessageId message = some originalId

variable {data msg : Json} {oid : SafeInteger}

theorem routablePayload_of_object (raw : rawMessage data = some msg)
    (hv : getValidMessageId msg = some oid) :
    getRoutableCustomizedPayload data = some (⟨msg, false⟩, oid) := by
  obtain ⟨cont, hi, hf⟩ := bind_eq_some_iff.mp raw
  have ho := isObject_of_messageId hv
  have ht := truthy_of_get? hf
  have hp : parseInner msg = (msg, false) := by
    cases msg with
    | obj fields => rfl
    | null | bool _ | num _ | str _ | arr _ => cases ho
  have hr := isReference_of_isObject ho
  simp [getRoutableCustomizedPayload, getCustomizedPayload, hi, ht, hasOwn, hf, hp, hr, hv]

def outboundApp (data message : Json) (clientId : Int) (globalMessageId : Nat) : Json :=
  writeMessageId (rewriteClientId data clientId) ⟨message, false⟩ globalMessageId

theorem toRuntime_app {r : Registry} {t : Traffic} {cid : Int} {request : OutboundMessage}
    (hk : (r.appClients.has cid || r.usbClients.has cid) = true) (hd : request.decode = some data)
    (ht : getCustomizedType data = some "App") (raw : rawMessage data = some msg)
    (hv : getValidMessageId msg = some oid) (target : Target) :
    t.sendMessageToRuntime r cid request target false =
      ⟨{ t with routes := (t.routes.add ⟨target.requester, cid, oid, target.promise⟩).1 },
        [.runtime cid (outboundApp data msg (if r.appClients.has cid then cid else -1)
          t.routes.nextGlobalMessageId)], none⟩ := by
  have hc : isLegacyHandshake data = false := by
    simp [isLegacyHandshake, (messageType_of_customized ht).2]
  have hp : ∀ id : Int,
      t.memo.query t.clock cid (rewriteClientId data id) = (t.memo, .notMemoized) := by
    intro id
    simp [query, customizedType_rewriteId, ht,
      notificationTypeOf, definitions]
  have hr : ∀ id : Int,
      getRoutableCustomizedPayload (rewriteClientId data id) = some (⟨msg, false⟩, oid) :=
    fun id => routablePayload_of_object ((rawMessage_rewriteId data id).trans raw) hv
  unfold sendMessageToRuntime
  dsimp only
  rw [if_pos hk, hd]
  dsimp only
  rw [hc, hp]
  simp [forward, rewriteOutboundMessageData, hr, outboundApp, PendingRouteTable.add]

theorem outboundApp_fields (hty : getCustomizedType data = some "App")
    (raw : rawMessage data = some msg)
    (hv : getValidMessageId msg = some oid) (cid : Int) (gid : Nat) :
    ∃ outer cont inner,
      (outboundApp data msg cid gid).get? "event" = some (.str "Customized") ∧
      (outboundApp data msg cid gid).get? "data" = some outer ∧
      outer.get? "type" = some (.str "App") ∧ outer.get? "data" = some cont ∧
      cont.get? "message" = some inner ∧ inner.get? "id" = some (ofInt gid) := by
  rw [← customizedType_rewriteId data cid] at hty
  rw [← rawMessage_rewriteId data cid] at raw
  unfold outboundApp
  generalize rewriteClientId data cid = data at hty raw
  obtain ⟨event, ht⟩ := messageType_of_customized hty
  obtain ⟨outer, hf, ht⟩ := bind_eq_some_iff.mp ht
  obtain ⟨cont, inner, hh⟩ := bind_eq_some_iff.mp raw
  obtain ⟨_, ha, inner⟩ := bind_eq_some_iff.mp inner
  cases hf.symm.trans ha
  have object := isObject_of_messageId hv
  let sent := msg.setField "id" (ofInt gid)
  refine ⟨outer.setField "data" (cont.setField "message" sent), cont.setField "message" sent, sent,
    ?_, ?_, ?_, ?_, ?_, ?_⟩
  · rw [writeMessageId, get?_modifyAt, if_neg (by decide), event]
  · rw [writeMessageId, get?_modifyAt, if_pos rfl, hf]
    simp [modifyAt, inner, CustomizedPayload.encode, sent]
  · rw [get?_setField (isObject_of_get? inner), if_neg (by decide)]
    exact ht
  · rw [get?_setField (isObject_of_get? inner), if_pos rfl]
  · rw [get?_setField (isObject_of_get? hh), if_pos rfl]
  · rw [get?_setField object, if_pos rfl]

theorem asInt?_ofInt {n id : Int} (hs : n.natAbs ≤ 2 ^ 53) (hr : asInt? (ofInt n) = some id) :
    id = n ∧ n.natAbs < 2 ^ 53 := by
  simp only [asInt?, ofInt, JsNumber.toInt?_ofInt hs, filter_some, decide_eq_true_eq] at hr
  split at hr
  next hb => exact ⟨(some.inj hr).symm, by omega⟩
  · cases hr

variable {reply : Outgoing}

theorem answered_globalMessageId {cpp : JsonCpp} {p p' : Processor} {handler : MessageHandler}
    {calls : List HandlerCall} {globalMessageId : Nat} {clientId : Int}
    (hsm : globalMessageId ≤ 2 ^ 53) (hty : getCustomizedType data = some "App")
    (raw : rawMessage data = some message)
    (hv : getValidMessageId message = some originalId)
    (hre : cpp.Reads (outboundApp data message clientId globalMessageId))
    (hpr : p.process cpp (some handler) (Utf8.encode
      (stringify (outboundApp data message clientId globalMessageId)).toList) = .ok (p', calls))
    (hse : .sendMessage reply ∈ calls) :
    (globalMessageId : Int).natAbs < 2 ^ 53 ∧ AppAnswer p.clientId globalMessageId reply := by
  obtain ⟨root, hpa, ha⟩ := hre
  obtain ⟨outer, container, inner, he, hf, ht, hp, hh, hna⟩ :=
    outboundApp_fields hty raw hv clientId globalMessageId
  obtain ⟨event', he, hl⟩ := ha.get? he
  obtain rfl := hl.str
  obtain ⟨outer', hf, ha⟩ := ha.get? hf
  obtain ⟨type', ht, hl⟩ := ha.get? ht
  obtain rfl := hl.str
  obtain ⟨container', hp, ha⟩ := ha.get? hp
  obtain ⟨inner', hh, ha⟩ := ha.get? hh
  obtain ⟨number, hn, hl⟩ := ha.get? hna
  have object : inner'.isObject = true := isObject_of_get? hn
  have same : number = ofInt globalMessageId := hl.ofInt (by omega)
  simp only [Processor.process, hpa] at hpr
  obtain ⟨id, hr, han⟩ := processRoot_answers he hf ht hp hh object hpr hse
  rw [field_of_get? hn, same] at hr
  obtain ⟨rfl, hs⟩ := asInt?_ofInt (by omega) hr
  exact ⟨hs, han⟩

theorem payload_of_answer {s : Scribe} (hw : s.cpp.Writes) {cid : Option UInt32} {id : Int}
    (ha : AppAnswer cid id reply) (hsa : id.natAbs < 2 ^ 53) :
    ∃ text msg, s.stringify reply = .ok text ∧
      getCustomizedPayload (parseJsonMessageOrNull text) = some ⟨msg, true⟩ ∧
      msg.isObject = true ∧ getValidMessageId msg = some ⟨id, hsa⟩ := by
  obtain ⟨text, root, outer, cont, inner, msg, number, hs, hp, hf, hpa, hh, hr, hn, hl⟩ := ha.read hw
  rw [hl.ofInt hsa.le] at hn
  have ho := isObject_of_get? hn
  have truthy := truthy_of_get? hh
  have reference := isReference_of_isObject ho
  refine ⟨text, msg, hs, ?_, ho, validId_ofInt ⟨id, hsa⟩ hn⟩
  simp [getCustomizedPayload, parseJsonMessageOrNull, hp, innerData, prop, hf, hpa, truthy, hasOwn,
    hh, parseInner, hr, reference]

namespace Host

/-- An App request that a runtime answers: the text of the answer has an inner message with the
global id of the request, and while the route is live the requester gets a reply with the id it had
sent. -/
theorem app_reply_correlates {s : Scribe} (writes : s.cpp.Writes) (enableWebSocket : Bool)
    (acts : List HostAct)
    (clientId : Int) {request : OutboundMessage} (decoded : request.decode = some data)
    (app : AppRequest data originalId) (target : Target) :
    let h := acts.foldl step (initial enableWebSocket)
    let globalMessageId := h.traffic.routes.nextGlobalMessageId
    let route : PendingRoute := ⟨target.requester, clientId, originalId, target.promise⟩
    let sent := h.traffic.sendMessageToRuntime h.registry clientId request target false
    (h.registry.appClients.has clientId || h.registry.usbClients.has clientId) = true →
    ∃ out, sent.outputs = [.runtime clientId out] ∧ sent.error = none ∧
      sent.traffic.routes.get globalMessageId = some route ∧
      ∀ (p p' : Processor) (handler : MessageHandler) (calls : List HandlerCall) (reply : Outgoing),
        s.cpp.Reads out →
        p.process s.cpp (some handler) (Utf8.encode (stringify out).toList) = .ok (p', calls) →
        .sendMessage reply ∈ calls →
        ∃ text payload id, s.stringify reply = .ok text ∧
          getCustomizedPayload (parseJsonMessageOrNull text) = some payload ∧
            payload.message.isObject = true ∧
          getValidMessageId payload.message = some id ∧ id.1 = globalMessageId ∧
          ∀ (enableWebSocket : Bool) (acts : List HostAct) (source : MessageSource),
            let h := acts.foldl step (initial enableWebSocket)
            h.traffic.routes.get globalMessageId = some route →
            ∃ o, (h.traffic.handleRuntimeMessage h.registry clientId text source).2 = [o] ∧
              route.Delivers o := by
  intro h globalMessageId route sent hk
  have hi : h.Isolated := invariant_foldl isolated_step (isolated_initial enableWebSocket) acts
  obtain ⟨message, method, params, raw, -, -, hv⟩ := app.message
  have hf : sent = _ := toRuntime_app hk decoded app.type raw hv target
  have small : globalMessageId ≤ 2 ^ 53 := by
    have hco := hi.accounted.counted
    omega
  refine ⟨_, congrArg Sent.outputs hf, congrArg Sent.error hf, ?_, ?_⟩
  · rw [hf]
    exact OrderedMap.get?_set.trans (if_pos rfl)
  · intro p p' handler calls reply hr hp han
    obtain ⟨hs, ha⟩ := answered_globalMessageId small app.type raw hv hr hp han
    obtain ⟨text, inner, hst, hfo, ho, hn⟩ := payload_of_answer writes ha hs
    refine ⟨text, ⟨inner, true⟩, ⟨globalMessageId, hs⟩, hst, hfo, ho, hn, rfl, ?_⟩
    intro enableWebSocket acts source later hl
    have hi : later.Isolated := invariant_foldl isolated_step (isolated_initial enableWebSocket) acts
    have hc : messageId (parseJsonMessageOrNull text) = some ⟨globalMessageId, hs⟩ := by
      simp [messageId, getRoutableCustomizedPayload, hfo, hn]
    exact (claimed_delivered hi source hc rfl hl rfl).1

def appRequest : Json :=
  .obj [("event", .str "Customized"), ("data", .obj [("type", .str "App"), ("sender", ofInt 0),
    ("data", .obj [("client_id", ofInt 1),
      ("message", .obj [("id", ofInt 7), ("method", .str "openPage"), ("params", .obj [])])])])]

theorem openPage_reply_correlates :
    let h := connecting.foldl step (initial false)
    let asked :=
      (connecting ++ [HostAct.sendMessageWithReply 1 1 1 appRequest false]).foldl step
        (initial false)
    let runtime : Processor := ⟨some 1, false⟩
    let handler : MessageHandler := ⟨"", [], [], fun _ _ => "done"⟩
    ∃ out text, (h.traffic.sendMessageToRuntime h.registry 1 (.value appRequest)
      ⟨.control 1, some 0⟩ false).outputs =
        [.runtime 1 out] ∧
      runtime.process jsonText (some handler) (Utf8.encode (stringify out).toList) =
        .ok (runtime, [.sendMessage (.appResult 0 (some 1) "openPage" 1 "done")]) ∧
      Scribe.stringify ⟨jsonText, id, 0⟩ (.appResult 0 (some 1) "openPage" 1 "done") = .ok text ∧
      ∃ value, (asked.traffic.handleRuntimeMessage asked.registry 1 text .usbRuntime).2 =
        [.settled 1 0 (.ok value)] ∧
        messageId value = some ⟨7, by decide⟩ := by
  intro h asked runtime handler
  have read : (OutboundMessage.value appRequest).decode = some appRequest := by
    rw [OutboundMessage.decode, clone_eq]
    decide +kernel
  have app : AppRequest appRequest ⟨7, by decide⟩ := by
    refine ⟨rfl, _, _, _, rfl, rfl, rfl, validId_ofInt ⟨7, by decide⟩ rfl⟩
  have known : (h.registry.appClients.has 1 || h.registry.usbClients.has 1) = true := by
    decide +kernel
  have live : asked.traffic.routes.get 1 = some ⟨.control 1, 1, ⟨7, by decide⟩, some 0⟩ := by
    decide +kernel
  obtain ⟨out, ho, -, -, ha⟩ := app_reply_correlates (s := ⟨jsonText, id, 0⟩) jsonText_writes false
    connecting 1 read app ⟨.control 1, some 0⟩ known
  have same : out = outboundApp appRequest
      (.obj [("id", ofInt 7), ("method", .str "openPage"), ("params", .obj [])]) (-1) 1 := by
    have sent := toRuntime_app (t := h.traffic) known read app.type rfl
      (validId_ofInt ⟨7, by decide⟩ rfl) ⟨.control 1, some 0⟩
    rw [sent] at ho
    cases ho
    rfl
  have hp : runtime.process jsonText (some handler) (Utf8.encode (stringify out).toList) =
      .ok (runtime, [.sendMessage (.appResult 0 (some 1) "openPage" 1 "done")]) := by
    rw [Processor.process, jsonText_parse_stringify, same]
    decide +kernel
  obtain ⟨text, payload, id, hst, -, -, -, -, hde⟩ :=
    ha runtime runtime handler _ _ (jsonText_reads out) hp List.mem_cons_self
  obtain ⟨o, hse, value, rfl, hr⟩ := hde false _ .usbRuntime live
  exact ⟨out, text, ho, hp, hst, value, hse, hr⟩

end Host

end DebugRouter.Daemon
