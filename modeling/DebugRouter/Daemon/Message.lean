import DebugRouter.Library.JsonRoundTrip

/-!
The messages the Host routes. A `Customized` message carries the payload of a runtime under
`data.data`; its inner `message` is an object or the JSON text of one, and the `id` in it
correlates a request with its reply.
-/
namespace DebugRouter.Daemon

open Library Option Json JsonText

/-- The numbers `Number.isSafeInteger` accepts. -/
abbrev SafeInteger := { n : Int // n.natAbs < 2 ^ 53 }

def parseJsonMessageOrNull (message : String) : Json := (parse message).getD .null

def innerData (data : Json) : Option Json := prop (data.get? "data") "data"

structure CustomizedPayload where
  message : Json
  messageWasString : Bool

def isReference : Json → Bool
  | .obj _ | .arr _ => true
  | _ => false

def parseInner : Json → Json × Bool
  | .str text => (parseJsonMessageOrNull text, true)
  | raw => (raw, false)

def getCustomizedPayload (data : Json) : Option CustomizedPayload := do
  let container ← innerData data
  if container.truthy && container.hasOwn "message" then
    let (message, messageWasString) := parseInner (← container.get? "message")
    if isReference message then some ⟨message, messageWasString⟩ else none
  else none

def getValidMessageId (message : Json) : Option SafeInteger := do
  let n ← (← message.get? "id").safeInteger?
  if safe : n.natAbs < 2 ^ 53 then some ⟨n, safe⟩ else none

def getRoutableCustomizedPayload (data : Json) : Option (CustomizedPayload × SafeInteger) := do
  let payload ← getCustomizedPayload data
  let id ← getValidMessageId payload.message
  some (payload, id)

def CustomizedPayload.encode (payload : CustomizedPayload) (message : Json) : Json :=
  if payload.messageWasString then .str (stringify message) else message

/-- `payload.message.id = id`, written back into the message. -/
def writeMessageId (data : Json) (payload : CustomizedPayload) (id : Int) : Json :=
  data.modifyAt ["data", "data"] fun container =>
    container.setField "message" (payload.encode (payload.message.setField "id" (ofInt id)))

def getCustomizedType (message : Json) : Option String :=
  if message.get? "event" = some (.str "Customized") then
    (prop (message.get? "data") "type").bind asString?
  else none

/-- `(...value)` in an object literal. Indices of strings are those of their characters. -/
def spread : Json → List (String × Json)
  | .obj fields => fields
  | .arr items => items.zipIdx.map fun item => (toString item.2, item.1)
  | .str text => text.toList.zipIdx.map fun c => (toString c.2, .str (String.singleton c.1))
  | _ => []

/-- `if (hasOwn(v, key)) v[key] = value`. -/
def setOwn (key : String) (value : Json) (v : Json) : Json :=
  if v.hasOwn key then v.setField key value else v

def stringifyMessage (payload : Json) : Json :=
  match payload.get? "message" with
  | none | some (.str _) => payload
  | some message => payload.setField "message" (.str (stringify message))

def normalizePayload (inner : Json) (clientId : Int) : Json :=
  stringifyMessage (setOwn "client_id" (ofInt clientId) (.obj (spread inner)))

def normalizeRawResponse (data : Json) (clientId : Int) : Json :=
  match innerData data with
  | some inner =>
    if inner.truthy then data.modifyAt ["data"] (·.setField "data" (normalizePayload inner clientId))
    else data
  | none => data

def rewriteRuntimeClientIdData (data : Json) (clientId : Int) : Json :=
  (data.modifyAt ["data"] (setOwn "sender" (ofInt clientId))).modifyAt ["data", "data"]
    (setOwn "client_id" (ofInt clientId))

/- The id of a message, read through the raw value of its inner `message`. -/

def messageId (data : Json) : Option SafeInteger := (getRoutableCustomizedPayload data).map Prod.snd

def rawMessage (data : Json) : Option Json := prop (innerData data) "message"

variable {msg data : Json} {id : SafeInteger} {pl : CustomizedPayload}

theorem validId_of_not_reference (h : isReference msg = false) : getValidMessageId msg = none := by
  cases msg with
  | obj fs | arr l => cases h
  | null | bool _ | num _ | str _ => rfl

theorem isReference_of_isObject (h : msg.isObject = true) : isReference msg = true := by
  cases msg with
  | obj fs => rfl
  | null | bool _ | num _ | str _ | arr _ => cases h

theorem messageId_eq (data : Json) :
    messageId data = (rawMessage data).bind fun raw => getValidMessageId (parseInner raw).1 := by
  unfold messageId getRoutableCustomizedPayload getCustomizedPayload rawMessage prop
  cases innerData data with
  | none => rfl
  | some cont =>
    cases hf : cont.get? "message" with
    | none => simp [hasOwn, hf]
    | some raw =>
      have truthy := truthy_of_get? hf
      cases hr : isReference (parseInner raw).1 with
      | false => simp [truthy, hasOwn, hf, hr, validId_of_not_reference hr]
      | true =>
        cases getValidMessageId (parseInner raw).1 <;> simp_all [hasOwn]

theorem validId_ofInt (n : SafeInteger)
    (h : msg.get? "id" = some (ofInt n.1)) : getValidMessageId msg = some n := by
  unfold getValidMessageId
  rw [h, bind_eq_bind, bind_some, safeInteger?_ofInt n.2, bind_eq_bind, bind_some, dif_pos n.2]

theorem validId_normalize (message : Json) :
    getValidMessageId message.normalize = getValidMessageId message := by
  unfold getValidMessageId
  rw [get?_normalize]
  cases message.get? "id" with
  | none => rfl
  | some id =>
    have hs : id.normalize.safeInteger? = id.safeInteger? := by
      cases id with
      | num n => cases n <;> rfl
      | null | bool _ | str _ | arr _ | obj _ => rfl
    simp [hs]

theorem parseInner_normalize (raw : Json) :
    getValidMessageId (parseInner raw.normalize).1 = getValidMessageId (parseInner raw).1 := by
  cases raw with
  | str text => rfl
  | num n => cases n <;> rfl
  | null | bool _ => rfl
  | arr l => rfl
  | obj fs => exact validId_normalize (.obj fs)

theorem rawMessage_normalize (data : Json) :
    rawMessage data.normalize = (rawMessage data).map normalize := by
  unfold rawMessage innerData prop
  rw [get?_normalize]
  cases data.get? "data" with
  | none => rfl
  | some outer =>
    simp only [map_some, bind_some, get?_normalize]
    cases outer.get? "data" with
    | none => rfl
    | some cont => simp [get?_normalize]

theorem messageId_normalize (data : Json) : messageId data.normalize = messageId data := by
  rw [messageId_eq, messageId_eq, rawMessage_normalize]
  cases rawMessage data with
  | none => rfl
  | some raw => exact parseInner_normalize raw

theorem messageId_text (data : Json) :
    messageId (parseJsonMessageOrNull (stringify data)) = messageId data := by
  unfold parseJsonMessageOrNull
  rw [parse_stringify]
  exact messageId_normalize data

theorem isObject_of_messageId (h : getValidMessageId msg = some id) : msg.isObject = true := by
  cases msg with
  | obj fs => rfl
  | null | bool _ | num _ | str _ | arr _ => cases h

theorem payload_inner
    (h : getCustomizedPayload data = some pl) :
    ∃ outer cont raw, data.get? "data" = some outer ∧ outer.get? "data" = some cont ∧
      cont.get? "message" = some raw ∧ parseInner raw = (pl.message, pl.messageWasString) := by
  unfold getCustomizedPayload innerData prop at h
  simp only [bind_eq_bind, bind_eq_some_iff] at h
  obtain ⟨cont, ⟨outer, h1, h2⟩, h⟩ := h
  split at h
  · simp only [bind_eq_some_iff] at h
    obtain ⟨raw, h3, h⟩ := h
    split at h
    · cases h
      exact ⟨outer, cont, raw, h1, h2, h3, rfl⟩
    · cases h
  · cases h

theorem messageId_writeMessageId {old : SafeInteger}
    (h : getRoutableCustomizedPayload data = some (pl, old)) (id : SafeInteger) :
    messageId (writeMessageId data pl id.1) = some id := by
  simp only [getRoutableCustomizedPayload, bind_eq_bind, bind_eq_some_iff,
    some.injEq, Prod.mk.injEq] at h
  obtain ⟨pl, hf, _, hv, rfl, rfl⟩ := h
  obtain ⟨outer, container, raw, h1, h2, h3, -⟩ := payload_inner hf
  have written : rawMessage (writeMessageId data pl id.1) =
      some (pl.encode (pl.message.setField "id" (ofInt id.1))) := by
    simp [rawMessage, innerData, prop, writeMessageId, get?_modifyAt, h1, h2,
      get?_setField (isObject_of_get? h3)]
  have hs : (pl.message.setField "id" (ofInt id.1)).get? "id" =
      some (ofInt id.1) := by
    rw [get?_setField (isObject_of_messageId hv), if_pos rfl]
  rw [messageId_eq, written, bind_some]
  unfold CustomizedPayload.encode
  split
  · simp only [parseInner, parseJsonMessageOrNull, parse_stringify, getD_some]
    rw [validId_normalize]
    exact validId_ofInt id hs
  · generalize pl.message.setField "id" (ofInt id.1) = message at hs ⊢
    have whole : (parseInner message).1 = message := by
      cases message with
      | str text => cases hs
      | null | bool _ | num _ | arr _ | obj _ => rfl
    rw [whole]
    exact validId_ofInt id hs

theorem get?_setOwn (v : Json) {key k : String} (value : Json) (h : k ≠ key) :
    (setOwn key value v).get? k = v.get? k := by
  unfold setOwn
  split
  next own =>
    obtain ⟨old, hf⟩ := isSome_iff_exists.mp own
    rw [get?_setField (isObject_of_get? hf), if_neg h]
  · rfl

theorem messageId_rewriteRuntime (data : Json) (cid : Int) :
    messageId (rewriteRuntimeClientIdData data cid) = messageId data := by
  have hs : rawMessage (rewriteRuntimeClientIdData data cid) = rawMessage data := by
    simp only [rawMessage, innerData, prop, rewriteRuntimeClientIdData, get?_modifyAt, if_true]
    cases data.get? "data" with
    | none => rfl
    | some outer =>
      simp only [map_some, bind_some, get?_modifyAt, if_true, modifyAt_nil,
        get?_setOwn outer _ (show "data" ≠ "sender" by decide)]
      cases outer.get? "data" with
      | none => rfl
      | some cont => exact get?_setOwn cont _ (show "message" ≠ "client_id" by decide)
  rw [messageId_eq, messageId_eq, hs]

theorem message_normalizePayload {cont raw : Json} (h : cont.get? "message" = some raw)
    (cid : Int) :
    (normalizePayload cont cid).get? "message" = some raw ∨
      (normalizePayload cont cid).get? "message" = some (.str (stringify raw)) ∧
        ∀ text, raw ≠ .str text := by
  have hk : (setOwn "client_id" (ofInt cid) (.obj (spread cont))).get? "message" =
      some raw := by
    rw [get?_setOwn _ _ (by decide), ← h]
    cases cont with
    | obj fs => rfl
    | null | bool _ | num _ | str _ | arr _ => cases h
  unfold normalizePayload
  generalize setOwn "client_id" (ofInt cid) (.obj (spread cont)) = pl at hk
  unfold stringifyMessage
  rw [hk]
  cases raw with
  | str text => exact .inl hk
  | null | bool _ | num _ | arr _ | obj _ =>
    refine .inr ⟨?_, nofun⟩
    exact (get?_setField (isObject_of_get? hk) ..).trans (if_pos rfl)

theorem messageId_normalizeRaw (hv : messageId data = some id) (clientId : Int) :
    messageId (normalizeRawResponse data clientId) = some id := by
  rw [messageId_eq, bind_eq_some_iff] at hv
  obtain ⟨raw, h, hv⟩ := hv
  obtain ⟨container, hi, hf⟩ := bind_eq_some_iff.mp h
  obtain ⟨outer, h1, h2⟩ := bind_eq_some_iff.mp hi
  have htr := truthy_of_get? hf
  have hr : rawMessage (normalizeRawResponse data clientId) =
      (normalizePayload container clientId).get? "message" := by
    have hsh : normalizeRawResponse data clientId =
        data.modifyAt ["data"] (·.setField "data" (normalizePayload container clientId)) := by
      simp [normalizeRawResponse, hi, htr]
    simp [hsh, rawMessage, innerData, prop, get?_modifyAt, h1,
      get?_setField (isObject_of_get? h2)]
  rw [messageId_eq, hr]
  rcases message_normalizePayload hf clientId with hs | ⟨ht, hp⟩
  · rw [hs]
    exact hv
  · have hw : (parseInner raw).1 = raw := by
      cases raw with
      | str t => exact absurd rfl (hp t)
      | null | bool _ | num _ | arr _ | obj _ => rfl
    rw [ht, bind_some]
    simp only [parseInner, parseJsonMessageOrNull, parse_stringify, getD_some]
    rw [validId_normalize, ← hw]
    exact hv

end DebugRouter.Daemon
