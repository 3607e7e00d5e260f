import DebugRouter.Native.Processor

/-!
Which messages `Process` returns from. `Parse` looks into the message of an `App` payload before it
knows it to be an object, falls through from the typed branches to the generic one, and the
dispatcher then asks for the variant the type promises.
-/
namespace DebugRouter.Native

open Library Json Processor

section Returns
variable {ε α β : Type}

def Returns (x : Except ε α) : Prop := ∃ result, x = .ok result

@[simp] theorem returns_ok (a : α) : Returns (.ok a : Except ε α) := ⟨a, rfl⟩

@[simp] theorem not_returns_error (e : ε) : ¬ Returns (.error e : Except ε α) := nofun

@[simp] theorem returns_map (f : α → β) (x : Except ε α) : Returns (x.map f) ↔ Returns x := by
  cases x <;> simp [Except.map]

theorem returns_pair {γ : Type} (x : Except ε α) (y : Except ε β) (f : α → β → γ) :
    Returns (x >>= fun a => y >>= fun b => .ok (f a b)) ↔ Returns x ∧ Returns y := by
  cases x with
  | error e => simp
  | ok a => cases y <;> simp

end Returns

/- The session list -/

def convertible : Json → Bool
  | .arr _ | .obj _ => false
  | _ => true

theorem returns_asString {cpp : JsonCpp} {v : Json} :
    Returns (asString cpp v) ↔ convertible v = true := by
  cases v <;> simp [asString, convertible]

theorem resolveReference_eq (v : Json) (key : String) :
    resolveReference v key = if indexable v then .ok (field v key)
      else .error "in Json::Value::resolveReference(key, end): requires objectValue" := by
  cases v <;> simp [resolveReference, indexable, field, isObject, get?]

/-- The text of a session can be listed: it is no JSON, or its type and URL convert to strings. -/
def Listable (cpp : JsonCpp) (text : String) : Prop :=
  match cpp.parse (Utf8.encode text.toList) with
  | .error _ => False
  | .ok (false, _) => True
  | .ok (true, info) =>
    indexable info = true ∧ convertible (field info "type") = true ∧
      convertible (field info "url") = true

theorem returns_sessionInfo {cpp : JsonCpp} {text : String} :
    Returns (sessionInfo cpp text) ↔ Listable cpp text := by
  unfold sessionInfo Listable
  cases hr : cpp.parse (Utf8.encode text.toList) with
  | error what => simp
  | ok result =>
    obtain ⟨successful, i⟩ := result
    cases successful with
    | false => simp
    | true =>
      cases ho : indexable i with
      | false => simp [resolveReference_eq, ho]
      | true =>
        simp only [ok_bind, resolveReference_eq, ho, if_true, true_and, pure_eq_ok]
        rw [returns_pair, returns_asString, returns_asString]

theorem returns_collect {cpp : JsonCpp} {sessions : List (Int × String)} :
    Returns (collectSessions cpp sessions) ↔ ∀ session ∈ sessions, Listable cpp session.2 := by
  induction sessions with
  | nil => simp [collectSessions]
  | cons session xs ih =>
    obtain ⟨id, text⟩ := session
    rw [List.forall_mem_cons, ← ih, ← returns_sessionInfo]
    exact returns_pair (sessionInfo cpp text) (collectSessions cpp xs) _

/- Payloads -/

def isExtension (payload : Json) : Bool :=
  payload.isObject && (asInt? (field payload "client_id")).isSome &&
    (asInt? (field payload "session_id")).isSome &&
    ((field payload "message").asString?.isSome || (field payload "message").isObject)

def isStop (payload : Json) : Bool :=
  payload.isObject && (asInt? (field payload "client_id")).isSome &&
    (asBool? (field payload "stop_at_entry")).isSome

def isCard (payload : Json) : Bool :=
  payload.isObject && (field payload "type").asString?.isSome &&
    (field payload "url").asString?.isSome

def isApp (payload : Json) : Bool :=
  (field (field payload "message") "method").asString?.isSome &&
    (field (field payload "message") "params").isObject &&
    (asInt? (field payload "client_id")).isSome &&
      (asInt? (field (field payload "message") "id")).isSome

theorem parseExtension_eq (cpp : JsonCpp) (type : String) (snd : Int) (payload : Json) :
    ∃ cdp, parseExtension cpp type snd payload = .ok (if isExtension payload then
      some { type := type, clientId := .ofInt snd, cdpData := some cdp } else none) := by
  unfold parseExtension isExtension
  cases ho : payload.isObject with
  | false => exact ⟨default, by simp⟩
  | true =>
    simp only [find_of_isObject ho, if_true, ok_bind, pure_eq_ok, Bool.true_and]
    cases asInt? (field payload "client_id") <;> cases asInt? (field payload "session_id") <;>
      cases field payload "message" <;> simp [asString?, isObject]

theorem parseStopAtEntry_eq (type : String) (payload : Json) :
    ∃ cid stop, parseStopAtEntry type payload =
      .ok (if isStop payload then some (createStop type cid stop) else none) := by
  unfold parseStopAtEntry isStop
  cases ho : payload.isObject with
  | false => exact ⟨0, false, by simp⟩
  | true =>
    simp only [find_of_isObject ho, if_true, ok_bind, pure_eq_ok, Bool.true_and]
    cases asInt? (field payload "client_id") with
    | none => exact ⟨0, false, by simp⟩
    | some cid =>
      cases asBool? (field payload "stop_at_entry") with
      | none => exact ⟨0, false, by simp⟩
      | some stop => exact ⟨.ofInt cid, stop, by simp⟩

theorem parseOpenCard_eq (payload : Json) : ∃ url, parseOpenCard payload =
      .ok (if isCard payload then some { type := "OpenCard", openCardData := some url }
        else none) := by
  unfold parseOpenCard isCard
  cases ho : payload.isObject with
  | false => exact ⟨"", by simp⟩
  | true =>
    simp only [find_of_isObject ho, if_true, ok_bind, pure_eq_ok, Bool.true_and]
    cases field payload "type" <;> cases field payload "url" <;> simp [asString?]

variable {payload : Json}

theorem parseApp_eq (cpp : JsonCpp) (type : String) (snd : Int)
    (ho : payload.isObject = true) (hl : indexable (field payload "message") = true) :
    ∃ msg, parseApp cpp type snd payload = .ok (if isApp payload then
      some { type := type, clientId := .ofInt snd, appProtocolData := some msg } else none) := by
  unfold parseApp isApp
  simp only [find_of_isObject ho, find_eq (field payload "message"), hl, if_true, ok_bind, pure_eq_ok]
  cases (field (field payload "message") "method").asString? <;>
    cases (field (field payload "message") "params").isObject <;>
    cases asInt? (field payload "client_id") <;>
    cases asInt? (field (field payload "message") "id") <;> simp

theorem parseApp_throws (cpp : JsonCpp) (type : String) (snd : Int)
    (ho : payload.isObject = true) (hu : indexable (field payload "message") = false) :
    ∃ what, parseApp cpp type snd payload = .error what := by
  unfold parseApp
  simp [ho, find_eq (field payload "message"), hu]

/- Dispatch -/

section Dispatch
variable (cpp : JsonCpp) (handler : Option MessageHandler) (p : Processor)

def ListsSessions : Prop := ∀ h, handler = some h → ∀ session ∈ h.sessionList, Listable cpp session.2

theorem returns_sessionList : Returns (p.sessionList cpp handler) ↔ ListsSessions cpp handler := by
  unfold sessionList ListsSessions
  cases handler with
  | none => simp
  | some h =>
    simp only [Option.some.injEq, forall_eq', ← returns_collect]
    cases collectSessions cpp h.sessionList <;> simp

theorem returns_ifAddressed (cid : UInt32) (calls : List HandlerCall) :
    Returns (p.ifAddressed cid calls) ↔ p.clientId ≠ none := by
  unfold ifAddressed
  cases p.clientId <;> simp

/-- The messages of a type that do no harm, by their payload. -/
def Harmless (type : String) (payload : Json) : Prop :=
  if isStopAtEntry type then isStop payload = true ∨ isExtension payload = true → p.clientId ≠ none
  else if type = "OpenCard" then isExtension payload = true → isCard payload = true
  else if type = "ListSession" then ListsSessions cpp handler
  else if type = "App" then payload.isObject = true →
    indexable (field payload "message") = true ∧ (isApp payload = true → handler ≠ none)
  else isExtension payload = true → p.clientId ≠ none

def settle : Except String (Option CustomData) → Except Fault (List HandlerCall)
  | .error what => .error (.exception what)
  | .ok none => .ok []
  | .ok (some custom) => p.dispatchCustom cpp handler custom

variable (type : String)

theorem createStop_type (cid : UInt32) (stop : Bool) : (createStop type cid stop).type = type := by
  unfold createStop
  repeat' split
  all_goals rfl

variable {custom : CustomData} {root : Json}

theorem returns_dispatch_stop (h : isStopAtEntry custom.type = true) :
    Returns (p.dispatchCustom cpp handler custom) ↔ p.clientId ≠ none := by
  simp only [isStopAtEntry, Bool.or_eq_true, decide_eq_true_eq] at h
  rcases h with type | type <;> simp [dispatchCustom, type, returns_ifAddressed]

theorem returns_dispatch_extension {cdp : CustomData4CDP}
    (hv : custom.cdpData = some cdp) (hs : isStopAtEntry custom.type = false)
    (hca : custom.type ≠ "OpenCard") (hl : custom.type ≠ "ListSession")
    (app : custom.type ≠ "App") :
    Returns (p.dispatchCustom cpp handler custom) ↔ p.clientId ≠ none := by
  simp only [isStopAtEntry, Bool.or_eq_false_iff, decide_eq_false_iff_not] at hs
  by_cases hc : custom.type = "CDP"
  · simp [dispatchCustom, hc, hv, returns_ifAddressed]
  · simp [dispatchCustom, hc, hs, hca, hl, app, hv, returns_ifAddressed]

theorem returns_dispatch_app {msg : AppMessageData} (ht : custom.type = "App")
    (hv : custom.appProtocolData = some msg) :
    Returns (p.dispatchCustom cpp handler custom) ↔ handler ≠ none := by
  cases handler with
  | none => simp [dispatchCustom, ht, handleAppAction, hv]
  | some h =>
    simp only [dispatchCustom, ht, handleAppAction, hv, String.reduceEq, if_false,
      if_true]
    split <;> simp

theorem returns_typed (snd : Int) (payload : Json) :
    Returns (settle cpp handler p (parseTyped cpp type snd payload)) ↔
      Harmless cpp handler p type payload := by
  obtain ⟨cdp, he⟩ := parseExtension_eq cpp type snd payload
  unfold parseTyped Harmless
  split
  case isTrue hs =>
    obtain ⟨cid, stop, hf⟩ := parseStopAtEntry_eq type payload
    simp only [orElse, hf, he, ok_bind]
    cases isStop payload with
    | true =>
      simp only [if_true, pure_eq_ok, settle, true_or, true_implies]
      exact returns_dispatch_stop cpp handler p (by rwa [createStop_type])
    | false =>
      cases isExtension payload with
      | true =>
        simp only [Bool.false_eq_true, if_false, if_true, settle, false_or, true_implies]
        exact returns_dispatch_stop cpp handler p hs
      | false => simp [settle]
  case isFalse hs =>
    split
    case isTrue hc =>
      obtain ⟨url, hf⟩ := parseOpenCard_eq payload
      simp only [orElse, hf, he, ok_bind]
      cases isCard payload with
      | true => simp [settle, dispatchCustom]
      | false => cases isExtension payload <;> simp [settle, dispatchCustom, hc]
    case isFalse hc =>
      split
      case isTrue hl =>
        simp only [settle]
        rw [← returns_sessionList cpp handler p]
        simp [dispatchCustom]
      case isFalse hl =>
        by_cases app : type = "App"
        · cases ho : payload.isObject with
          | false =>
            have plain : isExtension payload = false := by simp [isExtension, ho]
            simp only [he, plain, Bool.false_eq_true, and_false, if_false, settle, returns_ok,
              true_iff]
            simp [app]
          | true =>
            simp only [app, and_self, if_true, true_implies]
            cases hlo : indexable (field payload "message") with
            | false =>
              obtain ⟨what, ht⟩ := parseApp_throws cpp "App" snd ho hlo
              simp [ht, settle]
            | true =>
              obtain ⟨msg, hf⟩ := parseApp_eq cpp "App" snd ho hlo
              rw [hf]
              cases isApp payload with
              | false => simp [settle]
              | true =>
                simp only [if_true, settle, true_and, true_implies]
                exact returns_dispatch_app cpp handler p rfl rfl
        · simp only [app, false_and, if_false, he]
          cases isExtension payload with
          | false => simp [settle]
          | true =>
            simp only [if_true, settle, true_implies]
            exact returns_dispatch_extension cpp handler p rfl (by simpa using hs) hc hl app

/- Roots -/

def isJoin (data : Json) : Bool :=
  data.isObject && (asInt? (field data "id")).isSome && (field data "room").asString?.isSome

/-- The roots that `process` returns from. -/
structure Digestible (root : Json) : Prop where
  indexable : indexable root = true
  joined : field root "event" = .str "RoomJoined" → isJoin (field root "data") = true →
    ListsSessions cpp handler
  harmless : field root "event" = .str "Customized" → (field root "data").isObject = true →
    ∀ type sender, field (field root "data") "type" = .str type →
      asInt? (field (field root "data") "sender") = some sender →
        Harmless cpp handler p type (field (field root "data") "data")

theorem parseRoomJoined_eq (h : root.isObject = true) :
    parseRoomJoined root = .ok (if isJoin (field root "data") then some .roomJoined else none) := by
  unfold parseRoomJoined isJoin
  simp only [find_of_isObject h, ok_bind]
  cases d : (field root "data").isObject with
  | false => simp
  | true =>
    simp only [find_of_isObject d, if_true, ok_bind, pure_eq_ok, Bool.true_and]
    cases asInt? (field (field root "data") "id") <;> cases field (field root "data") "room" <;>
      simp [asString?]

theorem parseChangeRoomServer_eq (h : root.isObject = true) :
    ∃ url room, parseChangeRoomServer root = .ok none ∨
      parseChangeRoomServer root = .ok (some (.changeRoomServer url room)) := by
  simp only [parseChangeRoomServer, find_of_isObject h, ok_bind]
  cases hd : (field root "data").isObject with
  | false => exact ⟨"", "", .inl rfl⟩
  | true =>
    simp only [find_of_isObject hd, if_true, ok_bind, pure_eq_ok]
    split
    · exact ⟨_, _, .inr rfl⟩
    · exact ⟨"", "", .inl rfl⟩

theorem returns_custom (ho : root.isObject = true)
    (he : field root "event" = .str "Customized") :
    Returns (p.processRoot cpp handler root) ↔ Digestible cpp handler p root := by
  have parsed : parse cpp root = parseCustom cpp root := by simp [parse, ho, he]
  have hi : Native.indexable root = true := by simp [Native.indexable, ho]
  have taken : Digestible cpp handler p root ↔ ((field root "data").isObject = true →
      ∀ type snd, field (field root "data") "type" = .str type →
        asInt? (field (field root "data") "sender") = some snd →
          Harmless cpp handler p type (field (field root "data") "data")) := by
    constructor
    · exact fun taken => taken.harmless he
    · exact fun hh => ⟨hi, by simp [he], fun _ => hh⟩
  rw [taken]
  simp only [processRoot, parsed, parseCustom, find_of_isObject ho, ok_bind]
  cases hd : (field root "data").isObject with
  | false => simp
  | true =>
    simp only [find_of_isObject hd, if_true, ok_bind, true_implies]
    cases hm : field (field root "data") "type" with
    | null | bool _ | num _ | arr _ | obj _ => simp
    | str type =>
      cases asInt? (field (field root "data") "sender") with
      | none => simp
      | some snd =>
        have typed := returns_typed cpp handler p type snd (field (field root "data") "data")
        simp only [str.injEq, Option.some.injEq]
        trans Returns (settle cpp handler p
          (parseTyped cpp type snd (field (field root "data") "data")))
        · cases parseTyped cpp type snd (field (field root "data") "data") with
          | error what => simp [settle]
          | ok custom => cases custom <;> simp [settle, dispatch]
        · rw [typed]
          constructor
          · rintro hh _ _ rfl rfl
            exact hh
          · exact fun hh => hh type snd rfl rfl

theorem returns_joined (ho : root.isObject = true) (he : field root "event" = .str "RoomJoined") :
    Returns (p.processRoot cpp handler root) ↔ Digestible cpp handler p root := by
  have parsed : parse cpp root = parseRoomJoined root := by simp [parse, ho, he]
  have hi : Native.indexable root = true := by simp [Native.indexable, ho]
  have hd : Digestible cpp handler p root ↔
      (isJoin (field root "data") = true → ListsSessions cpp handler) := by
    constructor
    · exact fun hd => hd.joined he
    · exact fun hl => ⟨hi, fun _ => hl, by simp [he]⟩
  rw [hd]
  simp only [processRoot, parsed, parseRoomJoined_eq ho]
  cases isJoin (field root "data") with
  | false => simp
  | true => simp [dispatch, returns_sessionList]

theorem returns_other {name : String} (ho : root.isObject = true)
    (he : field root "event" = .str name) (hj : name ≠ "RoomJoined")
    (hc : name ≠ "Customized") : Returns (p.processRoot cpp handler root) := by
  simp only [processRoot, parse, find_of_isObject ho, he, ok_bind, hj, hc, if_false]
  split_ifs with init registered change
  · simp only [parseInit, find_of_isObject ho, ok_bind, pure_eq_ok]
    cases asInt? (field root "data") <;> simp [dispatch]
  · simp [dispatch]
  · obtain ⟨url, room, nothing | found⟩ := parseChangeRoomServer_eq ho
    · simp [nothing]
    · simp [found, dispatch]
  · simp

theorem parse_of_not_indexable (h : indexable root = false) :
    ∃ what, parse cpp root = .error what := by
  unfold parse
  simp only [find_eq, h]
  exact ⟨_, rfl⟩

theorem parse_of_nameless (hi : indexable root = true)
    (hn : ∀ name, field root "event" ≠ .str name) : parse cpp root = .ok none := by
  have found : find root "event" = .ok (field root "event") := by simp [find_eq, hi]
  unfold parse
  rw [found, ok_bind]
  split
  · next name ev => exact absurd ev (hn name)
  · rfl

theorem returns_processRoot (root : Json) :
    Returns (p.processRoot cpp handler root) ↔ Digestible cpp handler p root := by
  cases hi : indexable root with
  | false =>
    obtain ⟨what, hp⟩ := parse_of_not_indexable cpp hi
    constructor
    · intro hr
      simp [processRoot, hp] at hr
    · intro hd
      simp [hd.indexable] at hi
  | true =>
    -- An event for which the dispatcher has no condition.
    have ha : field root "event" ≠ .str "RoomJoined" → field root "event" ≠ .str "Customized" →
        Digestible cpp handler p root := by
      intro hj hc
      exact ⟨hi, fun he => absurd he hj, fun he => absurd he hc⟩
    by_cases hna : ∃ name, field root "event" = .str name
    · obtain ⟨name, he⟩ := hna
      have present : field root "event" ≠ .null := by simp [he]
      have ho : root.isObject = true := isObject_of_field present
      by_cases hc : name = "Customized"
      · exact returns_custom cpp handler p ho (hc ▸ he)
      by_cases hj : name = "RoomJoined"
      · exact returns_joined cpp handler p ho (hj ▸ he)
      · have hd := ha (by simp [he, hj]) (by simp [he, hc])
        simp only [hd, iff_true]
        exact returns_other cpp handler p ho he hj hc
    · have hn : ∀ name, field root "event" ≠ .str name := fun name he => hna ⟨name, he⟩
      have hd := ha (hn _) (hn _)
      simp [processRoot, parse_of_nameless cpp hi hn, hd]

theorem process_returns_iff (message : List UInt8) :
    (∃ result, p.process cpp handler message = .ok result) ↔
      ∃ successful root, cpp.parse message = .ok (successful, root) ∧
        Digestible cpp handler p root := by
  change Returns (p.process cpp handler message) ↔ _
  unfold process
  cases cpp.parse message with
  | error what => simp
  | ok read =>
    obtain ⟨successful, root⟩ := read
    simp [returns_processRoot]

end Dispatch

/-- An array; an `App` whose message is a string; an `OpenCard` without a URL that passes the generic
branch; a CDP message before `Initialize`. -/
theorem process_faults :
    let handler : MessageHandler := ⟨"", [], [], fun _ _ => ""⟩
    let run := fun (p : Processor) (text : String) =>
      p.process jsonText (some handler) (Utf8.encode text.toList)
    let customized := fun (type data : String) =>
      "\x7b\"event\":\"Customized\",\"data\":\x7b\"type\":\"" ++ type ++
        "\",\"sender\":1,\"data\":" ++ data ++ "\x7d\x7d"
    let extension := "\x7b\"client_id\":1,\"session_id\":1,\"message\":\"\"\x7d"
    let notIndexable := "in Json::Value::find(key, end, found): requires objectValue or nullValue"
    run ⟨some 1, false⟩ "[]" = .error (.exception notIndexable) ∧
      run ⟨some 1, false⟩ (customized "App" "\x7b\"message\":\"\"\x7d") =
        .error (.exception notIndexable) ∧
      run ⟨some 1, false⟩ (customized "OpenCard" extension) = .error .nullDereference ∧
      run .create (customized "CDP" extension) = .error .uninitialisedRead := by
  decide +kernel

end DebugRouter.Native
