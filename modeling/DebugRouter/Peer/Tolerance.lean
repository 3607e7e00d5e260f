import DebugRouter.Peer.Intake
import DebugRouter.Transport.UsbAgreement

/-!
Which peers the daemon survives. Every function that can throw is brought to the condition under
which it does not, and the conditions are carried along the messages of a socket.
-/
namespace DebugRouter.Peer

open Library Daemon Transport List Option JsonText

section Conditions
variable {α β : Type} {engine : Engine} {around : Surroundings} {adapted : Adapted}

theorem bind_eq_ok {x : Except Thrown α} {f : α → Except Thrown β} {b : β} :
    (x >>= f) = .ok b ↔ ∃ a, x = .ok a ∧ f a = .ok b := by
  constructor
  · intro done
    cases x with
    | error thrown => cases done
    | ok a => exact ⟨a, rfl, done⟩
  · rintro ⟨a, rfl, done⟩
    exact done

theorem parseJson_eq_ok {text : List Char} {v : Json} :
    parseJson text = .ok v ↔ parse (String.ofList text) = some v := by
  unfold parseJson
  cases parse (String.ofList text) <;> simp

variable {w info : Json} {message : List Char}

theorem requireObject_eq_ok {v : Option Json} :
    requireObject v = .ok w ↔ v = some w ∧ w ≠ .null := by
  unfold requireObject
  cases v with
  | none => simp
  | some v =>
    by_cases null : v = .null
    · subst null
      simp [eq_comm]
    · simp only [null, if_false, Except.ok.injEq, some.injEq]
      constructor
      · rintro rfl
        exact ⟨rfl, null⟩
      · exact fun same => same.1

theorem stringifyAll_ok {values : List Json} :
    engine.stringifyAll values = .ok () ↔ AllTexts engine values := by
  unfold Engine.stringifyAll AllTexts
  split
  next all => exact iff_of_true rfl (all_eq_true.mp all)
  next some => exact iff_of_false nofun fun all => some (all_eq_true.mpr all)

theorem textOf_ok {v : Json} :
    (∃ text, engine.textOf (some v) = .ok text) ↔ (engine.text? v).isSome := by
  unfold Engine.textOf
  cases found : engine.text? v <;> simp [found]

theorem parse_textOf {v : Option Json} :
    (∃ text, engine.textOf v = .ok text ∧ parseJson text = .ok w) ↔
      ∃ text, v.bind engine.text? = some text ∧ parse (String.ofList text) = some w := by
  simp only [parseJson_eq_ok]
  cases v with
  | none =>
    have undefined : parse (String.ofList "undefined".toList) = none := by decide
    simp only [Engine.textOf, Except.ok.injEq, exists_eq_left', undefined, bind_none]
    simp
  | some v =>
    unfold Engine.textOf
    cases found : engine.text? v <;> simp [found]

/- USB -/

theorem mentionsIPhone_ok (device : Device) :
    (∃ b, mentionsIPhone (registerQuery device info).deviceModel = .ok b) ↔
      indexable (info.get? "deviceModel") = true := by
  unfold registerQuery
  dsimp only
  cases model : info.get? "deviceModel" with
  | none => split <;> simp [mentionsIPhone, indexable, orElse]
  | some v =>
    cases v <;> split <;> simp_all [mentionsIPhone, indexable, orElse]

theorem isTargetClient_ok {device : Device} {name : String} :
    (∃ b, isTargetClient (registerQuery device info) name = .ok b) ↔
      (device.os = "Android" ∧ info.get? "AppProcessName" = some (.str name)) ∨
        indexable (info.get? "deviceModel") = true := by
  unfold isTargetClient
  split
  next android => exact iff_of_true ⟨true, rfl⟩ (.inl android)
  next other =>
    rw [← mentionsIPhone_ok device]
    constructor
    · rintro ⟨b, done⟩
      obtain ⟨iPhone, model, -⟩ := bind_eq_ok.mp done
      exact .inr ⟨iPhone, model⟩
    · rintro (android | ⟨iPhone, model⟩)
      · exact absurd android other
      · exact ⟨_, bind_eq_ok.mpr ⟨iPhone, model, rfl⟩⟩

theorem notifyAwaited_ok {device : Device} {awaited : List String} :
    notifyAwaited (registerQuery device info) awaited = .ok () ↔ ∀ name ∈ awaited,
      (device.os = "Android" ∧ info.get? "AppProcessName" = some (.str name)) ∨
        indexable (info.get? "deviceModel") = true := by
  induction awaited with
  | nil => exact iff_of_true rfl (fun _ member => absurd member not_mem_nil)
  | cons name rest ih =>
    rw [notifyAwaited, bind_eq_ok, forall_mem_cons, ← isTargetClient_ok, ← ih, exists_and_right]

theorem bind_unit_ok {x y : Except Thrown Unit} :
    (x >>= fun _ => y) = .ok () ↔ x = .ok () ∧ y = .ok () := by
  rw [bind_eq_ok]
  exact ⟨fun ⟨_, first, second⟩ => ⟨first, second⟩, fun ⟨first, second⟩ => ⟨(), first, second⟩⟩

theorem addConnection_ok :
    addConnection engine around adapted info = .ok () ↔ HarmlessInfo engine around adapted info := by
  unfold addConnection HarmlessInfo registerValues
  cases idTaken around with
  | true => simp [bind_unit_ok, stringifyAll_ok, AllTexts]
  | false =>
    simp only [Bool.false_eq_true, if_false, bind_unit_ok, stringifyAll_ok, notifyAwaited_ok,
      AllTexts, forall_mem_cons, not_mem_nil, false_implies, implies_true, and_true, forall_const]
    tauto

theorem handleConnection_ok {connected : Option Int} :
    handleConnection engine around adapted message = .ok connected ↔
      HarmlessFirst engine around adapted message ∧
        connected = if registers message then some (clientId around) else none := by
  unfold handleConnection HarmlessFirst registers
  rw [bind_eq_ok]
  simp only [parseJson_eq_ok]
  cases parse (String.ofList message) with
  | none => simp
  | some response =>
    simp only [some.injEq, exists_eq_left', any_some]
    by_cases registered : hasEvent response "Register" = true
    · simp only [registered, if_true, bind_eq_ok, requireObject_eq_ok, forall_const, and_assoc]
      constructor
      · rintro ⟨info, found, object, ⟨⟩, added, done⟩
        cases done
        exact ⟨⟨info, found, object, addConnection_ok.mp added⟩, rfl⟩
      · rintro ⟨⟨info, found, object, harmless⟩, rfl⟩
        exact ⟨info, found, object, (), addConnection_ok.mpr harmless, rfl⟩
    · simp [registered, eq_comm]

theorem handleCdpMessage_ok {cdpMessage : Json} :
    handleCdpMessage engine cdpMessage = .ok () ↔ HarmlessCdp engine cdpMessage := by
  have named : ∀ v : Option Json, isTruthy v = true →
      ((engine.textOf v >>= fun _ => Except.ok ()) = .ok () ↔ (v.bind engine.text?).isSome) := by
    intro v truthy
    cases v with
    | none => cases truthy
    | some v => simp [bind_eq_ok, textOf_ok]
  unfold handleCdpMessage HarmlessCdp handleClientEvent
  split
  next truthy => exact named _ truthy
  · split
    next truthy =>
      split
      next error => simp [error, isTruthy, Json.truthy]
      next other =>
        simp only [truthy, true_implies, named _ truthy]
        exact ⟨fun text => ⟨other, text⟩, And.right⟩
    next falsy => exact iff_of_true rfl (fun truthy => absurd truthy falsy)

theorem handleCustomized_ok {data : Option Json} :
    handleCustomized engine data = .ok () ↔ HarmlessData engine data := by
  unfold handleCustomized HarmlessData
  split
  next cdp =>
    have present : nullish data = false := by
      cases data with
      | none => simp [prop] at cdp
      | some data => cases data <;> first | rfl | simp [prop, Json.get?] at cdp
    simp only [bind_eq_ok, requireObject_eq_ok, present, cdp, true_implies, true_and]
    constructor
    · rintro ⟨inner, ⟨found, -⟩, text, shown, cdpMessage, parsed, handled⟩
      obtain ⟨text', message, value⟩ := parse_textOf.mp ⟨text, shown, parsed⟩
      exact ⟨inner, text', cdpMessage, found, message, value, handleCdpMessage_ok.mp handled⟩
    · rintro ⟨inner, text', cdpMessage, found, message, value, harmless⟩
      obtain ⟨text, shown, parsed⟩ := parse_textOf.mpr ⟨text', message, value⟩
      have object : inner ≠ .null := by
        rintro rfl
        cases message
      exact ⟨inner, ⟨found, object⟩, text, shown, cdpMessage, parsed,
        handleCdpMessage_ok.mpr harmless⟩
  next other =>
    simp only [other, false_implies, and_true]
    split
    next sessions =>
      cases data with
      | none => cases sessions
      | some data => cases data <;> first | exact iff_of_true rfl rfl | cases sessions
    · cases data with
      | none => refine iff_of_false ?_ ?_ <;> rintro ⟨⟩
      | some data =>
        cases data <;> first | exact iff_of_true rfl rfl | refine iff_of_false ?_ ?_ <;> rintro ⟨⟩

theorem handleRegistered_ok {id : Int} :
    handleRegistered engine around id message = .ok () ↔
      HarmlessLater engine around id message := by
  unfold handleRegistered HarmlessLater
  rw [bind_unit_ok, stringifyAll_ok]
  refine and_congr_right fun _ => ?_
  simp only [bind_eq_ok, parseJson_eq_ok, requireObject_eq_ok, some.injEq]
  constructor
  · rintro ⟨response, parsed, value, ⟨rfl, object⟩, handled⟩
    refine ⟨response, parsed, object, ?_⟩
    intro customized
    rw [if_pos customized] at handled
    exact handleCustomized_ok.mp handled
  · rintro ⟨response, parsed, object, harmless⟩
    refine ⟨response, parsed, response, ⟨rfl, object⟩, ?_⟩
    split
    next customized => exact handleCustomized_ok.mpr (harmless customized)
    · rfl

theorem messageHandler_ok {id : Int} {data : List Char} {accepted : Option Json} :
    messageHandler id data = .ok accepted ↔
      ∃ response, parse (String.ofList data) = some response ∧ response ≠ .null ∧
        accepted = (response.get? "data").filter fun _ => accepts id response := by
  have filtered : ∀ response : Json,
      (if accepts id response then response.get? "data" else none) =
        (response.get? "data").filter fun _ => accepts id response := by
    intro response
    cases response.get? "data" <;> simp [Option.filter]
  unfold messageHandler
  simp only [bind_eq_ok, parseJson_eq_ok, requireObject_eq_ok, some.injEq, Except.ok.injEq, filtered]
  constructor
  · rintro ⟨response, parsed, value, ⟨rfl, object⟩, same⟩
    exact ⟨response, parsed, object, same.symm⟩
  · rintro ⟨response, parsed, object, same⟩
    exact ⟨response, parsed, response, ⟨rfl, object⟩, same.symm⟩

end Conditions

/- The messages of a socket -/

section Runs
variable {engine : Engine} {around : Nat → Surroundings} {adapted : Adapted}
variable {message : List Char} {rest : List (List Char)} {s : Settled}

theorem harmless_cons : Harmless engine around adapted s.heard s.connected (message :: rest) ↔
    ∃ next, handleMessage engine (around s.heard) adapted s.connected message = .ok next ∧
      Harmless engine around adapted (s.heard + 1) next rest := by
  unfold handleMessage
  cases s.connected with
  | none => simp only [Harmless, handleConnection_ok, and_assoc, exists_and_left, exists_eq_left]
  | some id =>
    simp only [Harmless, bind_eq_ok]
    constructor
    · exact fun ⟨first, later⟩ => ⟨some id, ⟨(), handleRegistered_ok.mpr first, rfl⟩, later⟩
    · rintro ⟨next, ⟨⟨⟩, handled, done⟩, later⟩
      cases done
      exact ⟨handleRegistered_ok.mp handled, later⟩

theorem length_hear (engine : Engine) (around : Nat → Surroundings) (adapted : Adapted)
    (messages : List (List Char)) (s : Settled) : s.rejections.length ≤
      (messages.foldl (Settled.hear engine around adapted) s).rejections.length := by
  refine invariant_foldl (fun (after : Settled) message
    (longer : s.rejections.length ≤ after.rejections.length) => ?_) le_rfl messages
  apply longer.trans
  unfold Settled.hear
  split
  · exact le_rfl
  · simp

theorem hear_iff_harmless (messages : List (List Char)) (s : Settled) :
    (messages.foldl (Settled.hear engine around adapted) s).rejections = s.rejections ↔
      Harmless engine around adapted s.heard s.connected messages := by
  induction messages generalizing s with
  | nil => exact iff_of_true rfl (by cases s.connected <;> trivial)
  | cons message rest ih =>
    rw [foldl_cons, harmless_cons]
    cases handled : handleMessage engine (around s.heard) adapted s.connected message with
    | ok next =>
      have heard : s.hear engine around adapted message = ⟨s.heard + 1, next, s.rejections⟩ := by
        simp [Settled.hear, handled]
      have later := ih ⟨s.heard + 1, next, s.rejections⟩
      rw [heard, later]
      simp
    | error thrown =>
      have heard : s.hear engine around adapted message =
          ⟨s.heard + 1, s.connected, s.rejections ++ [thrown]⟩ := by
        simp [Settled.hear, handled]
      rw [heard]
      refine iff_of_false (fun same => ?_) (by simp)
      have longer := length_hear engine around adapted rest
        ⟨s.heard + 1, s.connected, s.rejections ++ [thrown]⟩
      rw [same, length_append, length_singleton] at longer
      omega

namespace ClientAdapter

theorem run_eq (adapter : ClientAdapter engine.limit) (chunks : List (List UInt8)) :
    (chunks.foldl (handleData engine around) adapter).toSettled =
      (((usbFraming engine.limit).run adapter.intake chunks).1.map Utf8.decode).foldl
        (Settled.hear engine around adapter.adapted) adapter.toSettled := by
  induction chunks generalizing adapter with
  | nil => rfl
  | cons chunk rest ih =>
    have settled : (adapter.handleData engine around chunk).toSettled =
        (((usbFraming engine.limit).feed adapter.intake chunk).1.map Utf8.decode).foldl
          (Settled.hear engine around adapter.adapted) adapter.toSettled := rfl
    rw [foldl_cons, ih, settled]
    simp only [Scanner.run, map_append, foldl_append]
    rfl

theorem run_eq_feed {limit : Nat} {intake : Intake UInt8 StringTooLong}
    (drained : ∀ buffer, intake = .reading buffer → unpack limit buffer = .wait buffer)
    (chunks : List (List UInt8)) : ((usbFraming limit).run intake chunks).1 =
      ((usbFraming limit).feed intake chunks.flatten).1 := by
  cases intake with
  | reading buffer =>
    rw [Framing.run_eq_drain (drained buffer rfl) chunks]
    rfl
  | failed error =>
    induction chunks with
    | nil => rfl
    | cons chunk rest ih =>
      simp only [Scanner.run, Scanner.feed, nil_append]
      exact ih

end ClientAdapter

namespace DaemonSocket

theorem exceptions_onMessages (engine : Engine) (around : Nat → Surroundings)
    (messages : List (List Char)) (socket : DaemonSocket) : socket.exceptions.length ≤
      (messages.foldl (onMessage engine around) socket).exceptions.length := by
  refine invariant_foldl (fun (after : DaemonSocket) message
    (longer : socket.exceptions.length ≤ after.exceptions.length) => ?_) le_rfl messages
  apply longer.trans
  unfold onMessage
  dsimp only
  split
  · exact le_rfl
  · split
    · simp
    · exact le_rfl
    · split <;> simp

theorem registered_onMessages {socket : DaemonSocket} (h : socket.registered = true)
    (messages : List (List Char)) :
    (messages.foldl (onMessage engine around) socket).exceptions = socket.exceptions := by
  induction messages generalizing socket with
  | nil => rfl
  | cons message rest ih =>
    have same : socket.onMessage engine around message =
        { socket with heard := socket.heard + 1 } := by
      simp [onMessage, h]
    rw [foldl_cons, same]
    exact ih h

theorem onMessages_iff_introduced (messages : List (List Char)) (socket : DaemonSocket)
    (waiting : socket.registered = false) :
    (messages.foldl (onMessage engine around) socket).exceptions = socket.exceptions ↔
      Introduced engine around socket.clientId socket.heard messages := by
  -- an exception is never taken back
  have thrown : ∀ {next : DaemonSocket} (rest : List (List Char)),
      socket.exceptions.length < next.exceptions.length →
      (rest.foldl (onMessage engine around) next).exceptions ≠ socket.exceptions := by
    intro next rest longer same
    have kept := exceptions_onMessages engine around rest next
    rw [same] at kept
    omega
  induction messages generalizing socket with
  | nil => exact iff_of_true rfl trivial
  | cons message rest ih =>
    rw [foldl_cons, Introduced]
    cases handled : messageHandler socket.clientId message with
    | error what =>
      refine iff_of_false (thrown rest (by simp [onMessage, waiting, handled])) ?_
      rintro ⟨response, parsed, object, -⟩
      cases handled.symm.trans (messageHandler_ok.mpr ⟨response, parsed, object, rfl⟩)
    | ok accepted =>
      obtain ⟨response, parsed, object, rfl⟩ := messageHandler_ok.mp handled
      simp only [parsed, some.injEq, exists_eq_left', object, ne_eq, not_false_eq_true, true_and]
      cases found : (response.get? "data").filter fun _ => accepts socket.clientId response with
      | none =>
        have next : socket.onMessage engine around message =
            { socket with heard := socket.heard + 1 } := by
          simp [onMessage, waiting, handled, found]
        rw [next]
        exact ih { socket with heard := socket.heard + 1 } waiting thrown
      | some register =>
        rw [found] at handled
        dsimp only
        rw [← stringifyAll_ok]
        cases listed : engine.stringifyAll (clientLists ((around socket.heard).host.outputs
            (.webSocketRegistered socket.clientId register))) with
        | ok =>
          refine iff_of_true ?_ rfl
          have next : socket.onMessage engine around message =
              { socket with heard := socket.heard + 1, registered := true } := by
            simp [onMessage, waiting, handled, listed]
          rw [next]
          exact registered_onMessages rfl rest
        | error what =>
          exact iff_of_false (thrown rest (by simp [onMessage, waiting, handled, listed])) nofun

end DaemonSocket

end Runs

theorem drain_pack {limit : Nat} {content : List UInt8} (small : content.length < 2 ^ 32)
    (short : content.length ≤ limit) :
    ((usbFraming limit).feed (.reading []) (pack content)).1 = [content] := by
  have scanned : (usbFraming limit).scan (pack content ++ []) = .frame content [] :=
    (unpack_framed small).trans (if_pos short)
  rw [append_nil] at scanned
  rw [Scanner.feed, nil_append, Scanner.drain_frame scanned,
    Scanner.drain_wait (show (usbFraming limit).scan [] = .wait [] from rfl)]

end DebugRouter.Peer
