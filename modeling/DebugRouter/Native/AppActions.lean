import DebugRouter.Native.Stringify

/-!
App messages on the side of the runtime: what is parsed, the answer, and the text of the answer.
-/
namespace DebugRouter.Native

open Library Json

inductive AppAnswer (clientId : Option UInt32) (id : Int) : Outgoing → Prop where
  | result (sender : UInt32) (method result : String) :
    AppAnswer clientId id (.appResult sender clientId method id result)
  | error (sender : UInt32) (method error : String) :
      AppAnswer clientId id (.appError sender clientId method id error)

section Handled
variable {cpp : JsonCpp} {p p' : Processor} {handler : MessageHandler} {calls : List HandlerCall}
variable {reply : Outgoing}

theorem field_of_get? {v inner : Json} {key : String} (h : v.get? key = some inner) :
    field v key = inner := by
  rw [field, h]
  rfl

variable {snd : Int} {root outer cont : Json}

theorem parseApp_cases {ty : String} {pl msg : Json}
    (hf : pl.get? "message" = some msg) (ho : msg.isObject = true) :
    parseApp cpp ty snd pl = .ok none ∨
      ∃ method id params, asInt? (field msg "id") = some id ∧
        parseApp cpp ty snd pl = .ok (some
          { type := ty, clientId := .ofInt snd, appProtocolData := some ⟨method, id, params⟩ }) := by
  simp only [parseApp, find_of_isObject (isObject_of_get? hf), field_of_get? hf, find_of_isObject ho,
    ok_bind]
  split
  next method id hr _ hn => exact .inr ⟨_, _, _, hn, rfl⟩
  · exact .inl rfl

theorem handleAppAction_answers {custom : CustomData} {msg : AppMessageData}
    (hp : custom.appProtocolData = some msg)
    (hh : p.handleAppAction cpp (some handler) custom = .ok calls) (hs : .sendMessage reply ∈ calls) :
    AppAnswer p.clientId msg.id reply := by
  simp only [Processor.handleAppAction, hp] at hh
  split at hh
  · cases hh
    cases List.mem_singleton.mp hs
    exact .error _ _ _
  · cases hh
    cases List.mem_singleton.mp hs
    exact .result _ _ _

theorem dispatch_answers {msg : AppMessageData} (hd : p.dispatch cpp (some handler) (.custom
      { type := "App", clientId := .ofInt snd, appProtocolData := some msg }) = .ok (p', calls))
    (hs : .sendMessage reply ∈ calls) : AppAnswer p.clientId msg.id reply := by
  have hh : (p.handleAppAction cpp (some handler)
      { type := "App", clientId := .ofInt snd, appProtocolData := some msg }).map (p, ·) =
        .ok (p', calls) :=
    hd
  cases ha : p.handleAppAction cpp (some handler)
      { type := "App", clientId := .ofInt snd, appProtocolData := some msg } with
  | error fault =>
    rw [ha] at hh
    cases hh
  | ok answered =>
    rw [ha] at hh
    cases hh
    exact handleAppAction_answers rfl ha hs

theorem parse_app {msg : Json}
    (he : root.get? "event" = some (.str "Customized")) (hd : root.get? "data" = some outer)
    (ht : outer.get? "type" = some (.str "App")) (hi : outer.get? "data" = some cont)
    (hf : cont.get? "message" = some msg) :
    parse cpp root = .ok none ∨
      ∃ snd, parse cpp root = (parseApp cpp "App" snd cont).map (Option.map Body.custom) := by
  have hc : parse cpp root = parseCustom cpp root := by
    simp [parse, find_of_isObject (isObject_of_get? he), field_of_get? he]
  have hp := isObject_of_get? hf
  rw [hc]
  simp only [parseCustom, find_of_isObject (isObject_of_get? hd), field_of_get? hd, ok_bind,
    isObject_of_get? ht, if_true, find_of_isObject (isObject_of_get? ht), field_of_get? ht,
    field_of_get? hi]
  cases asInt? (field outer "sender") with
  | none => exact .inl rfl
  | some snd =>
    refine .inr ⟨snd, ?_⟩
    simp only [parseTyped, isStopAtEntry, hp, String.reduceEq, decide_false, Bool.or_self,
      Bool.false_eq_true, if_false, and_self, if_true]
    cases parseApp cpp "App" snd cont <;> rfl

theorem processRoot_answers {msg : Json}
    (he : root.get? "event" = some (.str "Customized")) (hd : root.get? "data" = some outer)
    (hty : outer.get? "type" = some (.str "App")) (hi : outer.get? "data" = some cont)
    (hf : cont.get? "message" = some msg) (ho : msg.isObject = true)
    (hp : p.processRoot cpp (some handler) root = .ok (p', calls))
    (hs : .sendMessage reply ∈ calls) :
    ∃ id, asInt? (field msg "id") = some id ∧ AppAnswer p.clientId id reply := by
  unfold Processor.processRoot at hp
  rcases parse_app he hd hty hi hf with nothing | ⟨snd, ht⟩
  · rw [nothing] at hp
    cases hp
    cases hs
  · rcases parseApp_cases hf ho with nothing | ⟨method, id, params, hr, app⟩
    · rw [ht, nothing] at hp
      cases hp
      cases hs
    · rw [ht, app] at hp
      exact ⟨id, hr, dispatch_answers hp hs⟩

end Handled

/- The text of an answer -/

variable {s : Scribe} {cid : Option UInt32} {id : Int} {reply : Outgoing}

theorem AppAnswer.stringify (h : AppAnswer cid id reply) : ∃ snd msg,
    s.stringify reply = .ok (s.cpp.toStyledString (.obj [("data",
      Scribe.custom "App" snd (s.appProtocolData cid msg)), ("event", .str "Customized")])) ∧
    msg.get? "id" = some (ofInt id) := by
  cases h with
  | result snd method result =>
    exact ⟨s.clientId snd, Scribe.appMessageData method id result .result, rfl, rfl⟩
  | error snd method err =>
    exact ⟨s.clientId snd, Scribe.appMessageData method id err .error, rfl, rfl⟩

theorem AppAnswer.read (hw : s.cpp.Writes) (han : AppAnswer cid id reply) :
    ∃ text root outer cont inner msg number, s.stringify reply = .ok text ∧
      JsonText.parse text = some root ∧ root.get? "data" = some outer ∧
      outer.get? "data" = some cont ∧
      cont.get? "message" = some (.str inner) ∧ JsonText.parse inner = some msg ∧
      msg.get? "id" = some number ∧ (ofInt id).Alike number := by
  obtain ⟨snd, written, hs, hn⟩ := han.stringify (s := s)
  obtain ⟨root, hp, ha⟩ := hw (.obj [("data",
    Scribe.custom "App" snd (s.appProtocolData cid written)), ("event", .str "Customized")])
  obtain ⟨outer, d, ha⟩ := ha.get? (show get? "data" _ = some _ from rfl)
  obtain ⟨cont, inner, ha⟩ := ha.get? (show get? "data" _ = some _ from rfl)
  obtain ⟨text, hf, ha⟩ := ha.get? (show get? "message" _ = some _ from rfl)
  obtain rfl := ha.str
  obtain ⟨msg, read, ha⟩ := hw written
  obtain ⟨number, hnu, ha⟩ := ha.get? hn
  exact ⟨_, root, outer, cont, _, msg, number, hs, hp, d, inner, hf, read, hnu, ha⟩

end DebugRouter.Native
