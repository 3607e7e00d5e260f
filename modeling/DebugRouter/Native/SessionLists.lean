import DebugRouter.Library.JsonRoundTrip
import DebugRouter.Native.Isolation

/-!
The list of sessions that the other side holds. Each call that changes which sessions are visible
pushes the list, except `EnableAllSessions`: what that uncovers is not listed until something else
pushes.
-/
namespace DebugRouter.Native

open Library List Processor SessionEvent

/-- The JSON library reads the description of a slot back as it was written. -/
def JsonCpp.ReadsBack (cpp : JsonCpp) : Prop :=
  ∀ type url : String, cpp.parse
    (Utf8.encode (cpp.toStyledString (.obj [("type", .str type), ("url", .str url)])).toList) =
      .ok (true, .obj [("type", .str type), ("url", .str url)])

def SessionEvent.list? : SessionEvent → Option (List SessionInfo)
  | sent message => message.list?
  | sentData .. | sessionHandler .. | slot .. | globalHandler .. | openCard .. | sessionCreate ..
  | sessionDestroy .. => none

namespace SessionCore

/-- The sessions that are plugged and enabled, or all that are plugged, if they have a URL. -/
def visible (s : SessionCore) : List SessionInfo :=
  (s.slots.entries.filter fun entry =>
    s.isActiveSession entry.1 && decide (entry.2.url ≠ kInvalidTemplateUrl)).map
      fun entry => ⟨entry.1, entry.2.url, entry.2.type⟩

/-- The call uncovers a session without saying so. -/
def Uncovers (s : SessionCore) : SessionAct → Prop
  | .enableAllSessions =>
    ∃ entry ∈ s.slots.entries, entry.2.url ≠ kInvalidTemplateUrl ∧ s.isActiveSession entry.1 = false
  | .plug _ | .pull _ | .enableSingleSession _ | .sendData .. | .incoming _ | .elsewhere _ => False

variable {cpp : JsonCpp} {s s' : SessionCore} {events : List SessionEvent}

theorem collect_slots (h : cpp.ReadsBack) (es : List (Int × Slot)) :
    collectSessions cpp (es.map fun e =>
        (e.1, cpp.toStyledString (.obj [("type", .str e.2.type), ("url", .str e.2.url)]))) =
      .ok ((es.filter fun e => decide (e.2.url ≠ kInvalidTemplateUrl)).map fun e =>
        ⟨e.1, e.2.url, e.2.type⟩) := by
  induction es with
  | nil => rfl
  | cons e xs ih =>
    obtain ⟨id, slot⟩ := e
    have hr : sessionInfo cpp (cpp.toStyledString
        (.obj [("type", .str slot.type), ("url", .str slot.url)])) = .ok (slot.type, slot.url) := by
      simp [sessionInfo, h slot.type slot.url, resolveReference, lookupLast, asString]
    simp only [map_cons, collectSessions, hr, ih, ok_bind, pure_eq_ok]
    by_cases hn : slot.url = kInvalidTemplateUrl <;> simp [hn]

theorem collect_visible (h : cpp.ReadsBack) :
    collectSessions cpp (s.getSessionList cpp) = .ok s.visible := by
  rw [getSessionList, collect_slots h, filter_filter]
  congr 3
  funext e
  rw [Bool.and_comm]
  rfl

variable {i : SessionInfo} {a : SessionAct}

theorem mem_visible : i ∈ s.visible ↔ ∃ e ∈ s.slots.entries, s.isActiveSession e.1 = true ∧
    e.2.url ≠ kInvalidTemplateUrl ∧ i = ⟨e.1, e.2.url, e.2.type⟩ := by
  simp [visible, and_assoc, eq_comm (a := i)]

/- What the calls send -/

/-- Every list among the events is the list of the visible sessions. -/
def Tells (s : SessionCore) (events : List SessionEvent) : Prop :=
  ∀ list ∈ events.filterMap list?, list = s.visible

theorem tells_append {more : List SessionEvent} (x : s.Tells events) (hs : s.Tells more) :
    s.Tells (events ++ more) := by
  intro list ht
  rw [filterMap_append] at ht
  exact (mem_append.mp ht).elim (x list) (hs list)

theorem tells_of_silent (h : ∀ ev ∈ events, ev.list? = none) : s.Tells events := by
  intro list ht
  obtain ⟨ev, hi, hl⟩ := mem_filterMap.mp ht
  rw [h ev hi] at hl
  cases hl

theorem tells_onMessage (ty : String) (sid : Int) (msg : String) :
    s.Tells (s.onMessage ty sid msg) := by
  apply tells_of_silent
  unfold onMessage
  split
  · simp [list?]
  split
  · simp
  · intro ev hi
    rcases mem_append.mp hi with hh | slotted
    · obtain ⟨hd, -, rfl⟩ := mem_map.mp hh
      rfl
    · split at slotted
      · rw [mem_singleton.mp slotted]
        rfl
      · cases slotted

theorem tells_handle (hf : cpp.ReadsBack) {c : HandlerCall}
    (hm : c.Made cpp (s.messageHandler cpp)) : s.Tells (s.handle c) := by
  cases hm with
  | list cid hc =>
    have same := (collect_visible hf).symm.trans hc
    cases same
    intro list ht
    simp only [handle] at ht
    split at ht <;> simp [list?, Outgoing.list?] at ht
    exact ht
  | other hn hu =>
    apply tells_of_silent
    simp only [handle]
    split <;> simp [list?, hu]
  | onMessage ty sid msg => exact tells_onMessage ty sid msg
  | openCard url =>
    apply tells_of_silent
    simp [handle, list?]
  | changeRoomServer url room => exact tells_of_silent (by simp [handle])

theorem tells_calls (hf : cpp.ReadsBack) {calls : List HandlerCall}
    (hm : ∀ c ∈ calls, c.Made cpp (s.messageHandler cpp)) : s.Tells (calls.flatMap s.handle) := by
  intro list ht
  obtain ⟨ev, hi, hl⟩ := mem_filterMap.mp ht
  obtain ⟨c, ha, hs⟩ := mem_flatMap.mp hi
  exact tells_handle hf (hm c ha) list (mem_filterMap.mpr ⟨ev, hs, hl⟩)

theorem tells_process (hf : cpp.ReadsBack) {msg : List UInt8}
    (hp : s.process cpp msg = some (s', events)) : s.Tells events := by
  simp only [process] at hp
  split at hp
  · cases hp
  next p calls hr =>
    cases hp
    exact tells_calls hf (process_made hr)

theorem tells_notify (hf : cpp.ReadsBack)
    (hn : s.notifyConnectStateByMessage cpp = some (s', events)) : s.Tells events := by
  unfold notifyConnectStateByMessage at hn
  split at hn
  · cases hn
    exact tells_of_silent (by simp)
  · exact tells_process hf hn

theorem flush_eq (hf : cpp.ReadsBack) (hco : s.around.connectionState = .connected) :
    s.flushIfConnected cpp = some [.sent (.sessionList s.processor.clientId s.visible)] := by
  have hc : collectSessions cpp (s.messageHandler cpp).sessionList = .ok s.visible :=
    collect_visible hf
  simp [flushIfConnected, flushSessionList, sessionList, handle, hco, hc]

/- Every call -/

/-- What a call tells: nothing if it leaves the visible sessions as they are, or only their list. -/
structure Pushes (cpp : JsonCpp) (s : SessionCore) (a : SessionAct) : Prop where
  tells : (s.step cpp a).Tells (s.act cpp a).2
  silent : (s.act cpp a).2.filterMap list? = [] → (s.step cpp a).visible = s.visible

theorem tells_pushed : s.Tells [.sent (.sessionList s.processor.clientId s.visible)] := by
  simp [Tells, list?, Outgoing.list?]

theorem pushes_plug (hf : cpp.ReadsBack) (hc : s.around.connectionState = .connected)
    (slot : Slot) : s.Pushes cpp (.plug slot) := by
  have hp := fun id slots => flush_eq (s := { s with maxSessionId := id, slots := slots }) hf hc
  constructor
  · simp only [step, act, plug, hp]
    split
    · exact tells_pushed
    next heard hn =>
      have told := tells_notify hf hn
      obtain ⟨⟨p, rfl⟩, -⟩ := notifyByMessage_spec hn
      apply tells_append
      · exact tells_append tells_pushed told
      · apply tells_of_silent
        simp [list?]
  · simp only [act, plug, hp]
    split <;> simp [list?, Outgoing.list?]

theorem pushes_pull (hf : cpp.ReadsBack) (hc : s.around.connectionState = .connected)
    (sid : Int) : s.Pushes cpp (.pull sid) := by
  have hp := fun enabled slots =>
    flush_eq (s := { s with enabledSessionIds := enabled, slots := slots }) hf hc
  constructor
  · simp only [step, act, pull, hp]
    apply tells_append tells_pushed
    apply tells_of_silent
    simp [list?]
  · simp [act, pull, hp, list?, Outgoing.list?]

theorem pushes_enableSingle (hf : cpp.ReadsBack)
    (hc : s.around.connectionState = .connected) (sid : Int) :
    s.Pushes cpp (.enableSingleSession sid) := by
  have hp := fun enabled => flush_eq (s := { s with enabledSessionIds := enabled }) hf hc
  by_cases hi : s.enableAllSessions ∨ sid ≤ 0 ∨ sid ∈ s.enabledSessionIds
  · constructor
    · simp [step, act, enableSingleSession, hi, Tells]
    · simp [step, act, enableSingleSession, hi]
  · constructor
    · simp only [step, act, enableSingleSession, hi, if_false, hp, Option.getD_some]
      exact tells_pushed
    · simp [act, enableSingleSession, hi, hp, list?, Outgoing.list?]

theorem visible_incoming (msg : List UInt8) : (s.step cpp (.incoming msg)).visible = s.visible := by
  simp only [step, act]
  cases hp : s.process cpp msg with
  | none => rfl
  | some result =>
    obtain ⟨⟨p, hc⟩, -⟩ := process_spec hp
    simp only [Option.getD_some, hc]
    rfl

theorem pushes_incoming (h : cpp.ReadsBack) (msg : List UInt8) : s.Pushes cpp (.incoming msg) := by
  refine ⟨?_, fun _ => visible_incoming msg⟩
  unfold Tells
  rw [visible_incoming]
  simp only [act]
  cases hp : s.process cpp msg with
  | none => simp
  | some result => exact tells_process h hp

theorem pushes_act (hf : cpp.ReadsBack) (hc : s.around.connectionState = .connected)
    (ho : a ≠ .enableAllSessions) : s.Pushes cpp a := by
  cases a with
  | plug slot => exact pushes_plug hf hc slot
  | pull sid => exact pushes_pull hf hc sid
  | enableSingleSession sid => exact pushes_enableSingle hf hc sid
  | enableAllSessions => exact absurd rfl ho
  | sendData d ty sid mark isObject =>
    refine ⟨tells_of_silent ?_, fun _ => rfl⟩
    simp only [act, sendData]
    split_ifs <;> simp [list?]
  | incoming msg => exact pushes_incoming hf msg
  | elsewhere around => exact ⟨tells_of_silent (by simp [act]), fun _ => rfl⟩

theorem mem_visible_enableAll :
    i ∈ (s.step cpp .enableAllSessions).visible ↔
      ∃ e ∈ s.slots.entries, e.2.url ≠ kInvalidTemplateUrl ∧
        i = ⟨e.1, e.2.url, e.2.type⟩ := by
  simp [mem_visible, step, act, isActiveSession]

theorem same_visible_iff (cpp : JsonCpp) :
    (∀ i, i ∈ s.visible ↔ i ∈ (s.step cpp .enableAllSessions).visible) ↔
      ¬ s.Uncovers .enableAllSessions := by
  constructor
  · rintro hs ⟨⟨id, slot⟩, hi, hn, hin⟩
    have shown := (hs ⟨id, slot.url, slot.type⟩).mpr
      (mem_visible_enableAll.mpr ⟨⟨id, slot⟩, hi, hn, rfl⟩)
    obtain ⟨o, -, ha, -, hs⟩ := mem_visible.mp shown
    simp only [SessionInfo.mk.injEq] at hs
    simp [hs.1, ha] at hin
  · intro hc i
    rw [mem_visible_enableAll, mem_visible]
    constructor
    · rintro ⟨e, hi, -, hn, rfl⟩
      exact ⟨e, hi, hn, rfl⟩
    · rintro ⟨e, hi, hn, rfl⟩
      refine ⟨e, hi, ?_, hn, rfl⟩
      by_contra hin
      exact hc ⟨e, hi, hn, by simpa using hin⟩

theorem step_around (h : ∀ around, a ≠ .elsewhere around) : (s.step cpp a).around = s.around := by
  cases a with
  | plug slot =>
    simp only [step, act, plug]
    split
    · rfl
    split
    · rfl
    next hn =>
      obtain ⟨⟨p, rfl⟩, -⟩ := notifyByMessage_spec hn
      rfl
  | pull sid =>
    simp only [step, act, pull]
    split <;> rfl
  | enableSingleSession sid =>
    simp only [step, act, enableSingleSession]
    split <;> rfl
  | enableAllSessions | sendData => rfl
  | incoming msg =>
    simp only [step, act]
    cases hp : s.process cpp msg with
    | none => rfl
    | some result =>
      obtain ⟨⟨p, hc⟩, -⟩ := process_spec hp
      simp [hc]
  | elsewhere around => exact absurd rfl (h around)

end SessionCore

/- Runs -/

/-- Whatever else happens to the core, the connection stays. -/
def SessionAct.StaysConnected : SessionAct → Prop
  | elsewhere around => around.connectionState = .connected
  | plug _ | pull _ | enableSingleSession _ | enableAllSessions | sendData .. | incoming _ => True

structure SessionLog where
  core : SessionCore
  sent : List (List SessionInfo)

namespace SessionLog
variable {cpp : JsonCpp} {l : SessionLog}

def step (cpp : JsonCpp) (l : SessionLog) (a : SessionAct) : SessionLog :=
  ⟨l.core.step cpp a, l.sent ++ (l.core.act cpp a).2.filterMap list?⟩

def Converged (l : SessionLog) : Prop :=
  ∃ list, l.sent.getLast? = some list ∧ ∀ info, info ∈ list ↔ info ∈ l.core.visible

variable {a : SessionAct}

theorem converged_of_pushes (hp : l.core.Pushes cpp a) (hc : l.Converged) :
    (l.step cpp a).Converged := by
  obtain ⟨list, hl, hs⟩ := hc
  cases ht : (l.core.act cpp a).2.filterMap list? using reverseRecOn with
  | nil =>
    refine ⟨list, by simp [step, ht, hl], ?_⟩
    simpa [step, hp.silent ht] using hs
  | append_singleton before pushed =>
    have right : pushed = (l.core.step cpp a).visible := hp.tells pushed (by simp [ht])
    refine ⟨pushed, by simp [step, ht], ?_⟩
    simp [step, right]

theorem converged_enableAll_iff (h : l.Converged) :
    (l.step cpp .enableAllSessions).Converged ↔ ¬ l.core.Uncovers .enableAllSessions := by
  obtain ⟨list, hl, hs⟩ := h
  rw [← SessionCore.same_visible_iff cpp]
  constructor
  · rintro ⟨list', hl', hs'⟩ i
    have hk : list' = list := by simpa [step, SessionCore.act, hl, eq_comm] using hl'
    subst hk
    exact (hs i).symm.trans (hs' i)
  · intro hu
    refine ⟨list, by simp [step, SessionCore.act, hl], ?_⟩
    exact fun i => (hs i).trans (hu i)

theorem converged_step_iff (hf : cpp.ReadsBack) (hco : l.core.around.connectionState = .connected)
    (hc : l.Converged) (a : SessionAct) : (l.step cpp a).Converged ↔ ¬ l.core.Uncovers a := by
  by_cases all : a = .enableAllSessions
  · subst all
    exact converged_enableAll_iff hc
  · have pushes := SessionCore.pushes_act hf hco all
    refine iff_of_true (converged_of_pushes pushes hc) ?_
    cases a with
    | enableAllSessions => exact absurd rfl all
    | plug | pull | enableSingleSession | sendData | incoming | elsewhere => exact id

def Connected (l : SessionLog) : Prop := l.core.around.connectionState = .connected

instance : Decidable l.Connected := inferInstanceAs (Decidable (_ = _))

theorem connected_step (hs : a.StaysConnected) (hc : l.Connected) : (l.step cpp a).Connected := by
  cases a with
  | elsewhere around => exact hs
  | plug | pull | enableSingleSession | enableAllSessions | sendData | incoming =>
    simp only [Connected, step]
    rw [SessionCore.step_around (by simp)]
    exact hc

theorem converged_joined (hf : cpp.ReadsBack) (hco : l.Connected)
    {msg : List UInt8} {successful : Bool} {root : Json} (hr : cpp.parse msg = .ok (successful, root))
    (hj : parse cpp root = .ok (some .roomJoined)) : (l.step cpp (.incoming msg)).Converged := by
  have hc : collectSessions cpp (l.core.messageHandler cpp).sessionList = .ok l.core.visible :=
    SessionCore.collect_visible hf
  refine ⟨l.core.visible, ?_, ?_⟩
  · unfold Connected at hco
    simp [step, SessionCore.act, SessionCore.process, process, hr, processRoot, hj,
      dispatch, sessionList, hc, Except.map, SessionCore.handle, hco,
      list?, Outgoing.list?]
  · simp [step, SessionCore.visible_incoming]

/-- From the message `RoomJoined` on, as long as the connection lasts, the last list sent is the set
of the visible sessions exactly if no `EnableAllSessions` uncovers a session. -/
theorem sessionLists_converge_iff (cpp : JsonCpp) (faithful : cpp.ReadsBack) (l : SessionLog)
    (connected : l.Connected) (message : List UInt8) (successful : Bool) (root : Json)
    (read : cpp.parse message = .ok (successful, root))
    (joined : parse cpp root = .ok (some .roomJoined)) (acts : List SessionAct)
    (stays : ∀ a ∈ acts, a.StaysConnected) :
    Throughout (step cpp) Converged (l.step cpp (.incoming message)) acts ↔
      Along (step cpp) (fun l a => ¬ l.core.Uncovers a) (l.step cpp (.incoming message)) acts := by
  have start : (l.step cpp (.incoming message)).Connected := connected_step trivial connected
  have kept : ∀ (l : SessionLog) (a : SessionAct), a.StaysConnected → l.Connected → l.Converged →
      (l.step cpp a).Connected :=
    fun l a stays connected _ => connected_step stays connected
  apply throughout_iff_along_of_allowed kept _ stays start
    (converged_joined faithful connected read joined)
  exact fun l a _ connected hc => converged_step_iff faithful connected hc a

theorem jsonText_readsBack : jsonText.ReadsBack := by
  intro ty url
  simp [jsonText, Utf8.decode_encode, JsonText.parse_stringify, Json.normalize,
    Json.normalizeFields, assignAll, setEntry]

def roomJoined : String := "\x7b\"event\":\"RoomJoined\",\"data\":\x7b\"id\":1,\"room\":\"\"\x7d\x7d"

theorem single_session_listed :
    let around : Surroundings := ⟨.connected, false, "", [], fun _ => none, [], []⟩
    let l : SessionLog := ⟨(SessionCore.initial 1).step jsonText (.elsewhere around), []⟩
    Throughout (step jsonText) Converged (l.step jsonText (.incoming (Utf8.encode roomJoined.toList)))
      [.plug ⟨"card", "a"⟩, .enableSingleSession 1, .pull 1] := by
  intro around l
  have read : jsonText.parse (Utf8.encode roomJoined.toList) =
      .ok (true, .obj [("event", .str "RoomJoined"),
      ("data", .obj [("id", Json.ofInt 1), ("room", .str "")])]) := by
    decide +kernel
  apply (sessionLists_converge_iff jsonText jsonText_readsBack l rfl _ true _ read
    (by decide +kernel) _ _).mpr
  · exact ⟨id, id, id, trivial⟩
  · simp [SessionAct.StaysConnected]

/-- A session that was plugged and never enabled becomes visible, and the other side still holds the
empty list. -/
theorem uncovered_session_unlisted :
    let around : ConnectionState → Surroundings :=
      fun state => ⟨state, false, "", [], fun _ => none, [], []⟩
    let l := [.elsewhere (around .connecting), .plug ⟨"card", "a"⟩, .elsewhere (around .connected),
      .incoming (Utf8.encode roomJoined.toList), .enableAllSessions].foldl (step jsonText)
        ⟨SessionCore.initial 1, []⟩
    l.Connected ∧ l.sent = [[]] ∧ l.core.visible = [⟨1, "a", "card"⟩] := by
  decide +kernel

end SessionLog

end DebugRouter.Native
