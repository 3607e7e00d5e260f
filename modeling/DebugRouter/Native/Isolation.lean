import DebugRouter.Library.Runs
import DebugRouter.Native.Calls
import DebugRouter.Native.Sessions

/-!
Sessions are isolated: until all sessions are enabled, nothing that names a session with a positive
id gets to a handler, to a slot or onto the wire unless that session is enabled.
-/
namespace DebugRouter.Native

open Library List SessionEvent

/-- The sessions whose messages, data or entries in a list are seen. -/
def SessionEvent.sessions : SessionEvent → List Int
  | sessionHandler _ sessionId _ _ | slot sessionId _ _ => [sessionId]
  | sent message => message.sessions
  | sentData sessionId message => sessionId :: message.sessions
  | globalHandler .. | openCard .. | sessionCreate .. | sessionDestroy .. => []

/-- What the processor sends names no session but the given ones. -/
def HandlerCall.Names (ids : List Int) : HandlerCall → Prop
  | sendMessage message => ∀ id ∈ message.sessions, id ∈ ids
  | onMessage .. | openCard _ | changeRoomServer .. => True

/- The processor -/

theorem collect_ids {cpp : JsonCpp} {sessions : List (Int × String)} {list : List SessionInfo}
    (h : collectSessions cpp sessions = .ok list) :
    ∀ i ∈ list, i.sessionId ∈ sessions.map Prod.fst := by
  induction sessions generalizing list with
  | nil =>
    cases h
    simp
  | cons session xs ih =>
    obtain ⟨id, text⟩ := session
    simp only [collectSessions] at h
    cases hr : sessionInfo cpp text with
    | error what => simp [hr] at h
    | ok i =>
      cases ho : collectSessions cpp xs with
      | error what => simp [hr, ho] at h
      | ok more =>
        simp only [hr, ho, ok_bind, pure_eq_ok, Except.ok.injEq] at h
        intro e hi
        rw [← h] at hi
        split at hi
        · exact mem_cons_of_mem _ (ih ho e hi)
        · rcases mem_cons.mp hi with rfl | later
          · exact mem_cons_self
          · exact mem_cons_of_mem _ (ih ho e later)

theorem HandlerCall.Made.names {cpp : JsonCpp} {h : MessageHandler} {c : HandlerCall}
    (hm : c.Made cpp h) :
    c.Names (h.sessionList.map Prod.fst) := by
  cases hm with
  | list cid hc =>
    intro id hn
    obtain ⟨i, hi, rfl⟩ := mem_map.mp hn
    exact collect_ids hc i hi
  | other hna hu =>
    intro id hn
    rw [hna] at hn
    cases hn
  | onMessage | openCard | changeRoomServer => trivial

/- The core -/

namespace SessionCore
variable {cpp : JsonCpp} {s s' : SessionCore} {events more : List SessionEvent}

/-- What is seen of a session with a positive id is seen of an enabled one. -/
def Within (s : SessionCore) (events : List SessionEvent) : Prop :=
  ∀ event ∈ events, ∀ id ∈ event.sessions, 0 < id → id ∈ s.enabledSessionIds

theorem within_nil : s.Within [] := by simp [Within]

theorem within_append : s.Within (events ++ more) ↔ s.Within events ∧ s.Within more :=
  forall_mem_append

theorem within_of_nameless (h : ∀ ev ∈ events, ev.sessions = []) : s.Within events := by
  intro ev hi id hn
  rw [h ev hi] at hn
  cases hn

theorem within_congr (h : s'.enabledSessionIds = s.enabledSessionIds) :
    s'.Within events ↔ s.Within events := by
  simp [Within, h]

variable {sid session : Int} {a : SessionAct} {acts : List SessionAct}

theorem isActiveSession_iff (h : s.enableAllSessions = false) :
    s.isActiveSession sid = true ↔ sid ∈ s.enabledSessionIds := by
  simp [isActiveSession, h]

theorem getSessionList_enabled (h : s.enableAllSessions = false) :
    ∀ id ∈ (s.getSessionList cpp).map Prod.fst, id ∈ s.enabledSessionIds := by
  intro id hl
  simp only [getSessionList, map_map, mem_map, mem_filter, h, Bool.false_or, decide_eq_true_eq] at hl
  obtain ⟨e, ⟨-, he⟩, rfl⟩ := hl
  exact he

theorem enabled_of_passed (hs : s.enableAllSessions = false)
    (hp : ¬(s.enableAllSessions = false ∧ sid > 0 ∧ s.isActiveSession sid = false))
    (hpo : 0 < sid) : sid ∈ s.enabledSessionIds := by
  apply (isActiveSession_iff hs).mp
  by_contra hi
  exact hp ⟨hs, hpo, Bool.eq_false_iff.mpr hi⟩

theorem onMessage_within (h : s.enableAllSessions = false) (ty : String) (sessionId : Int)
    (message : String) : s.Within (s.onMessage ty sessionId message) := by
  unfold onMessage
  split
  · apply within_of_nameless
    simp [sessions]
  split
  · exact within_nil
  next hp =>
    intro ev hi id hn hpo
    have same : id = sessionId := by
      rcases mem_append.mp hi with hh | slotted
      · obtain ⟨handler, -, rfl⟩ := mem_map.mp hh
        exact mem_singleton.mp hn
      · split at slotted
        · rw [mem_singleton.mp slotted] at hn
          exact mem_singleton.mp hn
        · cases slotted
    subst same
    exact enabled_of_passed h hp hpo

theorem handle_within (hs : s.enableAllSessions = false) {c : HandlerCall}
    (hna : c.Names ((s.getSessionList cpp).map Prod.fst)) : s.Within (s.handle c) := by
  cases c with
  | sendMessage msg =>
    simp only [handle]
    split
    · intro ev only id hn _
      rw [mem_singleton.mp only] at hn
      exact getSessionList_enabled hs id (hna id hn)
    · exact within_nil
  | onMessage ty sid msg => exact onMessage_within hs ty sid msg
  | openCard url =>
    apply within_of_nameless
    simp [handle, sessions]
  | changeRoomServer url room => exact within_nil

theorem calls_within (hsi : s.enableAllSessions = false) {calls : List HandlerCall}
    (hm : ∀ c ∈ calls, c.Made cpp (s.messageHandler cpp)) : s.Within (calls.flatMap s.handle) := by
  intro ev hi
  obtain ⟨c, ha, hs⟩ := mem_flatMap.mp hi
  exact handle_within hsi (hm c ha).names ev hs

theorem process_spec {msg : List UInt8} (h : s.process cpp msg = some (s', events)) :
    (∃ p, s' = { s with processor := p }) ∧ (s.enableAllSessions = false → s.Within events) := by
  simp only [process] at h
  split at h
  · cases h
  next p calls hr =>
    cases h
    exact ⟨⟨p, rfl⟩, fun hs => calls_within hs (Processor.process_made hr)⟩

theorem flushSessionList_within (hf : s.flushSessionList cpp = some events)
    (hs : s.enableAllSessions = false) : s.Within events := by
  simp only [flushSessionList] at hf
  split at hf
  · cases hf
  next calls hl =>
    cases hf
    exact calls_within hs (Processor.sessionList_made hl)

theorem flush_within (hf : s.flushIfConnected cpp = some events)
    (hs : s.enableAllSessions = false) : s.Within events := by
  unfold flushIfConnected at hf
  split at hf
  · exact flushSessionList_within hf hs
  · cases hf
    exact within_nil

theorem notifyByMessage_spec
    (h : s.notifyConnectStateByMessage cpp = some (s', events)) :
    (∃ p, s' = { s with processor := p }) ∧ (s.enableAllSessions = false → s.Within events) := by
  unfold notifyConnectStateByMessage at h
  split at h
  · cases h
    exact ⟨⟨s.processor, rfl⟩, fun _ => within_nil⟩
  · exact process_spec h

theorem sendData_within (h : s.enableAllSessions = false) (d ty : String)
    (sessionId mark : Int) (isObject : Bool) :
    s.Within (s.sendData d ty sessionId mark isObject) := by
  unfold sendData
  split
  · split
    · exact within_nil
    next hp =>
      intro ev only id hn hpo
      have same : id = sessionId := by
        rw [mem_singleton.mp only] at hn
        simp only [sessions, Processor.wrapCustomizedMessage] at hn
        split at hn <;> simpa [Outgoing.sessions] using hn
      subst same
      exact enabled_of_passed h hp hpo
  · exact within_nil

theorem plug_spec (cpp : JsonCpp) (s : SessionCore) (slot : Slot) :
    (s.plug cpp slot).1.enabledSessionIds = s.enabledSessionIds ∧
      (s.plug cpp slot).1.enableAllSessions = s.enableAllSessions ∧
      (s.enableAllSessions = false → s.Within (s.plug cpp slot).2) := by
  simp only [plug]
  split
  · exact ⟨rfl, rfl, fun _ => within_nil⟩
  rename_i listed hf
  have hl := flush_within hf
  split
  · exact ⟨rfl, rfl, hl⟩
  next heard hn =>
    obtain ⟨⟨p, rfl⟩, hh⟩ := notifyByMessage_spec hn
    refine ⟨rfl, rfl, fun hs => ?_⟩
    refine within_append.mpr ⟨within_append.mpr ⟨hl hs, hh hs⟩, ?_⟩
    apply within_of_nameless
    simp [sessions]

theorem pull_spec (cpp : JsonCpp) (s : SessionCore) (sid : Int) :
    (s.pull cpp sid).1.enabledSessionIds =
        (if s.enableAllSessions then s.enabledSessionIds
          else s.enabledSessionIds.filter (· ≠ sid)) ∧
      (s.pull cpp sid).1.enableAllSessions = s.enableAllSessions ∧
      (s.enableAllSessions = false → (s.pull cpp sid).1.Within (s.pull cpp sid).2) := by
  simp only [pull]
  split
  · exact ⟨rfl, rfl, fun _ => within_nil⟩
  next listed hf =>
    refine ⟨rfl, rfl, fun hs => ?_⟩
    refine within_append.mpr ⟨flush_within hf hs, ?_⟩
    apply within_of_nameless
    simp [sessions]

theorem enableSingle_spec (cpp : JsonCpp) (s : SessionCore) (sid : Int) :
    (∀ id ∈ (s.enableSingleSession cpp sid).1.enabledSessionIds,
        id = sid ∨ id ∈ s.enabledSessionIds) ∧
      (s.enableSingleSession cpp sid).1.enableAllSessions = s.enableAllSessions ∧
      (s.enableAllSessions = false →
        (s.enableSingleSession cpp sid).1.Within (s.enableSingleSession cpp sid).2) := by
  unfold enableSingleSession
  split
  · exact ⟨fun id he => .inr he, rfl, fun _ => within_nil⟩
  · refine ⟨fun id he => mem_cons.mp he, rfl, fun hs => ?_⟩
    dsimp only
    cases hf : flushIfConnected cpp { s with enabledSessionIds := sid :: s.enabledSessionIds } with
    | none => exact within_nil
    | some listed => exact flush_within hf hs

/- Every call -/

theorem act_enableAll (h : a ≠ .enableAllSessions) :
    (s.step cpp a).enableAllSessions = s.enableAllSessions := by
  cases a with
  | plug slot => exact (plug_spec cpp s slot).2.1
  | pull sid => exact (pull_spec cpp s sid).2.1
  | enableSingleSession sid => exact (enableSingle_spec cpp s sid).2.1
  | enableAllSessions => exact absurd rfl h
  | sendData d ty sid mark isObject => rfl
  | incoming msg =>
    simp only [step, act]
    cases hp : s.process cpp msg with
    | none => rfl
    | some result =>
      obtain ⟨⟨p, hc⟩, -⟩ := process_spec hp
      simp [hc]
  | elsewhere around => rfl

theorem act_within (h : s.enableAllSessions = false) (a : SessionAct) :
    (s.act cpp a).1.Within (s.act cpp a).2 := by
  cases a with
  | plug slot =>
    obtain ⟨hs, -, hw⟩ := plug_spec cpp s slot
    exact (within_congr hs).mpr (hw h)
  | pull sid => exact (pull_spec cpp s sid).2.2 h
  | enableSingleSession sid => exact (enableSingle_spec cpp s sid).2.2 h
  | enableAllSessions => exact within_nil
  | sendData d ty sid mark isObject => exact sendData_within h d ty sid mark isObject
  | incoming msg =>
    simp only [act]
    cases hp : s.process cpp msg with
    | none => exact within_nil
    | some result =>
      obtain ⟨⟨p, hc⟩, hw⟩ := process_spec hp
      exact (within_congr (by simp [hc])).mpr (hw h)
  | elsewhere around => exact within_nil

theorem act_excluded (hex : session ∉ s.enabledSessionIds)
    (ho : a ≠ .enableSingleSession session) : session ∉ (s.step cpp a).enabledSessionIds := by
  cases a with
  | plug slot => exact (plug_spec cpp s slot).1 ▸ hex
  | pull sid =>
    simp only [step, act, (pull_spec cpp s sid).1]
    split
    · exact hex
    · exact fun hk => hex (mem_of_mem_filter hk)
  | enableSingleSession sid =>
    intro he
    rcases (enableSingle_spec cpp s sid).1 session he with rfl | before
    · exact ho rfl
    · exact hex before
  | enableAllSessions => exact hex
  | sendData d ty sid mark isObject => exact hex
  | incoming msg =>
    simp only [step, act]
    cases hp : s.process cpp msg with
    | none => exact hex
    | some result =>
      obtain ⟨⟨p, hc⟩, -⟩ := process_spec hp
      simpa [hc] using hex
  | elsewhere around => exact hex

/- Whole runs -/

theorem single_throughout (hs : s.enableAllSessions = false) (hn : .enableAllSessions ∉ acts) :
    Throughout (step cpp) (fun s => s.enableAllSessions = false) s acts := by
  induction acts generalizing s with
  | nil => exact hs
  | cons a xs ih =>
    obtain ⟨x, ho⟩ := not_or.mp (mem_cons.not.mp hn)
    exact ⟨hs, ih ((act_enableAll (Ne.symm x)).trans hs) ho⟩

theorem excluded_until_enabled (he : session ∉ s.enabledSessionIds)
    (hn : .enableSingleSession session ∉ acts) :
    session ∉ (acts.foldl (step cpp) s).enabledSessionIds := by
  induction acts generalizing s with
  | nil => exact he
  | cons a xs ih =>
    obtain ⟨x, ho⟩ := not_or.mp (mem_cons.not.mp hn)
    exact ih (act_excluded he (Ne.symm x)) ho

theorem pulled_excluded (h : s.enableAllSessions = false) (session : Int) :
    session ∉ (s.step cpp (.pull session)).enabledSessionIds := by
  simp [step, act, (pull_spec cpp s session).1, h]

/-- Before `EnableAllSessions` every call shows enabled sessions only, and a session that was pulled
is not enabled until it is enabled again. -/
theorem sessions_isolated (cpp : JsonCpp) (memory : UInt32) (acts : List SessionAct)
    (never : .enableAllSessions ∉ acts) :
    Along (step cpp) (fun s a => (s.act cpp a).1.Within (s.act cpp a).2) (initial memory) acts ∧
      ∀ before session after, acts = before ++ .pull session :: after →
      .enableSingleSession session ∉ after →
          session ∉ (acts.foldl (step cpp) (initial memory)).enabledSessionIds := by
  have single : Throughout (step cpp) (fun s => s.enableAllSessions = false) (initial memory) acts :=
    single_throughout rfl never
  constructor
  · exact along_of_throughout (fun s a off _ => act_within off a) single
  · rintro before session after rfl hd
    have hn : .enableAllSessions ∉ before := fun hi => never (mem_append_left _ hi)
    have atPull : (before.foldl (step cpp) (initial memory)).enableAllSessions = false :=
      throughout_last (Q := fun s : SessionCore => s.enableAllSessions = false)
        (single_throughout rfl hn)
    rw [foldl_append, foldl_cons]
    exact excluded_until_enabled (pulled_excluded atPull session) hd

theorem pulled_session_isolated :
    let around : ConnectionState → Surroundings := fun state =>
      ⟨state, false, "", [], fun _ => none, [], []⟩
    let acts := [.elsewhere (around .connecting), .plug ⟨"card", "a"⟩, .elsewhere (around .connected),
      .enableSingleSession 1, .pull 1]
    let before := (acts.take 3).foldl (step jsonText) (initial 0)
    (before.act jsonText (.enableSingleSession 1)).2 =
      [.sent (.sessionList (some 0) [⟨1, "a", "card"⟩])] ∧
      1 ∉ (acts.foldl (step jsonText) (initial 0)).enabledSessionIds := by
  intro around acts before
  refine ⟨by decide +kernel, ?_⟩
  exact (sessions_isolated jsonText 0 acts (by simp [acts])).2 (acts.take 4) 1 [] rfl (by simp)

end SessionCore

end DebugRouter.Native
