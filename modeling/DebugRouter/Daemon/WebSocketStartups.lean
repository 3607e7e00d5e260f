import DebugRouter.Daemon.Lifecycle

/-!
The startups of the WebSocket server. One is under way at most, and the Host keeps its promise; the
controller belongs to it until the server is started, and goes when it fails. Who has asked for the
server is subscribed while a call of theirs waits, and from the start on.
-/
namespace DebugRouter.Daemon

open Library List Option WebSocketServing

namespace StartupPoint

def underWay (p : StartupPoint) : Bool := !LifeHost.startupSettled p

def owns : StartupPoint → Bool
  | .listening | .opened | .rejected => true
  | _ => false

def holds : StartupPoint → Bool
  | .listening | .opened => true
  | _ => false

def serves : StartupPoint → Bool
  | .leaving ok | .settled ok => ok
  | _ => false

end StartupPoint

namespace WebSocketServing
variable {w : WebSocketServing} {torn : Prop}

structure Fits (controller : Option Nat) (started : Bool) (p : StartupPoint) : Prop where
  held : p.holds = true → controller.isSome
  owned : controller.isSome → started = true ∨ p.owns = true
  last : started = true → p = .leaving true
  serves : p.serves = true → started = true

variable {ctl : Option Nat} {started : Bool} {p q : StartupPoint} {i j : Nat}
variable {startups : List StartupPoint}

theorem Fits.unstarted (hf : Fits ctl started p) (he : p ≠ .leaving true) : started ≠ true :=
  fun on => he (hf.last on)

/-- `torn` tells whether `stopInternal` has dropped everything. -/
structure Sound (torn : Prop) (w : WebSocketServing) : Prop where
  kept : ∀ (j : Nat) (p : StartupPoint), w.startups[j]? = some p → p.underWay = true →
    w.webSocketServerStarting = some j
  meant : ∀ j : Nat, w.webSocketServerStarting = some j →
    ∃ p, w.startups[j]? = some p ∧ p.underWay = true
  fits : ∀ (j : Nat) (p : StartupPoint), w.startups[j]? = some p → p.underWay = true →
    Fits w.webSocketController w.webSocketServerStarted p
  idle : w.webSocketServerStarting = .none → w.webSocketController.isSome →
    w.webSocketServerStarted = true
  full : w.webSocketServerStarted = true → w.webSocketServerInfo.isSome ∧ w.webSocketController.isSome
  succeeded : ∀ j : Nat, w.startups[j]? = some (.settled true) →
    w.webSocketServerStarted = true ∨ torn
  subscribed : ∀ c ∈ w.webSocketRequesterControlIds,
    w.webSocketServerStarted = true ∨ ∃ j, (⟨c, .waiting j⟩ : WebSocketCall) ∈ w.calls
  dropped : torn → w.webSocketServerStarting = .none ∧ w.webSocketController = .none ∧
    w.webSocketServerStarted = false ∧ w.webSocketRequesterControlIds = []

theorem none_sound (ws : Bool) : (none ws).Sound False :=
  ⟨nofun, nofun, nofun, nofun, nofun, nofun, nofun, nofun⟩

theorem Sound.shared (hs : w.Sound torn) (x : w.startups[i]? = some p)
    (hse : w.startups[j]? = some q) (he : p.underWay = true) (hl : q.underWay = true) : i = j := by
  have one := hs.kept i p x he
  rw [hs.kept j q hse hl] at one
  exact (some.inj one).symm

theorem Sound.all_settled (hs : w.Sound torn) (hi : w.webSocketServerStarting = .none)
    (hh : w.startups[j]? = some p) : p.underWay = false := by
  by_contra underWay
  rw [hs.kept j p hh (by simpa using underWay)] at hi
  cases hi

theorem Sound.owned (hso : w.Sound torn) (hun : w.webSocketServerStarted = false)
    (hfr : ∀ p ∈ w.startups, p.owns = false) : w.webSocketController = .none := by
  rw [eq_none_iff_forall_not_mem]
  intro su hf
  have hc : w.webSocketController.isSome := isSome_iff_exists.mpr ⟨su, hf⟩
  have hs : w.webSocketServerStarted = true := by
    cases hst : w.webSocketServerStarting with
    | none => exact hso.idle hst hc
    | some j =>
      obtain ⟨p, hh, hu⟩ := hso.meant j hst
      refine ((hso.fits j p hh hu).owned hc).resolve_right ?_
      rw [hfr p (mem_of_getElem? hh)]
      nofun
  rw [hun] at hs
  cases hs

theorem Sound.enable (h : w.Sound torn) (ws : Bool) : Sound torn { w with enableWebSocket := ws } :=
  ⟨h.kept, h.meant, h.fits, h.idle, h.full, h.succeeded, h.subscribed, h.dropped⟩

theorem Sound.addCall (h : w.Sound torn) (ctrl : Nat) (pt : CallPoint) :
    (w.addCall ctrl pt).Sound torn :=
  { h with
    subscribed := fun c hi => (h.subscribed c hi).imp_right fun ⟨j, hw⟩ => ⟨j, mem_append_left _ hw⟩ }

theorem Sound.forget (h : w.Sound torn) (ctrl : Nat) : (w.forget ctrl).Sound torn :=
  { h with
    subscribed := fun c hi => h.subscribed c (List.mem_filter.mp hi).1
    dropped := fun hg => by
      obtain ⟨idle, ctl, unstarted, empty⟩ := h.dropped hg
      refine ⟨idle, ctl, unstarted, ?_⟩
      unfold WebSocketServing.forget
      rw [empty, List.filter_nil] }

/- A request -/

theorem Sound.subscribe (hs : w.Sound torn) (hwh : ¬ torn) {ctrl : Nat} {pt : CallPoint}
    (hc : w.webSocketServerStarted = true ∨ ∃ j, pt = .waiting j) :
    Sound torn (WebSocketServing.addCall { w with
      webSocketRequesterControlIds := insertLast ctrl w.webSocketRequesterControlIds } ctrl pt) := by
  refine ⟨hs.kept, hs.meant, hs.fits, hs.idle, hs.full, hs.succeeded, ?_,
    fun hg => absurd hg hwh⟩
  intro c hi
  rcases mem_insertLast.mp hi with old | rfl
  · exact (hs.subscribed c old).imp_right fun ⟨j, hw⟩ => ⟨j, List.mem_append_left _ hw⟩
  · refine hc.imp_right ?_
    rintro ⟨j, rfl⟩
    exact ⟨j, List.mem_append_right _ List.mem_cons_self⟩

theorem startups_append
    (h : (startups ++ [q])[j]? = some p) : startups[j]? = some p ∨ j = startups.length ∧ p = q := by
  rcases Nat.lt_trichotomy j startups.length with hb | rfl | after
  · rw [getElem?_append_left hb] at h
    exact .inl h
  · rw [getElem?_concat_length] at h
    exact .inr ⟨rfl, (some.inj h).symm⟩
  · rw [getElem?_eq_none (by rw [length_append]; exact after)] at h
    cases h

theorem Sound.begin (hso : w.Sound torn) (hw : ¬ torn) (idle : w.webSocketServerStarting = .none)
    (hun : w.webSocketServerStarted = false) :
    Sound torn { w with
      startups := w.startups ++ [StartupPoint.detecting]
      webSocketServerStarting := some w.startups.length } := by
  have hn : ∀ (j : Nat) (p : StartupPoint), (w.startups ++ [StartupPoint.detecting])[j]? = some p →
      p.underWay = true → j = w.startups.length ∧ p = .detecting := by
    intro j p hh hu
    refine (startups_append hh).resolve_left ?_
    intro old
    rw [hso.all_settled idle old] at hu
    cases hu
  exact
    { kept := fun j p hh hu => by rw [(hn j p hh hu).1]
      meant := by
        rintro j ⟨⟩
        exact ⟨.detecting, getElem?_concat_length, rfl⟩
      fits := by
        intro j p hh hu
        obtain ⟨-, rfl⟩ := hn j p hh hu
        refine ⟨nofun, ?_, ?_, nofun⟩
        · intro hc
          exact .inl (hso.idle idle hc)
        · intro hs
          exact absurd (hun.symm.trans hs) nofun
      idle := nofun
      full := hso.full
      succeeded := fun j hh => hso.succeeded j ((startups_append hh).resolve_right nofun)
      subscribed := hso.subscribed
      dropped := fun hg => absurd hg hw }

theorem Sound.request (hso : w.Sound torn) (hw : ¬ torn) (ctrl : Nat) :
    (w.request ctrl).Sound torn := by
  unfold WebSocketServing.request
  split
  · exact hso.addCall ctrl .thrown
  · dsimp only
    split
    next hs =>
      have known := (hso.full hs).1
      split
      next hu =>
        rw [hu] at known
        cases known
      · exact hso.subscribe hw (.inl hs)
    next hun =>
      split
      · exact hso.subscribe hw (.inr ⟨_, rfl⟩)
      next hi => exact (hso.begin hw hi (by simpa using hun)).subscribe hw (.inr ⟨_, rfl⟩)

/- A startup goes on -/

theorem startups_set (h : (startups.set i q)[j]? = some p) :
    j = i ∧ p = q ∨ startups[j]? = some p := by
  by_cases hs : i = j
  · subst hs
    rw [getElem?_set_self' ] at h
    obtain ⟨_, _, rfl⟩ := map_eq_some_iff.mp h
    exact .inl ⟨rfl, rfl⟩
  · rw [getElem?_set_ne hs] at h
    exact .inr h

theorem startups_set_self (h : startups[i]? = some p) : (startups.set i q)[i]? = some q := by
  rw [getElem?_set_self', h]
  rfl

theorem Sound.only (hs : w.Sound torn) {q' : StartupPoint} (hh : w.startups[i]? = some p)
    (he : p.underWay = true) (ht : (w.startups.set i q)[j]? = some q') (hl : q'.underWay = true) :
    j = i ∧ q' = q := by
  rcases startups_set ht with hm | old
  · exact hm
  · obtain rfl := hs.shared hh old he hl
    rw [startups_set_self hh] at ht
    exact ⟨rfl, (some.inj ht).symm⟩

theorem Sound.move (hso : w.Sound torn) {info : Option Nat} (hh : w.startups[i]? = some p)
    (he : p.underWay = true) (hl : q.underWay = true)
    (fits : Fits ctl started q) (full : started = true → info.isSome ∧ ctl.isSome)
    (hk : w.webSocketServerStarted = true → started = true) :
    Sound torn (setStartup { w with
      webSocketController := ctl
      webSocketServerInfo := info
      webSocketServerStarted := started } i q) := by
  have hs := hso.kept i p hh he
  exact
    { kept := fun j q' ht underWay => by
        rw [(hso.only hh he ht underWay).1]
        exact hs
      meant := by
        intro j kept
        obtain rfl : i = j := some.inj (hs.symm.trans kept)
        exact ⟨q, startups_set_self hh, hl⟩
      fits := fun j q' ht underWay => by
        rw [(hso.only hh he ht underWay).2]
        exact fits
      idle := fun idle => absurd (hs.symm.trans idle) nofun
      full := full
      succeeded := by
        intro j ht
        rcases startups_set ht with ⟨-, rfl⟩ | old
        · cases hl
        · exact (hso.succeeded j old).imp_left hk
      subscribed := fun c hi => (hso.subscribed c hi).imp_left hk
      dropped := fun hg => absurd (hs.symm.trans (hso.dropped hg).1) nofun }

theorem Sound.leave (hso : w.Sound torn) {ok : Bool} (hh : w.startups[i]? = some (.leaving ok)) :
    Sound torn (setStartup { w with webSocketServerStarting := .none } i (.settled ok)) := by
  have starting := hso.kept i _ hh rfl
  have fits := hso.fits i _ hh rfl
  exact
    { kept := fun j q ht hu => by
        obtain ⟨-, rfl⟩ := hso.only hh rfl ht hu
        cases hu
      meant := nofun
      fits := fun j q ht hu => by
        obtain ⟨-, rfl⟩ := hso.only hh rfl ht hu
        cases hu
      idle := fun _ hc => (fits.owned hc).resolve_right nofun
      full := hso.full
      succeeded := by
        intro j ht
        rcases startups_set ht with ⟨-, hs⟩ | old
        · cases hs
          exact .inl (fits.serves rfl)
        · exact hso.succeeded j old
      subscribed := hso.subscribed
      dropped := fun hg => absurd (starting.symm.trans (hso.dropped hg).1) nofun }

theorem Sound.advance (h : w.Sound torn) (su : Nat) (ok : Bool) : (w.advance su ok).Sound torn := by
  unfold WebSocketServing.advance
  split
  · exact h
  next hh =>
    have hf := h.fits su _ hh rfl
    have hu := hf.unstarted nofun
    split
    · exact h.move hh rfl rfl ⟨fun _ => rfl, fun _ => .inr rfl, fun hs => absurd hs hu, nofun⟩
        (fun hs => absurd hs hu) id
    · exact h.move hh rfl rfl ⟨nofun, fun _ => .inr rfl, fun hs => absurd hs hu, nofun⟩
        h.full id
  next hh =>
    have hf := h.fits su _ hh rfl
    have hu := hf.unstarted nofun
    split
    · exact h.move hh rfl rfl ⟨fun _ => hf.held rfl, fun _ => .inr rfl, fun hs => absurd hs hu,
        nofun⟩ h.full id
    · exact h.move hh rfl rfl ⟨nofun, fun _ => .inr rfl, fun hs => absurd hs hu, nofun⟩
        h.full id
  next hh =>
    have hf := h.fits su _ hh rfl
    exact h.move hh rfl rfl ⟨nofun, fun _ => .inl rfl, fun _ => rfl, fun _ => rfl⟩
      (fun _ => ⟨rfl, hf.held rfl⟩) (fun _ => rfl)
  next hh =>
    have hf := h.fits su _ hh rfl
    have hu := hf.unstarted nofun
    exact h.move hh rfl rfl ⟨nofun, nofun, fun hs => absurd hs hu, nofun⟩
      (fun hs => absurd hs hu) id
  next hh =>
    have hf := h.fits su _ hh rfl
    have hu := hf.unstarted nofun
    exact h.move hh rfl rfl ⟨nofun, fun hc => .inl ((hf.owned hc).resolve_right nofun),
      fun hs => absurd hs hu, nofun⟩ h.full id
  next hh => exact h.leave hh
  · exact h

/- A call goes on -/

theorem waits_set {calls : List WebSocketCall} {call c : Nat} {before after : WebSocketCall}
    (hh : calls[call]? = some before) (ho : c ≠ before.controlId)
    (hw : (⟨c, .waiting j⟩ : WebSocketCall) ∈ calls) :
    (⟨c, .waiting j⟩ : WebSocketCall) ∈ calls.set call after := by
  obtain ⟨i, ht⟩ := mem_iff_getElem?.mp hw
  have apart : call ≠ i := by
    rintro rfl
    rw [hh] at ht
    cases ht
    exact ho rfl
  rw [mem_iff_getElem?]
  exact ⟨i, by rw [getElem?_set_ne apart, ht]⟩

theorem Sound.resume (sound : w.Sound torn) (call : Nat) : (w.resume call).Sound torn := by
  unfold WebSocketServing.resume
  split
  next ctrl su hh =>
    split
    next hs =>
      refine { sound with subscribed := ?_ }
      intro c hi
      rcases sound.succeeded su hs with hst | gone
      · exact .inl hst
      · rw [(sound.dropped gone).2.2.2] at hi
        cases hi
    · refine { sound.forget ctrl with subscribed := ?_ }
      intro c hi
      obtain ⟨old, ho⟩ := List.mem_filter.mp hi
      exact (sound.subscribed c old).imp_right fun ⟨j, hw⟩ => ⟨j, waits_set hh (by simpa using ho) hw⟩
    · exact sound
  · exact sound

theorem Sound.detached (hs : w.Sound torn) (idle : w.webSocketServerStarting = .none) :
    w.detached.Sound True where
  kept := hs.kept
  meant := hs.meant
  fits j p here underWay := absurd ((hs.kept j p here underWay).symm.trans idle) nofun
  idle := nofun
  full := nofun
  succeeded _ _ := .inr trivial
  subscribed := nofun
  dropped _ := ⟨idle, rfl, rfl, rfl⟩

end WebSocketServing

end DebugRouter.Daemon
