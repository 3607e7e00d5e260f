import DebugRouter.Daemon.Routing
import DebugRouter.Library.ObjectWrites

/-!
The message functions as the code runs them: on objects in memory, by writing properties through
references. What they leave behind a reference is what the functions on values return, and objects
that were there before stay as they were.
-/
namespace DebugRouter.Daemon.InPlace

open Library Cells List Option Json JsonText Cells

def truthy : Val → Bool
  | .null => false
  | .bool b => b
  | .num n => n ≠ JsNumber.ofInt 0
  | .str s => s ≠ ""
  | .ref _ => true

def number (n : Int) : Val := .num (JsNumber.ofInt n)

/-- `if (data?.data?.data?.client_id) data.data.data.client_id = clientId`. -/
def rewriteClientId (cells : Cells) (data : Val) (clientId : Int) : Cells :=
  match walk cells ["data", "data"] data with
  | some (.ref a) =>
    if ((getProp cells (.ref a) "client_id").map truthy).getD false then
      cells.assign a "client_id" (number clientId)
    else cells
  | _ => cells

/-- `container` and `message` are references; the latter may be a part of the former. -/
structure CustomizedPayload where
  container : Nat
  message : Nat
  messageWasString : Bool

def getCustomizedPayload (cells : Cells) (data : Val) : Cells × Option CustomizedPayload :=
  match walk cells ["data", "data"] data with
  | some (.ref c) =>
    match getProp cells (.ref c) "message" with
    | some (.str text) =>
      let r := cells.alloc (parseJsonMessageOrNull text)
      match r.2 with
      | .ref m => (r.1, some ⟨c, m, true⟩)
      | _ => (r.1, none)
    | some (.ref m) => (cells, some ⟨c, m, false⟩)
    | _ => (cells, none)
  | _ => (cells, none)

def getValidMessageId (cells : Cells) (message : Nat) : Option SafeInteger :=
  match getProp cells (.ref message) "id" with
  | some (.num n) => Daemon.getValidMessageId (.obj [("id", .num n)])
  | _ => none

def writeCustomizedMessage (cells : Cells) (payload : CustomizedPayload) : Cells :=
  if payload.messageWasString then
    cells.assign payload.container "message" (.str (stringify (load cells (.ref payload.message))))
  else cells

def writeMessageId (cells : Cells) (payload : CustomizedPayload) (id : Int) : Cells :=
  writeCustomizedMessage (cells.assign payload.message "id" (number id)) payload

/-- The writes of `rewriteOutboundMessageData`, and those of `restoreInboundMessage`. -/
def replaceMessageId (cells : Cells) (data : Val) (id : Int) : Cells :=
  match getCustomizedPayload cells data with
  | (cells, some payload) =>
    match getValidMessageId cells payload.message with
    | some _ => writeMessageId cells payload id
    | none => cells
  | (cells, none) => cells

def spread (cells : Cells) : Val → List (String × Val)
  | .ref a =>
    match cells[a]? with
    | some (.obj fields) => fields
    | some (.arr items) => items.zipIdx.map fun item => (toString item.2, item.1)
    | none => []
  | .str text => text.toList.zipIdx.map fun c => (toString c.2, .str (String.singleton c.1))
  | _ => []

def normalizeClientId (cells : Cells) (payload : Nat) (clientId : Int) : Cells :=
  if (getProp cells (.ref payload) "client_id").isSome then
    cells.assign payload "client_id" (number clientId)
  else cells

def stringifyMessage (cells : Cells) (payload : Nat) : Cells :=
  match getProp cells (.ref payload) "message" with
  | none | some (.str _) => cells
  | some message => cells.assign payload "message" (.str (stringify (load cells message)))

def withData (cells : Cells) (v value : Val) : Cells :=
  cells ++ [.obj (setEntry "data" value (spread cells v))]

/-- The reply a promise is resolved with: three new objects over the parts of the old ones. -/
def normalizeRawResponse (cells : Cells) (data : Val) (clientId : Int) : Cells × Val :=
  match getProp cells data "data" with
  | some envelope =>
    match getProp cells envelope "data" with
    | some inner =>
      if truthy inner then
        let payload := cells.length
        let cells := cells ++ [.obj (spread cells inner)]
        let cells := stringifyMessage (normalizeClientId cells payload clientId) payload
        let cells' := withData cells envelope (.ref payload)
        (withData cells' data (.ref cells.length), .ref cells'.length)
      else (cells, data)
    | none => (cells, data)
  | none => (cells, data)

section Simulation
variable {base cells : Cells} {d : Val} {j : Json}

theorem truthy_load (hs : cells.Sound) {v : Val} (hi : v.Below cells.length) :
    (load cells v).truthy = truthy v := by
  cases v with
  | ref a =>
    obtain ⟨c, hf⟩ : ∃ c, cells[a]? = some c := ⟨_, getElem?_eq_getElem (hi a rfl)⟩
    rw [load_ref hs hf]
    cases c <;> rfl
  | null | bool _ | num _ | str _ =>
    rw [load_leaf rfl]
    rfl

theorem walk_load (hs : cells.Sound) {v : Val} (hi : v.Below cells.length) (p : List String) :
    p.foldlM (fun v key => get? key v) (load cells v) = (walk cells p v).map (load cells) := by
  induction p generalizing v with
  | nil => rfl
  | cons key p ih =>
    rw [foldlM_cons, get?_load hs hi, walk]
    cases hf : getProp cells v key with
    | none => rfl
    | some w => exact ih (below_getProp hs hi hf)

theorem innerData_load (hs : cells.Sound) {v : Val} (hi : v.Below cells.length) :
    innerData (load cells v) = (walk cells ["data", "data"] v).map (load cells) := by
  rw [← walk_load hs hi]
  simp [innerData, prop, foldlM]

theorem get?_load_leaf {v : Val} (h : v.isLeaf = true) (key : String) :
    (load cells v).get? key = none := by
  rw [load_leaf h]
  cases v with
  | ref a => cases h
  | null | bool _ | num _ | str _ => rfl

theorem owns_rewriteId (h : Owns base cells d j) (cid : Int) :
    Owns base (rewriteClientId cells d cid) d (Daemon.rewriteClientId j cid) := by
  have hi := innerData_load h.sound h.inside
  rw [h.loads] at hi
  unfold rewriteClientId Daemon.rewriteClientId
  rw [hi]
  cases hf : walk cells ["data", "data"] d with
  | none => exact h
  | some cont =>
    have hb := below_walk h.sound h.inside hf
    have hr := get?_load h.sound hb "client_id"
    cases cont with
    | ref a =>
      have hs : isTruthy (prop ((some (Val.ref a)).map (load cells)) "client_id") =
          ((getProp cells (.ref a) "client_id").map truthy).getD false := by
        rw [Option.map_some, prop, Option.bind_some, hr]
        cases hn : getProp cells (.ref a) "client_id" with
        | none => rfl
        | some w => exact truthy_load h.sound (below_getProp h.sound hb hn)
      rw [hs]
      dsimp only
      split
      · exact h.assign rfl hf "client_id"
      · exact h
    | null | bool _ | num _ | str _ =>
      rw [show isTruthy (prop (Option.map (load cells) (some _)) "client_id") = false by
        rw [Option.map_some, prop, Option.bind_some, get?_load_leaf rfl]; rfl]
      exact h

structure Locates (base cells : Cells) (data : Val) (j : Json) (payload : CustomizedPayload)
    (message : Json) : Prop where
  owns : Owns base cells data j
  container : walk cells ["data", "data"] data = some (.ref payload.container)
  loads : load cells (.ref payload.message) = message
  part : payload.messageWasString = false →
    walk cells ["data", "data", "message"] data = some (.ref payload.message)
  apart : payload.messageWasString = true → Owns base cells (.ref payload.message) message ∧
      ∀ a ∈ trace cells (.ref payload.message), a ∉ trace cells data

variable {msg cont : Json}

theorem Locates.inside {pl : CustomizedPayload} (h : Locates base cells d j pl msg) :
    pl.message < cells.length := by
  cases hf : pl.messageWasString with
  | false => exact below_walk h.owns.sound h.owns.inside (h.part hf) _ rfl
  | true => exact (h.apart hf).1.inside _ rfl

theorem isReference_load (hs : cells.Sound) {a : Nat} (hi : a < cells.length) :
    isReference (load cells (.ref a)) = true := by
  rw [load_ref hs (getElem?_eq_getElem hi)]
  cases cells[a] <;> rfl

theorem isReference_load_leaf {v : Val} (h : v.isLeaf = true) :
    isReference (load cells v) = false := by
  rw [load_leaf h]
  cases v with
  | ref a => cases h
  | null | bool _ | num _ | str _ => rfl

theorem payload_of_container {raw : Json} (hi : innerData j = some cont)
    (hf : cont.get? "message" = some raw) :
    Daemon.getCustomizedPayload j =
      if isReference (parseInner raw).1 then some ⟨(parseInner raw).1, (parseInner raw).2⟩
      else none := by
  have ht := truthy_of_get? hf
  simp [Daemon.getCustomizedPayload, hi, ht, hasOwn, hf]

theorem payload_of_no_message (hi : innerData j = some cont)
    (hm : cont.get? "message" = none) : Daemon.getCustomizedPayload j = none := by
  simp [Daemon.getCustomizedPayload, hi, hasOwn, hm]

def Finds (base : Cells) (data : Val) (j : Json) : Cells × Option CustomizedPayload → Prop
  | (cells, none) => Daemon.getCustomizedPayload j = none ∧ Owns base cells data j
  | (cells, some payload) =>
    ∃ message, Daemon.getCustomizedPayload j = some ⟨message, payload.messageWasString⟩ ∧
      Locates base cells data j payload message

theorem finds_text (how : Owns base cells d j) {c : Nat} {text : String}
    (hf : walk cells ["data", "data"] d = some (.ref c))
    (hpa : Daemon.getCustomizedPayload j =
      if isReference (parseJsonMessageOrNull text) then some ⟨parseJsonMessageOrNull text, true⟩
      else none) :
    Finds base d j (let r := cells.alloc (parseJsonMessageOrNull text)
      match r.2 with
      | .ref m => (r.1, some ⟨c, m, true⟩)
      | _ => (r.1, none)) := by
  have keyed : (parseJsonMessageOrNull text).Keyed := by
    unfold parseJsonMessageOrNull
    cases hp : parse text with
    | none => exact .null
    | some v => exact keyed_parse hp
  obtain ⟨hk, ho, ht, ha⟩ := how.alloc keyed
  have hw : walk (cells.alloc (parseJsonMessageOrNull text)).1 ["data", "data"] d =
      some (.ref c) := by
    rw [← hf]
    exact walk_of_prefix how.sound (fresh_alloc keyed how.sound).more how.inside _
  dsimp only
  generalize cells.alloc (parseJsonMessageOrNull text) = r at hk ho ht ha hw ⊢
  obtain ⟨cells', v⟩ := r
  cases v with
  | ref m =>
    have hr := isReference_load ho.sound (ho.inside m rfl)
    rw [ho.loads] at hr
    rw [if_pos hr] at hpa
    refine ⟨_, hpa, hk, hw, ho.loads, nofun, fun _ => ⟨ho, fun a mem => ?_⟩⟩
    rw [ht]
    exact ha a mem
  | null | bool _ | num _ | str _ =>
    have plain : isReference (parseJsonMessageOrNull text) = false := by
      rw [← ho.loads]
      exact isReference_load_leaf rfl
    rw [plain] at hpa
    exact ⟨hpa, hk⟩

theorem finds_payload (h : Owns base cells d j) : Finds base d j (getCustomizedPayload cells d) := by
  have hi := innerData_load h.sound h.inside
  rw [h.loads] at hi
  unfold getCustomizedPayload
  cases hf : walk cells ["data", "data"] d with
  | none =>
    rw [hf] at hi
    exact ⟨by simp [Daemon.getCustomizedPayload, hi], h⟩
  | some cont =>
    have hb := below_walk h.sound h.inside hf
    rw [hf, map_some] at hi
    cases cont with
    | ref c =>
      have hr := get?_load h.sound hb "message"
      dsimp only
      cases hn : getProp cells (.ref c) "message" with
      | none =>
        rw [hn] at hr
        exact ⟨payload_of_no_message hi hr, h⟩
      | some raw =>
        have hra := below_getProp h.sound hb hn
        rw [hn, map_some] at hr
        have hp := payload_of_container hi hr
        cases raw with
        | str text =>
          rw [load_leaf rfl] at hp
          exact finds_text h hf hp
        | ref m =>
          have hre := isReference_load h.sound (hra m rfl)
          have hpa : parseInner (load cells (.ref m)) = (load cells (.ref m), false) := by
            generalize load cells (.ref m) = value at hre
            cases value with
            | str t => cases hre
            | null | bool _ | num _ | arr _ | obj _ => rfl
          rw [hpa, if_pos hre] at hp
          refine ⟨load cells (.ref m), hp, h, hf, rfl, fun _ => ?_, nofun⟩
          have hw := walk_append ["data", "data"] ["message"] cells d
          rw [hf, bind_some, walk, hn] at hw
          exact hw
        | null | bool _ | num _ =>
          rw [load_leaf rfl] at hp
          exact ⟨hp, h⟩
    | null | bool _ | num _ | str _ =>
      exact ⟨payload_of_no_message hi (get?_load_leaf rfl "message"), h⟩

theorem validId_load (hs : cells.Sound) {m : Nat} (hi : m < cells.length) :
    Daemon.getValidMessageId (load cells (.ref m)) = getValidMessageId cells m := by
  have hb : (Val.ref m).Below cells.length := by
    rintro _ ⟨⟩
    exact hi
  have hre := get?_load hs hb "id"
  unfold getValidMessageId Daemon.getValidMessageId
  rw [hre]
  cases hn : getProp cells (.ref m) "id" with
  | none => rfl
  | some w =>
    have hw := below_getProp hs hb hn
    cases w with
    | ref a =>
      have hr := isReference_load hs (hw a rfl)
      rw [map_some]
      generalize load cells (.ref a) = value at hr
      cases value with
      | arr _ | obj _ => rfl
      | null | bool _ | num _ | str _ => cases hr
    | null | bool _ | num _ | str _ =>
      rw [map_some, load_leaf rfl]
      rfl

theorem owns_writeMessageId {pl : CustomizedPayload} (hl : Locates base cells d j pl msg)
    (hfo : Daemon.getCustomizedPayload j = some ⟨msg, pl.messageWasString⟩) (id : Int) :
    Owns base (writeMessageId cells pl id) d
      (Daemon.writeMessageId j ⟨msg, pl.messageWasString⟩ id) := by
  obtain ⟨outer, container, raw, h1, h2, h3, hp⟩ := payload_inner hfo
  unfold writeMessageId writeCustomizedMessage
  cases hf : pl.messageWasString with
  | false =>
    -- The message is a part of the data: one write reaches both.
    rw [hf] at hp
    have same : raw = msg := by
      cases raw with
      | str text => cases hp
      | null | bool _ | num _ | arr _ | obj _ => exact congrArg Prod.fst hp
    have hw := hl.owns.assign (x := number id) rfl (hl.part hf) "id"
    have value : Daemon.writeMessageId j ⟨msg, false⟩ id =
        j.modifyAt ["data", "data", "message"] (·.setField "id" (number id).toJson) := by
      simp [Daemon.writeMessageId, modifyAt, h1, h2, h3, same, CustomizedPayload.encode, number,
        Val.toJson, ofInt]
    rw [value]
    exact hw
  | true =>
    -- The message is a value of its own until its text is stored.
    obtain ⟨own, ha⟩ := hl.apart hf
    have root : walk cells [] (.ref pl.message) = some (.ref pl.message) := rfl
    have hh := mem_trace_walk own.sound own.inside root
    have hc := own.assign (x := number id) rfl root "id"
    have kept := hl.owns.frame (x := number id) rfl (own.new _ hh) (ha _ hh) "id"
    have stays : walk (cells.assign pl.message "id" (number id)) ["data", "data"] d =
        some (.ref pl.container) := by
      rw [← hl.container]
      exact walk_assign_of_ne (by decide)
    have text := hc.loads
    rw [modifyAt_nil] at text
    rw [if_pos rfl, text]
    exact kept.assign (x := .str (stringify (msg.setField "id" (number id).toJson))) rfl stays
      "message"

theorem owns_replaceMessageId (h : Owns base cells d j) (id : Int) :
    Owns base (replaceMessageId cells d id) d
      ((getRoutableCustomizedPayload j).elim j fun found => Daemon.writeMessageId j found.1 id) := by
  have hf := finds_payload h
  unfold replaceMessageId
  generalize getCustomizedPayload cells d = r at hf
  obtain ⟨cells', pl⟩ := r
  cases pl with
  | none =>
    obtain ⟨ha, h⟩ := hf
    rw [getRoutableCustomizedPayload, ha]
    exact h
  | some pl =>
    obtain ⟨msg, found, hl⟩ := hf
    have valid := validId_load hl.owns.sound hl.inside
    rw [hl.loads] at valid
    dsimp only
    rw [← valid, getRoutableCustomizedPayload, found]
    cases hn : Daemon.getValidMessageId msg with
    | none => simpa [hn] using hl.owns
    | some old => simpa [hn] using owns_writeMessageId hl found id

/- The reply of a promise -/

structure Extends (old cells : Cells) : Prop where
  sound : cells.Sound
  longer : old.length ≤ cells.length
  same : ∀ a < old.length, cells[a]? = old[a]?

variable {old : Cells} {v : Val}

theorem extends_refl (h : cells.Sound) : Extends cells cells := ⟨h, le_rfl, fun _ _ => rfl⟩

theorem Extends.trans {cells' : Cells} (first : Extends old cells) (hs : Extends cells cells') :
    Extends old cells' :=
  ⟨hs.sound, first.longer.trans hs.longer,
    fun a low => (hs.same a (low.trans_le first.longer)).trans (first.same a low)⟩

theorem Extends.load (ext : Extends old cells) (hs : old.Sound) (hi : v.Below old.length) :
    load cells v = load old v :=
  (same_of_trace hs ext.sound hi fun a mem => ext.same a (trace_below hs hi hi a mem)).1

theorem extends_push (sound : cells.Sound) {fs : List (String × Val)}
    (hi : ∀ e ∈ fs, e.2.Below cells.length)
    (hk : (fs.map Prod.fst).Nodup) : Extends cells (cells ++ [.obj fs]) where
  sound := by
    refine sound_push sound (fun w hp => ?_) (by rintro _ ⟨⟩; exact hk)
    obtain ⟨e, mem, rfl⟩ := mem_map.mp hp
    exact hi e mem
  longer := by simp
  same a low := getElem?_append_left low

theorem load_object (hs : cells.Sound) {fs : List (String × Val)}
    (hi : ∀ e ∈ fs, e.2.Below cells.length) (hk : (fs.map Prod.fst).Nodup) :
    load (cells ++ [.obj fs]) (.ref cells.length) = .obj (fs.map fun e => (e.1, load cells e.2)) := by
  refine (load_push hs (extends_push hs hi hk).sound fun w hp => ?_).1
  obtain ⟨e, mem, rfl⟩ := mem_map.mp hp
  exact hi e mem

theorem extends_assign {a : Nat} {x : Val} (sound : cells.Sound) (hl : x.isLeaf = true) (key : String)
    (longer : old.length ≤ cells.length) (same : ∀ b < old.length, cells[b]? = old[b]?)
    (new : old.length ≤ a) :
    Extends old (cells.assign a key x) where
  sound := sound_assign sound hl a key
  longer := by rwa [length_assign]
  same b low := by
    rw [getElem?_assign, if_neg (by omega)]
    exact same b low

theorem toString_injective : Function.Injective (toString : Nat → String) := by
  intro n m hs
  have hd := congrArg String.toList hs
  have read : ∀ k : Nat, (toString k).toList = Nat.toDigits 10 k := fun k => String.toList_ofList
  rw [read, read] at hd
  rw [← digitsValue_toDigits n, hd, digitsValue_toDigits]

theorem nodup_indices {α β : Type} (l : List α) (f : α → β) :
    ((l.zipIdx.map fun item => (toString item.2, f item.1)).map Prod.fst).Nodup := by
  rw [List.map_map]
  have hi : l.zipIdx.map (Prod.fst ∘ fun item => (toString item.2, f item.1)) =
      (l.zipIdx.map Prod.snd).map (toString : Nat → String) := by
    rw [List.map_map]
    rfl
  rw [hi]
  refine List.Nodup.map toString_injective ?_
  rw [List.zipIdx_map_snd]
  exact List.nodup_range'

theorem keyed_spread (h : cells.Sound) (v : Val) : ((spread cells v).map Prod.fst).Nodup := by
  cases v with
  | ref a =>
    rw [spread]
    split
    next fs hf => exact h.keyed hf
    · exact nodup_indices _ id
    · exact nodup_nil
  | str text => exact nodup_indices _ fun c => Val.str (String.singleton c)
  | null | bool _ | num _ => exact nodup_nil

theorem below_spread (hs : cells.Sound) (hi : v.Below cells.length) :
    ∀ e ∈ spread cells v, e.2.Below cells.length := by
  cases v with
  | ref a =>
    rw [spread]
    split
    next fs hf => exact fun e mem => (hs.founded hf e.2 (mem_map_of_mem mem)).mono (hi a rfl).le
    next l hf =>
      intro e mem
      obtain ⟨item, hh, rfl⟩ := mem_map.mp mem
      exact (hs.founded hf item.1 (fst_mem_of_mem_zipIdx hh)).mono (hi a rfl).le
    · exact nofun
  | str text =>
    intro e mem
    obtain ⟨c, -, rfl⟩ := mem_map.mp mem
    exact Val.below_of_isLeaf rfl _
  | null | bool _ | num _ => exact nofun

theorem load_spread (hs : cells.Sound) (hi : v.Below cells.length) :
    (spread cells v).map (fun e => (e.1, load cells e.2)) = Daemon.spread (load cells v) := by
  cases v with
  | ref a =>
    obtain ⟨c, hf⟩ : ∃ c, cells[a]? = some c := ⟨_, getElem?_eq_getElem (hi a rfl)⟩
    rw [load_ref hs hf, spread, hf]
    cases c with
    | obj fs => rfl
    | arr l => simp [ofNode, Node.map, Daemon.spread, zipIdx_map, Function.comp_def]
  | str text =>
    rw [load_leaf rfl]
    have char : ∀ c : Char, load cells (.str (String.singleton c)) = .str (String.singleton c) :=
      fun c => load_leaf rfl
    simp [spread, Val.toJson, Daemon.spread, char, Function.comp_def]
  | null | bool _ | num _ =>
    rw [load_leaf rfl]
    rfl

theorem load_normalizeClientId {pl : Nat} (ext : Extends old cells) (new : old.length ≤ pl)
    (hi : pl < cells.length) (cid : Int) :
    Extends old (normalizeClientId cells pl cid) ∧
      (normalizeClientId cells pl cid).length = cells.length ∧
      load (normalizeClientId cells pl cid) (.ref pl) =
        Daemon.setOwn "client_id" (ofInt cid) (load cells (.ref pl)) := by
  have read : hasOwn "client_id" (load cells (.ref pl)) =
      (getProp cells (.ref pl) "client_id").isSome := by
    rw [hasOwn, get?_load ext.sound (by rintro _ ⟨⟩; exact hi), isSome_map]
  unfold normalizeClientId Daemon.setOwn
  rw [read]
  split
  · refine ⟨extends_assign ext.sound rfl _ ext.longer ext.same new, length_assign .., ?_⟩
    exact load_assign_here ext.sound rfl hi
  · exact ⟨ext, rfl, rfl⟩

theorem stringify_of_get? {pl : Json} (hf : pl.get? "message" = some msg)
    (hp : ∀ text, msg ≠ .str text) :
    Daemon.stringifyMessage pl = pl.setField "message" (.str (stringify msg)) := by
  rw [Daemon.stringifyMessage, hf]
  cases msg with
  | str text => exact absurd rfl (hp text)
  | null | bool _ | num _ | arr _ | obj _ => rfl

theorem load_stringify {pl : Nat} (ext : Extends old cells) (new : old.length ≤ pl)
    (hi : pl < cells.length) :
    Extends old (stringifyMessage cells pl) ∧ (stringifyMessage cells pl).length = cells.length ∧
      load (stringifyMessage cells pl) (.ref pl) =
        Daemon.stringifyMessage (load cells (.ref pl)) := by
  have hb : (Val.ref pl).Below cells.length := by
    rintro _ ⟨⟩
    exact hi
  have hr := get?_load ext.sound hb "message"
  have hw : ∀ msg : Val, Extends old (cells.assign pl "message" (.str (stringify (load cells msg)))) ∧
      (cells.assign pl "message" (.str (stringify (load cells msg)))).length = cells.length ∧
      load (cells.assign pl "message" (.str (stringify (load cells msg)))) (.ref pl) =
        (load cells (.ref pl)).setField "message" (.str (stringify (load cells msg))) :=
    fun msg => ⟨extends_assign ext.sound rfl _ ext.longer ext.same new, length_assign ..,
      load_assign_here ext.sound rfl hi⟩
  unfold stringifyMessage
  cases hn : getProp cells (.ref pl) "message" with
  | none =>
    rw [hn] at hr
    refine ⟨ext, rfl, ?_⟩
    rw [Daemon.stringifyMessage, hr]
    rfl
  | some msg =>
    have hw_ := below_getProp ext.sound hb hn
    rw [hn, map_some] at hr
    cases msg with
    | str text =>
      have hl : load cells (.str text) = .str text := load_leaf rfl
      refine ⟨ext, rfl, ?_⟩
      rw [Daemon.stringifyMessage, hr, hl]
    | ref a =>
      have hre := isReference_load ext.sound (hw_ a rfl)
      have hp : ∀ text, load cells (.ref a) ≠ .str text := by
        intro text hs
        rw [hs] at hre
        cases hre
      rw [stringify_of_get? hr hp]
      exact hw (.ref a)
    | null | bool _ | num _ =>
      rw [stringify_of_get? hr (by intro text hs; rw [load_leaf rfl] at hs; cases hs)]
      exact hw _

theorem load_withData {value : Val} (hso : cells.Sound) (hi : v.Below cells.length)
    (ho : (Cells.load cells v).isObject) (hv : value.Below cells.length) :
    Extends cells (withData cells v value) ∧ (withData cells v value).length = cells.length + 1 ∧
      Cells.load (withData cells v value) (.ref cells.length) =
        (Cells.load cells v).setField "data" (Cells.load cells value) := by
  have below : ∀ e ∈ setEntry "data" value (spread cells v), e.2.Below cells.length := by
    intro e mem
    rcases mem_setEntry mem with rfl | mem
    · exact hv
    · exact below_spread hso hi e mem
  have keyed : ((setEntry "data" value (spread cells v)).map Prod.fst).Nodup :=
    nodup_setEntry (keyed_spread hso v)
  refine ⟨extends_push hso below keyed, by simp [withData], ?_⟩
  have hp := load_spread hso hi
  rw [withData, load_object hso below keyed, map_setEntry, hp]
  generalize Cells.load cells v = j at ho hp
  cases j with
  | obj fs =>
    have nodup : (fs.map Prod.fst).Nodup := by
      have keys := congrArg (List.map Prod.fst) hp
      rw [List.map_map] at keys
      have shape : (Daemon.spread (.obj fs)).map Prod.fst = fs.map Prod.fst := rfl
      rw [← shape, ← keys]
      exact keyed_spread hso v
    rw [setField_obj nodup]
    rfl
  | null | bool _ | num _ | str _ | arr _ => cases ho

theorem load_normalizeRaw (hs : cells.Sound) (hin : d.Below cells.length) (clientId : Int) :
    Extends cells (normalizeRawResponse cells d clientId).1 ∧
      load (normalizeRawResponse cells d clientId).1 (normalizeRawResponse cells d clientId).2 =
        Daemon.normalizeRawResponse (load cells d) clientId := by
  have hr := get?_load hs hin "data"
  unfold normalizeRawResponse Daemon.normalizeRawResponse innerData prop
  rw [hr]
  cases hf : getProp cells d "data" with
  | none => exact ⟨extends_refl hs, rfl⟩
  | some envelope =>
    have hen := below_getProp hs hin hf
    have hhe := get?_load hs hen "data"
    rw [map_some, bind_some, hhe]
    dsimp only
    cases hn : getProp cells envelope "data" with
    | none => exact ⟨extends_refl hs, rfl⟩
    | some inner =>
      have hi := below_getProp hs hen hn
      dsimp only [map_some]
      rw [truthy_load hs hi]
      split
      · -- The payload, written to while it is new.
        have hpu := extends_push hs (below_spread hs hi) (keyed_spread hs inner)
        have hp := load_object hs (below_spread hs hi) (keyed_spread hs inner)
        rw [load_spread hs hi] at hp
        have hh : cells.length < (cells ++ [Node.obj (spread cells inner)]).length := by simp
        obtain ⟨ext₁, hle, hlo⟩ := load_normalizeClientId hpu le_rfl hh clientId
        obtain ⟨he, hhl, hl⟩ := load_stringify ext₁ le_rfl (by rw [hle]; exact hh)
        rw [hlo, hp] at hl
        generalize stringifyMessage
          (normalizeClientId (cells ++ [Node.obj (spread cells inner)]) cells.length clientId)
          cells.length = cells₂ at he hhl hl ⊢
        have long : cells.length < cells₂.length := by
          rw [hhl, hle]
          exact hh
        -- The two envelopes around it.
        have hhen : (load cells₂ envelope).isObject = true := by
          rw [he.load hs hen]
          rw [hn, map_some] at hhe
          exact isObject_of_get? hhe
        obtain ⟨hex, hhle, hloa⟩ := load_withData he.sound (hen.mono he.longer) hhen
          (show (Val.ref cells.length).Below cells₂.length by rintro _ ⟨⟩; exact long)
        have hd : (load (withData cells₂ envelope (.ref cells.length)) d).isObject = true := by
          rw [(he.trans hex).load hs hin]
          rw [hf, map_some] at hr
          exact isObject_of_get? hr
        obtain ⟨ext₄, -, load₄⟩ := load_withData hex.sound (hin.mono (he.trans hex).longer) hd
          (show (Val.ref cells₂.length).Below (withData cells₂ envelope (.ref cells.length)).length by
            rintro _ ⟨⟩
            rw [hhle]
            exact Nat.lt_succ_self _)
        refine ⟨(he.trans hex).trans ext₄, ?_⟩
        rw [load₄, hloa, hl, (he.trans hex).load hs hin, he.load hs hen, modifyAt, hr, hf]
        rfl
      · exact ⟨extends_refl hs, rfl⟩

end Simulation

end DebugRouter.Daemon.InPlace
