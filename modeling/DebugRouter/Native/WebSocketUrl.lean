import DebugRouter.Native.Schema

/-!
The URL of a WebSocket, and the request that opens it. What the parser accepts is given by the parts
a URL is written from: scheme, host, port, target and fragment.
-/
namespace DebugRouter.Native

open List Option

structure ParsedWebSocketUrl where
  host : List UInt8
  requestTarget : List UInt8
  port : Nat
  deriving DecidableEq

def hasControlChar (value : List UInt8) : Bool := value.any fun byte => byte ≤ 0x20 || byte = 0x7F

def withDigit (parsed : Nat) (ch : UInt8) : Nat := parsed * 10 + (ch.toNat - 0x30)

def portDigit (parsed : Nat) (ch : UInt8) : Option Nat :=
  if ch < 0x30 ∨ 0x39 < ch then none
  else if 65535 < withDigit parsed ch then none
  else some (withDigit parsed ch)

def parsePort (text : List UInt8) : Option Nat :=
  if text = [] then none else (text.foldlM portDigit 0).filter (0 < ·)

def afterScheme? (url : List UInt8) : Option (List UInt8) :=
  if literal "wss://" <+: url then some (url.drop 6)
  else if literal "ws://" <+: url then some (url.drop 5)
  else none

/-- `/`, `?` and `#` end the authority. -/
def inAuthority (c : UInt8) : Bool := c ≠ 0x2F ∧ c ≠ 0x3F ∧ c ≠ 0x23

def requestTargetOf : List UInt8 → List UInt8
  | [] => [0x2F]
  | c :: rest =>
    if c = 0x23 then [0x2F]
    else
      let target := (c :: rest).takeWhile (· ≠ 0x23)
      if target.head? = some 0x3F then 0x2F :: target else target

def parseAuthority (authority : List UInt8) : Option (List UInt8 × Nat) :=
  if 0x3A ∉ authority then some (authority, 80)
  else
    let port := (authority.dropWhile (· ≠ 0x3A)).tail
    if 0x3A ∈ port then none else (parsePort port).map (authority.takeWhile (· ≠ 0x3A), ·)

def parseWebSocketUrl (url : List UInt8) : Option ParsedWebSocketUrl :=
  if url = [] ∨ 2048 < url.length ∨ hasControlChar url = true then none
  else (afterScheme? url).bind fun rest =>
    let authority := rest.takeWhile inAuthority
    let target := requestTargetOf (rest.dropWhile inAuthority)
    if authority = [] ∨ target = [] ∨ 1024 < target.length ∨ hasControlChar target = true then none
    else (parseAuthority authority).bind fun (host, port) =>
      if host = [] ∨ 253 < host.length ∨ hasControlChar host = true then none
      else some ⟨host, target, port⟩

def decimal (n : Nat) : List UInt8 := (Nat.toDigits 10 n).map fun c => UInt8.ofNat c.toNat

def upgradeRequest (url : ParsedWebSocketUrl) : List UInt8 :=
  literal "GET " ++ url.requestTarget ++ literal " HTTP/1.1\r\n" ++
    literal "Host: " ++ url.host ++ literal ":" ++ decimal url.port ++ literal "\r\n" ++
    (literal "Upgrade: websocket\r\nConnection: Upgrade\r\n" ++
      literal "Sec-WebSocket-Key: x3JJHMbDL1EzLkh9GBhXDw==\r\nSec-WebSocket-Version: 13\r\n\r\n")

/- What a URL is written from -/

structure UrlParts where
  secure : Bool
  host : List UInt8
  port : Option (List UInt8)
  target : List UInt8
  fragment : Option (List UInt8)

def scheme (secure : Bool) : List UInt8 := literal (if secure then "wss://" else "ws://")

def numeral (digits : List UInt8) : Nat := digits.foldl withDigit 0

structure IsPort (digits : List UInt8) : Prop where
  some : digits ≠ []
  digit : ∀ d ∈ digits, 0x30 ≤ d ∧ d ≤ 0x39
  positive : 0 < numeral digits
  small : numeral digits ≤ 65535

namespace UrlParts
variable (u : UrlParts)

def authority : List UInt8 := u.host ++ u.port.elim [] (0x3A :: ·)

def tail : List UInt8 := u.target ++ u.fragment.elim [] (0x23 :: ·)

def text : List UInt8 := scheme u.secure ++ (u.authority ++ u.tail)

/-- A target without a path is given one. -/
def requestTarget : List UInt8 := if u.target.head? = some 0x2F then u.target else 0x2F :: u.target

def parsed : ParsedWebSocketUrl := ⟨u.host, u.requestTarget, u.port.elim 80 numeral⟩

structure WellFormed : Prop where
  host : u.host ≠ [] ∧ u.host.length ≤ 253 ∧ ∀ c ∈ u.host, c ≠ 0x3A ∧ inAuthority c = true
  port : ∀ digits ∈ u.port, IsPort digits
  target : 0x23 ∉ u.target ∧ u.target.head?.all (fun c => c = 0x2F ∨ c = 0x3F) = true
  fits : u.requestTarget.length ≤ 1024

end UrlParts

/- The parser's parts -/

theorem hasControlChar_iff {v : List UInt8} :
    hasControlChar v = false ↔ ∀ c ∈ v, 0x20 < c ∧ c ≠ 0x7F := by
  simp [hasControlChar, List.any_eq_false]

variable {front rest text host : List UInt8} {c : UInt8} {n : Nat}

theorem while_append {p : UInt8 → Bool} (hf : ∀ c ∈ front, p c = true)
    (hr : ∀ c, rest.head? = some c → p c = false) :
    (front ++ rest).takeWhile p = front ∧ (front ++ rest).dropWhile p = rest := by
  rw [takeWhile_append_of_pos hf, dropWhile_append_of_pos hf]
  cases rest with
  | nil => simp
  | cons c rest => simp [hr c rfl]

theorem while_ne (hf : c ∉ front) (hr : ∀ d, rest.head? = some d → d = c) :
    (front ++ rest).takeWhile (· ≠ c) = front ∧ (front ++ rest).dropWhile (· ≠ c) = rest := by
  refine while_append (fun d hd => decide_eq_true ?_) fun d hd => by simp [hr d hd]
  rintro rfl
  exact hf hd

theorem le_foldl_withDigit (digits : List UInt8) (n : Nat) : n ≤ digits.foldl withDigit n := by
  induction digits generalizing n with
  | nil => exact Nat.le_refl n
  | cons d digits ih => exact Nat.le_trans (by unfold withDigit; omega) (ih _)

theorem foldlM_portDigit {parsed : Nat} (hp : parsed ≤ 65535) :
    text.foldlM portDigit parsed = some n ↔
      (∀ d ∈ text, 0x30 ≤ d ∧ d ≤ 0x39) ∧ text.foldl withDigit parsed = n ∧ n ≤ 65535 := by
  induction text generalizing parsed with
  | nil =>
    simp
    omega
  | cons d text ih =>
    have hg := le_foldl_withDigit text (withDigit parsed d)
    rw [foldlM_cons, forall_mem_cons, foldl_cons, portDigit, ← UInt8.not_lt, ← UInt8.not_lt, ← not_or]
    split
    · simp_all
    · split
      · simp only [bind_eq_bind, bind_none, reduceCtorEq, false_iff]
        omega
      · simp_all

theorem parsePort_iff : parsePort text = some n ↔ IsPort text ∧ numeral text = n := by
  unfold parsePort
  split
  next he => simpa using fun h _ => h.some he
  · rw [filter_eq_some_iff, foldlM_portDigit (by decide)]
    constructor
    · rintro ⟨⟨hd, rfl, hs⟩, hp⟩
      exact ⟨⟨‹_›, hd, of_decide_eq_true hp, hs⟩, rfl⟩
    · rintro ⟨⟨-, hd, hp, hs⟩, rfl⟩
      exact ⟨⟨hd, rfl, hs⟩, decide_eq_true hp⟩

theorem afterScheme?_iff {url : List UInt8} : afterScheme? url = some rest ↔
    ∃ secure, url = scheme secure ++ rest := by
  constructor
  · unfold afterScheme?
    split
    · rintro ⟨⟩
      rename_i hp
      exact ⟨true, (prefix_iff_eq_append.mp hp).symm⟩
    · split
      · rintro ⟨⟩
        rename_i hp
        exact ⟨false, (prefix_iff_eq_append.mp hp).symm⟩
      · nofun
  · rintro ⟨secure, rfl⟩
    have hw : literal "wss://" = [0x77, 0x73, 0x73, 0x3A, 0x2F, 0x2F] := by decide
    have hp : literal "ws://" = [0x77, 0x73, 0x3A, 0x2F, 0x2F] := by decide
    cases secure <;> simp [afterScheme?, scheme, hw, hp]

theorem parseAuthority_colon {port : List UInt8} (hh : 0x3A ∉ host) :
    parseAuthority (host ++ 0x3A :: port) =
      if 0x3A ∈ port then none else (parsePort port).map (host, ·) := by
  have hs : ∀ d, (0x3A :: port).head? = some d → d = 0x3A := by simp [eq_comm]
  obtain ⟨ht, hd⟩ := while_ne hh hs
  rw [parseAuthority, if_neg (by simp), ht, hd]
  rfl

theorem parseAuthority_iff {authority : List UInt8} :
    parseAuthority authority = some (host, n) ↔ 0x3A ∉ host ∧ ∃ port : Option (List UInt8),
      authority = host ++ port.elim [] (0x3A :: ·) ∧ (∀ digits ∈ port, IsPort digits) ∧
        n = port.elim 80 numeral := by
  constructor
  · intro h
    by_cases hc : 0x3A ∈ authority
    · obtain ⟨before, port, rfl, hb⟩ := eq_append_cons_of_mem hc
      rw [parseAuthority_colon hb] at h
      split at h
      · cases h
      · obtain ⟨_, hn, he⟩ := map_eq_some_iff.mp h
        obtain ⟨hp, rfl⟩ := parsePort_iff.mp hn
        cases he
        exact ⟨hb, some port, rfl, by simpa using hp, rfl⟩
    · rw [parseAuthority, if_pos hc] at h
      cases h
      exact ⟨hc, none, by simp, nofun, rfl⟩
  · rintro ⟨hc, port, rfl, hp, rfl⟩
    cases port with
    | none => simp [parseAuthority, hc]
    | some digits =>
      have hp := hp digits rfl
      have hn : 0x3A ∉ digits := fun hm => absurd (hp.digit _ hm).2 (by decide)
      change parseAuthority (host ++ 0x3A :: digits) = _
      rw [parseAuthority_colon hc, if_neg hn, parsePort_iff.mpr ⟨hp, rfl⟩]
      rfl

theorem head_fragment (frag : Option (List UInt8)) :
    ∀ c, (frag.elim [] (0x23 :: ·)).head? = some c → c = (0x23 : UInt8) := by
  cases frag <;> simp [eq_comm]

theorem requestTargetOf_tail (u : UrlParts)
    (h : 0x23 ∉ u.target ∧ u.target.head?.all (fun c => c = 0x2F ∨ c = 0x3F) = true) :
    requestTargetOf u.tail = u.requestTarget := by
  obtain ⟨hp, hh⟩ := h
  have hw := (while_ne hp (head_fragment u.fragment)).1
  unfold UrlParts.tail UrlParts.requestTarget
  cases ht : u.target with
  | nil => cases u.fragment <;> rfl
  | cons c target =>
    rw [ht] at hh hw
    have hc : c = 0x2F ∨ c = 0x3F := by simpa using hh
    dsimp only [cons_append, requestTargetOf] at hw ⊢
    rw [hw]
    rcases hc with rfl | rfl <;> simp

theorem exists_tail (rest : List UInt8) (h : ∀ c, rest.head? = some c → inAuthority c = false) :
    ∃ target frag, rest = target ++ Option.elim frag [] (0x23 :: ·) ∧ 0x23 ∉ target ∧
      target.head?.all (fun c => c = 0x2F ∨ c = 0x3F) = true := by
  by_cases hm : 0x23 ∈ rest
  · obtain ⟨target, frag, rfl, ht⟩ := List.eq_append_cons_of_mem hm
    refine ⟨target, some frag, rfl, ht, ?_⟩
    cases target with
    | nil => rfl
    | cons c target =>
      have hc := h c rfl
      simp_all [inAuthority]
      grind
  · refine ⟨rest, none, by simp, hm, ?_⟩
    cases rest with
    | nil => rfl
    | cons c rest =>
      have hc := h c rfl
      simp_all [inAuthority]
      grind

theorem UrlParts.requestTarget_ne_nil (u : UrlParts) : u.requestTarget ≠ [] := by
  unfold requestTarget
  split
  · rintro he
    simp_all
  · simp

theorem UrlParts.mem_requestTarget (u : UrlParts) (h : c ∈ u.requestTarget) :
    c = 0x2F ∨ c ∈ u.target := by
  unfold requestTarget at h
  split at h
  · exact .inr h
  · exact mem_cons.mp h

theorem UrlParts.plain (u : UrlParts) (h : ∀ c ∈ u.text, 0x20 < c ∧ c ≠ 0x7F) :
    (∀ c ∈ u.host, 0x20 < c ∧ c ≠ 0x7F) ∧ ∀ c ∈ u.requestTarget, 0x20 < c ∧ c ≠ 0x7F := by
  refine ⟨fun c hc => h c ?_, fun c hc => ?_⟩
  · simp [text, UrlParts.authority, hc]
  · rcases u.mem_requestTarget hc with rfl | hc
    · decide
    · exact h c (by simp [text, UrlParts.tail, hc])

namespace UrlParts.WellFormed
variable {u : UrlParts}

theorem authority (h : u.WellFormed) : ∀ c ∈ u.authority, inAuthority c = true := by
  intro c hm
  rcases mem_append.mp hm with hm | hm
  · exact (h.host.2.2 c hm).2
  · cases hp : u.port with
    | none => simp [hp] at hm
    | some digits =>
      rw [hp, elim_some, mem_cons] at hm
      rcases hm with rfl | hm
      · decide
      · have hc := (h.port digits hp).digit c hm
        refine decide_eq_true ⟨?_, ?_, ?_⟩ <;> rintro rfl <;> revert hc <;> decide

theorem tail (h : u.WellFormed) : ∀ c, u.tail.head? = some c → inAuthority c = false := by
  obtain ⟨-, hh⟩ := h.target
  unfold UrlParts.tail
  cases ht : u.target with
  | nil =>
    intro c hc
    rw [head_fragment _ c hc]
    decide
  | cons c target =>
    rintro _ ⟨⟩
    simp_all [inAuthority]
    grind

end UrlParts.WellFormed

theorem parseUrl_iff (url : List UInt8) (r : ParsedWebSocketUrl) :
    parseWebSocketUrl url = some r ↔ url.length ≤ 2048 ∧ (∀ c ∈ url, 0x20 < c ∧ c ≠ 0x7F) ∧
      ∃ u : UrlParts, u.WellFormed ∧ url = u.text ∧ r = u.parsed := by
  constructor
  · intro hma
    unfold parseWebSocketUrl at hma
    split at hma
    · cases hma
    rename_i hu
    simp only [not_or, Bool.not_eq_true, hasControlChar_iff, not_lt] at hu
    obtain ⟨rest, hr, hma⟩ := Option.bind_eq_some_iff.mp hma
    obtain ⟨secure, hs⟩ := afterScheme?_iff.mp hr
    dsimp only at hma
    split at hma
    · cases hma
    rename_i ha
    obtain ⟨⟨host, n⟩, hp, hma⟩ := Option.bind_eq_some_iff.mp hma
    dsimp only at hma
    split at hma
    · cases hma
    rename_i hh
    cases hma
    obtain ⟨hc, port, hha, hhp, rfl⟩ := parseAuthority_iff.mp hp
    obtain ⟨target, frag, hht, ht⟩ := exists_tail (rest.dropWhile inAuthority) fun c hc => by
      have hd := List.head?_dropWhile_not inAuthority rest
      rwa [hc] at hd
    have hin c (hm : c ∈ host) : inAuthority c = true :=
      List.mem_takeWhile_imp (l := rest) (by simp [hha, hm])
    have hhr := requestTargetOf_tail ⟨secure, host, port, target, frag⟩ ht
    rw [UrlParts.tail, ← hht] at hhr
    rw [hhr] at ha ⊢
    refine ⟨hu.2.1, hu.2.2, ⟨secure, host, port, target, frag⟩, ⟨?_, hhp, ht, by grind⟩, ?_, rfl⟩
    · grind
    · rw [hs, ← List.takeWhile_append_dropWhile (p := inAuthority) (l := rest), hha, hht]
      rfl
  · rintro ⟨hl, hu, u, hw, rfl, rfl⟩
    obtain ⟨hn, hs, hh⟩ := hw.host
    have hne : u.authority ≠ [] := by simp [UrlParts.authority, hn]
    obtain ⟨ht, hd⟩ := while_append hw.authority hw.tail
    have hp : parseAuthority u.authority = some (u.host, u.port.elim 80 numeral) :=
      parseAuthority_iff.mpr ⟨fun hm => (hh _ hm).1 rfl, u.port, rfl, hw.port, rfl⟩
    have hpl := u.plain hu
    simp only [← hasControlChar_iff] at hu hpl
    have he : afterScheme? u.text = some (u.authority ++ u.tail) :=
      afterScheme?_iff.mpr ⟨u.secure, rfl⟩
    have hhte : u.text ≠ [] := by simp [UrlParts.text, hne]
    rw [parseWebSocketUrl, if_neg (by simp [hu, hl, hhte]), he]
    dsimp only [Option.bind_some]
    rw [ht, hd, requestTargetOf_tail u hw.target,
      if_neg (by simp [hne, u.requestTarget_ne_nil, hw.fits, hpl.2]), hp]
    dsimp only [Option.bind_some]
    rw [if_neg (by simp [hn, hs, hpl.1])]
    rfl

/- The request -/

def upgradeHeaders : List (List UInt8) :=
  [literal "Upgrade: websocket", literal "Connection: Upgrade",
    literal "Sec-WebSocket-Key: x3JJHMbDL1EzLkh9GBhXDw==", literal "Sec-WebSocket-Version: 13", []]

def upgradeLines (url : ParsedWebSocketUrl) : List (List UInt8) :=
  (literal "GET " ++ url.requestTarget ++ literal " HTTP/1.1") ::
    (literal "Host: " ++ url.host ++ literal ":" ++ decimal url.port) :: upgradeHeaders

def OneLine (text : List UInt8) : Prop := ∀ c ∈ text, c ≠ 0x0D ∧ c ≠ 0x0A

theorem upgradeRequest_eq (url : ParsedWebSocketUrl) :
    upgradeRequest url = (upgradeLines url).flatMap (· ++ [0x0D, 0x0A]) := by
  have hg : literal " HTTP/1.1\r\n" = literal " HTTP/1.1" ++ [0x0D, 0x0A] := by decide
  have hb : literal "\r\n" = [0x0D, 0x0A] := by decide
  have hf : literal "Upgrade: websocket\r\nConnection: Upgrade\r\n" ++
      literal "Sec-WebSocket-Key: x3JJHMbDL1EzLkh9GBhXDw==\r\nSec-WebSocket-Version: 13\r\n\r\n" =
      upgradeHeaders.flatMap (· ++ [0x0D, 0x0A]) := by
    decide +kernel
  rw [upgradeRequest, hg, hb, hf]
  simp [upgradeLines]

theorem oneLine_of_above (h : ∀ c ∈ text, 0x20 < c ∧ c ≠ 0x7F) : OneLine text := by
  intro c hc
  have ha := (h c hc).1
  constructor <;> rintro rfl <;> revert ha <;> decide

theorem oneLine_decimal (n : Nat) : OneLine (decimal n) := by
  intro c hc
  obtain ⟨d, hd, rfl⟩ := mem_map.mp hc
  have hd := Nat.isDigit_of_mem_toDigits (by decide) (by decide) hd
  simp only [Char.isDigit, ge_iff_le, Bool.and_eq_true, decide_eq_true_eq,
    UInt32.le_iff_toNat_le] at hd
  constructor <;> intro he <;> have he := congrArg UInt8.toNat he <;> simp at he hd <;> omega

theorem parseWebSocketUrl_exact (url : List UInt8) (r : ParsedWebSocketUrl) :
    (parseWebSocketUrl url = some r ↔ url.length ≤ 2048 ∧ (∀ c ∈ url, 0x20 < c ∧ c ≠ 0x7F) ∧
      ∃ u : UrlParts, u.WellFormed ∧ url = u.text ∧ r = u.parsed) ∧
    (parseWebSocketUrl url = some r →
      upgradeRequest r = (upgradeLines r).flatMap (· ++ [0x0D, 0x0A]) ∧
      ∀ line ∈ upgradeLines r, OneLine line) := by
  refine ⟨parseUrl_iff url r, fun hm => ⟨upgradeRequest_eq r, ?_⟩⟩
  obtain ⟨-, hu, u, hw, rfl, rfl⟩ := (parseUrl_iff url r).mp hm
  have hh : OneLine u.parsed.host := oneLine_of_above (u.plain hu).1
  have ht : OneLine u.parsed.requestTarget := oneLine_of_above (u.plain hu).2
  have hhe : ∀ line ∈ upgradeHeaders, ∀ c ∈ line, c ≠ 0x0D ∧ c ≠ 0x0A := by decide +kernel
  have hwo : ∀ word ∈ [literal "GET ", literal " HTTP/1.1", literal "Host: ", literal ":"],
      ∀ c ∈ word, c ≠ 0x0D ∧ c ≠ 0x0A := by decide +kernel
  have hd := oneLine_decimal u.parsed.port
  simp only [forall_mem_cons] at hwo
  simp only [upgradeLines, forall_mem_cons, OneLine, forall_mem_append]
  exact ⟨⟨⟨hwo.1, ht⟩, hwo.2.1⟩, ⟨⟨⟨hwo.2.2.1, hh⟩, hwo.2.2.2.1⟩, hd⟩, hhe⟩

end DebugRouter.Native
