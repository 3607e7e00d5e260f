import DebugRouter.Manager.FileLock

/-!
Exclusion of `FileLock`. As long as a removal finds the directory that was checked, the directory of
a live holder, and one that a live process is about to write into, stay where they are.
-/
namespace DebugRouter.Manager.LockPath

open Library List Option

variable {pid : Nat → Nat} {timeout : Nat} {w w' : LockPath} {n : Nat} {lock : FileLock}

def Uses (lock : FileLock) (owner : FileLockOwner) : Prop :=
  lock.owner = some owner ∨ lock.point = .mkdir owner ∨ ∃ made, lock.point = .write owner made

def removing : LockPoint → Option Removing
  | .tryExists why | .tryOwnerExists why | .tryRead why | .tryRemove why _ => some why
  | _ => none

def calledAt : LockPoint → Option Nat
  | .cleanOwnerExists now | .cleanRead now | .cleanExists now _ | .cleanAlive now _ | .cleanStat
    now => some now
  | _ => none

/-- Whoever owns the directory, or is about to, is past the timeout. -/
def Outlived (timeout : Nat) (w : LockPath) (inode : Nat) : Prop :=
  ∀ dir, w.disk = some dir → dir.inode = inode →
    (∀ owner, dir.owner = some owner → timeout + owner.createdAt < w.clock) ∧
      ∀ n ∈ w.live, ∀ owner, (w.locks n).point = .write owner inode →
        timeout + owner.createdAt < w.clock

def Justified (pid : Nat → Nat) (timeout : Nat) (w : LockPath) (lock : FileLock) : Removing → Prop
  | .release owner => lock.locked = true ∧ lock.owner = some owner
  | .cleanup (some owner) _ => w.Stale pid timeout owner
  | .cleanup none seen => ∃ inode, seen = some inode ∧ inode < w.nextInode ∧ w.Outlived timeout inode

/-- The directory that was compared has the owner it was compared with. -/
def Compared (w : LockPath) (checked : Option Nat) : Removing → Prop
  | .release _ => True
  | .cleanup (some owner) _ => ∀ inode, checked = some inode → inode < w.nextInode ∧
      ∀ dir, w.disk = some dir → dir.inode = inode → dir.owner = some owner
  | .cleanup none seen => checked = seen

structure Sound (pid : Nat → Nat) (timeout : Nat) (w : LockPath) (lock : FileLock) : Prop where
  held : lock.locked = true → ∃ owner, lock.owner = some owner ∧ w.readOwner = some owner
  making : ∀ owner made, lock.point = .write owner made → w.clock ≤ timeout + owner.createdAt →
    lock.locked = false ∧
    ∃ dir, w.disk = some dir ∧ dir.inode = made ∧ dir.owner = none ∧ owner.createdAt ≤ dir.mtime
  called : ∀ now, calledAt lock.point = some now → now ≤ w.clock
  justified : ∀ why, removing lock.point = some why → w.Justified pid timeout lock why
  compared : ∀ why checked, lock.point = .tryRemove why checked → w.Compared checked why

structure Guarded (pid : Nat → Nat) (timeout : Nat) (w : LockPath) : Prop where
  inodes : ∀ dir, w.disk = some dir → dir.inode < w.nextInode
  dated : ∀ dir owner, w.disk = some dir → dir.owner = some owner → owner.createdAt ≤ dir.mtime
  made : ∀ n owner, Uses (w.locks n) owner →
    owner.token < w.nextToken ∧ owner.pid = pid n ∧ owner.createdAt ≤ w.clock
  apart : ∀ n m owner, Uses (w.locks n) owner → Uses (w.locks m) owner → n = m
  sole : ∀ n ∈ w.live, ∀ m ∈ w.live, ∀ owner made owner' made',
    (w.locks n).point = .write owner made →
    w.clock ≤ timeout + owner.createdAt → (w.locks m).point = .write owner' made' →
    w.clock ≤ timeout + owner'.createdAt → n = m
  sound : ∀ n ∈ w.live, Sound pid timeout w (w.locks n)

theorem guarded_initial (now : Nat) (live : List Nat) : Guarded pid timeout (initial now live) where
  inodes := nofun
  dated := nofun
  made := by
    rintro n owner (own | at' | ⟨made, at'⟩)
    · cases own
    · cases at'
    · cases at'
  apart := by
    rintro n m owner (own | at' | ⟨made, at'⟩)
    · cases own
    · cases at'
    · cases at'
  sole := fun _ _ _ _ _ _ _ _ hp => by cases hp
  sound := fun n live => ⟨nofun, nofun, nofun, nofun, nofun⟩

/- Exclusion from the invariant -/

theorem Guarded.exclusive (h : w.Guarded pid timeout) : w.Exclusive := by
  intro n hl m hl' hlo hlo'
  obtain ⟨owner, own, hf⟩ := (h.sound n hl).held hlo
  obtain ⟨owner', own', hf'⟩ := (h.sound m hl').held hlo'
  cases hf.symm.trans hf'
  exact h.apart n m owner (.inl own) (.inl own')

variable {owner : FileLockOwner} {why : Removing} {checked : Option Nat} {dir : LockDirectory}
  {point : LockPoint} {now : Nat} {act : CallAct}

theorem stale_mono (live : ∀ n ∈ w'.live, n ∈ w.live) (hc : w.clock ≤ w'.clock)
    (hst : w.Stale pid timeout owner) : w'.Stale pid timeout owner := by
  rcases hst with hd | old
  · left
    rw [← Bool.not_eq_true] at hd ⊢
    intro ha
    obtain ⟨n, hi, hs⟩ := any_eq_true.mp ha
    exact hd (any_eq_true.mpr ⟨n, live n hi, hs⟩)
  · exact .inr (by omega)

theorem not_stale (hl : n ∈ w.live) (hs : owner.pid = pid n)
    (hw : w.clock ≤ timeout + owner.createdAt) : ¬w.Stale pid timeout owner := by
  rintro (hd | old)
  · rw [← Bool.not_eq_true] at hd
    exact hd (any_eq_true.mpr ⟨n, hl, decide_eq_true hs.symm⟩)
  · omega

/- What a removal removes -/

theorem Guarded.removal (hg : w.Guarded pid timeout) (live : n ∈ w.live)
    (at' : (w.locks n).point = .tryRemove why checked)
    (hd : w.disk = some dir) (hu : checked = some dir.inode) :
    (∀ owner, dir.owner = some owner →
        why = .release owner ∧ (w.locks n).owner = some owner ∨ w.Stale pid timeout owner) ∧
      ∀ m ∈ w.live, ∀ owner made, (w.locks m).point = .write owner made →
    timeout + owner.createdAt < w.clock := by
  have hso := hg.sound n live
  have hj := hso.justified why (by rw [at']; rfl)
  have hc := hso.compared why checked at'
  have hm : ∀ m ∈ w.live, ∀ owner made, (w.locks m).point = .write owner made →
      w.clock ≤ timeout + owner.createdAt → dir.inode = made ∧ dir.owner = none := by
    intro m live' owner made point hw
    obtain ⟨-, dir', hf, inode, he, -⟩ := (hg.sound m live').making owner made point hw
    cases hd.symm.trans hf
    exact ⟨inode, he⟩
  cases why with
  | release owner =>
    obtain ⟨hl, own⟩ := hj
    obtain ⟨owner', own', hf⟩ := hso.held hl
    have hn : dir.owner = some owner' := by rwa [readOwner, hd] at hf
    refine ⟨fun o hs => .inl ?_, fun m live' o made point => Nat.lt_of_not_le fun hw => ?_⟩
    · cases own.symm.trans own'
      cases hn.symm.trans hs
      exact ⟨rfl, own⟩
    · rw [(hm m live' o made point hw).2] at hn
      cases hn
  | cleanup staleOwner seen =>
    cases staleOwner with
    | some owner =>
      have hn : dir.owner = some owner := (hc dir.inode hu).2 dir hd rfl
      refine ⟨fun o hs => .inr ?_, fun m live' o made point => Nat.lt_of_not_le fun hw => ?_⟩
      · cases hn.symm.trans hs
        exact hj
      · rw [(hm m live' o made point hw).2] at hn
        cases hn
    | none =>
      obtain ⟨inode, hs, -, ho⟩ := hj
      have hh : dir.inode = inode := by
        have seen' : checked = seen := hc
        rw [hu, hs] at seen'
        exact some.inj seen'
      obtain ⟨how, made'⟩ := ho dir hd hh
      refine ⟨fun owner hn => .inr (.inr (how owner hn)),
        fun m live' owner made point => Nat.lt_of_not_le fun hw => ?_⟩
      obtain ⟨inode', -⟩ := hm m live' owner made point hw
      have late := made' m live' owner (by rw [point, ← inode', hh])
      omega

/- What a step leaves as it is -/

/-- Time may have passed and processes may have died. A directory that is not new was there before,
and only who was about to write its owner may have done so. -/
structure Follows (w w' : LockPath) : Prop where
  clock : w.clock ≤ w'.clock
  live : ∀ n ∈ w'.live, n ∈ w.live
  nextInode : w.nextInode ≤ w'.nextInode
  disk : ∀ dir', w'.disk = some dir' → dir'.inode < w.nextInode →
    ∃ dir, w.disk = some dir ∧ dir.inode = dir'.inode ∧
    (dir'.owner = dir.owner ∨ dir.owner = none ∧ ∃ n ∈ w.live, ∃ owner, dir'.owner = some owner ∧
      (w.locks n).point = .write owner dir'.inode)
  writers : ∀ n ∈ w'.live, ∀ owner made, made < w.nextInode → (w'.locks n).point = .write owner made →
    (w.locks n).point = .write owner made

theorem Follows.outlived {inode : Nat} (hf : Follows w w') (hkn : inode < w.nextInode)
    (hou : w.Outlived timeout inode) : w'.Outlived timeout inode := by
  rintro dir' hd' rfl
  have hc := hf.clock
  obtain ⟨dir, hd, hs, how⟩ := hf.disk dir' hd' hkn
  obtain ⟨ho, hm⟩ := hou dir hd hs
  refine ⟨fun owner hn => ?_, fun n hl owner hp => ?_⟩
  · rcases how with hk | ⟨-, n, hl, owner', hw, hp⟩
    · have old := ho owner (hk ▸ hn)
      omega
    · cases hw.symm.trans hn
      have old := hm n hl owner hp
      omega
  · have old := hm n (hf.live n hl) owner (hf.writers n hl owner _ hkn hp)
    omega

theorem Follows.justified (hf : Follows w w') (hj : w.Justified pid timeout lock why) :
    w'.Justified pid timeout lock why := by
  cases why with
  | release owner => exact hj
  | cleanup staleOwner seen =>
    cases staleOwner with
    | some owner => exact stale_mono hf.live hf.clock hj
    | none =>
      obtain ⟨inode, hs, hk, ho⟩ := hj
      exact ⟨inode, hs, hk.trans_le hf.nextInode, hf.outlived hk ho⟩

theorem Follows.compared (hf : Follows w w') (hc : w.Compared checked why) :
    w'.Compared checked why := by
  cases why with
  | release owner => trivial
  | cleanup staleOwner seen =>
    cases staleOwner with
    | none => exact hc
    | some owner =>
      intro inode hs
      obtain ⟨hk, hn⟩ := hc inode hs
      refine ⟨hk.trans_le hf.nextInode, ?_⟩
      rintro dir' hd' rfl
      obtain ⟨dir, hd, hh, hke | ⟨hb, -⟩⟩ := hf.disk dir' hd' hk
      · rw [hke]
        exact hn dir hd hh
      · cases hb.symm.trans (hn dir hd hh)

theorem Follows.sound (hf : Follows w w') (hs : Sound pid timeout w lock)
    (held : lock.locked = true → w'.readOwner = w.readOwner)
    (making : ∀ owner made, lock.point = .write owner made → w'.clock ≤ timeout + owner.createdAt →
      w'.disk = w.disk) :
    Sound pid timeout w' lock where
  held := by
    intro locked
    rw [held locked]
    exact hs.held locked
  making := by
    intro owner made point hw
    rw [making owner made point hw]
    exact hs.making owner made point (hf.clock.trans hw)
  called := fun now point => (hs.called now point).trans hf.clock
  justified := fun why at' => hf.justified (hs.justified why at')
  compared := fun why checked at' => hf.compared (hs.compared why checked at')

structure UsesKept (pid : Nat → Nat) (w w' : LockPath) : Prop where
  nextToken : w.nextToken ≤ w'.nextToken
  uses : ∀ n owner, Uses (w'.locks n) owner → Uses (w.locks n) owner ∨
    w.nextToken ≤ owner.token ∧ owner.token < w'.nextToken ∧ owner.pid = pid n ∧
      owner.createdAt ≤ w'.clock
  fresh : ∀ n m owner, Uses (w'.locks n) owner → Uses (w'.locks m) owner →
    w.nextToken ≤ owner.token → n = m

theorem UsesKept.made (hk : UsesKept pid w w') (hc : w.clock ≤ w'.clock)
    (hg : w.Guarded pid timeout) (n : Nat) (owner : FileLockOwner) (hu : Uses (w'.locks n) owner) :
    owner.token < w'.nextToken ∧ owner.pid = pid n ∧ owner.createdAt ≤ w'.clock := by
  rcases hk.uses n owner hu with hb | ⟨-, made⟩
  · obtain ⟨token, hs, hd⟩ := hg.made n owner hb
    exact ⟨token.trans_le hk.nextToken, hs, hd.trans hc⟩
  · exact made

theorem UsesKept.apart (hk : UsesKept pid w w') (hg : w.Guarded pid timeout) (n m : Nat)
    (owner : FileLockOwner)
    (hu : Uses (w'.locks n) owner) (uses' : Uses (w'.locks m) owner) : n = m := by
  by_cases hf : w.nextToken ≤ owner.token
  · exact hk.fresh n m owner hu uses' hf
  · rcases hk.uses n owner hu with hb | ⟨new, -⟩
    · rcases hk.uses m owner uses' with hb' | ⟨new, -⟩
      · exact hg.apart n m owner hb hb'
      · exact absurd new hf
    · exact absurd new hf

theorem Guarded.quiet (hg : w.Guarded pid timeout) (hfo : Follows w w') (hd : w'.disk = w.disk)
    (hwr : ∀ n ∈ w'.live, ∀ owner made, (w'.locks n).point = .write owner made →
      (w.locks n).point = .write owner made)
    (hk : UsesKept pid w w')
    (sound : ∀ n ∈ w'.live, w'.locks n = w.locks n ∨ Sound pid timeout w (w'.locks n)) :
    w'.Guarded pid timeout where
  inodes := by
    rw [hd]
    exact fun dir hf => (hg.inodes dir hf).trans_le hfo.nextInode
  dated := by
    rw [hd]
    exact hg.dated
  made := hk.made hfo.clock hg
  apart := hk.apart hg
  sole := fun n live m live' owner made owner' made' point hw point' hw' =>
    hg.sole n (hfo.live n live) m (hfo.live m live') owner made owner' made'
      (hwr n live owner made point) (hfo.clock.trans hw)
      (hwr m live' owner' made' point') (hfo.clock.trans hw')
  sound := by
    intro n live
    have same : w'.readOwner = w.readOwner := by rw [readOwner, readOwner, hd]
    have before : Sound pid timeout w (w'.locks n) := by
      rcases sound n live with hu | sound
      · rw [hu]
        exact hg.sound n (hfo.live n live)
      · exact sound
    exact hfo.sound before (fun _ => same) fun _ _ _ _ => hd

theorem usesKept_of_locks (hs : ∀ n owner, Uses (w'.locks n) owner → Uses (w.locks n) owner)
    (nextToken : w'.nextToken = w.nextToken) (hg : w.Guarded pid timeout) : UsesKept pid w w' where
  nextToken := nextToken.ge
  uses := fun n owner uses => .inl (hs n owner uses)
  fresh := by
    intro n m owner uses _ fresh
    have below := (hg.made n owner (hs n owner uses)).1
    omega

theorem locks_put (m : Nat) : (w.put n lock).locks m = if m = n then lock else w.locks m :=
  Function.update_apply ..

theorem uses_put (hus : ∀ owner, Uses lock owner → Uses (w.locks n) owner) (m : Nat)
    (owner : FileLockOwner)
    (hu : Uses ((w.put n lock).locks m) owner) : Uses (w.locks m) owner := by
  rw [locks_put] at hu
  split at hu
  next hs => exact hs ▸ hus owner hu
  · exact hu

theorem Guarded.put (hg : w.Guarded pid timeout) (hi : ∀ owner made, lock.point ≠ .write owner made)
    (hu : ∀ owner, Uses lock owner → Uses (w.locks n) owner)
    (hso : n ∈ w.live → Sound pid timeout w lock) :
    (w.put n lock).Guarded pid timeout := by
  have hw : ∀ m, ∀ owner made, ((w.put n lock).locks m).point = .write owner made →
      (w.locks m).point = .write owner made := by
    intro m owner made point
    rw [locks_put] at point
    split at point
    · exact absurd point (hi owner made)
    · exact point
  refine hg.quiet ?_ rfl (fun m _ => hw m) (usesKept_of_locks (uses_put hu) rfl hg) ?_
  · exact ⟨le_rfl, fun _ live => live, le_rfl, fun dir hf _ => ⟨dir, hf, rfl, .inl rfl⟩,
      fun m _ owner made _ => hw m owner made⟩
  · intro m live
    rw [locks_put]
    split
    next hs => exact .inr (hso (hs ▸ live))
    · exact .inl rfl

theorem justified_of_owner {lock' : FileLock} (hl : lock'.locked = lock.locked)
    (ho : lock'.owner = lock.owner) (hj : w.Justified pid timeout lock why) :
    w.Justified pid timeout lock' why := by
  cases why with
  | release expected => exact ⟨hl.trans hj.1, ho.trans hj.2⟩
  | cleanup staleOwner seen => cases staleOwner <;> exact hj

theorem Guarded.goto (hg : w.Guarded pid timeout) (hl : n ∈ w.live)
    (hi : ∀ owner made, point ≠ .write owner made) (hu : ∀ owner, point ≠ .mkdir owner)
    (called : ∀ now, calledAt point = some now → now ≤ w.clock)
    (justified : ∀ why, removing point = some why → w.Justified pid timeout (w.locks n) why)
    (compared : ∀ why checked, point = .tryRemove why checked → w.Compared checked why) :
    (w.goto n point).Guarded pid timeout := by
  refine hg.put hi ?_ fun _ => ?_
  · rintro owner (own | at' | ⟨made, at'⟩)
    · exact .inl own
    · exact absurd at' (hu owner)
    · exact absurd at' (hi owner made)
  · exact {
      held := (hg.sound n hl).held
      making := fun owner made at' => absurd at' (hi owner made)
      called := called
      justified := fun why at' => justified_of_owner rfl rfl (justified why at')
      compared := compared }

theorem Guarded.goto_plain (hg : w.Guarded pid timeout) (hl : n ∈ w.live)
    (hi : ∀ owner made, point ≠ .write owner made) (hu : ∀ owner, point ≠ .mkdir owner)
    (hc : calledAt point = none) (hp : removing point = none) :
    (w.goto n point).Guarded pid timeout := by
  refine hg.goto hl hi hu ?_ ?_ ?_
  · intro now at'
    cases hc.symm.trans at'
  · intro why at'
    cases hp.symm.trans at'
  · rintro why checked rfl
    cases hp

theorem Guarded.goto_idle (hg : w.Guarded pid timeout) (hl : n ∈ w.live) :
    (w.goto n .idle).Guarded pid timeout :=
  hg.goto_plain hl nofun nofun rfl rfl

theorem removing_of_called (h : calledAt point = some now) : removing point = none := by
  cases point
  case tryExists | tryOwnerExists | tryRead | tryRemove => cases h
  all_goals rfl

theorem Guarded.goto_clean (hg : w.Guarded pid timeout) (hl : n ∈ w.live)
    (hc : calledAt point = some now) (hp : now ≤ w.clock) : (w.goto n point).Guarded pid timeout := by
  refine hg.goto hl ?_ ?_ ?_ ?_ ?_
  · rintro owner made rfl
    cases hc
  · rintro owner rfl
    cases hc
  · intro now' at'
    cases hc.symm.trans at'
    exact hp
  · intro why at'
    rw [removing_of_called hc] at at'
    cases at'
  · rintro why checked rfl
    cases hc

theorem Guarded.goto_remove (hg : w.Guarded pid timeout) (hl : n ∈ w.live)
    (ht : removing point = some why)
    (hc : ∀ checked, point = .tryRemove why checked → w.Compared checked why)
    (hj : w.Justified pid timeout (w.locks n) why) : (w.goto n point).Guarded pid timeout := by
  refine hg.goto hl ?_ ?_ ?_ ?_ ?_
  · rintro owner made rfl
    cases ht
  · rintro owner rfl
    cases ht
  · intro now at'
    rw [removing_of_called at'] at ht
    cases ht
  · intro why' at'
    cases ht.symm.trans at'
    exact hj
  · rintro why' checked rfl
    cases ht
    exact hc checked rfl

theorem Guarded.clearLocalState (h : w.Guarded pid timeout) :
    (w.clearLocalState n).Guarded pid timeout := by
  refine h.put nofun ?_ fun _ => ⟨nofun, nofun, nofun, nofun, nofun⟩
  rintro owner (own | at' | ⟨made, at'⟩)
  · cases own
  · cases at'
  · cases at'

theorem Guarded.create (h : w.Guarded pid timeout) : (w.create pid n).Guarded pid timeout := by
  have uses : ∀ m owner, Uses ((w.create pid n).locks m) owner →
      (m = n ∧ owner = ⟨pid n, w.clock, w.nextToken⟩) ∨ Uses (w.locks m) owner := by
    intro m owner hu
    rw [LockPath.create, locks_put] at hu
    split at hu
    next hs =>
      rcases hu with own | at' | ⟨made, at'⟩
      · cases own
      · cases at'
        exact .inl ⟨hs, rfl⟩
      · cases at'
    · exact .inr hu
  have hw : ∀ m, ∀ owner made, ((w.create pid n).locks m).point = .write owner made →
      (w.locks m).point = .write owner made := by
    intro m owner made hp
    rw [LockPath.create, locks_put] at hp
    split at hp
    · cases hp
    · exact hp
  refine h.quiet ?_ rfl (fun m _ => hw m) ⟨Nat.le_succ _, ?_, ?_⟩ ?_
  · exact ⟨le_rfl, fun _ hl => hl, le_rfl, fun dir hfo _ => ⟨dir, hfo, rfl, .inl rfl⟩,
      fun m _ owner made _ => hw m owner made⟩
  · intro m owner hu
    rcases uses m owner hu with ⟨rfl, rfl⟩ | before
    · exact .inr ⟨le_rfl, Nat.lt_succ_self _, rfl, le_rfl⟩
    · exact .inl before
  · have fresh : ∀ m owner, Uses ((w.create pid n).locks m) owner → w.nextToken ≤ owner.token →
        m = n := by
      intro m owner hu new
      rcases uses m owner hu with ⟨hs, -⟩ | before
      · exact hs
      · have old := (h.made m owner before).1
        omega
    intro m k owner hu hu' new
    rw [fresh m owner hu new, fresh k owner hu' new]
  · intro m _
    rw [LockPath.create, locks_put]
    split
    · exact .inr ⟨nofun, nofun, nofun, nofun, nofun⟩
    · exact .inl rfl

theorem Guarded.returns (hg : w.Guarded pid timeout) (hl : n ∈ w.live) (why : Removing)
    (result : Bool) :
    (w.returns n why result).Guarded pid timeout := by
  cases why with
  | release owner =>
    cases result
    · exact hg.goto_plain hl nofun nofun rfl rfl
    · exact hg.clearLocalState
  | cleanup staleOwner seen => exact hg.goto_idle hl

theorem Guarded.compare (hg : w.Guarded pid timeout) (hl : n ∈ w.live)
    (ht : removing (w.locks n).point = some why) :
    (w.compare n why w.readOwner).Guarded pid timeout := by
  unfold LockPath.compare
  split
  next hs =>
    refine hg.goto_remove hl rfl ?_ ((hg.sound n hl).justified why ht)
    intro checked at'
    have checked' := (LockPoint.tryRemove.inj at').2
    cases why with
    | release owner => trivial
    | cleanup staleOwner seen =>
      cases staleOwner with
      | none => exact checked'.symm
      | some owner =>
        intro inode hf
        rw [← checked'] at hf
        obtain ⟨dir, hd, rfl⟩ := map_eq_some_iff.mp hf
        refine ⟨hg.inodes dir hd, fun dir' hd' _ => ?_⟩
        rwa [readOwner, hd'] at hs
  · exact hg.returns hl why false

theorem Guarded.outlived (hg : w.Guarded pid timeout) (hdi : w.disk = some dir)
    (old : timeout + dir.mtime < w.clock) : w.Outlived timeout dir.inode := by
  intro dir' disk' _
  cases hdi.symm.trans disk'
  refine ⟨fun owner hn => ?_, fun n hl owner hp => ?_⟩
  · have date := hg.dated dir owner hdi hn
    omega
  · refine Nat.lt_of_not_le fun hw => ?_
    obtain ⟨-, dir', disk', -, -, date⟩ := (hg.sound n hl).making owner dir.inode hp hw
    cases hdi.symm.trans disk'
    omega

/- Steps that change the directory -/

theorem Guarded.unheld (hg : w.Guarded pid timeout) (hb : w.readOwner = none) (hl : n ∈ w.live) :
    (w.locks n).locked = false := by
  rw [← Bool.not_eq_true]
  intro locked
  obtain ⟨owner, -, hf⟩ := (hg.sound n hl).held locked
  cases hb.symm.trans hf

/-- No live process holds the lock, nor has made the directory and is within the timeout. -/
structure Vacant (timeout : Nat) (w : LockPath) : Prop where
  unheld : ∀ n ∈ w.live, (w.locks n).locked = false
  unmade : ∀ n ∈ w.live, ∀ owner made, (w.locks n).point = .write owner made →
    timeout + owner.createdAt < w.clock

theorem Guarded.vacant (hg : w.Guarded pid timeout) (hf : w.disk = none) : w.Vacant timeout where
  unheld := fun n hl => hg.unheld (by rw [readOwner, hf, bind_none]) hl
  unmade := by
    intro n hl owner made hp
    refine Nat.lt_of_not_le fun hw => ?_
    obtain ⟨-, dir, disk, -⟩ := (hg.sound n hl).making owner made hp hw
    cases hf.symm.trans disk

theorem Follows.sound_idle (hf : Follows w w') (hc : w'.clock = w.clock)
    (hs : Sound pid timeout w lock) (hu : lock.locked = false)
    (hun : ∀ owner made, lock.point = .write owner made → timeout + owner.createdAt < w.clock) :
    Sound pid timeout w' lock := by
  refine hf.sound hs (fun locked => ?_) fun owner made point hw => ?_
  · rw [hu] at locked
    cases locked
  · exact absurd (hun owner made point) (hc ▸ hw).not_gt

theorem Guarded.removed (hg : w.Guarded pid timeout) (hv : w.Vacant timeout) :
    ({ w with disk := none } : LockPath).Guarded pid timeout where
  inodes := nofun
  dated := nofun
  made := hg.made
  apart := hg.apart
  sole := hg.sole
  sound := by
    intro n hl
    have hf : Follows w { w with disk := none } :=
      ⟨le_rfl, fun _ hl => hl, le_rfl, nofun, fun _ _ _ _ _ hp => hp⟩
    exact hf.sound_idle rfl (hg.sound n hl) (hv.unheld n hl) (hv.unmade n hl)

theorem Guarded.change (hg : w.Guarded pid timeout) {next : Nat}
    (hf : Follows w ({ w with disk := some dir, nextInode := next }.put n lock))
    (hi : dir.inode < next)
    (hd : ∀ owner, dir.owner = some owner → owner.createdAt ≤ dir.mtime)
    (hu : ∀ owner, Uses lock owner → Uses (w.locks n) owner)
    (hot : ∀ m ∈ w.live, m ≠ n → (w.locks m).locked = false ∧
      ∀ owner made, (w.locks m).point = .write owner made → timeout + owner.createdAt < w.clock)
    (hm : Sound pid timeout ({ w with disk := some dir, nextInode := next }.put n lock) lock) :
    ({ w with disk := some dir, nextInode := next }.put n lock).Guarded pid timeout := by
  have kept : UsesKept pid w ({ w with disk := some dir, nextInode := next }.put n lock) :=
    usesKept_of_locks (uses_put hu) rfl hg
  have writer : ∀ m ∈ w.live, ∀ owner made,
      (({ w with disk := some dir, nextInode := next }.put n lock).locks m).point =
        .write owner made →
        w.clock ≤ timeout + owner.createdAt → m = n := by
    intro m live owner made point hw
    by_contra ho
    rw [locks_put, if_neg ho] at point
    exact absurd ((hot m live ho).2 owner made point) hw.not_gt
  refine ⟨?_, ?_, kept.made le_rfl hg, kept.apart hg, ?_, ?_⟩
  · rintro _ ⟨⟩
    exact hi
  · rintro _ owner ⟨⟩ hn
    exact hd owner hn
  · intro m live k live' owner made owner' made' point hw point' hw'
    rw [writer m live owner made point hw, writer k live' owner' made' point' hw']
  · intro m live
    rw [locks_put]
    split
    · exact hm
    next ho => exact hf.sound_idle rfl (hg.sound m live) (hot m live ho).1 (hot m live ho).2

theorem Guarded.mkdir (hg : w.Guarded pid timeout) (hli : n ∈ w.live)
    (at' : (w.locks n).point = .mkdir owner) (hf : w.disk = none) :
    ({ w with disk := some ⟨w.nextInode, none, w.clock⟩, nextInode := w.nextInode + 1 }.goto n
      (.write owner w.nextInode)).Guarded pid timeout := by
  have hv := hg.vacant hf
  refine hg.change ⟨le_rfl, fun _ hli => hli, Nat.le_succ _, ?_, ?_⟩ (Nat.lt_succ_self _) nofun ?_
    (fun m hli _ => ⟨hv.unheld m hli, hv.unmade m hli⟩) ⟨fun hl => ?_, ?_, nofun, nofun, nofun⟩
  · rintro _ ⟨⟩ old
    exact absurd old (lt_irrefl _)
  · intro m _ o made old point
    rw [locks_put] at point
    split at point
    · cases point
      exact absurd old (lt_irrefl _)
    · exact point
  · rintro o (own | point | ⟨made, point⟩)
    · exact .inl own
    · cases point
    · cases point
      exact .inr (.inl at')
  · have hu := hv.unheld n hli
    cases hu.symm.trans hl
  · rintro o made ⟨⟩ _
    exact ⟨hv.unheld n hli, _, rfl, rfl, rfl, (hg.made n owner (.inr (.inl at'))).2.2⟩

theorem Guarded.write (guarded : w.Guarded pid timeout) (live : n ∈ w.live)
    (at' : (w.locks n).point = .write owner dir.inode)
    (within : w.clock ≤ timeout + owner.createdAt)
    (disk : w.disk = some dir) (bare : dir.owner = none) :
    ({ w with disk := some ⟨dir.inode, some owner, w.clock⟩ }.put n
      ⟨true, some owner, .idle⟩).Guarded pid timeout := by
  have used : Uses (w.locks n) owner := .inr (.inr ⟨_, at'⟩)
  have none' : w.readOwner = none := by rw [readOwner, disk, bind_some, bare]
  refine guarded.change ⟨le_rfl, fun _ live => live, le_rfl, ?_, ?_⟩ (guarded.inodes dir disk)
    ?_ ?_ ?_
    ⟨fun _ => ⟨owner, rfl, rfl⟩, nofun, nofun, nofun, nofun⟩
  · rintro _ ⟨⟩ _
    exact ⟨dir, disk, rfl, .inr ⟨bare, n, live, owner, rfl, at'⟩⟩
  · intro m _ o made _ point
    rw [locks_put] at point
    split at point
    · cases point
    · exact point
  · rintro o ⟨⟩
    exact (guarded.made n owner used).2.2
  · rintro o (own | point | ⟨made, point⟩)
    · cases own
      exact used
    · cases point
    · cases point
  · refine fun m live' o =>
      ⟨guarded.unheld none' live', fun owner' made point => Nat.lt_of_not_le fun he => ?_⟩
    exact o (guarded.sole m live' n live owner' made owner dir.inode point he at' within)

theorem Guarded.remove (hgu : w.Guarded pid timeout) (ht : w.Timely timeout) (hli : n ∈ w.live)
    (at' : (w.locks n).point = .tryRemove why checked)
    (hun : ∀ dir, w.disk = some dir → checked = some dir.inode) :
    (({ w with disk := none } : LockPath).returns n why true).Guarded pid timeout := by
  have hu : ∀ m ∈ w.live, ∀ owner made, (w.locks m).point = .write owner made →
      timeout + owner.createdAt < w.clock := by
    intro m live' owner made point
    refine Nat.lt_of_not_le fun hw => ?_
    obtain ⟨-, dir, disk, -⟩ := (hgu.sound m live').making owner made point hw
    have late := (hgu.removal hli at' disk (hun dir disk)).2 m live' owner made point
    omega
  have hh : ∀ m ∈ w.live, (w.locks m).locked = true → m = n ∧ ∃ owner, why = .release owner := by
    intro m live' hl
    obtain ⟨owner, own, hf⟩ := (hgu.sound m live').held hl
    obtain ⟨dir, disk, hn⟩ := bind_eq_some_iff.mp hf
    rcases (hgu.removal hli at' disk (hun dir disk)).1 owner hn with ⟨hs, own'⟩ | stale
    · exact ⟨hgu.apart m n owner (.inl own) (.inl own'), owner, hs⟩
    · have pids := (hgu.made m owner (.inl own)).2.1
      exact absurd stale (not_stale live' pids (ht m live' hl owner own))
  cases why with
  | release owner =>
    have hc : (w.clearLocalState n).Vacant timeout := by
      refine ⟨fun m live' => ?_, fun m live' o made => ?_⟩
      · rw [LockPath.clearLocalState, locks_put]
        split
        · rfl
        · rw [← Bool.not_eq_true]
          exact fun hl => absurd (hh m live' hl).1 ‹m ≠ n›
      · rw [LockPath.clearLocalState, locks_put]
        split
        · nofun
        · exact hu m live' o made
    exact hgu.clearLocalState.removed hc
  | cleanup staleOwner seen =>
    have vacant : w.Vacant timeout := by
      refine ⟨fun m live' => ?_, hu⟩
      rw [← Bool.not_eq_true]
      intro hl
      obtain ⟨-, owner, o⟩ := hh m live' hl
      cases o
    have gone := hgu.removed vacant
    exact gone.goto_idle hli

/- Whole runs -/

theorem put_self : (w.put n lock).locks n = lock := Function.update_self ..

theorem Guarded.proceed (guarded : w.Guarded pid timeout) (timely : w.Timely timeout)
    (live : n ∈ w.live) {succeeds : Bool} (unreplaced : w.Unreplaced (.proceed n succeeds))
    (after : (w.proceed pid timeout n succeeds).Timely timeout) :
    (w.proceed pid timeout n succeeds).Guarded pid timeout := by
  have hs := guarded.sound n live
  unfold LockPath.proceed at after ⊢
  cases at' : (w.locks n).point
  all_goals simp only [at'] at after ⊢
  case idle => exact guarded
  case checkExists =>
    split
    · exact guarded.goto_plain live nofun nofun rfl rfl
    · exact guarded.create
  case checkRead =>
    split
    · exact guarded.goto_idle live
    · exact guarded.create
  case mkdir owner =>
    split
    · exact guarded.goto_idle live
    next hf => exact guarded.mkdir live at' hf
  case write owner made =>
    cases hd : w.disk with
    | none => exact guarded.goto_idle live
    | some dir =>
      -- a late writer would hold the lock past the timeout
      have hw : w.clock ≤ timeout + owner.createdAt := by
        simp only [hd] at after
        exact after n live (by rw [put_self]) owner (by rw [put_self]; rfl)
      obtain ⟨-, dir', hd', rfl, hb, -⟩ := hs.making owner made at' hw
      cases hd.symm.trans hd'
      simp only [hb, isSome_none, Bool.false_eq_true, if_false]
      exact guarded.write live at' hw hd hb
  case tryExists why =>
    split
    · exact guarded.goto_remove live rfl nofun (hs.justified why (by rw [at']; rfl))
    · exact guarded.returns live why true
  case tryOwnerExists why =>
    split
    · exact guarded.goto_remove live rfl nofun (hs.justified why (by rw [at']; rfl))
    next hb =>
      rw [← not_isSome_iff_eq_none.mp hb]
      exact guarded.compare live (by rw [at']; rfl)
  case tryRead why => exact guarded.compare live (by rw [at']; rfl)
  case tryRemove why checked =>
    cases succeeds with
    | false => exact guarded.returns live why false
    | true => exact guarded.remove timely live at' (unreplaced live checked (by rw [at']; rfl))
  case againExists =>
    split
    · exact guarded.goto_plain live nofun nofun rfl rfl
    · exact guarded.clearLocalState
  case againRead =>
    split
    · exact guarded.goto_idle live
    · exact guarded.clearLocalState
  case cleanOwnerExists now =>
    have hp := hs.called now (by rw [at']; rfl)
    split
    · exact guarded.goto_clean live rfl hp
    · exact guarded.goto_clean live rfl hp
  case cleanRead now => exact guarded.goto_clean live rfl (hs.called now (by rw [at']; rfl))
  case cleanExists now owner =>
    have hp := hs.called now (by rw [at']; rfl)
    split
    · cases owner with
      | none | some owner => exact guarded.goto_clean live rfl hp
    · exact guarded.goto_idle live
  case cleanAlive now owner =>
    have hp := hs.called now (by rw [at']; rfl)
    split
    next hst => exact guarded.goto_remove live rfl nofun (hst.imp_right hp.trans_lt')
    · exact guarded.goto_idle live
  case cleanStat now =>
    have hp := hs.called now (by rw [at']; rfl)
    split
    · exact guarded.goto_idle live
    next dir hd =>
      split
      next old =>
        refine guarded.goto_remove live rfl nofun ⟨dir.inode, rfl, guarded.inodes dir hd, ?_⟩
        exact guarded.outlived hd (old.trans_le hp)
      · exact guarded.goto_idle live

theorem Guarded.begin {start : LockPath} (hg : w.Guarded pid timeout)
    (hs : n ∈ w.live → (w.locks n).point = .idle → start.Guarded pid timeout) :
    (w.begin n start).Guarded pid timeout := by
  unfold LockPath.begin
  split
  next hf => exact hs hf.1 hf.2
  · exact hg

theorem Guarded.acquire (hg : w.Guarded pid timeout) (hl : n ∈ w.live) :
    (w.acquire pid n).Guarded pid timeout := by
  unfold LockPath.acquire
  split
  · exact hg.goto_plain hl nofun nofun rfl rfl
  · exact hg.create

theorem Guarded.release (hg : w.Guarded pid timeout) (hli : n ∈ w.live) :
    (w.release n).Guarded pid timeout := by
  unfold LockPath.release
  split
  next hl =>
    split
    · exact hg.clearLocalState
    next owner own => exact hg.goto_remove hli rfl nofun ⟨hl, own⟩
  · exact hg

theorem Guarded.step (hg : w.Guarded pid timeout) (ht : w.Timely timeout)
    (ha : (w.step pid timeout act).Timely timeout) (hun : w.Unreplaced act) :
    (w.step pid timeout act).Guarded pid timeout := by
  cases act with
  | acquire n => exact hg.begin fun hl _ => hg.acquire hl
  | release n => exact hg.begin fun hl _ => hg.release hl
  | cleanupStale n => exact hg.begin fun hl _ => hg.goto_clean hl rfl le_rfl
  | proceed n succeeds =>
    by_cases hl : n ∈ w.live
    · simp only [LockPath.step, if_pos hl] at ha ⊢
      exact hg.proceed ht hl hun ha
    · simp only [LockPath.step, if_neg hl]
      exact hg
  | tick el =>
    exact hg.quiet ⟨Nat.le_add_right .., fun _ hl => hl, le_rfl,
      fun dir hf _ => ⟨dir, hf, rfl, .inl rfl⟩, fun _ _ _ _ _ hp => hp⟩ rfl (fun _ _ _ _ hp => hp)
      (usesKept_of_locks (fun _ _ hu => hu) rfl hg) fun _ _ => .inl rfl
  | crash n =>
    exact hg.quiet ⟨le_rfl, fun _ hl => mem_of_mem_filter hl, le_rfl,
      fun dir hf _ => ⟨dir, hf, rfl, .inl rfl⟩, fun _ _ _ _ _ hp => hp⟩ rfl (fun _ _ _ _ hp => hp)
      (usesKept_of_locks (fun _ _ hu => hu) rfl hg) fun _ _ => .inl rfl

theorem Guarded.ownRemoval (hg : w.Guarded pid timeout) (hu : w.Unreplaced act) :
    w.OwnRemoval pid timeout act := by
  cases act with
  | proceed n succeeds =>
    cases succeeds with
    | false => trivial
    | true =>
      intro hl hr owner hf
      obtain ⟨dir, hd, hn⟩ := bind_eq_some_iff.mp hf
      cases at' : (w.locks n).point with
      | tryRemove why checked =>
        have checked' := hu hl checked (by rw [at']; rfl) dir hd
        exact ((hg.removal hl at' hd checked').1 owner hn).imp_left And.right
      | _ =>
        rw [at'] at hr
        cases hr
  | _ => trivial

theorem guarded_run {acts : List CallAct} (hgu : w.Guarded pid timeout)
    (ht : Throughout (step pid timeout) (Timely timeout) w acts)
    (hu : Along (step pid timeout) Unreplaced w acts) :
    Throughout (step pid timeout) (Guarded pid timeout) w acts := by
  have both : Along (step pid timeout)
      (fun w act => w.Timely timeout ∧ (w.step pid timeout act).Timely timeout) w acts :=
    along_of_throughout (fun _ _ hb ha => ⟨hb, ha⟩) ht
  exact throughout_of_along (fun _ _ guarded' hg => guarded'.step hg.1.1 hg.1.2 hg.2) hgu
    (along_both both hu)

theorem file_lock_exclusion (pid : Nat → Nat) (timeout now : Nat) (live : List Nat)
    (acts : List CallAct)
    (timely : Throughout (step pid timeout) (Timely timeout) (initial now live) acts)
    (unreplaced : Along (step pid timeout) Unreplaced (initial now live) acts) :
    Throughout (step pid timeout) Exclusive (initial now live) acts ∧
      Along (step pid timeout) (OwnRemoval pid timeout) (initial now live) acts := by
  have guarded := guarded_run (guarded_initial now live) timely unreplaced
  refine ⟨throughout_mono (fun _ hgu' => hgu'.exclusive) guarded, ?_⟩
  have safe : Along (step pid timeout) (fun w _ => w.Guarded pid timeout) (initial now live) acts :=
    along_of_throughout (fun _ _ hgu' _ => hgu') guarded
  exact along_mono (fun _ _ hg => hg.1.ownRemoval hg.2) (along_both safe unreplaced)

/-- One process after another takes the lock; the second clears away what the first left when it
crashed. -/
theorem second_process_takes_over :
    let acts : List CallAct :=
      .acquire 0 :: replicate 2 (.proceed 0 true) ++ .crash 0 :: .cleanupStale 1 ::
      replicate 8 (.proceed 1 true) ++ .acquire 1 :: replicate 2 (.proceed 1 true)
    (Throughout (step id 10) Exclusive (initial 1 [0, 1]) acts ∧
      Along (step id 10) (OwnRemoval id 10) (initial 1 [0, 1]) acts) ∧
      ((acts.foldl (step id 10) (initial 1 [0, 1])).locks 1).locked = true :=
  ⟨file_lock_exclusion id 10 1 [0, 1] _ (by decide +kernel) (by decide +kernel), by decide +kernel⟩

/-- Two processes find the lock of one that crashed. The first removes it and takes the lock; the
second, which had made its comparison before, removes the lock of the first. -/
theorem checked_removal_races :
    let acts : List CallAct := .acquire 0 :: replicate 2 (.proceed 0 true) ++ .crash 0 ::
      .cleanupStale 1 :: replicate 7 (.proceed 1 true) ++ .cleanupStale 2 ::
        replicate 8 (.proceed 2 true) ++
      .acquire 2 :: replicate 2 (.proceed 2 true) ++ .proceed 1 true :: .acquire 1 ::
        replicate 2 (.proceed 1 true)
    Throughout (step id 10) (Timely 10) (initial 1 [0, 1, 2]) acts ∧
      ¬(acts.foldl (step id 10) (initial 1 [0, 1, 2])).Exclusive ∧
      ¬Along (step id 10) (OwnRemoval id 10) (initial 1 [0, 1, 2]) acts := by
  decide +kernel

end DebugRouter.Manager.LockPath
