import Virtink.Lock

/-! # The Migrations and the Lock

    The VM and the migrations are different objects, written at different
    times. This module asks what that means for the migrations: whether the
    one that holds the record still exists, and whether the phase a migration
    reports can move backwards. Neither holds in every run, because nothing
    keeps a migration from being removed while it holds the record, and
    because a migration that lost the record to a reset takes it again.
-/

namespace Virtink

open Calls

/-! ### The Migrations

    What a move does to the migration with a given UID, and to what its worker
    has read of it. -/

/-- What a move does to migration `u`. -/
inductive VMMChange (u : UID) (w : World) (a : Action) (w' : World) : Prop where
  | same (h : w'.findVMM u = w.findVMM u)
  | created (hfresh : u ∉ w.uids) (hused : u ∈ w'.uids) (hnone : w.findVMM u = none)
      (hnew : w'.findVMM u = some { uid := u })
  | marked (cur new : VMM) (hcur : w.findVMM u = some cur) (hnew : w'.findVMM u = some new)
      (hrv : new.resourceVersion = cur.resourceVersion + 1) (hst : new.status = cur.status)
  | removed (ha : a = .event (.removeVMM u)) (hnone : w'.findVMM u = none)
  | written (m : VMM) (cur x : VMM) (hcur : w.findVMM u = some cur)
      (hx : (w.views (.vmm u)).vmm = some x) (hrv : x.resourceVersion = cur.resourceVersion)
      (hphase : VmmPhase u (w.views (.vmm u)) x m.status.phase)
      (hnew : w'.findVMM u = some { cur with
        status := m.status, resourceVersion := cur.resourceVersion + 1 })
      (hdone : w'.views (.vmm u) = {})

theorem World.findVMM_map {w : World} (f : VMM → VMM) (hf : ∀ x, (f x).uid = x.uid) (u : UID) :
    (w.vmms.map f).find? (·.uid == u) = (w.findVMM u).map f := by
  rw [List.find?_map]
  congr 2
  funext x
  simp only [Function.comp, hf]

theorem Happening.vmmChange {e : Event} {w w' : World} (u : UID) (h : Happening w e w') :
    VMMChange u w (.event e) w' := by
  cases h with
  | @newVMM u' hnew =>
    have happ : World.findVMM { w with vmms := w.vmms ++ [{ uid := u' }], uids := u' :: w.uids } u
        = (w.findVMM u).or (if u' = u then some { uid := u' } else none) := by
      unfold World.findVMM
      rw [List.find?_append]
      by_cases hu : u' = u <;> simp [hu]
    cases hfind : w.findVMM u with
    | some x => exact .same (by rw [happ, hfind]; rfl)
    | none =>
      rw [hfind, Option.none_or] at happ
      split at happ
      · next hu => subst hu; exact .created hnew (.head _) hfind happ
      · exact .same (by rw [happ, hfind])
  | @markVMM u' =>
    have hmap := World.findVMM_map (w := w) (fun x =>
      if x.uid = u' ∧ x.deletionTimestamp = none then
        { x with deletionTimestamp := some w.now, resourceVersion := x.resourceVersion + 1 }
      else x) (fun x => by split <;> rfl) u
    cases hfind : w.findVMM u with
    | none => exact .same (hmap.trans (by rw [hfind]; rfl))
    | some cur =>
      rw [hfind, Option.map_some] at hmap
      split at hmap
      · exact .marked cur _ hfind hmap rfl rfl
      · exact .same (hmap.trans hfind.symm)
  | @dropVMM u' =>
    by_cases hu : u = u'
    · subst hu
      refine .removed rfl ?_
      simp [World.findVMM, List.find?_filter]
    · refine .same ?_
      unfold World.findVMM
      rw [List.find?_filter]
      congr 1
      funext x
      by_cases hx : x.uid = u
      · simp [hx, hu]
      · simp [hx]
  | _ => exact .same rfl

theorem Effect.vmmChange {i : Proc} {o : Op} {ch : Choice} {w w' : World} (u : UID)
    (hg : guard i o (w.views i)) (h : Effect i w o w') : VMMChange u w (.call i o ch) w' := by
  cases h with
  | @writeVMM m cur hm hrv =>
    cases i with
    | controller => exact hg.elim
    | daemon n => exact hg.elim
    | vmm u' =>
      obtain ⟨x, hx, -, hu, hxrv, hphase⟩ := hg
      have hcur := World.findVMM_uid hm
      have hfind := World.findVMM_commitVMM w cur.uid u m.status
      by_cases huu : u = u'
      · subst huu hu
        refine .written m cur x hm hx (hxrv.symm.trans hrv) hphase (hfind.trans ?_)
          (World.see_views_self ..)
        rw [hm, Option.map_some, if_pos rfl]
      · refine .same (hfind.trans ?_)
        cases hfu : w.findVMM u with
        | none => rfl
        | some y =>
          have hy := World.findVMM_uid hfu
          rw [Option.map_some, if_neg]
          rw [hy, hcur, hu]; exact huu
  | _ => exact .same rfl

theorem Moved.vmmChange {w w' : World} {a : Action} (u : UID) (h : Moved w a w') :
    VMMChange u w a w' := by
  cases h with
  | start i _ => exact .same rfl
  | finish i _ => exact .same rfl
  | crash i => cases i <;> exact .same rfl
  | call i o ch hg _ heff => exact heff.vmmChange u hg
  | event e hev => exact hev.vmmChange u

/-- What a worker has read of its migration is what it had read, or what is
    stored now and nothing of the VM yet. -/
theorem Moved.vmm_view {w w' : World} {a : Action} (h : Moved w a w') {u : UID} {x : VMM}
    (hx : (w'.views (.vmm u)).vmm = some x) :
    (w.views (.vmm u)).vmm = some x ∨
      (w.findVMM u = some x ∧ w'.findVMM u = some x ∧ (w'.views (.vmm u)).vm = none) := by
  rcases h.view (.vmm u) with hv | ⟨hv, -⟩ | ⟨o, ch, -, hg, heff⟩
  · exact .inl (by rw [← hv]; exact hx)
  · rw [hv] at hx; cases hx
  · cases heff with
    | @readVMM u' m hm =>
      obtain ⟨rfl, hnone⟩ := hg
      rw [World.see_views_self] at hx ⊢; cases hx
      exact .inr ⟨hm, hm, hnone⟩
    | same | createPod _ _ | markPod | removePod => exact .inl hx
    | keepVMM | writeVMM _ _ => rw [World.see_views_self] at hx; cases hx
    | _ => exact .inl (by simpa [World.hold, World.release, World.commit, World.replace] using hx)

/-- **Optimistic concurrency for migrations**: UIDs are never used again, and
    what a worker has read is a former version of its migration, and the
    stored one itself while the version is the same. -/
structure VMMOcc (w : World) : Prop where
  known : ∀ u cur, w.findVMM u = some cur → u ∈ w.uids
  seen : ∀ u x, (w.views (.vmm u)).vmm = some x → u ∈ w.uids
  older : ∀ u x cur, (w.views (.vmm u)).vmm = some x → w.findVMM u = some cur →
    x.resourceVersion ≤ cur.resourceVersion ∧
      (x.resourceVersion = cur.resourceVersion → x = cur)

theorem VMMOcc.step {w w' : World} {a : Action} (hinv : VMMOcc w) (hmove : Moved w a w') :
    VMMOcc w' where
  known u cur hcur := by
    cases hmove.vmmChange u with
    | same h => exact hmove.uids (hinv.known u cur (by rw [← h]; exact hcur))
    | created _ hused _ _ => exact hused
    | removed _ hnone => rw [hnone] at hcur; cases hcur
    | marked old _ hold _ _ _ => exact hmove.uids (hinv.known u old hold)
    | written _ old _ hold _ _ _ _ _ => exact hmove.uids (hinv.known u old hold)
  seen u x hx := by
    rcases hmove.vmm_view hx with hx | ⟨hfind, -, -⟩
    · exact hmove.uids (hinv.seen u x hx)
    · exact hmove.uids (hinv.known u x hfind)
  older u x cur hx hcur := by
    rcases hmove.vmm_view hx with hx | ⟨-, hfind, -⟩
    · cases hmove.vmmChange u with
      | same h => exact hinv.older u x cur hx (by rw [← h]; exact hcur)
      | created hfresh _ _ _ => exact absurd (hinv.seen u x hx) hfresh
      | removed _ hnone => rw [hnone] at hcur; cases hcur
      | marked old new hold hnew hrv _ =>
        rw [hnew] at hcur; cases hcur
        have := (hinv.older u x old hx hold).1
        exact ⟨by omega, fun h => by omega⟩
      | written m old y hold _ _ _ hnew _ =>
        rw [hnew] at hcur; cases hcur
        have := (hinv.older u x old hx hold).1
        exact ⟨by dsimp only; omega, fun h => by dsimp only at h; omega⟩
    · rw [hfind] at hcur; cases hcur
      exact ⟨Nat.le_refl _, fun _ => rfl⟩

theorem Reached.vmmOcc {nodeIP : String → String} {ok : World → Action → Prop} {w : World}
    (h : Reached nodeIP ok w) : VMMOcc w := by
  refine Reached.invariant ?_ ?_ h
  · rintro w ⟨v, -, -, rfl⟩
    exact {
      known := fun u cur h => by cases h
      seen := fun u x h => by cases h
      older := fun u x cur h => by cases h }
  · intro w a w' _ hinv _ hmove
    exact hinv.step hmove

/-- What a worker has read of its record is behind what is stored. -/
def ReadBehind (w : World) : Prop :=
  ∀ u r m vm m', (w.views (.vmm u)).vm = some r → r.status.migration = some m → m.uid = u →
    w.vm = some vm → vm.status.migration = some m' → m'.uid = u → m.phase.Onward m'.phase

theorem ReadBehind.step {w w' : World} {a : Action} (hinv : ReadBehind w) (hocc : Occ w)
    (hmove : Moved w a w') : ReadBehind w' := by
  intro u r m vm' m' hr hm huid hvm' hm' huid'
  have hchange := hmove.vmChange hocc
  obtain ⟨vm, hvm⟩ := hchange.vm_before hvm'
  rcases hmove.holdsCurrent (.vmm u) r hr with hr | hr | ⟨h, -⟩
  · cases hchange.recordChange hvm hvm' with
    | same h =>
      rw [h] at hm'
      exact hinv u r m vm m' hr hm huid hvm hm' huid'
    | moved i x ch ha hread _ _ hrec =>
      rw [hm'] at hrec
      rcases hrec.origin with ⟨m₀, hm₀, huid₀, hphase⟩ | ⟨hnone, rfl, -⟩
      · exact (hinv u r m vm m₀ hr hm huid hvm hm₀ (huid₀.symm.trans huid')).trans hphase
      · -- only the worker itself takes the record, and it has read that it is free
        rw [huid'] at hread
        obtain rfl : vm = r := Option.some.inj (hread.symm.trans hr)
        rw [hnone] at hm; cases hm
  · rw [hr] at hvm'; cases hvm'
    rw [hm] at hm'; cases hm'
    exact .refl _
  · cases h

theorem Reached.readBehind {nodeIP : String → String} {ok : World → Action → Prop} {w : World}
    (h : Reached nodeIP ok w) : ReadBehind w := by
  refine Reached.invariant ?_ ?_ h
  · rintro w ⟨v, -, -, rfl⟩ u r m vm m' hr
    cases hr
  · intro w a w' hreach hinv _ hmove
    exact hinv.step hreach.occ hmove

/-! ### Orphaned Locks -/

/-- A migration goes away only while it does not hold the record and has no run
    under way that may take it. -/
def HolderStays (w : World) : Action → Prop
  | .event (.removeVMM u) =>
      (w.vm.bind (·.status.migration)).map (·.uid) ≠ some u ∧
      ∀ x ∈ (w.views (.vmm u)).vmm, x.status.phase.terminal = true
  | _ => True

instance (w : World) (a : Action) : Decidable (HolderStays w a) := by
  unfold HolderStays
  split <;> infer_instance

/-- The holder of the record exists, and so does every migration that may take
    it. -/
structure HolderInv (w : World) : Prop where
  holder : ∀ vm m, w.vm = some vm → vm.status.migration = some m → (w.findVMM m.uid).isSome
  reader : ∀ u x, (w.views (.vmm u)).vmm = some x → x.status.phase.terminal = false →
    (w.findVMM u).isSome

theorem VMMChange.isSome {u : UID} {w w' : World} {a : Action} (h : VMMChange u w a w')
    (ha : a ≠ .event (.removeVMM u)) (hs : (w.findVMM u).isSome) : (w'.findVMM u).isSome := by
  cases h with
  | same h => rw [h]; exact hs
  | removed h _ => exact absurd h ha
  | created _ _ _ hnew | marked _ _ _ hnew _ _ | written _ _ _ _ _ _ _ hnew _ => rw [hnew]; rfl

theorem HolderInv.step {w w' : World} {a : Action} (hinv : HolderInv w) (hocc : Occ w)
    (hok : HolderStays w a) (hmove : Moved w a w') : HolderInv w' where
  holder vm' m' hvm' hm' := by
    have hchange := hmove.vmChange hocc
    obtain ⟨vm, hvm⟩ := hchange.vm_before hvm'
    cases hchange.recordChange hvm hvm' with
    | same h =>
      rw [h] at hm'
      refine (hmove.vmmChange m'.uid).isSome ?_ (hinv.holder vm m' hvm hm')
      rintro rfl
      exact hok.1 (by rw [hvm, Option.bind_some, hm']; rfl)
    | moved i x ch ha hread hst hvmms hrec =>
      have hfind : w'.findVMM = w.findVMM := by
        funext u; unfold World.findVMM; rw [hvmms]
      rw [hfind]
      rw [hm'] at hrec
      rcases hrec.origin with ⟨m, hm, huid, -⟩ | ⟨-, rfl, -, y, hy, hterm⟩
      · rw [huid]; exact hinv.holder vm m hvm hm
      · exact hinv.reader m'.uid y hy hterm
  reader u x hx hterm := by
    rcases hmove.vmm_view hx with hx | ⟨-, hfind, -⟩
    · refine (hmove.vmmChange u).isSome ?_ (hinv.reader u x hx hterm)
      rintro rfl
      have := hok.2 x hx
      rw [hterm] at this; cases this
    · rw [hfind]; rfl

/-- **The lock is never orphaned** in a run in which no migration is removed
    that holds the record or is about to take it. -/
theorem lock_not_orphaned {nodeIP : String → String} {c : Config}
    (h : Reach (system nodeIP) HolderStays Init c) {vm : VM} {m : Migration}
    (hvm : c.store.vm = some vm) (hm : vm.status.migration = some m) :
    ∃ x ∈ c.store.vmms, x.uid = m.uid := by
  have hinv : HolderInv c.store := by
    refine Reached.invariant ?_ ?_ (reached_of_reach h)
    · rintro w ⟨v, hst, -, rfl⟩
      exact {
        holder := fun vm m hvm hm => by cases hvm; rw [hst] at hm; cases hm
        reader := fun u x hx => by cases hx }
    · intro w a w' hreach hinv hok hmove
      exact hinv.step hreach.occ hok hmove
  obtain ⟨x, hx⟩ := Option.isSome_iff_exists.mp (hinv.holder vm m hvm hm)
  exact ⟨x, List.mem_of_find?_eq_some hx, World.findVMM_uid hx⟩

/-- Migration `u` holds the record of the sample VM. -/
theorem lock_not_orphaned_held :
    ∃ c vm m, Reach Sample.cluster HolderStays Init c ∧ c.store.vm = some vm ∧
      vm.status.migration = some m ∧ ∃ x ∈ c.store.vmms, x.uid = m.uid := by
  obtain ⟨c, hreach, htest⟩ := Sample.reach HolderStays
    ([.event (.createVMM "u"), .event (.createVMM "v")] ++ turn (.vmm "u") [.ok, .ok, .ok, .ok] ++
      [.event (.removeVMM "v")])
    (fun c => c.store.vm.any (·.status.migration.isSome)) (by decide +kernel)
  obtain ⟨vm, hvm, hm⟩ := (Option.any_eq_true ..).mp htest
  obtain ⟨m, hm⟩ := Option.isSome_iff_exists.mp hm
  exact ⟨c, vm, m, hreach, hvm, hm, lock_not_orphaned hreach hvm hm⟩

/-- A migration that holds the record is deleted by a user: nobody is left to
    give the record back. -/
theorem lock_orphaned :
    ∃ c vm m, Reachable Sample.cluster Init c ∧ c.store.vm = some vm ∧
      vm.status.migration = some m ∧ ∀ x ∈ c.store.vmms, x.uid ≠ m.uid := by
  obtain ⟨c, hreach, htest⟩ := Sample.reach anyStep
    ([.event (.createVMM "u")] ++ turn (.vmm "u") [.ok, .ok, .ok, .ok] ++
      [.event (.removeVMM "u")])
    (fun c => c.store.vm.any (·.status.migration.isSome) && c.store.vmms.isEmpty)
    (by decide +kernel)
  rw [Bool.and_eq_true] at htest
  obtain ⟨vm, hvm, hm⟩ := (Option.any_eq_true ..).mp htest.1
  obtain ⟨m, hm⟩ := Option.isSome_iff_exists.mp hm
  refine ⟨c, vm, m, hreach, hvm, hm, ?_⟩
  intro x hx
  rw [List.isEmpty_iff.mp htest.2] at hx
  exact absurd hx List.not_mem_nil

/-! ### One Attempt per Migration -/

/-- A migration takes the record only while its own phase is still empty. -/
def FirstAttempt (w : World) : Action → Prop
  | .call (.vmm u) (.updateVMStatus v) _ =>
      v.status.migration ≠ none → ∀ x ∈ w.findVMM u, x.status.phase = .empty
  | _ => True

instance (w : World) (a : Action) : Decidable (FirstAttempt w a) := by
  unfold FirstAttempt
  split <;> infer_instance

/-- A migration reports the phase `p` while its record is in phase `q`. -/
def Behind (p q : MigrationPhase) : Prop := p.terminal = true ∨ p.Onward q

theorem Behind.trans {p q r : MigrationPhase} (h : Behind p q) (hqr : q.Onward r) : Behind p r :=
  h.imp_right (·.trans hqr)

/-- What a migration reports is behind its record, as it is stored and as its
    worker has read it. -/
structure AttemptInv (w : World) : Prop where
  record : ∀ vm m cur, w.vm = some vm → vm.status.migration = some m →
    w.findVMM m.uid = some cur → Behind cur.status.phase m.phase
  read : ∀ u cur r m, (w.views (.vmm u)).vmm = some cur → w.findVMM u = some cur →
    (w.views (.vmm u)).vm = some r → r.status.migration = some m → m.uid = u →
    Behind cur.status.phase m.phase

section attempt
variable {w w' : World} {a : Action}

/-- The phases a migration can report next, if it was read as it is stored. -/
theorem AttemptInv.phase_cases (hinv : AttemptInv w) {u : UID} {cur : VMM} {p : MigrationPhase}
    (hx : (w.views (.vmm u)).vmm = some cur) (hcur : w.findVMM u = some cur)
    (h : VmmPhase u (w.views (.vmm u)) cur p) :
    cur.status.phase.Onward p ∧ (p = cur.status.phase ∨ p = .failed ∨
      ∃ r m, (w.views (.vmm u)).vm = some r ∧ r.status.migration = some m ∧ m.uid = u ∧
        p = m.phase) := by
  cases h with
  | same _ => exact ⟨.refl _, .inl rfl⟩
  | gone hterm _ => exact ⟨MigrationPhase.onward_failed hterm, .inr (.inl rfl)⟩
  | deleting _ hterm _ _ => exact ⟨MigrationPhase.onward_failed hterm, .inr (.inl rfl)⟩
  | foreign _ _ hterm _ _ _ _ => exact ⟨MigrationPhase.onward_failed hterm, .inr (.inl rfl)⟩
  | copy r m hterm hr _ hm huid =>
    refine ⟨?_, .inr (.inr ⟨r, m, hr, hm, huid, rfl⟩)⟩
    rcases hinv.read u cur r m hx hcur hr hm huid with h | h
    · rw [hterm] at h; cases h
    · exact h

theorem AttemptInv.record_step (hinv : AttemptInv w) (hocc : Occ w) (hvmm : VMMOcc w)
    (hstale : ReadBehind w) (hok : FirstAttempt w a) (hmove : Moved w a w') {vm' : VM}
    {m' : Migration} {cur' : VMM}
    (hvm' : w'.vm = some vm') (hm' : vm'.status.migration = some m')
    (hcur' : w'.findVMM m'.uid = some cur') : Behind cur'.status.phase m'.phase := by
  have hchange := hmove.vmChange hocc
  obtain ⟨vm, hvm⟩ := hchange.vm_before hvm'
  cases hchange.recordChange hvm hvm' with
  | same h =>
    -- the record stays; what the migration reports may move
    rw [h] at hm'
    cases hmove.vmmChange m'.uid with
    | same h => exact hinv.record vm m' cur' hvm hm' (by rw [← h]; exact hcur')
    | created _ _ _ hnew =>
      rw [hnew] at hcur'; cases hcur'
      exact .inr (MigrationPhase.onward_of_empty _)
    | removed _ hnone => rw [hnone] at hcur'; cases hcur'
    | marked cur new hcur hnew _ hst =>
      rw [hnew] at hcur'; cases hcur'
      rw [hst]; exact hinv.record vm m' cur hvm hm' hcur
    | written y cur x hcur hx hrv hphase hnew _ =>
      rw [hnew] at hcur'; cases hcur'
      obtain rfl := (hvmm.older _ x cur hx hcur).2 hrv
      obtain ⟨-, hp | hp | ⟨r, m, hr, hm, huid, hp⟩⟩ := hinv.phase_cases hx hcur hphase
      · dsimp only; rw [hp]; exact hinv.record vm m' x hvm hm' hcur
      · dsimp only; rw [hp]; exact .inl rfl
      · dsimp only; rw [hp]
        exact .inr (hstale _ r m vm m' hr hm huid hvm hm' rfl)
  | moved i x ch ha _ hst hvmms hrec =>
    -- the record moves; the migrations stay
    have hcur : w.findVMM m'.uid = some cur' := by
      unfold World.findVMM at hcur' ⊢; rw [← hvmms]; exact hcur'
    rw [hm'] at hrec
    rcases hrec.origin with ⟨m, hm, huid, hphase⟩ | ⟨-, rfl, hempty, -⟩
    · exact (hinv.record vm m cur' hvm hm (by rw [← huid]; exact hcur)).trans hphase
    · subst ha
      have := hok (by rw [← hst, hm']; exact nofun) cur' hcur
      rw [this, hempty]
      exact .inr (.refl _)

theorem AttemptInv.step (hinv : AttemptInv w) (hocc : Occ w) (hvmm : VMMOcc w)
    (hstale : ReadBehind w) (hok : FirstAttempt w a) (hmove : Moved w a w') : AttemptInv w' where
  record vm m cur hvm hm hcur := hinv.record_step hocc hvmm hstale hok hmove hvm hm hcur
  read u cur r m hx hcur hr hm huid := by
    rcases hmove.vmm_view hx with hx | ⟨-, -, hnone⟩
    · rcases hmove.holdsCurrent (.vmm u) r hr with hr | hnow | ⟨h, -⟩
      · refine hinv.read u cur r m hx ?_ hr hm huid
        -- the version has not changed, so the migration has not
        cases hmove.vmmChange u with
        | same h => rw [← h]; exact hcur
        | created hfresh _ _ _ => exact absurd (hvmm.seen u cur hx) hfresh
        | removed _ hnone => rw [hnone] at hcur; cases hcur
        | marked old new hold hnew hrv _ =>
          rw [hnew] at hcur; cases hcur
          have := (hvmm.older u _ old hx hold).1
          omega
        | written y old x hold _ _ _ hnew _ =>
          rw [hnew] at hcur; cases hcur
          have := (hvmm.older u _ old hx hold).1
          dsimp only at this; omega
      · subst huid
        exact hinv.record_step hocc hvmm hstale hok hmove hnow hm hcur
      · cases h
    · rw [hnone] at hr; cases hr

end attempt

theorem Reached.attemptInv {nodeIP : String → String} {w : World}
    (h : Reached nodeIP FirstAttempt w) : AttemptInv w := by
  refine Reached.invariant ?_ ?_ h
  · rintro w ⟨v, -, -, rfl⟩
    exact {
      record := fun vm m cur _ _ h => by cases h
      read := fun u cur r m h => by cases h }
  · intro w a w' hreach hinv hok hmove
    exact hinv.step hreach.occ hreach.vmmOcc hreach.readBehind hok hmove

/-- One move: what a migration reports moves onwards. -/
theorem AttemptInv.phase_step {w w' : World} {a : Action} (hinv : AttemptInv w) (hvmm : VMMOcc w)
    (hmove : Moved w a w') {u : UID} {x x' : VMM} (hx : w.findVMM u = some x)
    (hx' : w'.findVMM u = some x') : x.status.phase.Onward x'.status.phase := by
  cases hmove.vmmChange u with
  | same h => rw [h, hx] at hx'; cases hx'; exact .refl _
  | created _ _ hnone _ => rw [hnone] at hx; cases hx
  | removed _ hnone => rw [hnone] at hx'; cases hx'
  | marked cur new hcur hnew _ hst =>
    rw [hcur] at hx; rw [hnew] at hx'; cases hx; cases hx'
    rw [hst]; exact .refl _
  | written y cur z hcur hz hrv hphase hnew _ =>
    rw [hcur] at hx; rw [hnew] at hx'; cases hx; cases hx'
    obtain rfl := (hvmm.older _ z x hz hcur).2 hrv
    exact (hinv.phase_cases hz hcur hphase).1

/-- **A migration makes one attempt**: if no migration takes the record a second
    time, the phase it reports never moves backwards, and a terminal phase is
    final. -/
theorem vmm_phase_onward {nodeIP : String → String} {c c' : Config}
    (h : Reach (system nodeIP) FirstAttempt Init c)
    (hsteps : Steps (system nodeIP) FirstAttempt c c') {u : UID} {x x' : VMM}
    (hx : c.store.findVMM u = some x) (hx' : c'.store.findVMM u = some x') :
    x.status.phase.Onward x'.status.phase := by
  -- on the way the migration is there and has moved onwards, or it is gone for good
  have hrun : (∃ y, c'.store.findVMM u = some y ∧ x.status.phase.Onward y.status.phase) ∨
      (c'.store.findVMM u = none ∧ u ∈ c'.store.uids) := by
    clear hx'
    induction hsteps with
    | refl => exact .inl ⟨x, hx, .refl _⟩
    | @tail c₁ c₂ a hsteps hok hstep ih =>
      have hreach := h.steps hsteps
      have hmove := moved_of_step hreach hstep
      have hvmm := (reached_of_reach hreach).vmmOcc
      rcases ih with ⟨y, hy, hxy⟩ | ⟨hnone, hused⟩
      · cases hfind : c₂.store.findVMM u with
        | some z =>
          exact .inl ⟨z, rfl,
            hxy.trans ((reached_of_reach hreach).attemptInv.phase_step hvmm hmove hy hfind)⟩
        | none => exact .inr ⟨rfl, hmove.uids (hvmm.known u y hy)⟩
      · refine .inr ⟨?_, hmove.uids hused⟩
        cases hmove.vmmChange u with
        | same h => rw [h]; exact hnone
        | created hfresh _ _ _ => exact absurd hused hfresh
        | removed _ h => exact h
        | marked cur _ hcur _ _ _ => rw [hnone] at hcur; cases hcur
        | written _ cur _ hcur _ _ _ _ _ => rw [hnone] at hcur; cases hcur
  rcases hrun with ⟨y, hy, hxy⟩ | ⟨hnone, -⟩
  · rw [hy] at hx'; cases hx'; exact hxy
  · rw [hnone] at hx'; cases hx'

/-- The migration of the sample VM, from its beginning to its end. -/
theorem vmm_phase_onward_sample :
    ∃ c c' x x', Reach Sample.cluster FirstAttempt Init c ∧
      Steps Sample.cluster FirstAttempt c c' ∧
      c.store.findVMM "u" = some x ∧ x.status.phase = .empty ∧
      c'.store.findVMM "u" = some x' ∧ x'.status.phase = .succeeded ∧
      x.status.phase.Onward x'.status.phase := by
  obtain ⟨c, c', hreach, hsteps, htest⟩ := Sample.later FirstAttempt
    (Sample.running ++ Sample.migrates)
    (Sample.prepares ++ Sample.sends ++ Sample.arrives)
    (fun c c' =>
      (c.store.findVMM "u").any (·.status.phase == .empty) &&
      (c'.store.findVMM "u").any (·.status.phase == .succeeded))
    (by decide +kernel)
  rw [Bool.and_eq_true] at htest
  obtain ⟨x, hx, hphase⟩ := (Option.any_eq_true ..).mp htest.1
  obtain ⟨x', hx', hphase'⟩ := (Option.any_eq_true ..).mp htest.2
  exact ⟨c, c', x, x', hreach, hsteps, hx, by simpa using hphase, hx', by simpa using hphase',
    vmm_phase_onward hreach hsteps hx hx'⟩

/-- The VM fails under a migration that is `Scheduling` and is restarted by its
    run policy. The migration takes the record again and copies the empty
    phase. -/
theorem vmm_phase_regresses :
    ∃ c a c' x x', Reachable Sample.cluster Init c ∧ Step Sample.cluster c a c' ∧
      c.store.findVMM "u" = some x ∧ c'.store.findVMM "u" = some x' ∧
      x.status.phase = .scheduling ∧ x'.status.phase = .empty := by
  obtain ⟨c, a, c', hreach, hstep, htest⟩ := Sample.step anyStep
    (Sample.running ++ [.event (.createVMM "u")] ++ turn (.vmm "u") [.ok, .ok, .ok, .ok] ++
      turn .controller [.ok, .ok, .name "pod-b", .ok, .ok] ++ turn (.vmm "u") [.ok, .ok, .ok] ++
      [.event (.setPodPhase "uid-a" .failed)] ++ turn .controller [.ok, .ok, .ok, .ok] ++
      [.event (.removePod "pod-a")] ++ turn .controller [.ok, .ok, .ok, .ok] ++
      turn (.vmm "u") [.ok, .ok, .ok, .ok] ++
      [.start (.vmm "u"), .call (.vmm "u") .ok, .call (.vmm "u") .ok])
    (.call (.vmm "u") .ok)
    (fun c _ c' =>
      (c.store.findVMM "u").any (·.status.phase == .scheduling) &&
      (c'.store.findVMM "u").any (·.status.phase == .empty))
    (by decide +kernel)
  rw [Bool.and_eq_true] at htest
  obtain ⟨x, hx, hphase⟩ := (Option.any_eq_true ..).mp htest.1
  obtain ⟨x', hx', hphase'⟩ := (Option.any_eq_true ..).mp htest.2
  exact ⟨c, a, c', x, x', hreach, hstep, hx, hx', by simpa using hphase, by simpa using hphase'⟩

end Virtink
