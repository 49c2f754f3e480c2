import Virtink.Migrations

/-! # Giving the Record Back

    A migration gives the record back once it reports a terminal phase. That
    report is older than the record it is about: the migration has copied it
    from the record, or has failed on its own because the VM was gone, going or
    held by another migration. None of this leads to a migration that gives
    back a record which is still under way (`EndedInv.release_ended`).
-/

namespace Virtink

open Calls

section views
variable {w w' : World} {a : Action}

/-- A process has not found the VM only if there is none. -/
theorem Moved.gone_view (h : Moved w a w') (j : Proc) (hgone : (w'.views j).gone = true) :
    (w.views j).gone = true ∨ w.vm = none := by
  rcases h.view j with hv | ⟨hv, -⟩ | ⟨o, ch, -, -, heff⟩
  · exact .inl (by rw [← hv]; exact hgone)
  · rw [hv] at hgone; cases hgone
  · cases heff with
    | missVM hvm => exact .inr hvm
    | same | createPod _ _ | markPod | removePod => exact .inl hgone
    | keepStatus _ | writeStatus _ _ _ _ | keepVMM | writeVMM _ _ =>
      simp [World.release] at hgone
    | _ => exact .inl (by simpa [World.hold, World.replace] using hgone)

theorem VMStep.none_of_none (h : VMStep w w') (hvm : w.vm = none) : w'.vm = none := by
  cases h with
  | same h => rw [h, hvm]
  | gone h => exact h
  | newer cur _ hcur _ _ => rw [hvm] at hcur; cases hcur

end views

/-! ### Ended Migrations -/

/-- A migration that has ended has an ended record, if it has one and the VM
    stays. -/
structure EndedInv (w : World) : Prop where
  gone : ∀ u, (w.views (.vmm u)).gone = true → w.vm = none
  /-- A worker that has found the record taken does not take it. -/
  foreign : ∀ u r m vm m', (w.views (.vmm u)).vm = some r → r.status.migration = some m →
    m.uid ≠ u → w.vm = some vm → vm.status.migration = some m' → m'.uid ≠ u
  /-- Only the worker itself writes the status of its migration. -/
  report : ∀ u x cur, (w.views (.vmm u)).vmm = some x → w.findVMM u = some cur →
    cur.status = x.status
  stored : ∀ vm m x, w.vm = some vm → vm.deletionTimestamp = none →
    vm.status.migration = some m → w.findVMM m.uid = some x →
    x.status.phase.terminal = true → m.phase.terminal = true
  read : ∀ vm m x, w.vm = some vm → vm.deletionTimestamp = none →
    vm.status.migration = some m → (w.views (.vmm m.uid)).vmm = some x →
    x.status.phase.terminal = true → m.phase.terminal = true

namespace EndedInv

variable {w w' : World} {a : Action}

theorem foreign_step (hinv : EndedInv w) (hocc : Occ w) (hmove : Moved w a w') {u : UID}
    {r vm' : VM} {m m' : Migration} (hr : (w'.views (.vmm u)).vm = some r)
    (hm : r.status.migration = some m) (huid : m.uid ≠ u) (hvm' : w'.vm = some vm')
    (hm' : vm'.status.migration = some m') : m'.uid ≠ u := by
  have hchange := hmove.vmChange hocc
  obtain ⟨vm, hvm⟩ := hchange.vm_before hvm'
  rcases hmove.holdsCurrent (.vmm u) r hr with hr | hr | ⟨h, -⟩
  · cases hchange.recordChange hvm hvm' with
    | same h => exact hinv.foreign u r m vm m' hr hm huid hvm (h.symm.trans hm')
    | moved i x ch ha hread _ _ hrec =>
      rw [hm'] at hrec
      rcases hrec.origin with ⟨m₀, hm₀, huid₀, -⟩ | ⟨hnone, rfl, -⟩
      · rw [huid₀]; exact hinv.foreign u r m vm m₀ hr hm huid hvm hm₀
      · -- the worker that takes the record has read that it is free
        rintro rfl
        obtain rfl : vm = r := Option.some.inj (hread.symm.trans hr)
        rw [hnone] at hm; cases hm
  · rw [hr] at hvm'; cases hvm'
    rw [hm] at hm'; cases hm'
    exact huid
  · cases h

theorem report_step (hinv : EndedInv w) (hvmm : VMMOcc w) (hmove : Moved w a w') {u : UID}
    {x cur : VMM} (hx : (w'.views (.vmm u)).vmm = some x) (hcur : w'.findVMM u = some cur) :
    cur.status = x.status := by
  rcases hmove.vmm_view hx with hx₀ | ⟨-, hfind, -⟩
  · cases hmove.vmmChange u with
    | same h => exact hinv.report u x cur hx₀ (by rw [← h]; exact hcur)
    | created hfresh _ _ _ => exact absurd (hvmm.seen u x hx₀) hfresh
    | removed _ hnone => rw [hnone] at hcur; cases hcur
    | marked old new hold hnew _ hst =>
      rw [hnew] at hcur; cases hcur
      rw [hst]; exact hinv.report u x old hx₀ hold
    | written _ _ _ _ _ _ _ _ hdone => rw [hdone] at hx; cases hx
  · rw [hfind] at hcur; cases hcur; rfl

/-- What a migration reports next is terminal only if its record is. -/
theorem terminal_of_phase (hinv : EndedInv w) (hocc : Occ w) (hstale : ReadBehind w)
    {vm : VM} {m : Migration} {x : VMM} {p : MigrationPhase} (hvm : w.vm = some vm)
    (hdel : vm.deletionTimestamp = none) (hm : vm.status.migration = some m)
    (hcur : w.findVMM m.uid = some x) (hphase : VmmPhase m.uid (w.views (.vmm m.uid)) x p)
    (hp : p.terminal = true) : m.phase.terminal = true := by
  cases hphase with
  | same _ => exact hinv.stored vm m x hvm hdel hm hcur hp
  | gone _ hgone => rw [hinv.gone _ hgone] at hvm; cases hvm
  | deleting r _ hr hrdel => exact absurd hdel ((hocc _ r vm hr hvm).deleting hrdel)
  | foreign r m' _ hr _ hm' huid =>
    exact absurd rfl (hinv.foreign _ r m' vm m hr hm' huid hvm hm)
  | copy r m' _ hr _ hm' huid =>
    have hon := hstale _ r m' vm m hr hm' huid hvm hm rfl
    rw [hon.eq_of_terminal hp]; exact hp

theorem stored_step (hinv : EndedInv w) (hocc : Occ w) (hvmm : VMMOcc w) (hstale : ReadBehind w)
    (hmove : Moved w a w') {vm' : VM} {m' : Migration} {x' : VMM} (hvm' : w'.vm = some vm')
    (hdel' : vm'.deletionTimestamp = none) (hm' : vm'.status.migration = some m')
    (hx' : w'.findVMM m'.uid = some x') (hterm : x'.status.phase.terminal = true) :
    m'.phase.terminal = true := by
  have hchange := hmove.vmChange hocc
  obtain ⟨vm, hvm⟩ := hchange.vm_before hvm'
  have hdel := hmove.vmStep.not_deleting hvm hvm' hdel'
  cases hchange.recordChange hvm hvm' with
  | same h =>
    rw [h] at hm'
    cases hmove.vmmChange m'.uid with
    | same h => exact hinv.stored vm m' x' hvm hdel hm' (by rw [← h]; exact hx') hterm
    | created _ _ _ hnew => rw [hnew] at hx'; cases hx'; cases hterm
    | removed _ hnone => rw [hnone] at hx'; cases hx'
    | marked cur new hcur hnew _ hst =>
      rw [hnew] at hx'; cases hx'
      rw [hst] at hterm
      exact hinv.stored vm m' cur hvm hdel hm' hcur hterm
    | written y cur x hcur hx hrv hphase hnew _ =>
      rw [hnew] at hx'; cases hx'
      obtain rfl := (hvmm.older _ x cur hx hcur).2 hrv
      exact hinv.terminal_of_phase hocc hstale hvm hdel hm' hcur hphase hterm
  | moved i x ch _ _ _ hvmms hrec =>
    have hcur : w.findVMM m'.uid = some x' := by
      unfold World.findVMM at hx' ⊢; rw [← hvmms]; exact hx'
    rw [hm'] at hrec
    rcases hrec.origin with ⟨m, hm, huid, hon⟩ | ⟨-, rfl, -, y, hy, hactive⟩
    · have := hinv.stored vm m x' hvm hdel hm (by rw [← huid]; exact hcur) hterm
      rw [hon.eq_of_terminal this]; exact this
    · -- a migration that takes the record is active
      rw [← hinv.report _ y x' hy hcur, hterm] at hactive
      cases hactive

theorem read_step (hinv : EndedInv w) (hocc : Occ w) (hvmm : VMMOcc w) (hstale : ReadBehind w)
    (hmove : Moved w a w') {vm' : VM} {m' : Migration} {x : VMM} (hvm' : w'.vm = some vm')
    (hdel' : vm'.deletionTimestamp = none) (hm' : vm'.status.migration = some m')
    (hx : (w'.views (.vmm m'.uid)).vmm = some x) (hterm : x.status.phase.terminal = true) :
    m'.phase.terminal = true := by
  rcases hmove.vmm_view hx with hx | ⟨-, hfind, -⟩
  · have hchange := hmove.vmChange hocc
    obtain ⟨vm, hvm⟩ := hchange.vm_before hvm'
    have hdel := hmove.vmStep.not_deleting hvm hvm' hdel'
    cases hchange.recordChange hvm hvm' with
    | same h => exact hinv.read vm m' x hvm hdel (h.symm.trans hm') hx hterm
    | moved i _ ch _ _ _ _ hrec =>
      rw [hm'] at hrec
      rcases hrec.origin with ⟨m, hm, huid, hon⟩ | ⟨-, rfl, -, y, hy, hactive⟩
      · have := hinv.read vm m x hvm hdel hm (by rw [← huid]; exact hx) hterm
        rw [hon.eq_of_terminal this]; exact this
      · rw [hx] at hy; cases hy
        rw [hterm] at hactive; cases hactive
  · exact hinv.stored_step hocc hvmm hstale hmove hvm' hdel' hm' hfind hterm

theorem step (hinv : EndedInv w) (hocc : Occ w) (hvmm : VMMOcc w) (hstale : ReadBehind w)
    (hmove : Moved w a w') : EndedInv w' where
  gone u hgone :=
    hmove.vmStep.none_of_none ((hmove.gone_view _ hgone).elim (hinv.gone u) id)
  foreign _ _ _ _ _ hr hm huid hvm' hm' := hinv.foreign_step hocc hmove hr hm huid hvm' hm'
  report _ _ _ hx hcur := hinv.report_step hvmm hmove hx hcur
  stored _ _ _ hvm' hdel' hm' hx' hterm :=
    hinv.stored_step hocc hvmm hstale hmove hvm' hdel' hm' hx' hterm
  read _ _ _ hvm' hdel' hm' hx hterm :=
    hinv.read_step hocc hvmm hstale hmove hvm' hdel' hm' hx hterm

end EndedInv

theorem Reached.endedInv {nodeIP : String → String} {ok : World → Action → Prop} {w : World}
    (h : Reached nodeIP ok w) : EndedInv w := by
  refine Reached.invariant ?_ ?_ h
  · rintro w ⟨v, hst, -, rfl⟩
    exact {
      gone := fun u h => by cases h
      foreign := fun u r m vm m' h => by cases h
      report := fun u x cur h => by cases h
      stored := fun vm m x _ _ _ h => by cases h
      read := fun vm m x _ _ _ h => by cases h }
  · intro w a w' hreach hinv _ hmove
    exact hinv.step hreach.occ hreach.vmmOcc hreach.readBehind hmove

/-- **Only an ended record is given back.** -/
theorem EndedInv.release_ended {w : World} (hinv : EndedInv w) {r : VM} {m : Migration}
    {st : VMStatus} (hr : w.vm = some r) (hm : r.status.migration = some m)
    (hwrite : VmmWrite m.uid (w.views (.vmm m.uid)) r st) : m.phase.terminal = true := by
  cases hwrite with
  | release x m' hx _ hterm hdel hm' _ _ => exact hinv.read r m x hr hdel hm hx hterm
  | acquire _ _ _ _ _ hnone _ => rw [hm] at hnone; cases hnone

end Virtink
