import Virtink.Contract

/-! # The Daemons Keep Their Contract -/

namespace Virtink

open Calls

namespace VMDaemon

variable {nodeIP : String → String} {n : String} {v : View} {r : VM}

/-- `vm` is `r` with another volume status. -/
def Remounted (r vm : VM) : Prop := ∃ l, vm = withVolumeStatus r l

theorem Remounted.refl (r : VM) : Remounted r r := ⟨r.status.volumeStatus, rfl⟩

theorem Remounted.set {vm : VM} (h : Remounted r vm) (l : List VolumeStatus) :
    Remounted r (withVolumeStatus vm l) := by
  obtain ⟨l', rfl⟩ := h
  exact ⟨l, rfl⟩

/-- The VM `x` may be written back. -/
abbrev Writable (n : String) (x : VM) (v : View) : Prop :=
  guard (.daemon n) (.updateVMStatus x) v

theorem Recorded.of_none {st : VMStatus} (h : v.acted = .none) : Recorded v r st := by
  rw [Recorded, h]; trivial

theorem writable_of (hr : v.vm = some r) (hnone : v.acted = .none) {vm : VM}
    (hrv : vm.resourceVersion = r.resourceVersion) (hw : DaemonWrite n v r vm.status) :
    Writable n vm v :=
  ⟨r, hr, hrv, hw, Recorded.of_none hnone⟩

theorem writable_same (hr : v.vm = some r) (hnone : v.acted = .none) : Writable n r v :=
  writable_of hr hnone rfl (.same rfl)

theorem Remounted.writable {vm : VM} (h : Remounted r vm) (hr : v.vm = some r)
    (hnone : v.acted = .none) (hacts : Acts n r) : Writable n vm v := by
  obtain ⟨l, rfl⟩ := h
  exact writable_of hr hnone rfl (.volumes hacts rfl)

/-! ### Hotplug Volumes -/

theorem mountVolumes_wp (vmPodUID volumePodUID : UID) (l : List Volume) {vm : VM}
    (hvm : Remounted r vm) :
    (contract nodeIP).wp (.daemon n) (mountVolumes vmPodUID volumePodUID l vm)
      (fun x v' => v' = v ∧ Remounted r x.1) v := by
  induction l generalizing volumePodUID vm with
  | nil => exact wp_ret ⟨rfl, hvm⟩
  | cons volume rest ih =>
    unfold mountVolumes
    split
    · split
      · exact ih volumePodUID hvm
      · split
        · refine wp_quiet rfl (by simp only [guard]) fun a => ?_
          cases a with
          | error e => exact wp_ret ⟨rfl, hvm⟩
          | ok block =>
            refine wp_quiet rfl (by simp only [guard]) fun a => ?_
            cases a with
            | error e => exact wp_ret ⟨rfl, hvm⟩
            | ok _ =>
              apply ih
              split
              · exact hvm.set _
              · exact hvm
        · exact ih volumePodUID hvm
    · exact ih volumePodUID hvm

theorem mountHotplugVolumes_wp (vmPodUID volumePodUID : UID) {vm : VM} (hvm : Remounted r vm) :
    (contract nodeIP).wp (.daemon n) (mountHotplugVolumes vm vmPodUID volumePodUID)
      (fun x v' => v' = v ∧ Remounted r x.1) v := by
  refine wp_quiet rfl (by simp only [guard]) fun a => ?_
  cases a with
  | error e => exact wp_ret ⟨rfl, hvm⟩
  | ok _ => exact mountVolumes_wp _ _ _ hvm

theorem addHotplugVolumesToVM_wp (hr : v.vm = some r) (hacts : Acts n r) (info : VmInfo)
    (l : List Volume) {vm : VM} (hvm : Remounted r vm) :
    (contract nodeIP).wp (.daemon n) (addHotplugVolumesToVM info l vm)
      (fun x v' => v' = v ∧ Remounted r x.1) v := by
  induction l generalizing vm with
  | nil => exact wp_ret ⟨rfl, hvm⟩
  | cons volume rest ih =>
    unfold addHotplugVolumesToVM
    split
    · split
      · dsimp only
        split
        · exact ih (hvm.set _)
        · refine wp_quiet rfl (by simp only [guard]) fun a => ?_
          cases a with
          | error e => exact wp_ret ⟨rfl, hvm⟩
          | ok block =>
            refine wp_quiet rfl ⟨r, hr, .inl hacts⟩ fun a => ?_
            cases a with
            | error e => exact wp_ret ⟨rfl, hvm⟩
            | ok _ => exact ih (hvm.set _)
      · exact ih hvm
    · exact ih hvm

theorem removeHotplugVolumesFromVM_wp (hr : v.vm = some r) (hacts : Acts n r) (vm : VM)
    (l : List String) :
    (contract nodeIP).wp (.daemon n) (removeHotplugVolumesFromVM vm l) (fun _ v' => v' = v) v := by
  induction l with
  | nil => exact wp_ret rfl
  | cons disk rest ih =>
    unfold removeHotplugVolumesFromVM
    split
    · exact ih
    · refine wp_quiet rfl ⟨r, hr, .inl hacts⟩ fun a => ?_
      cases a with
      | error e => exact wp_ret rfl
      | ok _ => exact ih

theorem reconcileHotplugVolumes_wp (hr : v.vm = some r) (hnone : v.acted = .none)
    (hacts : Acts n r) (info : VmInfo) :
    (contract nodeIP).wp (.daemon n) (reconcileHotplugVolumes r info)
      (fun x v' => Writable n x.1 v') v := by
  refine wp_seq_of (mountHotplugVolumes_wp "" "" (.refl r)) ?_
  rintro ⟨vm, _ | e⟩ v' ⟨rfl, hvm⟩
  · refine wp_seq_of (addHotplugVolumesToVM_wp hr hacts info _ hvm) ?_
    rintro ⟨vm, _ | e⟩ v' ⟨rfl, hvm⟩
    · refine wp_seq_of (removeHotplugVolumesFromVM_wp hr hacts vm _) ?_
      rintro (_ | e) v' rfl
      · refine wp_quiet rfl (by simp only [guard]) fun a => ?_
        cases a <;> exact wp_ret (hvm.writable hr hnone hacts)
      · exact wp_ret (hvm.writable hr hnone hacts)
    · exact wp_ret (hvm.writable hr hnone hacts)
  · exact wp_ret (hvm.writable hr hnone hacts)

theorem cleanup_wp : (contract nodeIP).wp (.daemon n) cleanup (fun _ v' => v' = v) v := by
  refine wp_quiet rfl (by simp only [guard]) fun a => ?_
  cases a <;> exact wp_ret rfl

/-! ### Deletion -/

theorem reconcileDeletingVM_wp (hr : v.vm = some r) (hnone : v.acted = .none) (hb : Buries n r)
    (vmPod : Pod) :
    (contract nodeIP).wp (.daemon n) (reconcileDeletingVM r vmPod)
      (fun x v' => Writable n x.1 v') v := by
  have hdelete : (contract nodeIP).wp (.daemon n) (deleteGuest r vmPod) (fun _ v' => v' = v) v := by
    unfold deleteGuest
    split
    · refine wp_quiet rfl ⟨r, hr, .inr hb⟩ fun a => ?_
      cases a with
      | error e => dsimp only; split <;> exact wp_ret rfl
      | ok _ => exact wp_ret rfl
    · exact wp_ret rfl
  refine wp_seq_of hdelete ?_
  rintro (_ | e) v' rfl
  · refine wp_seq_of cleanup_wp ?_
    rintro err v' rfl
    exact wp_ret (writable_of hr hnone rfl (.bury hb rfl))
  · exact wp_ret (writable_same hr hnone)

/-! ### Scheduled -/

theorem setMemlock_wp (vm : VM) (config : VmConfig) :
    (contract nodeIP).wp (.daemon n) (setMemlock vm config) (fun _ v' => v' = v) v := by
  unfold setMemlock
  split
  · refine wp_quiet rfl (by simp only [guard]) fun a => ?_
    cases a with
    | error e => exact wp_ret rfl
    | ok pid =>
      refine wp_quiet rfl (by simp only [guard]) fun a => ?_
      cases a <;> exact wp_ret rfl
  · exact wp_ret rfl

theorem boot_wp (hr : v.vm = some r) (hacts : Acts n r) (vm : VM) :
    (contract nodeIP).wp (.daemon n) (boot vm) (fun _ v' => v' = v) v := by
  refine wp_quiet rfl ⟨r, hr, .inl hacts⟩ fun a => ?_
  cases a <;> exact wp_ret rfl

theorem createVM_wp (hr : v.vm = some r) (hacts : Acts n r) (vm : VM) :
    (contract nodeIP).wp (.daemon n) (createVM vm) (fun _ v' => v' = v) v := by
  refine wp_quiet rfl (by simp only [guard]) fun a => ?_
  match a with
  | .error .notExist => exact wp_ret rfl
  | .error (.other e) => exact wp_ret rfl
  | .ok config =>
    refine wp_seq_of (setMemlock_wp vm config) ?_
    rintro (_ | e) v' rfl
    · refine wp_quiet rfl ⟨r, hr, .inl hacts⟩ fun a => ?_
      cases a with
      | error e => exact wp_ret rfl
      | ok _ => exact boot_wp hr hacts vm
    · exact wp_ret rfl

theorem reconcileScheduled_wp (hr : v.vm = some r) (hnone : v.acted = .none) (hacts : Acts n r)
    (hphase : r.status.phase = .scheduled) :
    (contract nodeIP).wp (.daemon n) (reconcileScheduled r) (fun x v' => Writable n x.1 v') v := by
  refine wp_seq_of (mountHotplugVolumes_wp "" "" (.refl r)) ?_
  rintro ⟨vm, _ | e⟩ v' ⟨rfl, hvm⟩
  · have hboot : ∀ ph, ph = .running ∨ ph = .failed → Writable n (withPhase vm ph) v' := by
      intro ph hph
      obtain ⟨l, rfl⟩ := hvm
      exact writable_of hr hnone rfl (.boot ph hacts hphase hph rfl)
    have hsame : Writable n vm v' := hvm.writable hr hnone hacts
    refine wp_quiet rfl ⟨r, hr, hacts⟩ fun a => ?_
    cases a with
    | error e =>
      dsimp only
      split
      · refine wp_seq_of (createVM_wp hr hacts vm) ?_
        rintro err v' rfl
        exact wp_ret hsame
      · exact wp_ret hsame
    | ok info =>
      dsimp only
      split
      · refine wp_seq_of (boot_wp hr hacts vm) ?_
        rintro err v' rfl
        exact wp_ret hsame
      · exact wp_ret (hboot _ (.inl rfl))
      · exact wp_ret (hboot _ (.inl rfl))
      · exact wp_ret (hboot _ (.inr rfl))
      · exact wp_ret hsame
  · exact wp_ret (hvm.writable hr hnone hacts)

/-! ### Running -/

theorem power_wp (hr : v.vm = some r) (hnone : v.acted = .none) (hacts : Acts n r)
    (hphase : r.status.phase = .running) (hm : r.status.migration = none)
    (hpower : r.status.powerAction ≠ .empty) :
    (contract nodeIP).wp (.daemon n) (power r) (fun x v' => Writable n x.1 v') v := by
  unfold power
  dsimp only
  split
  · refine wp_ask ⟨r, hr, hacts, hphase, hm, hpower, hnone⟩ fun a v' hs => ?_
    rw [sees_power hs]
    exact wp_ret ⟨r, hr, rfl, .power hacts hphase hm rfl, rfl⟩
  · exact wp_ret (writable_of hr hnone rfl (.power hacts hphase hm rfl))

theorem reconcileRunning_wp (hr : v.vm = some r) (hnone : v.acted = .none)
    (hdel : r.deletionTimestamp = none) (hphase : r.status.phase = .running)
    (hm : r.status.migration = none) :
    (contract nodeIP).wp (.daemon n) (reconcileRunning n r) (fun x v' => Writable n x.1 v') v := by
  unfold reconcileRunning
  split
  · exact wp_ret (writable_same hr hnone)
  · next hnode =>
    have hacts : Acts n r := .running hdel hphase hm (Decidable.not_not.mp hnode)
    refine wp_quiet rfl ⟨r, hr, hacts⟩ fun a => ?_
    cases a with
    | error e => exact wp_ret (writable_same hr hnone)
    | ok info =>
      dsimp only
      split
      · split
        · refine wp_quiet rfl ⟨r, hr, .inl hacts⟩ fun a => ?_
          cases a with
          | error e => exact wp_ret (writable_same hr hnone)
          | ok _ => exact reconcileHotplugVolumes_wp hr hnone hacts info
        · split
          · next hpower => exact power_wp hr hnone hacts hphase hm hpower
          · exact reconcileHotplugVolumes_wp hr hnone hacts info
      · exact wp_ret (writable_of hr hnone rfl (.stop hacts hphase hm rfl))

/-! ### Migration -/

/-- What holds when the bookkeeping of the control block begins: the block that
    is stored has the right channel, and the VM can be written afterwards,
    whether the block stays or goes. -/
structure Next (n : String) (r vm : VM) (b : ControlBlock) (v : View) : Prop where
  hr : v.vm = some r
  block : ∃ b₀, v.block = some b₀ ∧ b.sendMigrationErrCh = (v.channel <|> b₀.sendMigrationErrCh)
  stay : migrationOver n vm = false → Writable n vm { v with saved := some b }
  go : migrationOver n vm = true →
    Closing n { v with saved := some b } r ∧
      Writable n vm { v with saved := none, acted := .closed }

/-- What a case of the migration leaves behind. -/
def FlowOk (n : String) (r : VM) : Flow → View → Prop
  | .return_ vm _, v => Writable n vm v
  | .next vm b, v => Next n r vm b v

section migration
variable {m : Migration} {b : ControlBlock}

/-- The view while a migration is looked at: the VM and the control block were
    read, and nothing was done yet. -/
structure Looking (v : View) (r : VM) (b : ControlBlock) : Prop where
  hr : v.vm = some r
  block : v.block = some b
  channel : v.channel = none
  acted : v.acted = .none

theorem Looking.chan (h : Looking v r b) {b' : ControlBlock}
    (hb : b'.sendMigrationErrCh = b.sendMigrationErrCh) :
    ∃ b₀, v.block = some b₀ ∧ b'.sendMigrationErrCh = (v.channel <|> b₀.sendMigrationErrCh) :=
  ⟨b, h.block, by rw [h.channel, hb]; rfl⟩

theorem Looking.same (h : Looking v r b) : Writable n r v := writable_same h.hr h.acted

theorem migrationOver_of {vm : VM} (hm : vm.status.migration = some m) :
    migrationOver n vm = (m.phase == .failed || m.phase == .succeeded ||
      (m.phase == .sent && vm.status.nodeName == n)) := by
  simp [migrationOver, hm]

/-- Nothing was done and nothing is to be done. -/
theorem Looking.next_same (h : Looking v r b) (hm : r.status.migration = some m)
    (hterm : m.phase.terminal = false) : Next n r r b v where
  hr := h.hr
  block := h.chan rfl
  stay _ := ⟨r, h.hr, rfl, .same rfl, Recorded.of_none h.acted⟩
  go hover := by
    have hsent : m.phase = .sent := by
      rw [migrationOver_of hm] at hover
      cases hp : m.phase <;> simp_all [MigrationPhase.terminal]
    exact ⟨.sent m hm hsent h.acted, r, h.hr, rfl, .same rfl, m, hm, .inr hsent⟩

theorem receive_wp (h : Looking v r b) (hacts : Acts n r)
    (hphase : r.status.phase = .running) (hm : r.status.migration = some m)
    (hmp : m.phase = .scheduled) (b' : ControlBlock)
    (hb : b'.sendMigrationErrCh = b.sendMigrationErrCh) (ctx : Nat) :
    (contract nodeIP).wp (.daemon n) (receive r m b' ctx)
      (fun f v' => v' = v ∧
        ((∃ vm err, f = .return_ vm err ∧ Writable n vm v) ∨
          ∃ b'', f = .next r b'' ∧ b''.sendMigrationErrCh = b.sendMigrationErrCh)) v := by
  refine wp_quiet rfl (by simp only [guard]) fun a => ?_
  match a with
  | .error e => exact wp_ret ⟨rfl, .inl ⟨_, _, rfl, h.same⟩⟩
  | .ok true => exact wp_ret ⟨rfl, .inr ⟨_, rfl, hb⟩⟩
  | .ok false =>
    refine wp_quiet rfl ⟨r, h.hr, hacts⟩ fun ch => ?_
    refine wp_quiet rfl (by simp only [guard]) fun a => ?_
    cases a with
    | error e =>
      refine wp_ret ⟨rfl, .inl ⟨_, _, rfl, ?_⟩⟩
      exact writable_of h.hr h.acted rfl
        (.target m m.targetNodeIP m.targetNodePort .failed hacts hphase hm hmp (.inr rfl) rfl)
    | ok _ => exact wp_ret ⟨rfl, .inr ⟨_, rfl, hb⟩⟩

theorem openTarget_wp (h : Looking v r b) (hacts : Acts n r)
    (hphase : r.status.phase = .running) (hm : r.status.migration = some m)
    (hmp : m.phase = .scheduled) {b' : ControlBlock}
    (hb : b'.sendMigrationErrCh = b.sendMigrationErrCh) (ip : String) (ctx : Nat) :
    (contract nodeIP).wp (.daemon n) (openTarget ip r m b' ctx) (FlowOk n r) v := by
  refine wp_quiet rfl (by simp only [guard]) fun a => ?_
  cases a with
  | error e => exact wp_ret h.same
  | ok _ =>
    refine wp_quiet rfl (by simp only [guard]) fun a => ?_
    cases a with
    | error e => exact wp_ret h.same
    | ok port =>
      refine wp_seq_of (mountHotplugVolumes_wp _ _ (.refl r)) ?_
      rintro ⟨vm, _ | e⟩ v' ⟨rfl, hvm⟩
      · obtain ⟨l, rfl⟩ := hvm
        refine wp_ret ⟨h.hr, h.chan hb, fun _ => ?_, fun hover => ?_⟩
        · exact ⟨r, h.hr, rfl, .target m ip port .targetReady hacts hphase hm hmp (.inl rfl) rfl,
            Recorded.of_none h.acted⟩
        · simp [migrationOver, withMigration] at hover
      · exact wp_ret (hvm.writable h.hr h.acted hacts)

theorem reconcileTarget_wp (h : Looking v r b) (hacts : Acts n r)
    (hphase : r.status.phase = .running) (hm : r.status.migration = some m)
    (hmp : m.phase = .scheduled) (ip : String) :
    (contract nodeIP).wp (.daemon n) (reconcileTarget ip r m b) (FlowOk n r) v := by
  refine wp_quiet rfl (by simp only [guard]) fun a => ?_
  cases a with
  | error e =>
    exact wp_ret (writable_of h.hr h.acted rfl
      (.target m m.targetNodeIP m.targetNodePort .failed hacts hphase hm hmp (.inr rfl) rfl))
  | ok _ =>
    refine wp_quiet rfl (by simp only [guard]) fun ctx => ?_
    refine wp_seq_of (receive_wp h hacts hphase hm hmp
      { b with receiveMigrationCancelFunc := some ctx } rfl ctx) ?_
    rintro f v' ⟨rfl, ⟨vm, err, rfl, hw⟩ | ⟨b'', rfl, hb⟩⟩
    · exact wp_ret hw
    · exact openTarget_wp h hacts hphase hm hmp hb ip ctx

theorem reconcileSend_wp (h : Looking v r b) (hacts : Acts n r)
    (hphase : r.status.phase = .running) (hm : r.status.migration = some m)
    (hmp : m.phase = .targetReady) :
    (contract nodeIP).wp (.daemon n) (reconcileSend r m b) (FlowOk n r) v := by
  have hsending : Sending n r m.uid := ⟨m, hacts, hphase, hm, hmp, rfl⟩
  refine wp_quiet rfl (by simp only [guard]) fun ctx => ?_
  refine wp_ask ⟨r, h.hr, hsending, h.acted⟩ fun a v₁ hs => ?_
  rcases sees_relaySocketToTCP hs with ⟨e, rfl, rfl⟩ | ⟨rfl, rfl⟩
  · exact wp_ret h.same
  · refine wp_ask ⟨r, h.hr, hsending, rfl, rfl⟩ fun ch v₂ hs => ?_
    rw [sees_startSend hs]
    refine wp_ret ⟨h.hr, ⟨b, h.block, rfl⟩, fun _ => ?_, fun hover => ?_⟩
    · exact ⟨r, h.hr, rfl, .send m ch _ hacts hphase hm hmp rfl rfl rfl rfl rfl,
        m, hm, hmp, rfl⟩
    · simp [migrationOver, withMigration] at hover

theorem cancelAndGo_wp (cancel : Option Nat) {vm : VM} (h : Next n r vm b v) :
    (contract nodeIP).wp (.daemon n) (cancelAndGo cancel vm b) (FlowOk n r) v := by
  cases cancel with
  | none => exact wp_ret h
  | some ctx => exact wp_quiet rfl (by simp only [guard]) fun _ => wp_ret h

/-- The source gives up, for a reason. -/
theorem failed_next (hr : v.vm = some r) (hblock : v.block = some b) (hchan : v.channel = none)
    (hacts : Acts n r) (hphase : r.status.phase = .running) (hm : r.status.migration = some m)
    (hmp : m.phase = .running) (hnone : v.acted = .none) (hlost : SendLost v) :
    Next n r (failMigration r m) b v where
  hr := hr
  block := ⟨b, hblock, by rw [hchan]; rfl⟩
  stay hover := by simp [migrationOver, failMigration, withMigration] at hover
  go _ := ⟨.source m hacts hphase hm hmp hnone (.inr hlost),
    r, hr, rfl, .lost m hacts hphase hm hmp hlost rfl, _, rfl, .inl rfl⟩

theorem reconcileSending_wp (h : Looking v r b) (hacts : Acts n r)
    (hphase : r.status.phase = .running) (hm : r.status.migration = some m)
    (hmp : m.phase = .running) (hnode : r.status.nodeName = n) {vmPod : Pod}
    (hpod : v.pod = some vmPod) (hname : vmPod.name = r.status.vmPodName) :
    (contract nodeIP).wp (.daemon n) (reconcileSending r m b vmPod) (FlowOk n r) v := by
  unfold reconcileSending
  split
  · next hsucc =>
    have hended : ∀ v' : View, v'.pod = v.pod → SourceEnded v' r :=
      fun v' hv => ⟨vmPod, hv.trans hpod, hname, hsucc⟩
    refine wp_seq_of cleanup_wp ?_
    rintro (_ | e) v' rfl
    · refine cancelAndGo_wp _ ⟨h.hr, h.chan rfl, fun hover => ?_, fun _ => ?_⟩
      · simp [migrationOver, withMigration, hnode] at hover
      · exact ⟨.source m hacts hphase hm hmp h.acted (.inl (hended _ rfl)),
          r, h.hr, rfl, .sent m hacts hphase hm hmp (hended _ rfl) rfl, _, rfl, .inr rfl⟩
    · exact wp_ret h.same
  · split
    · next hch =>
      exact cancelAndGo_wp _ (failed_next h.hr h.block h.channel hacts hphase hm hmp h.acted
        ⟨b, h.block, .inl hch⟩)
    · next k hch =>
      refine wp_ask (by simp only [guard]) fun a v₁ hs => ?_
      rcases sees_pollSend hs with ⟨rfl, rfl⟩ | ⟨e, rfl, rfl⟩
      · exact wp_ret h.same
      · refine cancelAndGo_wp _ (failed_next ?_ ?_ ?_ hacts hphase hm hmp ?_ ?_)
        · exact h.hr
        · exact h.block
        · exact h.channel
        · exact h.acted
        · exact ⟨b, h.block, .inr ⟨k, hch, rfl⟩⟩

theorem reconcileSent_wp (h : Looking v r b) (hacts : Acts n r)
    (hphase : r.status.phase = .running) (hm : r.status.migration = some m)
    (hmp : m.phase = .sent) :
    (contract nodeIP).wp (.daemon n) (reconcileSent r m b) (FlowOk n r) v := by
  refine wp_quiet rfl ⟨r, h.hr, hacts⟩ fun a => ?_
  cases a with
  | error e => exact wp_ret h.same
  | ok info =>
    dsimp only
    split
    · refine cancelAndGo_wp _ ⟨h.hr, h.chan rfl, fun hover => ?_, fun _ => ?_⟩
      · simp [migrationOver, arrived] at hover
      · exact ⟨.sent m hm hmp h.acted, r, h.hr, rfl, .arrive m hacts hphase hm hmp rfl, _, rfl,
          .inl rfl⟩
    · exact wp_ret h.same

/-- The migration has ended: the block goes, whatever the VM says. -/
theorem over_wp (h : Looking v r b) (hm : r.status.migration = some m)
    (hterm : m.phase.terminal = true) :
    (contract nodeIP).wp (.daemon n)
      (do
        let _ ← ask .deleteControlBlock
        pure (Flow.next r b)) (FlowOk n r) v := by
  refine wp_ask ⟨r, h.hr, .ended m hm hterm (.inl h.acted)⟩ fun a v₁ hs => ?_
  rw [sees_deleteControlBlock hs]
  refine wp_ret ⟨h.hr, ⟨b, h.block, by rw [h.channel]; rfl⟩, fun hover => ?_, fun _ => ?_⟩
  · rw [migrationOver_of hm] at hover
    cases hp : m.phase <;> simp_all [MigrationPhase.terminal]
  · exact ⟨.ended m hm hterm (.inr rfl), r, h.hr, rfl, .same rfl, m, hm, .inl hterm⟩

theorem migrationStep_wp (h : Looking v r b) (hdel : r.deletionTimestamp = none)
    (hphase : r.status.phase = .running) (hm : r.status.migration = some m) {vmPod : Pod}
    (hpod : v.pod = some vmPod) (hname : vmPod.name = r.status.vmPodName) (ip : String) :
    (contract nodeIP).wp (.daemon n) (migrationStep n ip r m vmPod b) (FlowOk n r) v := by
  have hskip : m.phase.terminal = false → FlowOk n r (.next r b) v := h.next_same hm
  unfold migrationStep
  split
  · next hmp =>
    split
    · next hnode =>
      exact reconcileTarget_wp h (.target m hdel hphase hm (.inl hmp) hnode) hphase hm hmp ip
    · exact wp_ret (hskip (by rw [hmp]; rfl))
  · next hmp =>
    split
    · next hnode =>
      exact reconcileSend_wp h (.source m hdel hphase hm (.inl hmp) hnode) hphase hm hmp
    · exact wp_ret (hskip (by rw [hmp]; rfl))
  · next hmp =>
    split
    · next hnode =>
      exact reconcileSending_wp h (.source m hdel hphase hm (.inr hmp) hnode) hphase hm hmp hnode
        hpod hname
    · exact wp_ret (hskip (by rw [hmp]; rfl))
  · next hmp =>
    split
    · next hnode =>
      exact reconcileSent_wp h (.target m hdel hphase hm (.inr hmp) hnode) hphase hm hmp
    · exact wp_ret (hskip (by rw [hmp]; rfl))
  · next hmp => exact over_wp h hm (by rw [hmp]; rfl)
  · next hmp => exact over_wp h hm (by rw [hmp]; rfl)
  · next hmp => exact wp_ret (hskip (by rw [hmp]; rfl))
  · next hmp => exact wp_ret (hskip (by rw [hmp]; rfl))
  · next hmp => exact wp_ret (hskip (by rw [hmp]; rfl))

theorem reconcileMigration_wp (hr : v.vm = some r) (hblock : v.block = none)
    (hchan : v.channel = none) (hnone : v.acted = .none) (hdel : r.deletionTimestamp = none)
    (hphase : r.status.phase = .running) (hm : r.status.migration = some m) {vmPod : Pod}
    (hpod : v.pod = some vmPod) (hname : vmPod.name = r.status.vmPodName) (ip : String) :
    (contract nodeIP).wp (.daemon n) (reconcileMigration n ip r m vmPod)
      (fun x v' => Writable n x.1 v') v := by
  refine wp_ask ⟨hblock, hnone⟩ fun b v₁ hs => ?_
  rw [sees_getControlBlock hs]
  have hlook : Looking { v with block := some b } r b := ⟨hr, rfl, hchan, hnone⟩
  refine wp_seq_of (migrationStep_wp hlook hdel hphase hm hpod hname ip) ?_
  rintro (⟨vm, err⟩ | ⟨vm, b'⟩) v₂ hflow
  · exact wp_ret hflow
  · refine wp_ask hflow.block fun a v₃ hs => ?_
    rw [sees_setControlBlock hs]
    split
    · next hover =>
      obtain ⟨hclose, hwrite⟩ := hflow.go hover
      refine wp_ask ⟨r, hflow.hr, hclose⟩ fun a v₄ hs => ?_
      rw [sees_deleteControlBlock hs]
      exact wp_ret hwrite
    · next hover => exact wp_ret (hflow.stay (by simpa using hover))

end migration

/-! ### The Reconciler -/

theorem reconcile_wp (hr : v.vm = some r) (hblock : v.block = none) (hchan : v.channel = none)
    (hnone : v.acted = .none) (ip : String) :
    (contract nodeIP).wp (.daemon n) (reconcile n ip r) (fun x v' => Writable n x.1 v') v := by
  unfold reconcile
  split
  · exact wp_ret (writable_same hr hnone)
  · next hshould =>
    refine wp_ask (by simp only [guard]) fun a v₁ hs => ?_
    rcases sees_getPod hs with ⟨e, rfl, rfl⟩ | ⟨vmPod, rfl, hname, hv₁⟩
    · exact wp_ret (writable_same hr hnone)
    · have hr : v₁.vm = some r := by rw [hv₁]; exact hr
      have hnone : v₁.acted = .none := by rw [hv₁]; exact hnone
      dsimp only
      split
      · next hdel =>
        split
        · exact wp_ret (writable_same hr hnone)
        · next hnode =>
          refine reconcileDeletingVM_wp hr hnone ⟨?_, Decidable.not_not.mp hnode⟩ vmPod
          intro h; rw [h] at hdel; cases hdel
      · next hdel =>
        have hdel : r.deletionTimestamp = none := by simpa using hdel
        have hclean : (contract nodeIP).wp (.daemon n)
            (do let err ← cleanup; pure (r, err)) (fun x v' => Writable n x.1 v') v₁ := by
          refine wp_seq_of cleanup_wp ?_
          rintro err v' rfl
          exact wp_ret (writable_same hr hnone)
        split
        · next hphase =>
          exact reconcileScheduled_wp hr hnone
            (.scheduled hdel hphase (by simpa using hshould)) hphase
        · next hphase =>
          split
          · next hm => exact reconcileRunning_wp hr hnone hdel hphase hm
          · next m hm =>
            exact reconcileMigration_wp hr (by rw [hv₁]; exact hblock) (by rw [hv₁]; exact hchan)
              hnone hdel hphase hm (by rw [hv₁]) hname ip
        · exact hclean
        · exact hclean
        all_goals exact wp_ret (writable_same hr hnone)

/-- **The daemons keep their contract.** -/
theorem Reconcile_wp (n ip : String) :
    (contract nodeIP).wp (.daemon n) (Reconcile n ip) (fun _ v => done (.daemon n) v) {} := by
  refine wp_ask rfl fun a v₀ hs => ?_
  rcases sees_getVM hs with ⟨msg, rfl, rfl⟩ | ⟨rfl, rfl⟩ | ⟨vm, rfl, rfl⟩
  · exact wp_ret rfl
  · exact wp_ret rfl
  · refine wp_seq_of (reconcile_wp rfl rfl rfl rfl ip) ?_
    rintro ⟨vm', rerr⟩ v₁ hwrite
    refine wp_ask hwrite fun a v₂ hs => ?_
    rcases sees_updateVMStatus hs with ⟨e, rfl, rfl⟩ | ⟨y, rfl, rfl, -⟩
    · cases rerr <;> exact wp_ret rfl
    · cases rerr <;> exact wp_ret rfl

end VMDaemon

end Virtink
