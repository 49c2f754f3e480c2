import Virtink.Release
import Virtink.Names
import Virtink.Blocks

/-! # Handing the Guest Over

    A send that was issued runs on in the hypervisor, whatever becomes of the
    daemon, and if it completes the guest runs in the target pod. The status
    must not go on naming the source pod then, with the migration failed or
    forgotten: the VM would be declared finished and every pod deleted, the one
    with the guest included.

    The daemon decides on what it remembers. `Tracked` says how each send that
    has not failed is accounted for: by the daemon that has just issued it, by
    the channel in its memory, or by the record that says `Sent`.
-/

namespace Virtink

open Calls

/-! ### What a Write Does to a Migration Under Way -/

/-- The phases from the readiness of the target to the end of the send. -/
def MigrationPhase.late : MigrationPhase → Bool
  | .targetReady | .running | .sent => true
  | _ => false

theorem MigrationPhase.not_terminal_of_late {p : MigrationPhase} (h : p.late = true) :
    p.terminal = false := by
  revert h; cases p <;> decide

/-- What a status write of process `i`, which has read `r`, means for a
    migration under way. -/
inductive HandMove (i : Proc) (v : View) (r : VM) (st : VMStatus) : Prop where
  | same (hrec : st.migration = r.status.migration) (hnode : st.nodeName = r.status.nodeName)
      (hpod : st.vmPodName = r.status.vmPodName)
  /-- The migration has not come that far. -/
  | early (hold : ∀ m, r.status.migration = some m → m.phase.late = false)
      (hnew : ∀ m, st.migration = some m → m.phase ≠ .running ∧ m.phase ≠ .sent)
  | release (m : Migration) (hm : r.status.migration = some m) (hi : i = .vmm m.uid)
      (hwrite : VmmWrite m.uid v r st) (hrec : st.migration = none)
  | reset (hpod : st.vmPodName = "") (hrec : st.migration = none)
  | send (m : Migration) (k : Nat) (b : ControlBlock) (hi : i = .daemon r.status.nodeName)
      (hm : r.status.migration = some m) (hmp : m.phase = .targetReady)
      (hchan : v.channel = some k) (hsaved : v.saved = some b)
      (hb : b.sendMigrationErrCh = some k)
      (hrec : st.migration = some { m with phase := .running })
      (hnode : st.nodeName = r.status.nodeName) (hpod : st.vmPodName = r.status.vmPodName)
  | sent (m : Migration) (hi : i = .daemon r.status.nodeName) (hm : r.status.migration = some m)
      (hmp : m.phase = .running) (hended : SourceEnded v r)
      (hrec : st.migration = some { m with phase := .sent })
  | lost (m : Migration) (hi : i = .daemon r.status.nodeName) (hm : r.status.migration = some m)
      (hmp : m.phase = .running) (hlost : SendLost v)
      (hrec : st.migration = some { m with phase := .failed })
  | arrive (m : Migration) (hm : r.status.migration = some m) (hmp : m.phase = .sent)
      (hpod : st.vmPodName = m.targetVMPodName)
      (hrec : st.migration = some { m with phase := .succeeded })

section writes
variable {i : Proc} {v : View} {r : VM} {st : VMStatus}

/-- Before the guest runs no migration is under way. -/
theorem HandMove.of_untouched (hr : Untouched r.status)
    (hphase : r.status.phase = .pending ∨ r.status.phase = .scheduling ∨
      r.status.phase = .scheduled) (hrec : st.migration = r.status.migration) :
    HandMove i v r st := by
  have hempty : ∀ m, r.status.migration = some m → m.phase = .empty := by
    intro m hm
    rw [hr (.inr hphase) m hm]
  exact .early (fun m hm => by rw [hempty m hm]; rfl)
    (fun m hm => by rw [hempty m (hrec ▸ hm)]; exact ⟨nofun, nofun⟩)

theorem CtrlWrite.handMove (h : CtrlWrite v r st) (hr : Untouched r.status) :
    HandMove .controller v r st := by
  cases h with
  | same h | lost _ h | stop _ _ _ h =>
    have hrec := VMStatus.migration_of_core h
    have hnode := VMStatus.nodeName_of_core h
    have hpod := VMStatus.vmPodName_of_core h
    exact .same hrec hnode hpod
  | name s hphase _ h =>
    have hrec := VMStatus.migration_of_core h
    exact .of_untouched hr (.inl hphase) hrec
  | pod p ph hphase _ _ _ _ h =>
    have hrec := VMStatus.migration_of_core h
    exact .of_untouched hr (.inr hphase) hrec
  | target m s _ hm hmp _ h =>
    have hrec := VMStatus.migration_of_core h
    refine .early (fun m' hm' => ?_) (fun m' hm' => ?_)
    · rw [hm] at hm'; cases hm'
      rcases hmp with hmp | hmp <;> rw [hmp] <;> rfl
    · rw [hrec] at hm'; cases hm'
      exact ⟨nofun, nofun⟩
  | targetPod m p _ ph _ hm hmp _ _ _ hph h =>
    have hrec := VMStatus.migration_of_core h
    refine .early (fun m' hm' => ?_) (fun m' hm' => ?_)
    · rw [hm] at hm'; cases hm'
      rw [hmp]; rfl
    · rw [hrec] at hm'; cases hm'
      cases hph <;> exact ⟨nofun, nofun⟩
  | reset _ _ _ _ h => subst h; exact .reset rfl rfl

theorem VmmWrite.handMove {u : UID} (h : VmmWrite u v r st) : HandMove (.vmm u) v r st := by
  have hwrite := h
  cases h with
  | release x m _ _ _ _ hm huid h =>
    subst huid
    exact .release m hm rfl hwrite (by rw [h])
  | acquire _ _ _ _ _ hm h =>
    refine .early (fun m' hm' => ?_) (fun m' hm' => ?_)
    · rw [hm] at hm'; cases hm'
    · rw [h] at hm'; cases hm'
      exact ⟨nofun, nofun⟩

theorem DaemonWrite.handMove {n : String} (h : DaemonWrite n v r st) :
    HandMove (.daemon n) v r st := by
  cases h with
  | same h | bury _ h | power _ _ _ h | stop _ _ _ h => subst h; exact .same rfl rfl rfl
  | volumes _ h | boot _ _ _ _ h =>
    have hrec := VMStatus.migration_of_core h
    have hnode := VMStatus.nodeName_of_core h
    have hpod := VMStatus.vmPodName_of_core h
    exact .same hrec hnode hpod
  | target m _ _ ph _ _ hm hmp hph h =>
    have hrec := VMStatus.migration_of_core h
    refine .early (fun m' hm' => ?_) (fun m' hm' => ?_)
    · rw [hm] at hm'; cases hm'
      rw [hmp]; rfl
    · rw [hrec] at hm'; cases hm'
      rcases hph with rfl | rfl <;> exact ⟨nofun, nofun⟩
  | send m k b hacts hphase hm hmp _ hchan hsaved hb h =>
    subst h
    obtain rfl := hacts.nodeName_of_source hphase hm (.inl hmp)
    exact .send m k b rfl hm hmp hchan hsaved hb rfl rfl rfl
  | sent m hacts hphase hm hmp hended h =>
    subst h
    obtain rfl := hacts.nodeName_of_source hphase hm (.inr hmp)
    exact .sent m rfl hm hmp hended rfl
  | lost m hacts hphase hm hmp hlost h =>
    subst h
    obtain rfl := hacts.nodeName_of_source hphase hm (.inr hmp)
    exact .lost m rfl hm hmp hlost rfl
  | arrive m _ _ hm hmp h => subst h; exact .arrive m hm hmp rfl rfl

theorem Write.handMove (h : Write i v r st) (hr : Untouched r.status) : HandMove i v r st := by
  cases i with
  | controller => exact CtrlWrite.handMove h hr
  | vmm u => exact VmmWrite.handMove h
  | daemon n => exact h.1.handMove

end writes

/-! ### The Condition -/

/-- Sends that are not in the record yet, and control blocks that were thrown
    away while the record says `Running`. -/
def handoverWindow : Window := fun acted r =>
  acted == .sent || (acted == .closed && r.status.migration.any (·.phase == .running))

theorem handoverWindow_closed {r : VM} (h : handoverWindow .closed r = true) :
    ∃ m, r.status.migration = some m ∧ m.phase = .running := by
  obtain ⟨m, hm, hmp⟩ := (Option.any_eq_true ..).mp h
  exact ⟨m, hm, beq_iff_eq.mp hmp⟩

theorem handoverWindow_lawful : handoverWindow.Lawful where
  none _ := rfl
  closed n v r h hclosing := by
    obtain ⟨m, hm, hmp⟩ := handoverWindow_closed h
    cases hclosing with
    | ended m' hm' hterm _ => rw [hm] at hm'; cases hm'; rw [hmp] at hterm; cases hterm
    | source m' hacts hphase hm' hmp' _ _ => exact hacts.nodeName_of_source hphase hm' (.inr hmp')
    | sent m' hm' hmp' _ => rw [hm] at hm'; cases hm'; rw [hmp] at hmp'; cases hmp'

/-- The daemon on the node of the VM is not restarted while the record says
    `Running`. -/
def HostStays (w : World) : Action → Prop
  | .crash i =>
      w.vm.any (fun vm => vm.status.migration.any (·.phase == .running)) = true → i ≠ w.host
  | _ => True

instance (w : World) (a : Action) : Decidable (HostStays w a) := by
  unfold HostStays
  split <;> infer_instance

/-- Sends are issued for the stored VM; nobody takes the VM from under the
    daemon before what it has done is in the record; the daemon is not
    restarted while the record says `Running`; and no pod name is drawn twice. -/
def HandoverRecorded (w : World) (a : Action) : Prop :=
  handoverWindow.kept w a = true ∧ HostStays w a ∧ FreshNames w a

instance (w : World) (a : Action) : Decidable (HandoverRecorded w a) :=
  inferInstanceAs (Decidable (_ ∧ _ ∧ _))

theorem HandoverRecorded.sendsStored {w : World} {a : Action} (h : HandoverRecorded w a) :
    SendsStored w a := by
  rintro i o ch r rfl ho hr
  exact Window.kept_current h.1 hr (by rw [ho]; rfl)

/-! ### Sends Are Accounted For -/

/-- The daemon on node `n` will hear of the failure of send `k`: it remembers
    its channel, or did when it threw its control block away. -/
structure Watched (w : World) (n : String) (k : Nat) : Prop where
  remembered : (w.views (.daemon n)).acted ≠ .closed → w.errCh n = some k
  read : (w.views (.daemon n)).acted = .closed →
    ∀ b, (w.views (.daemon n)).block = some b → b.sendMigrationErrCh = some k

/-- How send `k` of the migration `m` of the VM `vm` is accounted for. -/
inductive Tracked (w : World) (vm : VM) (m : Migration) (k : Nat) : Prop where
  | issued (hmp : m.phase = .targetReady)
      (hacted : (w.views (.daemon vm.status.nodeName)).acted = .sent)
      (hchan : (w.views (.daemon vm.status.nodeName)).channel = some k)
  | running (hmp : m.phase = .running) (hwatched : Watched w vm.status.nodeName k)
  | sent (hmp : m.phase = .sent)

theorem Tracked.late {w : World} {vm : VM} {m : Migration} {k : Nat} (h : Tracked w vm m k) :
    m.phase.late = true := by
  cases h with
  | issued hmp _ _ | running hmp _ | sent hmp => rw [hmp]; rfl

structure HandoverInv (w : World) : Prop where
  held : handoverWindow.Held w
  /-- The daemon has not read anything older than a record that says `Running`. -/
  reads : ∀ vm m r, w.vm = some vm → vm.status.migration = some m → m.phase = .running →
    (w.views (.daemon vm.status.nodeName)).vm = some r →
    ∃ m', r.status.migration = some m' ∧ m'.phase = .running
  tracked : ∀ vm k x, w.vm = some vm → w.sends[k]? = some x → x.state ≠ .failed →
    x.source = vm.status.vmPodName →
    ∃ m, vm.status.migration = some m ∧ m.uid = x.migration ∧ Tracked w vm m k

namespace HandoverInv

variable {w w' : World} {a : Action}

/-- A daemon that reads `Running` has not sent anything in this run. -/
theorem channel_none (hinv : HandoverInv w) (hblock : BlockInv w) {vm : VM} {m : Migration}
    (hvm : w.vm = some vm) (hm : vm.status.migration = some m) (hmp : m.phase = .running) :
    (w.views (.daemon vm.status.nodeName)).channel = none := by
  refine Decidable.not_not.mp fun h => ?_
  obtain ⟨r, u, hr, m₁, -, -, hm₁, hmp₁, -⟩ := hblock.ready _ (hblock.channel _ h)
  obtain ⟨m₂, hm₂, hmp₂⟩ := hinv.reads vm m r hvm hm hmp hr
  rw [hm₁] at hm₂; cases hm₂
  rw [hmp₁] at hmp₂; cases hmp₂

/-- A send that was just issued stays so until the record says `Running`. -/
theorem issued_quiet (hinv : HandoverInv w) (hblock : BlockInv w) (hok : HandoverRecorded w a)
    (hmove : Moved w a w') {vm vm' : VM} {m : Migration} {k : Nat}
    (hvm' : w'.vm = some vm') (hm : vm.status.migration = some m)
    (hrec : vm'.status.migration = vm.status.migration)
    (hnode : vm'.status.nodeName = vm.status.nodeName) (hmp : m.phase = .targetReady)
    (hacted : (w.views (.daemon vm.status.nodeName)).acted = .sent)
    (hchan : (w.views (.daemon vm.status.nodeName)).channel = some k) : Tracked w' vm' m k := by
  obtain ⟨r, u, hr, -⟩ := hblock.ready _ hacted
  have hopen : handoverWindow.isOpen (w.views (.daemon vm.status.nodeName)) = true := by
    rw [Window.isOpen, hr, Option.any_some, hacted]; rfl
  cases hmove.daemonMove.nodeStep vm.status.nodeName with
  | same hview _ | pod _ _ hview _ | poll _ _ _ _ hview _ | setBlock _ _ _ _ hview _ =>
    exact .issued hmp (by rw [hnode, hview]; exact hacted) (by rw [hnode, hview]; exact hchan)
  | rest _ _ _ _ _ hwhy =>
    rcases hwhy with ⟨x, ch, rfl⟩ | h
    · -- the write would have gone through
      obtain ⟨r', hr', hwrite, hnew⟩ := hinv.held.write handoverWindow_lawful hok.1 hmove hopen
      have hrecorded := hwrite.2
      rw [Recorded, hacted] at hrecorded
      obtain ⟨m₁, -, -, hst⟩ := hrecorded
      rw [hnew] at hvm'; cases hvm'
      rw [World.withStatus_status, hst, hm] at hrec
      cases hrec
      cases hmp
    · rw [hacted] at h; cases h
  | crash ha _ _ =>
    have hquiet := Window.kept_undisturbed hok.1 (by rw [hinv.held.host hopen]; exact hopen)
    rw [ha, World.disturbs, hinv.held.host hopen] at hquiet
    simp at hquiet
  | look _ h _ _ | act _ _ h _ _ | send _ _ _ _ _ h _ _ _ => rw [hacted] at h; cases h
  | close r' _ hclosing _ _ =>
    rcases hclosing.acted with h | h <;> rw [hacted] at h <;> cases h

/-- While the record says `Running` the daemon keeps watching the send. -/
theorem watched_quiet (hinv : HandoverInv w) (hblock : BlockInv w) (hok : HandoverRecorded w a)
    (hmove : Moved w a w') {vm vm' : VM} {m : Migration} {k : Nat} (hvm : w.vm = some vm)
    (hvm' : w'.vm = some vm') (hm : vm.status.migration = some m)
    (hrec : vm'.status.migration = vm.status.migration) (hmp : m.phase = .running)
    (hwatched : Watched w vm.status.nodeName k) : Watched w' vm.status.nodeName k := by
  have hmemory : w'.memory vm.status.nodeName = w.memory vm.status.nodeName →
      w'.errCh vm.status.nodeName = w.errCh vm.status.nodeName := by
    intro h; rw [World.errCh, h]; rfl
  have hchan := hinv.channel_none hblock hvm hm hmp
  cases hmove.daemonMove.nodeStep vm.status.nodeName with
  | same hview hmem | pod _ _ hview hmem | poll _ _ _ _ hview hmem =>
    refine ⟨?_, ?_⟩ <;> rw [hview]
    · rw [hmemory hmem]; exact hwatched.remembered
    · exact hwatched.read
  | rest _ _ _ hview hmem hwhy =>
    have hopen : (w.views (.daemon vm.status.nodeName)).acted ≠ .closed := by
      intro hclosed
      rcases hwhy with ⟨x, ch, rfl⟩ | h
      · -- the write would have gone through
        obtain ⟨r, hr, -, -⟩ := hmove.guard
        obtain ⟨m₁, hm₁, hmp₁⟩ := hinv.reads vm m r hvm hm hmp hr
        have hisOpen : handoverWindow.isOpen (w.views (.daemon vm.status.nodeName)) = true := by
          rw [Window.isOpen, hr, Option.any_some, hclosed]
          simp [handoverWindow, hm₁, hmp₁]
        obtain ⟨r', hr', hwrite, hnew⟩ :=
          hinv.held.write handoverWindow_lawful hok.1 hmove hisOpen
        have hrecorded := hwrite.2
        rw [Recorded, hclosed] at hrecorded
        obtain ⟨m₂, hm₂, hover⟩ := hrecorded
        rw [hnew] at hvm'; cases hvm'
        rw [World.withStatus_status, hm₂, hm] at hrec
        cases hrec
        rw [hmp] at hover
        rcases hover with h | h <;> cases h
      · rw [hclosed] at h; cases h
    refine ⟨fun _ => ?_, fun h => ?_⟩
    · rw [hmemory hmem]; exact hwatched.remembered hopen
    · rw [hview] at h; cases h
  | crash ha _ _ =>
    subst ha
    refine absurd (World.host_eq hvm).symm (hok.2.1 ?_)
    simp [hvm, hm, hmp]
  | look _ hacted hview hmem =>
    refine ⟨fun _ => ?_, fun h => ?_⟩
    · rw [hmemory hmem]; exact hwatched.remembered (by rw [hacted]; intro h; cases h)
    · rw [hview] at h; rw [hacted] at h; cases h
  | setBlock b b₀ hb₀ hb hview hmem =>
    refine ⟨?_, ?_⟩ <;> rw [hview]
    · intro hopen
      rw [World.errCh, hmem, Option.bind_some, hb, hchan]
      exact (hblock.block _ b₀ hb₀ hchan hopen).trans (hwatched.remembered hopen)
    · exact hwatched.read
  | close r hr hclosing hview _ =>
    obtain ⟨m₁, hm₁, hmp₁⟩ := hinv.reads vm m r hvm hm hmp hr
    have hopen : (w.views (.daemon vm.status.nodeName)).acted ≠ .closed := by
      cases hclosing with
      | ended m' hm' hterm _ =>
        rw [hm₁] at hm'; cases hm'
        rw [hmp₁] at hterm; cases hterm
      | source _ _ _ _ _ hacted _ | sent _ _ _ hacted => rw [hacted]; intro h; cases h
    refine ⟨fun h => ?_, fun _ b hb => ?_⟩
    · rw [hview] at h; exact absurd rfl h
    · rw [hview] at hb
      exact (hblock.block _ b hb hchan hopen).trans (hwatched.remembered hopen)
  | act t ht hacted hview hmem =>
    refine ⟨fun _ => ?_, fun h => ?_⟩
    · rw [hmemory hmem]; exact hwatched.remembered (by rw [hacted]; intro h; cases h)
    · rw [hview] at h
      rcases ht with rfl | rfl <;> cases h
  | send _ _ _ _ _ hacted _ hview hmem =>
    refine ⟨fun _ => ?_, fun h => ?_⟩
    · rw [hmemory hmem]; exact hwatched.remembered (by rw [hacted]; intro h; cases h)
    · rw [hview] at h; cases h

/-- A send stays accounted for while the record stays. -/
theorem tracked_quiet (hinv : HandoverInv w) (hblock : BlockInv w) (hok : HandoverRecorded w a)
    (hmove : Moved w a w') {vm vm' : VM} {m : Migration} {k : Nat} (hvm : w.vm = some vm)
    (hvm' : w'.vm = some vm') (hm : vm.status.migration = some m)
    (hrec : vm'.status.migration = vm.status.migration)
    (hnode : vm'.status.nodeName = vm.status.nodeName) (h : Tracked w vm m k) :
    Tracked w' vm' m k := by
  cases h with
  | issued hmp hacted hchan =>
    exact hinv.issued_quiet hblock hok hmove hvm' hm hrec hnode hmp hacted hchan
  | running hmp hwatched =>
    refine .running hmp ?_
    rw [hnode]
    exact hinv.watched_quiet hblock hok hmove hvm hvm' hm hrec hmp hwatched
  | sent hmp => exact .sent hmp

/-- A daemon gives a migration up only if its send has failed. -/
theorem not_lost (hinv : HandoverInv w) (hblock : BlockInv w) {vm : VM} {m : Migration} {k : Nat}
    {x : Send} (hvm : w.vm = some vm) (hm : vm.status.migration = some m)
    (hmp : m.phase = .running) (hx : w.sends[k]? = some x) (hstate : x.state ≠ .failed)
    (hwatched : Watched w vm.status.nodeName k) :
    ¬ SendLost (w.views (.daemon vm.status.nodeName)) := by
  rintro ⟨b, hb, hlost⟩
  have hchan : b.sendMigrationErrCh = some k := by
    by_cases hclosed : (w.views (.daemon vm.status.nodeName)).acted = .closed
    · exact hwatched.read hclosed b hb
    · exact (hblock.block _ b hb (hinv.channel_none hblock hvm hm hmp) hclosed).trans
        (hwatched.remembered hclosed)
  rcases hlost with h | ⟨k', hk', hfailed⟩
  · rw [hchan] at h; cases h
  · rw [hchan] at hk'; cases hk'
    obtain ⟨x', hx', hf⟩ := hblock.failed _ k hfailed
    rw [hx] at hx'; cases hx'
    exact hstate hf

/-- A send stays accounted for when the status is written. -/
theorem tracked_written (hinv : HandoverInv w) (hblock : BlockInv w) (hnames : NameInv w)
    (hended : EndedInv w) (hok : HandoverRecorded w a) (hmove : Moved w a w') {i : Proc}
    {r vm' : VM} {m : Migration} {k : Nat} {x : Send} (hr : w.vm = some r)
    (hvm' : w'.vm = some vm') (hhand : HandMove i (w.views i) r vm'.status)
    (hview : i = .daemon r.status.nodeName →
      (w'.views i).acted = .none ∧ w'.memory = w.memory)
    (hm : r.status.migration = some m) (hx : w.sends[k]? = some x) (hstate : x.state ≠ .failed)
    (hsource : x.source = vm'.status.vmPodName)
    (hpod : vm'.status.vmPodName = r.status.vmPodName) (h : Tracked w r m k) :
    ∃ m', vm'.status.migration = some m' ∧ m'.uid = m.uid ∧ Tracked w' vm' m' k := by
  have hmem : x ∈ w.sends := List.mem_iff_getElem?.mpr ⟨k, hx⟩
  cases hhand with
  | same hrec hnode _ =>
    exact ⟨m, hrec.trans hm, rfl, hinv.tracked_quiet hblock hok hmove hr hvm' hm hrec hnode h⟩
  | early hold _ =>
    have := hold m hm
    rw [h.late] at this; cases this
  | release m₁ hm₁ hi hwrite _ =>
    rw [hm] at hm₁; cases hm₁
    subst hi
    have hterm := hended.release_ended hr hm hwrite
    rw [MigrationPhase.not_terminal_of_late h.late] at hterm
    cases hterm
  | reset hempty _ => exact absurd (hsource.trans hempty) (hnames.source x hmem).1
  | send m₁ k₁ b hi hm₁ hmp hchan hsaved hb hrec hnode _ =>
    rw [hm] at hm₁; cases hm₁
    subst hi
    cases h with
    | issued _ _ hchan' =>
      rw [hchan'] at hchan; cases hchan
      obtain ⟨hacted, hmemory⟩ := hview rfl
      refine ⟨_, hrec, rfl, .running rfl ?_⟩
      rw [hnode]
      refine ⟨fun _ => ?_, fun h => ?_⟩
      · rw [World.errCh, hmemory, hblock.saved _ b hsaved, Option.bind_some, hb]
      · rw [hacted] at h; cases h
    | running hmp' _ | sent hmp' => rw [hmp] at hmp'; cases hmp'
  | sent m₁ _ hm₁ _ _ hrec =>
    rw [hm] at hm₁; cases hm₁
    exact ⟨_, hrec, rfl, .sent rfl⟩
  | lost m₁ hi hm₁ hmp hlost _ =>
    rw [hm] at hm₁; cases hm₁
    subst hi
    cases h with
    | running _ hwatched =>
      exact absurd hlost (hinv.not_lost hblock hr hm hmp hx hstate hwatched)
    | issued hmp' _ _ | sent hmp' => rw [hmp] at hmp'; cases hmp'
  | arrive m₁ hm₁ hmp htarget _ =>
    rw [hm] at hm₁; cases hm₁
    have hne : m.targetVMPodName ≠ "" := by
      rw [← htarget, ← hsource]; exact (hnames.source x hmem).1
    exact absurd (hpod.symm.trans htarget) (hnames.apart r m hr hm (by rw [hmp]; rfl) hne).1

theorem tracked_step (hinv : HandoverInv w) (hocc : Occ w) (hblock : BlockInv w)
    (hnames : NameInv w) (hended : EndedInv w)
    (huntouched : ∀ vm, w.vm = some vm → Untouched vm.status) (hok : HandoverRecorded w a)
    (hmove : Moved w a w') {vm' : VM} {k : Nat} {x' : Send} (hvm' : w'.vm = some vm')
    (hx' : w'.sends[k]? = some x') (hstate' : x'.state ≠ .failed)
    (hsource' : x'.source = vm'.status.vmPodName) :
    ∃ m, vm'.status.migration = some m ∧ m.uid = x'.migration ∧ Tracked w' vm' m k := by
  rcases hmove.send_origin hx' with ⟨x, hx, hsource, huid, hfailed⟩ | ⟨n, r, u, hissues⟩
  · -- the send was there before
    have hstate : x.state ≠ .failed := fun h => hstate' (hfailed h)
    rw [← hsource] at hsource'
    rw [← huid]
    have hquiet : ∀ vm, w.vm = some vm → vm'.status.vmPodName = vm.status.vmPodName →
        vm'.status.migration = vm.status.migration →
        vm'.status.nodeName = vm.status.nodeName →
        ∃ m, vm'.status.migration = some m ∧ m.uid = x.migration ∧ Tracked w' vm' m k := by
      intro vm hvm hpod hrec hnode
      obtain ⟨m, hm, hmu, htracked⟩ := hinv.tracked vm k x hvm hx hstate (hsource'.trans hpod)
      exact ⟨m, hrec.trans hm, hmu,
        hinv.tracked_quiet hblock hok hmove hvm hvm' hm hrec hnode htracked⟩
    cases (hmove.vmChange hocc).statusChange hvm' with
    | quiet cur action hcur hst =>
      exact hquiet cur hcur (by rw [hst]) (by rw [hst]) (by rw [hst])
    | written i y ch cur held ha hcur _ hwrite _ hw =>
      have hmem : x ∈ w.sends := List.mem_iff_getElem?.mpr ⟨k, hx⟩
      have hpod := hnames.source_kept hcur hwrite hmem hsource'
      obtain ⟨m, hm, hmu, htracked⟩ := hinv.tracked cur k x hcur hx hstate (hsource'.trans hpod)
      obtain ⟨m', hm', hmu', htracked'⟩ := hinv.tracked_written hblock hnames hended hok hmove
        hcur hvm' (hwrite.handMove (huntouched cur hcur))
        (fun _ => by subst hw; exact ⟨by simp [World.release], rfl⟩)
        hm hx hstate hsource' hpod htracked
      exact ⟨m', hm', hmu'.trans hmu, htracked'⟩
  · -- the send was just issued
    obtain ⟨pod, ctx, ch, rfl⟩ := hissues.call
    have hvm := hok.sendsStored _ _ ch r rfl rfl hissues.read
    rw [hissues.vm, hvm] at hvm'; cases hvm'
    have hn := hissues.sending.nodeName
    obtain ⟨m, -, -, hm, hmp, rfl⟩ := hissues.sending
    exact ⟨m, hm, hissues.migration.symm,
      .issued hmp (by rw [hn]; exact hissues.acted) (by rw [hn]; exact hissues.channel)⟩

theorem reads_step (hinv : HandoverInv w) (hocc : Occ w)
    (huntouched : ∀ vm, w.vm = some vm → Untouched vm.status) (hmove : Moved w a w')
    {vm' r : VM} {m' : Migration} (hvm' : w'.vm = some vm')
    (hm' : vm'.status.migration = some m') (hmp' : m'.phase = .running)
    (hr : (w'.views (.daemon vm'.status.nodeName)).vm = some r) :
    ∃ m, r.status.migration = some m ∧ m.phase = .running := by
  rcases hmove.holdsCurrent _ r hr with hold | hnow | ⟨h, -⟩
  · -- the daemon has read it before; so the record was `Running` before
    have hbefore : ∀ vm, w.vm = some vm → vm'.status.migration = vm.status.migration →
        vm'.status.nodeName = vm.status.nodeName →
        ∃ m, r.status.migration = some m ∧ m.phase = .running := by
      intro vm hvm hrec hnode
      exact hinv.reads vm m' r hvm (hrec.symm.trans hm') hmp' (hnode ▸ hold)
    cases (hmove.vmChange hocc).statusChange hvm' with
    | quiet cur action hcur hst => exact hbefore cur hcur (by rw [hst]) (by rw [hst])
    | written i y ch cur held _ hcur _ hwrite hheld hw =>
      subst hw
      cases hwrite.handMove (huntouched cur hcur) with
      | same hrec hnode _ => exact hbefore cur hcur hrec hnode
      | early _ hnew => exact absurd hmp' (hnew m' hm').1
      | release _ _ _ _ hrec | reset _ hrec => exact absurd (hrec.symm.trans hm') nofun
      | send m _ _ hi _ _ _ _ _ _ hnode _ =>
        -- it is the writer, and holds what it has written
        subst hi
        rw [hnode, World.release, World.see_views_self] at hr
        rw [hheld r hr]
        exact ⟨m', hm', hmp'⟩
      | sent m _ _ _ _ hrec | lost m _ _ _ _ hrec | arrive m _ _ _ hrec =>
        obtain rfl := Option.some.inj (hrec.symm.trans hm')
        cases hmp'
  · rw [hnow] at hvm'; cases hvm'
    exact ⟨m', hm', hmp'⟩
  · cases h

end HandoverInv

/-- Sends are accounted for in every run that meets the condition. -/
theorem Reached.handoverInv {nodeIP : String → String} {w : World}
    (h : Reached nodeIP HandoverRecorded w) : HandoverInv w := by
  refine Reached.invariant ?_ ?_ h
  · rintro w ⟨v, hst, -, rfl⟩
    exact {
      held := fun n h => by cases h
      reads := fun vm m r hvm hm => by cases hvm; rw [hst] at hm; cases hm
      tracked := fun vm k x _ hx => by cases hx }
  · intro w a w' hreach hinv hok hmove
    have hnames := hreach.nameInv (fun _ _ h => h.2.2) (fun _ _ h => h.sendsStored)
    exact {
      held := hinv.held.step handoverWindow_lawful hok.1 hmove
      reads := fun vm m r hvm hm hmp hr =>
        hinv.reads_step hreach.occ hreach.pointerInv.untouched hmove hvm hm hmp hr
      tracked := fun vm k x hvm hx hstate hsource =>
        hinv.tracked_step hreach.occ hreach.blockInv hnames hreach.endedInv
          hreach.pointerInv.untouched hok hmove hvm hx hstate hsource }

/-! ### The Handover -/

/-- The guest has left the pod that the status names, and the record of the
    migration it has left with is failed or gone. -/
def Abandoned (w : World) : Prop :=
  ∃ vm x, w.vm = some vm ∧ x ∈ w.sends ∧ x.state = .completed ∧
    x.source = vm.status.vmPodName ∧
    ∀ m, vm.status.migration = some m → m.uid = x.migration → m.phase = .failed

/-- **No guest is abandoned** while what the source daemon does gets into the
    record and the daemon remembers its send. -/
theorem guest_not_abandoned {nodeIP : String → String} {c : Config}
    (h : Reach (system nodeIP) HandoverRecorded Init c) : ¬ Abandoned c.store := by
  rintro ⟨vm, x, hvm, hx, hstate, hsource, hfailed⟩
  obtain ⟨k, hk⟩ := List.mem_iff_getElem?.mp hx
  obtain ⟨m, hm, huid, htracked⟩ := (reached_of_reach h).handoverInv.tracked vm k x hvm hk
    (by rw [hstate]; nofun) hsource
  have hlate := htracked.late
  rw [hfailed m hm huid] at hlate
  cases hlate

/-- The sample migration right after its send has completed. -/
theorem guest_not_abandoned_sample :
    ∃ c, Reach Sample.cluster HandoverRecorded Init c ∧
      (∃ x ∈ c.store.sends, x.state = .completed) ∧ ¬ Abandoned c.store := by
  obtain ⟨c, hreach, htest⟩ := Sample.reach HandoverRecorded
    (Sample.targetReady ++ Sample.sends ++ [.event (.completeSend 0)])
    (fun c => c.store.sends.any (·.state == .completed)) (by decide +kernel)
  obtain ⟨x, hx, hstate⟩ := List.any_eq_true.mp htest
  exact ⟨c, hreach, ⟨x, hx, beq_iff_eq.mp hstate⟩, guest_not_abandoned hreach⟩

/-- The source daemon is restarted while its send is under way. It finds no
    channel, takes the send for lost and fails the migration; then the send
    completes. -/
theorem guest_abandoned : ∃ c, Reachable Sample.cluster Init c ∧ Abandoned c.store := by
  obtain ⟨c, hreach, htest⟩ := Sample.reach anyStep
    (Sample.targetReady ++ Sample.sends ++ [.crash (.daemon "a")] ++
      turn (.daemon "a") [.ok, .ok, .ok, .ok, .ok, .ok] ++ [.event (.completeSend 0)])
    (fun c => c.store.vm.any (fun vm => vm.status.vmPodName == "pod-a" &&
      vm.status.migration.any (·.phase == .failed) &&
      c.store.sends.any (fun x => x.state == .completed && x.source == "pod-a")))
    (by decide +kernel)
  obtain ⟨vm, hvm, h⟩ := (Option.any_eq_true ..).mp htest
  simp only [Bool.and_eq_true, beq_iff_eq] at h
  obtain ⟨⟨hpod, hrec⟩, hsend⟩ := h
  obtain ⟨m, hm, hmp⟩ := (Option.any_eq_true ..).mp hrec
  obtain ⟨x, hx, hx'⟩ := List.any_eq_true.mp hsend
  simp only [Bool.and_eq_true, beq_iff_eq] at hx'
  refine ⟨c, hreach, vm, x, hvm, hx, hx'.1, by rw [hx'.2, hpod], fun m' hm' _ => ?_⟩
  rw [hm] at hm'; cases hm'
  exact beq_iff_eq.mp hmp

end Virtink
