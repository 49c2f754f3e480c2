import Virtink.Guarded

/-! # The Migration Record as a Lock

    `vm.status.migration` is the lock that lets at most one migration work on
    the VM. `RecordMove` is the protocol of the lock: a migration takes the
    free record, the controller and the daemons push its phase onwards, and
    the migration that holds it gives it back once it has ended; a reset of
    the whole status frees it as well. `Write.recordMove` shows that every
    status write of the system follows the protocol.

    The main result is exclusion (`record_exclusive`), over every interleaving
    of the reads and writes of any number of migrations.
-/

namespace Virtink

open Calls

/-! ### The Order of the Phases -/

namespace MigrationPhase

/-- A migration in phase `p` is in phase `q` some time later. -/
def Onward (p q : MigrationPhase) : Prop := p = q ∨ p.rank < q.rank

instance (p q : MigrationPhase) : Decidable (Onward p q) :=
  inferInstanceAs (Decidable (_ ∨ _))

variable {p q r : MigrationPhase}

theorem Onward.refl (p : MigrationPhase) : Onward p p := .inl rfl

theorem Onward.trans (hpq : Onward p q) (hqr : Onward q r) : Onward p r := by
  rcases hpq with rfl | hpq
  · exact hqr
  · rcases hqr with rfl | hqr
    · exact .inr hpq
    · exact .inr (Nat.lt_trans hpq hqr)

theorem onward_of_empty (q : MigrationPhase) : Onward .empty q := by
  cases q <;> decide

theorem onward_failed (h : p.terminal = false) : Onward p .failed := by
  revert h; cases p <;> decide

/-- A terminal phase is final. -/
theorem Onward.eq_of_terminal (h : Onward p q) (hp : p.terminal = true) : q = p := by
  revert h hp; cases p <;> cases q <;> decide

end MigrationPhase

/-! ### The Protocol -/

/-- The moves of the migration record when process `i` with view `v` writes
    the status `st`. -/
inductive RecordMove (i : Proc) (v : View) (st : VMStatus) :
    Option Migration → Option Migration → Prop where
  | keep (m : Option Migration) : RecordMove i v st m m
  /-- The holder stays, its phase moves onwards. -/
  | advance (m m' : Migration) (huid : m'.uid = m.uid) (hphase : m.phase.Onward m'.phase) :
      RecordMove i v st (some m) (some m')
  /-- A migration that was read as active takes the free record. -/
  | acquire (u : UID) (x : VMM) (hi : i = .vmm u) (hx : v.vmm = some x) (hu : x.uid = u)
      (hterm : x.status.phase.terminal = false) : RecordMove i v st none (some { uid := u })
  /-- The holder, read as ended, gives the record back. -/
  | release (m : Migration) (x : VMM) (hi : i = .vmm m.uid) (hx : v.vmm = some x)
      (hu : x.uid = m.uid) (hterm : x.status.phase.terminal = true) :
      RecordMove i v st (some m) none
  /-- The VM controller resets the whole status. -/
  | reset (m : Option Migration) (hi : i = .controller) (hst : st = { phase := st.phase }) :
      RecordMove i v st m none

/-- Where a record comes from: it was there before, or it was just taken. -/
theorem RecordMove.origin {i : Proc} {v : View} {st : VMStatus} {old : Option Migration}
    {m' : Migration} (h : RecordMove i v st old (some m')) :
    (∃ m, old = some m ∧ m'.uid = m.uid ∧ m.phase.Onward m'.phase) ∨
    (old = none ∧ i = .vmm m'.uid ∧ m'.phase = .empty ∧
      ∃ x, v.vmm = some x ∧ x.status.phase.terminal = false) := by
  cases h with
  | keep => exact .inl ⟨m', rfl, rfl, .refl _⟩
  | advance m _ huid hphase => exact .inl ⟨m, rfl, huid, hphase⟩
  | acquire u x hi hx _ hterm => exact .inr ⟨rfl, hi, rfl, x, hx, hterm⟩

section protocol
variable {v : View} {r : VM} {st : VMStatus}

theorem RecordMove.push {i : Proc} {m m' : Migration} {p : MigrationPhase} (q : MigrationPhase)
    (hp : m.phase = p) (hq : m'.phase = q) (huid : m'.uid = m.uid) (h : p.Onward q) :
    RecordMove i v st (some m) (some m') :=
  .advance m m' huid (by rw [hp, hq]; exact h)

theorem CtrlWrite.recordMove (h : CtrlWrite v r st) :
    RecordMove .controller v st r.status.migration st.migration := by
  cases h with
  | same h => rw [VMStatus.migration_of_core h]; exact .keep _
  | name s _ _ h => rw [VMStatus.migration_of_core h]; exact .keep _
  | pod p ph _ _ _ _ _ h => rw [VMStatus.migration_of_core h]; exact .keep _
  | lost _ h => rw [VMStatus.migration_of_core h]; exact .keep _
  | stop ph _ _ h => rw [VMStatus.migration_of_core h]; exact .keep _
  | target m s _ hm hmp _ h =>
    rw [VMStatus.migration_of_core h, hm]
    rcases hmp with hmp | hmp
    · exact .push .scheduling hmp rfl rfl (by decide)
    · exact .push .scheduling hmp rfl rfl (by decide)
  | targetPod m p volumePod ph _ hm hmp _ _ _ hph h =>
    rw [VMStatus.migration_of_core h, hm]
    refine .push ph hmp rfl rfl ?_
    cases hph <;> decide
  | reset ph _ _ _ h => subst h; exact .reset _ rfl rfl

theorem VmmWrite.recordMove {u : UID} (h : VmmWrite u v r st) :
    RecordMove (.vmm u) v st r.status.migration st.migration := by
  cases h with
  | release x m hx hu hterm _ hm huid h =>
    subst huid; rw [h, hm]
    exact .release m x rfl hx hu hterm
  | acquire x hx hu hterm _ hm h =>
    rw [h, hm]
    exact .acquire u x rfl hx hu hterm

theorem DaemonWrite.recordMove {n : String} (h : DaemonWrite n v r st) :
    RecordMove (.daemon n) v st r.status.migration st.migration := by
  cases h with
  | same h => subst h; exact .keep _
  | volumes _ h => rw [VMStatus.migration_of_core h]; exact .keep _
  | bury _ h => subst h; exact .keep _
  | boot ph _ _ _ h => rw [VMStatus.migration_of_core h]; exact .keep _
  | power _ _ _ h => subst h; exact .keep _
  | stop _ _ _ h => subst h; exact .keep _
  | target m ip port ph _ _ hm hmp hph h =>
    rw [VMStatus.migration_of_core h, hm]
    refine .push ph hmp rfl rfl ?_
    rcases hph with rfl | rfl <;> decide
  | send m k b _ _ hm hmp _ _ _ _ h =>
    rw [h, hm]; exact .push .running hmp rfl rfl (by decide)
  | sent m _ _ hm hmp _ h => rw [h, hm]; exact .push .sent hmp rfl rfl (by decide)
  | lost m _ _ hm hmp _ h => rw [h, hm]; exact .push .failed hmp rfl rfl (by decide)
  | arrive m _ _ hm hmp h => rw [h, hm]; exact .push .succeeded hmp rfl rfl (by decide)

/-- **Every status write follows the protocol of the record.** -/
theorem Write.recordMove {i : Proc} (h : Write i v r st) :
    RecordMove i v st r.status.migration st.migration := by
  cases i with
  | controller => exact CtrlWrite.recordMove h
  | vmm u => exact VmmWrite.recordMove h
  | daemon n => exact h.1.recordMove

end protocol

/-- What a move does to the record of a VM that stays: nothing, or what the
    protocol allows to the process that writes. -/
inductive RecordChange (w : World) (a : Action) (w' : World) (vm vm' : VM) : Prop where
  | same (h : vm'.status.migration = vm.status.migration)
  | moved (i : Proc) (x : VM) (ch : Choice) (ha : a = .call i (.updateVMStatus x) ch)
      (hread : (w.views i).vm = some vm) (hst : vm'.status = x.status) (hvmms : w'.vmms = w.vmms)
      (hmove : RecordMove i (w.views i) x.status vm.status.migration vm'.status.migration)

theorem VMChange.recordChange {w w' : World} {a : Action} (h : VMChange w a w') {vm vm' : VM}
    (hvm : w.vm = some vm) (hvm' : w'.vm = some vm') : RecordChange w a w' vm vm' := by
  cases h with
  | same h _ =>
    rw [h, hvm] at hvm'; cases hvm'
    exact .same rfl
  | gone h _ => rw [h] at hvm'; cases hvm'
  | touched cur new hcur hnew _ hst _ =>
    rw [hcur] at hvm; rw [hnew] at hvm'; cases hvm; cases hvm'
    exact .same (by rw [hst])
  | patched action cur _ hcur hw =>
    subst hw
    rw [hcur] at hvm; cases hvm; cases hvm'
    exact .same rfl
  | written i x ch cur held ha hcur hread hwrite _ _ hw =>
    subst hw
    rw [hcur] at hvm; cases hvm; cases hvm'
    exact .moved i x ch ha hread rfl rfl hwrite.recordMove

/-! ### Exclusion -/

/-- Process `i` writes the status of the VM. -/
def WritesVM (i : Proc) (a : Action) : Prop :=
  ∃ x ch, a = .call i (.updateVMStatus x) ch

/-- The current run of migration `u` has read the migration, in a phase that is
    terminal or not. -/
def ReadAs (w : World) (u : UID) (terminal : Bool) : Prop :=
  ∃ x, (w.views (.vmm u)).vmm = some x ∧ x.uid = u ∧ x.status.phase.terminal = terminal

/-- The record is an exclusive lock in a step in which it turns from `old` to
    `new`. -/
structure Exclusive (w : World) (a : Action) (old new : Option Migration) : Prop where
  /-- It is taken by the migration whose UID it then carries. -/
  acquired : ∀ m, old = none → new = some m → WritesVM (.vmm m.uid) a ∧ ReadAs w m.uid false
  /-- It is cleared by its holder or by a reset of the whole status. -/
  released : ∀ m, old = some m → new = none →
    (WritesVM (.vmm m.uid) a ∧ ReadAs w m.uid true) ∨
    ∃ x ch, a = .call .controller (.updateVMStatus x) ch ∧ x.status = { phase := x.status.phase }
  /-- It never changes hands. -/
  held : ∀ m m', old = some m → new = some m' → m'.uid = m.uid

/-- Migration `u`, read as `x`, gives up in a step from `w` to `w'`: it does not
    stop before it has called itself failed, and it does nothing else. -/
structure GivesUp (u : UID) (x : VMM) (w : World) (a : Action) (w' : World) : Prop where
  goesOn : a ≠ .finish (.vmm u)
  writes : ∀ o ch, a = .call (.vmm u) o ch →
    ∃ m, o = .updateVMMStatus m ∧ m.uid = u ∧ m.status.phase = .failed
  /-- The write is accepted if the migration is still as it was read. -/
  failed : ∀ m cur, a = .call (.vmm u) (.updateVMMStatus m) .ok → w.findVMM u = some cur →
    cur.resourceVersion = x.resourceVersion →
    ∃ y, w'.findVMM u = some y ∧ y.status.phase = .failed

theorem Exclusive.refl (w : World) (a : Action) (m : Option Migration) : Exclusive w a m m where
  acquired m hn hm := by rw [hn] at hm; cases hm
  released m hm hn := by rw [hn] at hm; cases hm
  held m m' hm hm' := by rw [hm] at hm'; cases hm'; rfl

theorem RecordMove.exclusive {w : World} {i : Proc} {x : VM} {ch : Choice}
    {old new : Option Migration} (h : RecordMove i (w.views i) x.status old new) :
    Exclusive w (.call i (.updateVMStatus x) ch) old new := by
  cases h with
  | keep => exact .refl w _ _
  | advance m m' huid _ =>
    exact {
      acquired := fun _ h => by cases h
      released := fun _ _ h => by cases h
      held := fun _ _ h h' => by cases h; cases h'; exact huid }
  | acquire u y hi hy hu hterm =>
    subst hi
    exact {
      acquired := fun m _ h => by cases h; exact ⟨⟨x, ch, rfl⟩, y, hy, hu, hterm⟩
      released := fun _ h => by cases h
      held := fun _ _ h => by cases h }
  | release m y hi hy hu hterm =>
    subst hi
    exact {
      acquired := fun _ h => by cases h
      released := fun _ h _ => by cases h; exact .inl ⟨⟨x, ch, rfl⟩, y, hy, hu, hterm⟩
      held := fun _ _ _ h => by cases h }
  | reset m hi hst =>
    subst hi
    exact {
      acquired := fun _ _ h => by cases h
      released := fun _ _ _ => .inr ⟨x, ch, rfl, hst⟩
      held := fun _ _ _ h => by cases h }

theorem RecordChange.exclusive {w w' : World} {a : Action} {vm vm' : VM}
    (h : RecordChange w a w' vm vm') :
    Exclusive w a vm.status.migration vm'.status.migration := by
  cases h with
  | same h => rw [h]; exact .refl w a _
  | moved i x ch ha _ _ _ hmove => subst ha; exact hmove.exclusive

/-- A migration that has found the record taken can only call itself failed. -/
theorem VmmPhase.eq_failed {u : UID} {v : View} {x : VMM} {p : MigrationPhase}
    (h : VmmPhase u v x p) (hf : FoundForeign u v x) : p = .failed := by
  cases h with
  | same hown => exact absurd hf hown
  | copy r m _ hr _ hm huid =>
    obtain ⟨-, -, r', m', hr', hm', hne⟩ := hf
    rw [hr] at hr'; cases hr'
    rw [hm] at hm'; cases hm'
    exact absurd huid hne
  | _ => rfl

theorem not_write_of_foundForeign {u : UID} {v : View} {x : VMM} {r : VM} {st : VMStatus}
    (hf : FoundForeign u v x) (hr : v.vm = some r) : ¬ VmmWrite u v r st := by
  obtain ⟨-, -, r', m', hr', hm', hne⟩ := hf
  rw [hr] at hr'; cases hr'
  rintro (⟨_, m, _, _, _, _, hm, huid, _⟩ | ⟨_, _, _, _, _, hm, _⟩)
  · rw [hm] at hm'; cases hm'; exact hne huid
  · rw [hm] at hm'; cases hm'

/-- All a migration can do once it has found the record taken. -/
theorem guard_of_foundForeign {u : UID} {v : View} {x : VMM} {o : Op}
    (hf : FoundForeign u v x) (hg : guard (.vmm u) o v) :
    ∃ m, o = .updateVMMStatus m ∧ m.uid = u ∧ m.resourceVersion = x.resourceVersion ∧
      m.status.phase = .failed := by
  have hsome : v.vm ≠ none := by
    obtain ⟨-, -, r, m, hr, -⟩ := hf
    rw [hr]; exact nofun
  cases o <;> try exact hg.elim
  case hypervisor pod c account => cases account <;> exact hg.elim
  case deletePod name cause => cases cause <;> exact hg.elim
  case getVM => exact absurd hg hsome
  case getVMM u' => exact absurd hg.2 hsome
  case updateVMStatus y =>
    obtain ⟨r, hr, -, hw⟩ := hg
    exact absurd hw (not_write_of_foundForeign hf hr)
  case updateVMMStatus m =>
    obtain ⟨x', hx', _, hu, hrv, hphase⟩ := hg
    obtain rfl : x' = x := Option.some.inj (hx'.symm.trans hf.1)
    exact ⟨m, rfl, hu, hrv, hphase.eq_failed hf⟩

theorem World.findVMM_uid {w : World} {u : UID} {x : VMM} (h : w.findVMM u = some x) :
    x.uid = u := by
  simpa using List.find?_some h

/-- A status write leaves the other migrations alone. -/
theorem World.findVMM_commitVMM (w : World) (u u' : UID) (st : VMMStatus) :
    (w.commitVMM u st).findVMM u' = (w.findVMM u').map (fun x =>
      if x.uid = u then { x with status := st, resourceVersion := x.resourceVersion + 1 }
      else x) := by
  unfold World.commitVMM World.findVMM
  rw [List.find?_map]
  congr 2
  funext x
  dsimp only [Function.comp]
  split <;> rfl

/-- A write that carries the current version and does not fail is applied. -/
theorem World.updateVMM_ok {w : World} {i : Proc} {m cur : VMM}
    (hcur : w.findVMM m.uid = some cur) (hrv : m.resourceVersion = cur.resourceVersion) :
    ∃ y, (w.updateVMM i m .ok).2.findVMM m.uid = some y ∧ y.status = m.status := by
  have huid := World.findVMM_uid hcur
  simp only [World.updateVMM, hcur, hrv, ne_eq, not_true_eq_false, if_false]
  unfold World.putVMM
  split
  · next hst => exact ⟨cur, hcur, hst⟩
  · refine ⟨_, (World.findVMM_commitVMM w _ _ _).trans (by rw [hcur]; rfl), ?_⟩
    simp

theorem givesUp_of_step {nodeIP : String → String} {c c' : Config} {a : Action} {u : UID} {x : VMM}
    (h : Reachable (system nodeIP) Init c) (hstep : Step (system nodeIP) c a c')
    (hf : FoundForeign u (c.store.views (.vmm u)) x) : GivesUp u x c.store a c'.store := by
  have hmoved := moved_of_step h hstep
  refine ⟨?_, ?_, ?_⟩
  · rintro rfl
    exact hmoved.done x hf
  · rintro o ch rfl
    obtain ⟨m, ho, hu, -, hphase⟩ := guard_of_foundForeign hf hmoved.guard
    exact ⟨m, ho, hu, hphase⟩
  · rintro m cur rfl hcur hrv
    obtain ⟨m', hm', hu, hmrv, hphase⟩ := guard_of_foundForeign hf hmoved.guard
    cases hm'
    subst hu
    cases hstep with
    | call _ hans =>
      obtain ⟨y, hy, hst⟩ :=
        World.updateVMM_ok (w := c.store) (i := .vmm m.uid) hcur (hmrv.trans hrv.symm)
      rw [Option.some.inj hans] at hy
      exact ⟨y, hy, by rw [hst]; exact hphase⟩

/-- **The migration record is an exclusive lock**, whatever the interleaving,
    and an active migration that finds it taken fails without touching the VM. -/
theorem record_exclusive {nodeIP : String → String} {c c' : Config} {a : Action}
    (h : Reachable (system nodeIP) Init c) (hstep : Step (system nodeIP) c a c') :
    (∀ vm vm', c.store.vm = some vm → c'.store.vm = some vm' →
      Exclusive c.store a vm.status.migration vm'.status.migration) ∧
    (∀ u x, FoundForeign u (c.store.views (.vmm u)) x → GivesUp u x c.store a c'.store) := by
  have hchange := (moved_of_step h hstep).vmChange (reached_of_reach h).occ
  exact ⟨fun vm vm' hvm hvm' => (hchange.recordChange hvm hvm').exclusive,
    fun u x hf => givesUp_of_step h hstep hf⟩

/-- Migrations `u` and `v` both want the VM, `u` comes first: `v` is about to
    give up. -/
theorem record_exclusive_contended :
    ∃ c a c' x, Reachable Sample.cluster Init c ∧ Step Sample.cluster c a c' ∧
      FoundForeign "v" (c.store.views (.vmm "v")) x ∧ GivesUp "v" x c.store a c'.store := by
  obtain ⟨c, a, c', hreach, hstep, htest⟩ := Sample.step anyStep
    ([.event (.createVMM "u"), .event (.createVMM "v")] ++ turn (.vmm "u") [.ok, .ok, .ok, .ok] ++
      [.start (.vmm "v"), .call (.vmm "v") .ok, .call (.vmm "v") .ok])
    (.call (.vmm "v") .ok)
    (fun c _ _ =>
      (c.store.views (.vmm "v")).vmm.any (!·.status.phase.terminal) &&
      (c.store.views (.vmm "v")).vm.any (·.status.migration.any (·.uid != "v")))
    (by decide +kernel)
  rw [Bool.and_eq_true] at htest
  obtain ⟨x, hx, hterm⟩ := (Option.any_eq_true ..).mp htest.1
  obtain ⟨r, hr, hm⟩ := (Option.any_eq_true ..).mp htest.2
  obtain ⟨m, hm, hne⟩ := (Option.any_eq_true ..).mp hm
  have hf : FoundForeign "v" (c.store.views (.vmm "v")) x :=
    ⟨hx, by simpa using hterm, r, m, hr, hm, by simpa using hne⟩
  exact ⟨c, a, c', x, hreach, hstep, hf, (record_exclusive hreach hstep).2 "v" x hf⟩

/-- A migration writes that it has succeeded. -/
def Sample.succeeds (uid : UID) : Action → Bool
  | .call (.vmm u) (.updateVMMStatus m) _ => u == uid && m.status.phase == .succeeded
  | _ => false

/-- A migration that has succeeded and finds the record taken by the next one
    stays as it is. -/
theorem succeeded_stays_on_foreign_record :
    ∃ c a c', Reachable Sample.cluster Init c ∧ Step Sample.cluster c a c' ∧
      (c.store.views (.vmm "u")).vm.any (·.status.migration.any (·.uid != "u")) = true ∧
      (∃ m ch, a = .call (.vmm "u") (.updateVMMStatus m) ch ∧ m.status.phase = .succeeded) ∧
      (c'.store.findVMM "u").any (·.status.phase == .succeeded) = true := by
  obtain ⟨c, a, c', hreach, hstep, htest⟩ := Sample.step anyStep
    (Sample.migrated ++ [.event (.createVMM "v")] ++ turn (.vmm "v") [.ok, .ok, .ok, .ok] ++
      [.start (.vmm "u"), .call (.vmm "u") .ok, .call (.vmm "u") .ok])
    (.call (.vmm "u") .ok)
    (fun c a c' => Sample.succeeds "u" a &&
      (c.store.views (.vmm "u")).vm.any (·.status.migration.any (·.uid != "u")) &&
      (c'.store.findVMM "u").any (·.status.phase == .succeeded))
    (by decide +kernel)
  simp only [Bool.and_eq_true] at htest
  obtain ⟨⟨htest, hforeign⟩, hstays⟩ := htest
  unfold Sample.succeeds at htest
  split at htest
  · simp only [Bool.and_eq_true, beq_iff_eq] at htest
    obtain ⟨rfl, hm⟩ := htest
    exact ⟨c, _, c', hreach, hstep, hforeign, ⟨_, _, rfl, hm⟩, hstays⟩
  · cases htest

end Virtink
