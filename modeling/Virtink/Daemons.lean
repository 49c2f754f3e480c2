import Virtink.Guarded

/-! # The Daemons and Their Side Effects

    A daemon acts first and writes the status that records the act afterwards.
    This module takes a move apart from the point of view of the daemons
    (`DaemonMove`) and gives the rule for the time in between (`Window`): as
    long as the daemon holds the stored VM and nobody takes the VM from under
    it, the write that records the act goes through.
-/

namespace Virtink

open Calls

/-! ### Moves and the Daemons -/

/-- What the nodes have done and remember stays. -/
structure SameNodes (w w' : World) : Prop where
  memory : w'.memory = w.memory
  sends : w'.sends = w.sends
  relays : w'.relays = w.relays
  powerCalls : w'.powerCalls = w.powerCalls

/-- What a move means for the daemons. -/
inductive DaemonMove (w : World) (a : Action) (w' : World) : Prop where
  /-- It is none of their business, but the VM may have changed. -/
  | other (hviews : ∀ n, w'.views (.daemon n) = w.views (.daemon n)) (hnodes : SameNodes w w')
  /-- A daemon ends its run. -/
  | finish (n : String) (hacted : (w.views (.daemon n)).acted = .none)
      (hw : w' = w.see (.daemon n) {})
  | crash (n : String) (ha : a = .crash (.daemon n))
      (hw : w' = { w with memory := setAt w.memory n none }.see (.daemon n) {})
  | readVM (n : String) (r : VM) (hfresh : w.views (.daemon n) = {}) (hvm : w.vm = some r)
      (hw : w' = w.see (.daemon n) { vm := some r })
  | missVM (n : String) (hfresh : w.views (.daemon n) = {}) (hvm : w.vm = none)
      (hw : w' = w.see (.daemon n) { gone := true })
  /-- A daemon issues its status write. -/
  | write (n : String) (x : VM) (ch : Choice) (held : Option VM)
      (ha : a = .call (.daemon n) (.updateVMStatus x) ch)
      (hheld : ∀ c, held = some c → w'.vm = some c)
      (hview : w'.views (.daemon n) = { vm := held, vmm := (w.views (.daemon n)).vmm })
      (hviews : ∀ m, m ≠ n → w'.views (.daemon m) = w.views (.daemon m))
      (hnodes : SameNodes w w')
  | readPod (n name : String) (p : Pod) (hp : w.findPod name = some p)
      (hw : w' = w.see (.daemon n) { w.views (.daemon n) with pod := some p })
  | power (n : String) (pod : UID) (c : HypervisorCall) (ch : Choice) (r : VM)
      (ha : a = .call (.daemon n) (.hypervisor pod c .powerAction) ch)
      (hr : (w.views (.daemon n)).vm = some r) (hacts : Acts n r)
      (hphase : r.status.phase = .running) (hm : r.status.migration = none)
      (haction : r.status.powerAction ≠ .empty) (hacted : (w.views (.daemon n)).acted = .none)
      (hw : w' = { w with powerCalls := w.powerCalls + 1 }.see (.daemon n)
        { w.views (.daemon n) with acted := .powered })
  | relay (n : String) (ctx : Nat) (pod : UID) (ip : String) (port : Nat) (u : UID) (ch : Choice)
      (r : VM) (ha : a = .call (.daemon n) (.relaySocketToTCP ctx pod ip port u) ch)
      (hr : (w.views (.daemon n)).vm = some r) (hsending : Sending n r u)
      (hacted : (w.views (.daemon n)).acted = .none)
      (hw : w' = { w with relays := u :: w.relays }.see (.daemon n)
        { w.views (.daemon n) with acted := .relayed })
  | send (n : String) (pod : UID) (ctx : Nat) (u : UID) (ch : Choice) (r : VM)
      (ha : a = .call (.daemon n) (.startSend pod r.status.vmPodName ctx u) ch)
      (hr : (w.views (.daemon n)).vm = some r) (hsending : Sending n r u)
      (hacted : (w.views (.daemon n)).acted = .relayed)
      (hw : w' = (w.addSend
          { migration := u, source := r.status.vmPodName, pod := pod }).see (.daemon n)
        { w.views (.daemon n) with acted := .sent, channel := some w.sends.length })
  /-- A daemon hears of a failed send. -/
  | poll (n : String) (k : Nat) (x : Send) (hx : w.sends[k]? = some x) (hf : x.state = .failed)
      (hw : w' = w.see (.daemon n) { w.views (.daemon n) with failed := some k })
  /-- A daemon reads its control block. -/
  | look (n : String) (hblock : (w.views (.daemon n)).block = none)
      (hacted : (w.views (.daemon n)).acted = .none)
      (hw : w' = w.see (.daemon n)
        { w.views (.daemon n) with block := some ((w.memory n).getD {}) })
  | setBlock (n : String) (b b₀ : ControlBlock) (hb₀ : (w.views (.daemon n)).block = some b₀)
      (hb : b.sendMigrationErrCh = ((w.views (.daemon n)).channel <|> b₀.sendMigrationErrCh))
      (hw : w' = { w with memory := setAt w.memory n (some b) }.see (.daemon n)
        { w.views (.daemon n) with saved := some b })
  /-- A daemon throws its control block away. -/
  | close (n : String) (ch : Choice) (r : VM) (ha : a = .call (.daemon n) .deleteControlBlock ch)
      (hr : (w.views (.daemon n)).vm = some r) (hclosing : Closing n (w.views (.daemon n)) r)
      (hw : w' = { w with memory := setAt w.memory n none }.see (.daemon n)
        { w.views (.daemon n) with saved := none, acted := .closed })
  /-- A send ends. -/
  | sendEnds (k : Nat) (st : SendState)
      (ha : a = .event (.completeSend k) ∨ a = .event (.failSend k))
      (hst : st ≠ .running) (hviews : w'.views = w.views) (hvm : w'.vm = w.vm)
      (hsends : w'.sends = (w.endSend k st).sends) (hmemory : w'.memory = w.memory)
      (hrelays : w'.relays = w.relays) (hpower : w'.powerCalls = w.powerCalls)

/-- The calls of the two controllers are none of the daemons' business. -/
theorem Effect.nodes {i : Proc} {o : Op} {w w' : World} (h : Effect i w o w')
    (hi : ∀ n, i ≠ .daemon n) : SameNodes w w' := by
  cases h with
  | power h | look h | setBlock h | deleteBlock h | relay h | send h => exact absurd h (hi _)
  | _ => exact ⟨rfl, rfl, rfl, rfl⟩

/-- What a call of a daemon means. -/
theorem Effect.daemonMove {n : String} {o : Op} {ch : Choice} {w w' : World}
    (hg : guard (.daemon n) o (w.views (.daemon n))) (h : Effect (.daemon n) w o w') :
    DaemonMove w (.call (.daemon n) o ch) w' := by
  cases h with
  | same => exact .other (fun _ => rfl) ⟨rfl, rfl, rfl, rfl⟩
  | @readVM v hvm => exact .readVM n v hg hvm (by rw [World.hold, hg])
  | missVM hvm => exact .missVM n hg hvm (by rw [hg])
  | @keepStatus v held hheld =>
    exact .write n v ch held rfl hheld (World.see_views_self ..)
      (fun m hm => World.see_views_ne _ _ (by simpa using hm)) ⟨rfl, rfl, rfl, rfl⟩
  | @writeStatus v cur held hvm _ _ hheld =>
    exact .write n v ch held rfl (fun c hc => by rw [hheld c hc]; rfl) (World.see_views_self ..)
      (fun m hm => World.see_views_ne _ _ (by simpa using hm)) ⟨rfl, rfl, rfl, rfl⟩
  | keepFinalizers _ | writeFinalizers _ _ _ _ | removeVM _ _ _ _ => exact hg.elim
  | readVMM _ | keepVMM | writeVMM _ _ => exact hg.elim
  | listVMPods _ => exact hg.elim
  | createPod _ _ | draw _ => exact hg.elim
  | @readPod name p hp => exact .readPod n name p hp rfl
  | markPod | removePod => exact .other (fun _ => rfl) ⟨rfl, rfl, rfl, rfl⟩
  | @power _ pod c _ =>
    obtain ⟨r, hr, hacts, hphase, hm, haction, hacted⟩ := hg
    exact .power n pod c ch r rfl hr hacts hphase hm haction hacted rfl
  | look hi => cases hi; exact .look n hg.1 hg.2 rfl
  | @setBlock _ b hi =>
    cases hi
    obtain ⟨b₀, hb₀, hb⟩ := hg
    exact .setBlock n b b₀ hb₀ hb rfl
  | deleteBlock hi =>
    cases hi
    obtain ⟨r, hr, hclosing⟩ := hg
    exact .close n ch r rfl hr hclosing rfl
  | @relay _ ctx pod ip port u _ =>
    obtain ⟨r, hr, hsending, hacted⟩ := hg
    exact .relay n ctx pod ip port u ch r rfl hr hsending hacted rfl
  | @send _ pod source ctx u _ =>
    obtain ⟨r, hr, hsending, rfl, hacted⟩ := hg
    exact .send n pod ctx u ch r rfl hr hsending hacted rfl
  | @sendFailed k x hx hf => exact .poll n k x hx hf rfl

theorem Happening.daemonMove {e : Event} {w w' : World} (h : Happening w e w') :
    DaemonMove w (.event e) w' := by
  cases h with
  | @sendCompletes k x _ _ =>
    exact .sendEnds k .completed (.inl rfl) nofun rfl rfl rfl rfl rfl rfl
  | @sendFails k => exact .sendEnds k .failed (.inr rfl) nofun rfl rfl rfl rfl rfl rfl
  | _ => exact .other (fun _ => rfl) ⟨rfl, rfl, rfl, rfl⟩

/-- What a move means for the daemons. -/
theorem Moved.daemonMove {w w' : World} {a : Action} (h : Moved w a w') : DaemonMove w a w' := by
  have henter : ∀ i : Proc, (∀ n, i ≠ .daemon n) → ∀ n,
      (w.see i {}).views (.daemon n) = w.views (.daemon n) :=
    fun i hi n => World.see_views_ne _ _ (fun h => hi n h.symm)
  cases h with
  | start i hidle =>
    -- the view was fresh before
    refine .other (fun n => ?_) ⟨rfl, rfl, rfl, rfl⟩
    by_cases hi : i = .daemon n
    · subst hi; exact (World.see_views_self ..).trans hidle.symm
    · exact World.see_views_ne _ _ (fun h => hi h.symm)
  | finish i hdone =>
    cases i with
    | daemon n => exact .finish n hdone rfl
    | controller | vmm => exact .other (henter _ nofun) ⟨rfl, rfl, rfl, rfl⟩
  | crash i =>
    cases i with
    | daemon n => exact .crash n rfl rfl
    | controller | vmm => exact .other (henter _ nofun) ⟨rfl, rfl, rfl, rfl⟩
  | call i o ch hg _ heff =>
    cases i with
    | daemon n => exact heff.daemonMove hg
    | controller | vmm => exact .other (fun n => heff.views_ne nofun) (heff.nodes nofun)
  | event e hev => exact hev.daemonMove

/-- What a send was before another one ended: the same, but for its state, and
    one that had failed still has. -/
theorem World.endSend_get {w : World} {j k : Nat} {st : SendState} {x' : Send}
    (h : (w.endSend j st).sends[k]? = some x') :
    ∃ x, w.sends[k]? = some x ∧ x.source = x'.source ∧ x.migration = x'.migration ∧
      (x.state = .failed → x'.state = .failed) := by
  simp only [endSend, List.getElem?_modify, Option.map_eq_map, Option.map_eq_some_iff] at h
  obtain ⟨x, hx, rfl⟩ := h
  refine ⟨x, hx, ?_⟩
  split
  · split
    · next hrun => exact ⟨rfl, rfl, fun h => by rw [hrun] at h; cases h⟩
    · exact ⟨rfl, rfl, id⟩
  · exact ⟨rfl, rfl, id⟩

/-! ### Acting on the Stored VM -/

/-- The daemon on the node of the VM. -/
def World.host (w : World) : Proc := .daemon ((w.vm.map (·.status.nodeName)).getD "")

theorem World.host_eq {w : World} {vm : VM} (hvm : w.vm = some vm) :
    w.host = .daemon vm.status.nodeName := by
  rw [World.host, hvm]; rfl

/-- The request is refused without having been applied. -/
def Choice.refused : Choice → Bool
  | .fail false _ => true
  | _ => false

/-- The step takes the VM from under the daemon on its node: that daemon is
    restarted, its status write is refused, or somebody else writes the VM. -/
def World.disturbs (w : World) : Action → Bool
  | .crash i => i == w.host
  | .call i (.updateVMStatus x) ch =>
      if i = w.host then ch.refused
      else w.vm.any (fun cur =>
        x.resourceVersion == cur.resourceVersion && cur.status != x.status)
  | .call _ (.updateVM x) _ =>
      w.vm.any (fun cur =>
        x.resourceVersion == cur.resourceVersion && cur.finalizers != x.finalizers)
  | .event e => e.writesVM
  | _ => false

/-- Undisturbed, the VM changes by the status writes of the daemon only. -/
theorem Moved.vm_of_undisturbed {w w' : World} {a : Action} (h : Moved w a w')
    (hok : w.disturbs a = false) :
    w'.vm = w.vm ∨ ∃ x ch, a = .call w.host (.updateVMStatus x) ch ∧ ch.refused = false := by
  cases h with
  | start i _ => exact .inl rfl
  | finish i _ => exact .inl rfl
  | crash i => cases i <;> exact .inl rfl
  | call i o ch _ _ heff =>
    cases heff with
    | @writeStatus x cur held hvm hrv hne _ =>
      by_cases hi : i = w.host
      · subst hi
        exact .inr ⟨x, ch, rfl, by simpa [World.disturbs] using hok⟩
      · simp [World.disturbs, hi, hvm, hrv, hne] at hok
    | writeFinalizers hvm hrv hne _ | removeVM hvm hrv hne _ =>
      simp [World.disturbs, hvm, hrv, hne] at hok
    | _ => exact .inl rfl
  | event e hev =>
    cases hev with
    | patch _ | removeVM => cases hok
    | replace _ he _ _ _ _ _ => rw [World.disturbs, he] at hok; cases hok
    | _ => exact .inl rfl

/-- A status write by a process that holds the stored VM goes through unless it
    is refused. -/
theorem Moved.status_written {w w' : World} {i : Proc} {x : VM} {ch : Choice}
    (h : Moved w (.call i (.updateVMStatus x) ch) w') (hheld : (w.views i).vm = w.vm)
    (hch : ch.refused = false) :
    ∃ r held, w.vm = some r ∧ Write i (w.views i) r x.status ∧
      w' = (w.putStatus r x.status).release i held := by
  obtain ⟨r, hr, hrv, hwrite⟩ := h.guard
  rw [hheld] at hr
  obtain ⟨ans, hans⟩ := h.answer
  have hans : w.updateStatus i x ch = (ans, w') := Option.some.inj hans
  simp only [World.updateStatus, hr, hrv, ne_eq, not_true, if_false] at hans
  split at hans
  · cases hch
  · cases hans; exact ⟨r, _, hr, hwrite, rfl⟩
  · cases hans; exact ⟨r, _, hr, hwrite, rfl⟩

/-- With its status write a process has recorded what it has done and forgets
    what it has seen. -/
theorem Moved.released {w w' : World} {i : Proc} {x : VM} {ch : Choice}
    (h : Moved w (.call i (.updateVMStatus x) ch) w') :
    ∃ held, w'.views i = { vm := held, vmm := (w.views i).vmm } := by
  obtain ⟨ans, hans⟩ := h.answer
  have hans : w.updateStatus i x ch = (ans, w') := Option.some.inj hans
  have hrel : ∀ cur st held, (World.release (w.putStatus cur st) i held).views i =
      { vm := held, vmm := (w.views i).vmm } := by
    intro cur st held; rw [World.release, World.see_views_self, World.putStatus_views]
  unfold World.updateStatus at hans
  split at hans
  · cases hans; exact ⟨_, World.see_views_self ..⟩
  · split at hans
    · cases hans; exact ⟨_, World.see_views_self ..⟩
    · split at hans
      · cases hans; exact ⟨_, World.see_views_self ..⟩
      · cases hans; exact ⟨_, hrel _ _ _⟩
      · cases hans; exact ⟨_, hrel _ _ _⟩

theorem Acts.nodeName_of_running {n : String} {r : VM} (h : Acts n r)
    (hphase : r.status.phase = .running) (hm : r.status.migration = none) :
    r.status.nodeName = n := by
  cases h with
  | scheduled _ h _ => rw [hphase] at h; cases h
  | running _ _ _ hnode => exact hnode
  | target m _ _ h _ _ => rw [hm] at h; cases h
  | source _ _ _ _ _ hnode => exact hnode

/-- The source of a migration is the node of the VM. -/
theorem Acts.nodeName_of_source {n : String} {r : VM} {m : Migration} (h : Acts n r)
    (hphase : r.status.phase = .running) (hm : r.status.migration = some m)
    (hmp : m.phase = .targetReady ∨ m.phase = .running) : r.status.nodeName = n := by
  cases h with
  | scheduled _ h _ => rw [hphase] at h; cases h
  | running _ _ h _ => rw [hm] at h; cases h
  | target m' _ _ hm' hmp' _ =>
    rw [hm] at hm'; cases hm'
    rcases hmp with h | h <;> rw [h] at hmp' <;> rcases hmp' with h' | h' <;> cases h'
  | source _ _ _ _ _ hnode => exact hnode

theorem Closing.acted {n : String} {v : View} {r : VM} (h : Closing n v r) :
    v.acted = .none ∨ v.acted = .closed := by
  cases h with
  | ended _ _ _ hacted => exact hacted
  | source _ _ _ _ _ hacted _ | sent _ _ _ hacted => exact .inl hacted

theorem Sending.nodeName {n : String} {r : VM} {u : UID} (h : Sending n r u) :
    r.status.nodeName = n := by
  obtain ⟨m, hacts, hphase, hm, hmp, -⟩ := h
  exact hacts.nodeName_of_source hphase hm (.inl hmp)

/-! ### Side Effects Not Yet Recorded -/

/-- The side effect of a call that a daemon has to record. -/
def Op.act : Op → Acted
  | .hypervisor _ _ .powerAction => .powered
  | .relaySocketToTCP _ _ _ _ _ => .relayed
  | .startSend _ _ _ _ => .sent
  | .deleteControlBlock => .closed
  | _ => .none

/-- The daemon on node `n` issues the send `x` for migration `u` of the VM `r`,
    as number `k`. -/
structure Issues (n : String) (r : VM) (u : UID) (k : Nat) (x : Send) (w : World) (a : Action)
    (w' : World) : Prop where
  call : ∃ pod ctx ch, a = .call (.daemon n) (.startSend pod x.source ctx u) ch
  read : (w.views (.daemon n)).vm = some r
  sending : Sending n r u
  before : (w.views (.daemon n)).acted = .relayed
  source : x.source = r.status.vmPodName
  migration : x.migration = u
  acted : (w'.views (.daemon n)).acted = .sent
  channel : (w'.views (.daemon n)).channel = some k
  vm : w'.vm = w.vm

/-- Where a send comes from: it was there before, or it was just issued. -/
theorem Moved.send_origin {w w' : World} {a : Action} (h : Moved w a w') {k : Nat} {x' : Send}
    (hx' : w'.sends[k]? = some x') :
    (∃ x, w.sends[k]? = some x ∧ x.source = x'.source ∧ x.migration = x'.migration ∧
      (x.state = .failed → x'.state = .failed)) ∨
    ∃ n r u, Issues n r u k x' w a w' := by
  have hsame : w'.sends = w.sends → ∃ x, w.sends[k]? = some x ∧ x.source = x'.source ∧
      x.migration = x'.migration ∧ (x.state = .failed → x'.state = .failed) :=
    fun h => ⟨x', h ▸ hx', rfl, rfl, id⟩
  cases h.daemonMove with
  | other _ hnodes | write _ _ _ _ _ _ _ _ hnodes => exact .inl (hsame hnodes.sends)
  | send n pod ctx u ch r ha hr hsending hacted hw =>
    have hlast : w.sends[k]? = some x' ∨ (k = w.sends.length ∧
        x' = { migration := u, source := r.status.vmPodName, pod := pod }) := by
      rw [hw, World.see, World.addSend, List.getElem?_append] at hx'
      split at hx'
      · exact .inl hx'
      · next hk =>
        have hlt := (List.getElem?_eq_some_iff.mp hx').1
        obtain rfl : k = w.sends.length := by simp at hlt; omega
        rw [Nat.sub_self] at hx'
        cases hx'
        exact .inr ⟨rfl, rfl⟩
    rcases hlast with h | ⟨rfl, rfl⟩
    · exact .inl ⟨x', h, rfl, rfl, id⟩
    · have hview := World.see_views_self (w.addSend
        { migration := u, source := r.status.vmPodName, pod := pod }) (.daemon n)
        { w.views (.daemon n) with acted := .sent, channel := some w.sends.length }
      rw [← hw] at hview
      exact .inr ⟨n, r, u, {
        call := ⟨pod, ctx, ch, ha⟩
        read := hr
        sending := hsending
        before := hacted
        source := rfl
        migration := rfl
        acted := by rw [hview]
        channel := by rw [hview]
        vm := by rw [hw]; rfl }⟩
  | sendEnds j st _ _ _ _ hsends _ _ _ =>
    rw [hsends] at hx'
    exact .inl (World.endSend_get hx')
  | finish _ _ hw | crash _ _ hw | readVM _ _ _ _ hw | missVM _ _ _ hw | readPod _ _ _ _ hw
  | power _ _ _ _ _ _ _ _ _ _ _ _ hw | relay _ _ _ _ _ _ _ _ _ _ _ _ hw | poll _ _ _ _ _ hw
  | look _ _ _ hw | setBlock _ _ _ _ _ hw | close _ _ _ _ _ _ hw =>
    exact .inl (hsame (by rw [hw]; rfl))

/-- What a move means for what the daemon on node `n` has to record. -/
inductive ActStep (n : String) (w : World) (a : Action) (w' : World) : Prop where
  | keep (hacted : (w'.views (.daemon n)).acted = (w.views (.daemon n)).acted)
      (hview : (w'.views (.daemon n)).vm = (w.views (.daemon n)).vm)
  | rest (hacted : (w'.views (.daemon n)).acted = .none)
      (hwhy : a = .crash (.daemon n) ∨ (∃ x ch, a = .call (.daemon n) (.updateVMStatus x) ch) ∨
        (w.views (.daemon n)).acted = .none)
  | act (o : Op) (ch : Choice) (r : VM) (ha : a = .call (.daemon n) o ch)
      (hr : (w.views (.daemon n)).vm = some r)
      (hnode : o.act = .closed ∧ Closing n (w.views (.daemon n)) r ∨ r.status.nodeName = n)
      (hbefore : (w.views (.daemon n)).acted = .none ∨
        ((w.views (.daemon n)).acted = .relayed ∧ o.act = .sent) ∨
        ((w.views (.daemon n)).acted = .closed ∧ o.act = .closed))
      (hacted : (w'.views (.daemon n)).acted = o.act)
      (hview : (w'.views (.daemon n)).vm = some r) (hvm : w'.vm = w.vm)

theorem World.daemon_view {w w₀ w' : World} {m : String} {v : View}
    (hw : w' = w₀.see (.daemon m) v) (h₀ : w₀.views = w.views) (n : String) :
    (n = m ∧ w'.views (.daemon n) = v) ∨ w'.views (.daemon n) = w.views (.daemon n) := by
  subst hw
  by_cases hn : n = m
  · subst hn; exact .inl ⟨rfl, World.see_views_self ..⟩
  · exact .inr (by rw [World.see_views_ne _ _ (by simpa using hn), h₀])

theorem ActStep.of_view {n : String} {w w' : World} {a : Action}
    (h : w'.views (.daemon n) = w.views (.daemon n)) : ActStep n w a w' :=
  .keep (by rw [h]) (by rw [h])

theorem DaemonMove.actStep {w w' : World} {a : Action} (h : DaemonMove w a w') (n : String) :
    ActStep n w a w' := by
  cases h with
  | other hviews _ => exact .of_view (hviews n)
  | sendEnds _ _ _ _ hviews _ _ _ _ _ => exact .of_view (by rw [hviews])
  | finish m hacted hw =>
    rcases World.daemon_view hw rfl n with ⟨rfl, hv⟩ | hv
    · exact .rest (by rw [hv]) (.inr (.inr hacted))
    · exact .of_view hv
  | crash m ha hw =>
    rcases World.daemon_view hw rfl n with ⟨rfl, hv⟩ | hv
    · exact .rest (by rw [hv]) (.inl ha)
    · exact .of_view hv
  | readVM m _ hfresh _ hw | missVM m hfresh _ hw =>
    rcases World.daemon_view hw rfl n with ⟨rfl, hv⟩ | hv
    · exact .rest (by rw [hv]) (.inr (.inr (by rw [hfresh])))
    · exact .of_view hv
  | write m x ch _ ha _ hview hviews _ =>
    by_cases hn : n = m
    · subst hn; exact .rest (by rw [hview]) (.inr (.inl ⟨x, ch, ha⟩))
    · exact .of_view (hviews n hn)
  | readPod m _ _ _ hw | poll m _ _ _ _ hw | look m _ _ hw | setBlock m _ _ _ _ hw =>
    rcases World.daemon_view hw rfl n with ⟨rfl, hv⟩ | hv
    · exact .keep (by rw [hv]) (by rw [hv])
    · exact .of_view hv
  | power m _ _ ch r ha hr hacts hphase hm _ hacted hw =>
    rcases World.daemon_view hw rfl n with ⟨rfl, hv⟩ | hv
    · exact .act _ ch r ha hr (.inr (hacts.nodeName_of_running hphase hm)) (.inl hacted)
        (by rw [hv]; rfl) (by rw [hv]; exact hr) (by rw [hw]; rfl)
    · exact .of_view hv
  | relay m _ _ _ _ _ ch r ha hr hsending hacted hw =>
    rcases World.daemon_view hw rfl n with ⟨rfl, hv⟩ | hv
    · exact .act _ ch r ha hr (.inr hsending.nodeName) (.inl hacted)
        (by rw [hv]; rfl) (by rw [hv]; exact hr) (by rw [hw]; rfl)
    · exact .of_view hv
  | send m _ _ _ ch r ha hr hsending hacted hw =>
    rcases World.daemon_view hw rfl n with ⟨rfl, hv⟩ | hv
    · exact .act _ ch r ha hr (.inr hsending.nodeName) (.inr (.inl ⟨hacted, rfl⟩))
        (by rw [hv]; rfl) (by rw [hv]; exact hr) (by rw [hw]; rfl)
    · exact .of_view hv
  | close m ch r ha hr hclosing hw =>
    rcases World.daemon_view hw rfl n with ⟨rfl, hv⟩ | hv
    · exact .act _ ch r ha hr (.inl ⟨rfl, hclosing⟩)
        (hclosing.acted.imp_right fun h => .inr ⟨h, rfl⟩)
        (by rw [hv]; rfl) (by rw [hv]; exact hr) (by rw [hw]; rfl)
    · exact .of_view hv

/-- A class of side effects: what was done, and the VM it was done for. -/
abbrev Window := Acted → VM → Bool

namespace Window

/-- A side effect of the class is not recorded yet. -/
def isOpen (W : Window) (v : View) : Bool := v.vm.any (W v.acted)

/-- Such side effects are had by a daemon that holds the stored VM, and until
    they are recorded the VM is not taken from under it. -/
def kept (W : Window) (w : World) (a : Action) : Bool :=
  (match a with
    | .call i o _ => !(w.views i).vm.any (W o.act) || (w.views i).vm == w.vm
    | _ => true) &&
  (!W.isOpen (w.views w.host) || !w.disturbs a)

/-- What is not recorded yet was done by the daemon on the node of the VM, which
    holds the stored VM. -/
def Held (W : Window) (w : World) : Prop :=
  ∀ n, W.isOpen (w.views (.daemon n)) = true →
    ∃ vm, w.vm = some vm ∧ (w.views (.daemon n)).vm = some vm ∧ vm.status.nodeName = n

/-- Only side effects count, and those of closing a control block only on the
    node of the VM. -/
structure Lawful (W : Window) : Prop where
  none : ∀ r, W .none r = false
  closed : ∀ n v r, W .closed r = true → Closing n v r → r.status.nodeName = n

section rules
variable {W : Window} {w w' : World} {a : Action}

theorem kept_current {i : Proc} {o : Op} {ch : Choice} {r : VM}
    (h : W.kept w (.call i o ch) = true) (hr : (w.views i).vm = some r)
    (hopen : W o.act r = true) : w.vm = some r := by
  have h := (Bool.and_eq_true_iff.mp h).1
  simp only [hr, Option.any_some, hopen, Bool.not_true, Bool.false_or, beq_iff_eq] at h
  exact h.symm

theorem kept_undisturbed (h : W.kept w a = true) (hopen : W.isOpen (w.views w.host) = true) :
    w.disturbs a = false := by
  have h := (Bool.and_eq_true_iff.mp h).2
  simpa [hopen] using h

theorem acted_of_isOpen (hW : W.Lawful) {v : View} (hopen : W.isOpen v = true) :
    v.acted ≠ .none := by
  intro hacted
  rw [isOpen, hacted, Option.any_eq_true] at hopen
  obtain ⟨r, -, hr⟩ := hopen
  rw [hW.none] at hr
  cases hr

theorem Held.host (hinv : W.Held w) {n : String} (hopen : W.isOpen (w.views (.daemon n)) = true) :
    w.host = .daemon n := by
  obtain ⟨vm, hvm, -, hn⟩ := hinv n hopen
  rw [World.host_eq hvm, hn]

/-- While a side effect is not recorded, the VM stays. -/
theorem Held.vm_same (hW : W.Lawful) (hinv : W.Held w) (hok : W.kept w a = true)
    (hmove : Moved w a w') {n : String} (hopen : W.isOpen (w.views (.daemon n)) = true)
    (hacted : (w'.views (.daemon n)).acted = (w.views (.daemon n)).acted) : w'.vm = w.vm := by
  have hhost := hinv.host hopen
  rcases hmove.vm_of_undisturbed (kept_undisturbed hok (by rw [hhost]; exact hopen)) with
    h | ⟨x, ch, rfl, -⟩
  · exact h
  · -- after its write the daemon has nothing left to record
    rw [hhost] at hmove
    obtain ⟨held, hview⟩ := hmove.released
    exact absurd (hacted.symm.trans (by rw [hview])) (acted_of_isOpen hW hopen)

/-- **Window rule**: what is not recorded yet is about the stored VM. -/
theorem Held.step (hW : W.Lawful) (hinv : W.Held w) (hok : W.kept w a = true)
    (hmove : Moved w a w') : W.Held w' := by
  intro n hopen
  cases hmove.daemonMove.actStep n with
  | keep hacted hview =>
    have hopen : W.isOpen (w.views (.daemon n)) = true := by
      rw [isOpen, ← hacted, ← hview]; exact hopen
    rw [hinv.vm_same hW hok hmove hopen hacted, hview]
    exact hinv n hopen
  | rest hacted _ => exact absurd hacted (acted_of_isOpen hW hopen)
  | act o ch r ha hr hnode _ hacted hview hvm =>
    subst ha
    rw [isOpen, hacted, hview, Option.any_some] at hopen
    refine ⟨r, hvm.trans (kept_current hok hr hopen), hview, ?_⟩
    rcases hnode with ⟨hact, hclosing⟩ | hnode
    · exact hW.closed n _ r (hact ▸ hopen) hclosing
    · exact hnode

/-- What comes after a side effect: the daemon goes on, or the write that
    records it goes through. -/
theorem Held.next (hW : W.Lawful) (hinv : W.Held w) (hok : W.kept w a = true)
    (hmove : Moved w a w') {n : String} (hopen : W.isOpen (w.views (.daemon n)) = true) :
    (w'.vm = w.vm ∧ (w'.views (.daemon n)).vm = (w.views (.daemon n)).vm ∧
      ((w'.views (.daemon n)).acted = (w.views (.daemon n)).acted ∨
        (w.views (.daemon n)).acted = .relayed ∧ (w'.views (.daemon n)).acted = .sent)) ∨
    ∃ x ch r held, a = .call (.daemon n) (.updateVMStatus x) ch ∧ w.vm = some r ∧
      Write (.daemon n) (w.views (.daemon n)) r x.status ∧
      w' = (w.putStatus r x.status).release (.daemon n) held := by
  have hhost := hinv.host hopen
  have hquiet := kept_undisturbed hok (by rw [hhost]; exact hopen)
  have hacted₀ := acted_of_isOpen hW hopen
  cases hmove.daemonMove.actStep n with
  | keep hacted hview => exact .inl ⟨hinv.vm_same hW hok hmove hopen hacted, hview, .inl hacted⟩
  | rest hacted hwhy =>
    rcases hwhy with rfl | ⟨x, ch, rfl⟩ | hnone
    · simp [World.disturbs, hhost] at hquiet
    · obtain ⟨vm, hvm, hr, -⟩ := hinv n hopen
      have hch : ch.refused = false := by simpa [World.disturbs, hhost] using hquiet
      obtain ⟨r, held, h⟩ := hmove.status_written (hr.trans hvm.symm) hch
      exact .inr ⟨x, ch, r, held, rfl, h⟩
    · exact absurd hnone hacted₀
  | act o ch r ha hr _ hbefore hacted hview hvm =>
    refine .inl ⟨hvm, hview.trans hr.symm, ?_⟩
    rcases hbefore with h | ⟨h, hsent⟩ | ⟨h, hclosed⟩
    · exact absurd h hacted₀
    · exact .inr ⟨h, hacted.trans hsent⟩
    · exact .inl (by rw [hacted, h, hclosed])

/-- The write that records a side effect goes through. -/
theorem Held.write (hW : W.Lawful) (hinv : W.Held w) {n : String} {x : VM} {ch : Choice}
    (hok : W.kept w (.call (.daemon n) (.updateVMStatus x) ch) = true)
    (hmove : Moved w (.call (.daemon n) (.updateVMStatus x) ch) w')
    (hopen : W.isOpen (w.views (.daemon n)) = true) :
    ∃ r, w.vm = some r ∧ Write (.daemon n) (w.views (.daemon n)) r x.status ∧
      w'.vm = some (World.withStatus r x.status) := by
  rcases hinv.next hW hok hmove hopen with ⟨-, -, hacted⟩ | ⟨x', ch', r, held, ha, hr, hwrite, hw⟩
  · obtain ⟨held, hview⟩ := hmove.released
    rw [hview] at hacted
    rcases hacted with h | ⟨-, h⟩
    · exact absurd h.symm (acted_of_isOpen hW hopen)
    · cases h
  · cases ha
    exact ⟨r, hr, hwrite, by rw [hw]; exact World.putStatus_vm hr⟩

end rules

end Window

end Virtink
