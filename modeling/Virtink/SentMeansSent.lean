import Virtink.Handover
import Virtink.Sends

/-! # Sent Means Sent

    The record of a migration says `Sent` when the source daemon has found the
    VM pod `Succeeded` while the record said `Running`. The daemon does not
    look at the send itself first: the pod may have ended for another reason,
    and the send may have failed. `CalledInv` follows the send from the call
    into the record; that the send has completed depends on what makes its
    source pod `Succeeded` (`EndsBySending`).
-/

namespace Virtink

open Calls

/-! ### A Send Was Issued -/

/-- A send was issued for the migration, from the pod of that name. -/
def World.SentFrom (w : World) (u : UID) (s : String) : Prop :=
  ∃ (k : Nat) (x : Send), w.sends[k]? = some x ∧ x.migration = u ∧ x.source = s

theorem World.SentFrom.mem_sent {w : World} {u : UID} {s : String} (h : w.SentFrom u s) :
    u ∈ w.sent := by
  obtain ⟨k, x, hx, rfl, -⟩ := h
  exact List.mem_map_of_mem (List.mem_of_getElem? hx)

/-- Sends are not forgotten. -/
theorem World.SentFrom.kept {w w' : World} {a : Action} {u : UID} {s : String}
    (h : w.SentFrom u s) (hmove : Moved w a w') : w'.SentFrom u s := by
  obtain ⟨k, x, hx, rfl, rfl⟩ := h
  obtain ⟨x', hx', huid, hsource, -⟩ := hmove.daemonMove.send_kept hx
  exact ⟨k, x', hx', huid, hsource⟩

/-- For a migration that is said to be under way, or is about to be, or was read
    so, a send was issued from the VM pod. -/
structure CalledInv (w : World) : Prop where
  issued : ∀ n r m, (w.views (.daemon n)).acted = .sent → (w.views (.daemon n)).vm = some r →
    r.status.migration = some m → w.SentFrom m.uid r.status.vmPodName
  record : ∀ vm m, w.vm = some vm → vm.status.migration = some m → m.phase = .running →
    w.SentFrom m.uid vm.status.vmPodName
  held : ∀ n r m, (w.views (.daemon n)).vm = some r → r.status.migration = some m →
    m.phase = .running → w.SentFrom m.uid r.status.vmPodName

namespace CalledInv

variable {w w' : World} {a : Action}

theorem issued_step (hinv : CalledInv w) (hmove : Moved w a w') {n : String} {r : VM}
    {m : Migration} (hacted : (w'.views (.daemon n)).acted = .sent)
    (hr : (w'.views (.daemon n)).vm = some r) (hm : r.status.migration = some m) :
    w'.SentFrom m.uid r.status.vmPodName := by
  cases hmove.daemonMove.nodeStep n with
  | same hview _ | pod _ _ hview _ | poll _ _ _ _ hview _ | look _ _ hview _
  | setBlock _ _ _ _ hview _ =>
    rw [hview] at hacted hr
    exact (hinv.issued n r m hacted hr hm).kept hmove
  | rest _ _ _ hview _ _ | crash _ hview _ | close _ _ _ hview _ =>
    rw [hview] at hacted
    cases hacted
  | act t ht _ hview _ =>
    rw [hview] at hacted
    rcases ht with rfl | rfl <;> cases hacted
  | send r' u pod hr' hsending _ hsends hview _ =>
    rw [hview] at hr
    obtain rfl : r' = r := Option.some.inj (hr'.symm.trans hr)
    obtain ⟨m', -, -, hm', -, rfl⟩ := hsending
    obtain rfl : m' = m := Option.some.inj (hm'.symm.trans hm)
    exact ⟨w.sends.length, _, by rw [hsends]; exact List.getElem?_concat_length, rfl, rfl⟩

theorem record_step (hinv : CalledInv w) (hocc : Occ w) (hblock : BlockInv w)
    (huntouched : ∀ vm, w.vm = some vm → Untouched vm.status) (hmove : Moved w a w')
    {vm' : VM} {m' : Migration} (hvm' : w'.vm = some vm') (hm' : vm'.status.migration = some m')
    (hrunning : m'.phase = .running) : w'.SentFrom m'.uid vm'.status.vmPodName := by
  have hbefore : ∀ vm, w.vm = some vm → vm'.status.migration = vm.status.migration →
      vm'.status.vmPodName = vm.status.vmPodName → w'.SentFrom m'.uid vm'.status.vmPodName := by
    intro vm hvm hrec hpod
    rw [hpod]
    exact (hinv.record vm m' hvm (hrec.symm.trans hm') hrunning).kept hmove
  cases (hmove.vmChange hocc).statusChange hvm' with
  | quiet cur action hcur hst => exact hbefore cur hcur (by rw [hst]) (by rw [hst])
  | written i y ch cur held _ hcur hread hwrite _ _ =>
    cases hwrite.handMove (huntouched cur hcur) with
    | same hrec _ hpod => exact hbefore cur hcur hrec hpod
    | early _ hnew => exact absurd hrunning (hnew m' hm').1
    | release _ _ _ _ hrec | reset _ hrec =>
      rw [hrec] at hm'
      cases hm'
    | send m k b hi hm _ hchan _ _ hrec _ hpod =>
      -- the daemon that says so has issued the send in this run
      subst hi
      have hacted := hblock.channel _ (by rw [hchan]; simp)
      rw [hrec] at hm'
      cases hm'
      rw [hpod]
      exact (hinv.issued _ cur m hacted hread hm).kept hmove
    | sent _ _ _ _ _ hrec | lost _ _ _ _ _ hrec | arrive _ _ _ _ hrec =>
      rw [hrec] at hm'
      cases hm'
      cases hrunning

end CalledInv

theorem Reached.calledInv {nodeIP : String → String} {ok : World → Action → Prop} {w : World}
    (h : Reached nodeIP ok w) : CalledInv w := by
  refine Reached.invariant ?_ ?_ h
  · intro w hinit
    obtain ⟨v, hst, -, rfl⟩ := hinit
    refine ⟨fun n r m hacted => (by cases hacted), fun vm m hvm hm => ?_,
      fun n r m hr => (by cases hr)⟩
    cases hvm
    rw [hst] at hm
    cases hm
  · intro w a w' hreach hinv _ hmove
    have hrecord : ∀ vm m, w'.vm = some vm → vm.status.migration = some m → m.phase = .running →
        w'.SentFrom m.uid vm.status.vmPodName :=
      fun vm m hvm hm => hinv.record_step hreach.occ hreach.blockInv hreach.pointerInv.untouched
        hmove hvm hm
    refine ⟨fun n r m hacted hr hm => hinv.issued_step hmove hacted hr hm, hrecord,
      fun n r m hr hm hrunning => ?_⟩
    rcases hmove.holdsCurrent (.daemon n) r hr with hold | hnow | ⟨h, -⟩
    · exact (hinv.held n r m hold hm hrunning).kept hmove
    · exact hrecord r m hnow hm hrunning
    · cases h

/-! ### The Source Pod Ends -/

/-- A stored pod of that name is `Succeeded`. -/
def World.ended (w : World) (s : String) : Bool :=
  w.pods.any fun p => p.name == s && p.phase == .succeeded

/-- A send of migration `u` completes. -/
def Event.completes (e : Event) (u : UID) (w : World) : Bool :=
  match e with
  | .completeSend k => (w.sends[k]?).any (·.migration == u)
  | _ => false

/-- Migration `u` is sent once, from a pod that has not ended, and then nothing
    makes this pod `Succeeded` but that the send completes. -/
def EndsBySending (u : UID) (w : World) : Action → Prop
  | .call _ (.startSend _ source _ m) _ => m = u → u ∉ w.sent ∧ w.ended source = false
  | .event e => e.completes u w = true ∨ ∀ w' ∈ w.event e, ∀ x ∈ w.sends, x.migration = u →
      w'.ended x.source = true → w.ended x.source = true
  | _ => True

instance (u : UID) (w : World) (a : Action) : Decidable (EndsBySending u w a) := by
  unfold EndsBySending
  split <;> infer_instance

/-- Every send of the migration has completed. -/
def World.Completed (w : World) (u : UID) : Prop :=
  ∀ x ∈ w.sends, x.migration = u → x.state = .completed

/-- A call makes no pod `Succeeded`. -/
theorem Effect.ended {i : Proc} {o : Op} {w w' : World} {s : String} (h : Effect i w o w')
    (hended : w'.ended s = true) : w.ended s = true := by
  obtain ⟨p', hp', hp⟩ := List.any_eq_true.mp hended
  refine List.any_eq_true.mpr ?_
  cases h with
  | createPod _ _ =>
    rcases List.mem_append.mp hp' with hmem | hmem
    · exact ⟨p', hmem, hp⟩
    · rw [List.mem_singleton] at hmem
      subst hmem
      simp [World.podOf] at hp
  | markPod =>
    obtain ⟨p, hmem, rfl⟩ := List.mem_map.mp hp'
    refine ⟨p, hmem, ?_⟩
    unfold World.markedAt at hp
    split at hp <;> exact hp
  | removePod => exact ⟨p', (List.mem_filter.mp hp').1, hp⟩
  | _ => exact ⟨p', hp', hp⟩

/-- How the source pod of the VM that a daemon holds was seen to have ended:
    before, or in this move, as it is stored. -/
theorem NodeStep.sourceEnded {n : String} {w w' : World} {a : Action} {r : VM}
    (h : NodeStep n w a w') (hr : (w'.views (.daemon n)).vm = some r)
    (hended : SourceEnded (w'.views (.daemon n)) r) :
    (w.views (.daemon n)).vm = some r ∧
      (SourceEnded (w.views (.daemon n)) r ∨ w.ended r.status.vmPodName = true) := by
  cases h with
  | same hview _ | poll _ _ _ _ hview _ | look _ _ hview _ | setBlock _ _ _ _ hview _
  | close _ _ _ hview _ | act _ _ _ hview _ | send _ _ _ _ _ _ _ hview _ =>
    rw [hview] at hr hended
    exact ⟨hr, .inl hended⟩
  | rest _ _ _ hview _ _ | crash _ hview _ =>
    rw [hview] at hended
    obtain ⟨p, hp, -⟩ := hended
    cases hp
  | pod p hp hview _ =>
    rw [hview] at hr hended
    obtain ⟨q, hq, hname, hphase⟩ := hended
    cases hq
    exact ⟨hr, .inr (List.any_eq_true.mpr ⟨p, hp, by simp [hname, hphase]⟩)⟩

/-- The send of migration `u` has completed when its source pod is `Succeeded`,
    or was when a daemon read it. -/
structure SourceInv (u : UID) (w : World) : Prop where
  once : ∀ (j k : Nat) (x y : Send), w.sends[j]? = some x → w.sends[k]? = some y → x.migration = u →
    y.migration = u → j = k
  pods : ∀ (k : Nat) (x : Send), w.sends[k]? = some x → x.migration = u → w.ended x.source = true →
    x.state = .completed
  views : ∀ n r m, (w.views (.daemon n)).vm = some r → r.status.migration = some m → m.uid = u →
    m.phase = .running → SourceEnded (w.views (.daemon n)) r → w.Completed u

namespace SourceInv

variable {nodeIP : String → String} {u : UID} {w w' : World} {a : Action}

/-- A send of the migration is the first one, from a pod that has not ended. -/
theorem fresh_of_issues {n : String} {r : VM} {v : UID} {k : Nat} {x : Send}
    (hok : EndsBySending u w a) (h : Issues n r v k x w a w') (hu : x.migration = u) :
    u ∉ w.sent ∧ w.ended x.source = false := by
  obtain ⟨pod, ctx, ch, rfl⟩ := h.call
  exact hok (h.migration.symm.trans hu)

theorem once_step (hinv : SourceInv u w) (hok : EndsBySending u w a) (hmove : Moved w a w')
    {j k : Nat} {x' y' : Send} (hx' : w'.sends[j]? = some x') (hy' : w'.sends[k]? = some y')
    (hxu : x'.migration = u) (hyu : y'.migration = u) : j = k := by
  rcases hmove.send_origin hx' with ⟨x, hx, -, hxm, -⟩ | ⟨n, r, v, hissues⟩
  · rcases hmove.send_origin hy' with ⟨y, hy, -, hym, -⟩ | ⟨n, r, v, hissues⟩
    · exact hinv.once j k x y hx hy (hxm.trans hxu) (hym.trans hyu)
    · have hfrom : w.SentFrom u x.source := ⟨j, x, hx, hxm.trans hxu, rfl⟩
      exact absurd hfrom.mem_sent (fresh_of_issues hok hissues hyu).1
  · rcases hmove.send_origin hy' with ⟨y, hy, -, hym, -⟩ | ⟨n', r', v', hissues'⟩
    · have hfrom : w.SentFrom u y.source := ⟨k, y, hy, hym.trans hyu, rfl⟩
      exact absurd hfrom.mem_sent (fresh_of_issues hok hissues hxu).1
    · -- one call issues one send
      obtain ⟨pod, ctx, ch, ha⟩ := hissues.call
      obtain ⟨pod', ctx', ch', ha'⟩ := hissues'.call
      obtain rfl : n = n' := by
        rw [ha] at ha'
        injection ha' with hn
        exact Proc.daemon.inj hn
      exact Option.some.inj (hissues.channel.symm.trans hissues'.channel)

theorem completed_of_ended (hinv : SourceInv u w) {k : Nat} {x : Send}
    (hx : w.sends[k]? = some x) (hxu : x.migration = u) (hended : w.ended x.source = true) :
    w.Completed u := by
  intro y hy hyu
  obtain ⟨j, hy⟩ := List.mem_iff_getElem?.mp hy
  obtain rfl := hinv.once j k y x hy hx hyu hxu
  obtain rfl := Option.some.inj (hy.symm.trans hx)
  exact hinv.pods j y hy hyu hended

/-- What has completed stays so, and there is no second send. -/
theorem completed_kept (hok : EndsBySending u w a) (hmove : Moved w a w') (hsent : u ∈ w.sent)
    (hdone : w.Completed u) : w'.Completed u := by
  intro x' hmem hu
  obtain ⟨k, hx'⟩ := List.mem_iff_getElem?.mp hmem
  rcases hmove.send_origin hx' with ⟨x, hx, -, hxm, -⟩ | ⟨n, r, v, hissues⟩
  · have hstate := hdone x (List.mem_of_getElem? hx) (hxm.trans hu)
    obtain ⟨x₁, hx₁, -, -, hsame⟩ := hmove.daemonMove.send_kept hx
    rw [hx', hsame (by rw [hstate]; nofun)] at hx₁
    cases hx₁
    exact hstate
  · exact absurd hsent (fresh_of_issues hok hissues hu).1

/-- Where the source pod had ended before the move, the send has completed. -/
theorem pods_before (hinv : SourceInv u w) (hok : EndsBySending u w a) (hmove : Moved w a w')
    {k : Nat} {x' : Send} (hx' : w'.sends[k]? = some x') (hu : x'.migration = u)
    (hended : w.ended x'.source = true) : x'.state = .completed := by
  rcases hmove.send_origin hx' with ⟨x, hx, hsource, hxm, -⟩ | ⟨n, r, v, hissues⟩
  · have hdone := hinv.completed_of_ended hx (hxm.trans hu) (hsource ▸ hended)
    have hfrom : w.SentFrom u x.source := ⟨k, x, hx, hxm.trans hu, rfl⟩
    exact completed_kept hok hmove hfrom.mem_sent hdone x' (List.mem_of_getElem? hx') hu
  · rw [(fresh_of_issues hok hissues hu).2] at hended
    cases hended

/-- The event that completes a send of the migration completes the only one. -/
theorem pods_completes (hinv : SourceInv u w) {e : Event} (he : e.completes u w = true)
    (hev : World.event e w = some w') {k : Nat} {x x' : Send} (hx : w.sends[k]? = some x)
    (hxu : x.migration = u) (hx' : w'.sends[k]? = some x') : x'.state = .completed := by
  unfold Event.completes at he
  split at he
  · next j =>
    obtain ⟨y, hy, hyu⟩ := (Option.any_eq_true ..).mp he
    obtain rfl := hinv.once j k y x hy hx (beq_iff_eq.mp hyu) hxu
    simp only [World.event, hx, Option.bind_some, Option.ite_none_right_eq_some,
      Option.some.injEq] at hev
    obtain ⟨hrun, rfl⟩ := hev
    simp [World.onPod, World.mapPods, World.endSend, hx, hrun] at hx'
    rw [← hx']
  · cases he

theorem pods_step (hinv : SourceInv u w) (hok : EndsBySending u w a)
    (hstep : GStep (system nodeIP) (contract nodeIP).guards w a w') {k : Nat} {x' : Send}
    (hx' : w'.sends[k]? = some x') (hu : x'.migration = u) (hended : w'.ended x'.source = true) :
    x'.state = .completed := by
  have hmove := moved_of_gstep hstep
  by_cases hnew : w.ended x'.source = true
  · exact hinv.pods_before hok hmove hx' hu hnew
  cases hstep with
  | start _ | finish _ => exact absurd hended hnew
  | @crash i => cases i <;> exact absurd hended hnew
  | call _ hans => exact absurd ((effect_of_answer hans).ended hended) hnew
  | event hev =>
    rcases hmove.send_origin hx' with ⟨x, hx, hsource, hxm, -⟩ | ⟨n, r, v, hissues⟩
    · rcases hok with hcompletes | hother
      · exact hinv.pods_completes hcompletes hev hx (hxm.trans hu) hx'
      · rw [← hsource] at hended hnew
        exact absurd (hother w' hev x (List.mem_of_getElem? hx) (hxm.trans hu) hended) hnew
    · obtain ⟨pod, ctx, ch, ha⟩ := hissues.call
      cases ha

theorem views_step (hinv : SourceInv u w) (hcalled : CalledInv w) (hok : EndsBySending u w a)
    (hmove : Moved w a w') {n : String} {r : VM} {m : Migration}
    (hr : (w'.views (.daemon n)).vm = some r) (hm : r.status.migration = some m) (hu : m.uid = u)
    (hrunning : m.phase = .running) (hended : SourceEnded (w'.views (.daemon n)) r) :
    w'.Completed u := by
  obtain ⟨hr, hended⟩ := (hmove.daemonMove.nodeStep n).sourceEnded hr hended
  have hfrom := hcalled.held n r m hr hm hrunning
  rw [hu] at hfrom
  refine completed_kept hok hmove hfrom.mem_sent ?_
  rcases hended with hended | hended
  · exact hinv.views n r m hr hm hu hrunning hended
  · obtain ⟨k, x, hx, hxu, hsource⟩ := hfrom
    exact hinv.completed_of_ended hx hxu (hsource ▸ hended)

end SourceInv

theorem Reached.sourceInv {nodeIP : String → String} {ok : World → Action → Prop} {u : UID}
    {w : World} (hends : ∀ w a, ok w a → EndsBySending u w a) (h : Reached nodeIP ok w) :
    SourceInv u w := by
  refine GReach.invariant ?_ ?_ h
  · intro w hinit
    obtain ⟨v, -, -, rfl⟩ := hinit
    exact {
      once := fun j k x y hx => by cases hx
      pods := fun k x hx => by cases hx
      views := fun n r m hr => by cases hr }
  · intro w a w' hreach hinv hok hstep
    have hmove := moved_of_gstep hstep
    have hok := hends w a hok
    exact {
      once := fun j k x y hx hy hxu hyu => hinv.once_step hok hmove hx hy hxu hyu
      pods := fun k x hx hu hended => hinv.pods_step hok hstep hx hu hended
      views := fun n r m hr hm hu hrunning hended =>
        hinv.views_step (Reached.calledInv hreach) hok hmove hr hm hu hrunning hended }

/-! ### The Phase Becomes `Sent` -/

/-- The record of migration `u` says `Sent`. -/
def World.SaysSent (w : World) (u : UID) : Prop :=
  ∃ vm m, w.vm = some vm ∧ vm.status.migration = some m ∧ m.uid = u ∧ m.phase = .sent

section steps
variable {nodeIP : String → String} {w w' : World} {a : Action} {u : UID}

/-- The record has come to say `Sent` by the write of a daemon that has read it
    as `Running` and the VM pod as `Succeeded`. -/
theorem Moved.says_sent (hmove : Moved w a w') (hocc : Occ w)
    (huntouched : ∀ vm, w.vm = some vm → Untouched vm.status) (hsent : w'.SaysSent u)
    (hnew : ¬ w.SaysSent u) :
    w'.sends = w.sends ∧ ∃ n r m, (w.views (.daemon n)).vm = some r ∧
      r.status.migration = some m ∧ m.uid = u ∧ m.phase = .running ∧
      SourceEnded (w.views (.daemon n)) r := by
  obtain ⟨vm', m', hvm', hm', rfl, hphase⟩ := hsent
  have hno : ∀ vm, w.vm = some vm → vm'.status.migration = vm.status.migration → False := by
    intro vm hvm hrec
    exact hnew ⟨vm, m', hvm, hrec.symm.trans hm', rfl, hphase⟩
  cases (hmove.vmChange hocc).statusChange hvm' with
  | quiet cur action hcur hst => exact (hno cur hcur (by rw [hst])).elim
  | written i y ch cur held _ hcur hread hwrite _ hw =>
    cases hwrite.handMove (huntouched cur hcur) with
    | same hrec _ _ => exact (hno cur hcur hrec).elim
    | early _ hearly => exact absurd hphase (hearly m' hm').2
    | release _ _ _ _ hrec | reset _ hrec =>
      rw [hrec] at hm'
      cases hm'
    | sent m hi hm hmp hended hrec =>
      subst hi
      rw [hrec] at hm'
      cases hm'
      exact ⟨by rw [hw]; rfl, _, cur, m, hread, hm, rfl, hmp, hended⟩
    | send _ _ _ _ _ _ _ _ _ hrec _ _ | lost _ _ _ _ _ hrec | arrive _ _ _ _ hrec =>
      rw [hrec] at hm'
      cases hm'
      cases hphase

/-- **Sent means sent**. In every run, when the phase of a migration becomes
    `Sent`, `VmSendMigration` was called for it; and it has returned without an
    error, provided that all along the migration was sent once, from a pod that
    had not ended, and this pod became `Succeeded` only through the send. -/
theorem sent_means_sent {ok : World → Action → Prop} {c c' : Config}
    (h : Reach (system nodeIP) ok Init c) (hstep : Step (system nodeIP) c a c')
    (hnew : ¬ c.store.SaysSent u) (hsent : c'.store.SaysSent u) :
    u ∈ c'.store.sent ∧ ((∀ w a, ok w a → EndsBySending u w a) → c'.store.Completed u) := by
  have hmove := moved_of_step h hstep
  have hreached := reached_of_reach h
  obtain ⟨hsends, n, r, m, hr, hm, hu, hrunning, hended⟩ :=
    hmove.says_sent hreached.occ hreached.pointerInv.untouched hsent hnew
  constructor
  · rw [← hu]
    exact ((hreached.calledInv.held n r m hr hm hrunning).kept hmove).mem_sent
  · intro hends x hx
    rw [hsends] at hx
    exact (hreached.sourceInv hends).views n r m hr hm hu hrunning hended x hx

end steps

namespace Sample

/-- The source daemon looks after its send, up to the status write. -/
def looks : Script :=
  .start (.daemon "a") :: List.replicate 7 (.call (.daemon "a") .ok)

/-- The record of the sample migration says `Sent`. -/
def saysSent (w : World) : Bool :=
  w.vm.any (fun vm => vm.status.migration.any (fun m => m.uid == "u" && m.phase == .sent))

theorem saysSent_iff {w : World} : saysSent w = true ↔ w.SaysSent "u" := by
  simp only [saysSent, Option.any_eq_true, Bool.and_eq_true, beq_iff_eq]
  constructor
  · intro h
    obtain ⟨vm, hvm, m, hm, huid, hphase⟩ := h
    exact ⟨vm, m, hvm, hm, huid, hphase⟩
  · intro h
    obtain ⟨vm, m, hvm, hm, huid, hphase⟩ := h
    exact ⟨vm, hvm, m, hm, huid, hphase⟩

/-- The phase becomes `Sent`, with a send in that state. -/
def becomesSent (st : SendState) (c : Config) (_ : Action) (c' : Config) : Bool :=
  !saysSent c.store && saysSent c'.store && c'.store.sends.map (·.state) == [st] &&
    c'.store.sends.map (·.migration) == ["u"]

end Sample

/-- The sample migration: the send completes, and the record says `Sent`. -/
theorem sent_means_sent_sample :
    ∃ c a c', Reach Sample.cluster (EndsBySending "u") Init c ∧ Step Sample.cluster c a c' ∧
      ¬ c.store.SaysSent "u" ∧ c'.store.SaysSent "u" ∧ "u" ∈ c'.store.sent ∧
      c'.store.Completed "u" := by
  obtain ⟨c, a, c', hreach, hstep, htest⟩ := Sample.step (EndsBySending "u")
    (Sample.targetReady ++ Sample.sends ++ [.event (.completeSend 0)] ++ Sample.looks)
    (.call (.daemon "a") .ok) (Sample.becomesSent .completed) (by decide +kernel)
  simp only [Sample.becomesSent, Bool.and_eq_true, Bool.not_eq_true', beq_iff_eq] at htest
  obtain ⟨⟨⟨hnew, hsent⟩, -⟩, -⟩ := htest
  have hnew : ¬ c.store.SaysSent "u" := fun h =>
    (Bool.eq_false_iff.mp hnew) (Sample.saysSent_iff.mpr h)
  have hsent := Sample.saysSent_iff.mp hsent
  obtain ⟨hcalled, hgood⟩ := sent_means_sent hreach hstep hnew hsent
  exact ⟨c, a, c', hreach, hstep, hnew, hsent, hcalled, hgood fun _ _ h => h⟩

/-- The guest shuts itself down while it is being sent. The send returns an
    error, the VM pod is `Succeeded`, and the record comes to say `Sent`. -/
theorem sent_after_failed_send :
    ∃ c a c', Reachable Sample.cluster Init c ∧ Step Sample.cluster c a c' ∧
      ¬ c.store.SaysSent "u" ∧ c'.store.SaysSent "u" ∧ "u" ∈ c'.store.sent ∧
      ∀ x ∈ c'.store.sends, x.migration = "u" → x.state = .failed := by
  obtain ⟨c, a, c', hreach, hstep, htest⟩ := Sample.step anyStep
    (Sample.targetReady ++ Sample.sends ++
      [.event (.failSend 0), .event (.setPodPhase "uid-a" .succeeded)] ++ Sample.looks)
    (.call (.daemon "a") .ok) (Sample.becomesSent .failed) (by decide +kernel)
  simp only [Sample.becomesSent, Bool.and_eq_true, Bool.not_eq_true', beq_iff_eq] at htest
  obtain ⟨⟨⟨hnew, hsent⟩, hstate⟩, huid⟩ := htest
  refine ⟨c, a, c', hreach, hstep, fun h => ?_, Sample.saysSent_iff.mp hsent, ?_, ?_⟩
  · exact (Bool.eq_false_iff.mp hnew) (Sample.saysSent_iff.mpr h)
  · rw [World.sent, huid]
    exact List.mem_singleton_self _
  · intro x hx _
    have hmem : x.state ∈ c'.store.sends.map (·.state) := List.mem_map_of_mem hx
    rw [hstate] at hmem
    exact List.mem_singleton.mp hmem

end Virtink
