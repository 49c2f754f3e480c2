import Virtink.Incarnations
import Virtink.Pointers
import Virtink.Daemons

/-! # Pod Names

    Pod names are drawn at random and put into the status: first as the name of
    the VM pod, later as the name of a target pod, which becomes the VM pod
    when the guest has arrived. If no name is drawn twice, a pod the guest was
    sent from is never named by the status again once its name has gone
    (`NameInv.source_kept`).
-/

namespace Virtink

open Calls

/-! ### What a Write Does to the Names -/

/-- What a status write of process `i` with view `v` does to the pod names. -/
inductive NameMove (i : Proc) (v : View) (old new : VMStatus) : Prop where
  /-- The names stay, or the record goes or is new. -/
  | keep (hpod : new.vmPodName = old.vmPodName)
      (htarget : ∀ m', new.migration = some m' → m'.targetVMPodName = "" ∨
        ∃ m, old.migration = some m ∧ m.targetVMPodName = m'.targetVMPodName ∧
          (m'.phase.terminal = false → m.phase.terminal = false))
  | pod (hi : i = .controller) (hphase : old.phase = .pending)
      (hs : v.drawn = some new.vmPodName) (hrec : new.migration = old.migration)
  | target (hi : i = .controller) (m' : Migration) (hpod : new.vmPodName = old.vmPodName)
      (hm' : new.migration = some m') (hs : v.drawn = some m'.targetVMPodName)
  | reset (hpod : new.vmPodName = "") (hrec : new.migration = none)
  /-- The target pod becomes the VM pod. -/
  | arrive (m m' : Migration) (hm : old.migration = some m) (hmp : m.phase = .sent)
      (hpod : new.vmPodName = m.targetVMPodName) (hm' : new.migration = some m')
      (htarget : m'.targetVMPodName = m.targetVMPodName) (hterm : m'.phase.terminal = true)

section moves
variable {i : Proc} {v : View} {r : VM} {st : VMStatus}

theorem NameMove.same (hpod : st.vmPodName = r.status.vmPodName)
    (hrec : st.migration = r.status.migration) : NameMove i v r.status st :=
  .keep hpod fun m' hm' => .inr ⟨m', hrec ▸ hm', rfl, id⟩

theorem NameMove.push {m m' : Migration} (hpod : st.vmPodName = r.status.vmPodName)
    (hm : r.status.migration = some m) (hm' : st.migration = some m')
    (htarget : m.targetVMPodName = m'.targetVMPodName) (hmp : m.phase.terminal = false) :
    NameMove i v r.status st :=
  .keep hpod fun m'' hm'' => by
    rw [hm'] at hm''; cases hm''
    exact .inr ⟨m, hm, htarget, fun _ => hmp⟩

theorem CtrlWrite.nameMove (h : CtrlWrite v r st) : NameMove .controller v r.status st := by
  cases h with
  | same h | pod _ _ _ _ _ _ _ h | lost _ h | stop _ _ _ h =>
    have hpod := VMStatus.vmPodName_of_core h
    have hrec := VMStatus.migration_of_core h
    exact .same hpod hrec
  | name s hphase hs h =>
    have hpod := VMStatus.vmPodName_of_core h
    have hrec := VMStatus.migration_of_core h
    exact .pod rfl hphase (hs.trans (congrArg some hpod.symm)) hrec
  | target m s _ _ _ hs h =>
    have hpod := VMStatus.vmPodName_of_core h
    have hrec := VMStatus.migration_of_core h
    exact .target rfl _ hpod hrec hs
  | targetPod m p _ ph _ hm hmp _ _ _ _ h =>
    have hpod := VMStatus.vmPodName_of_core h
    have hrec := VMStatus.migration_of_core h
    exact .push hpod hm hrec rfl (by rw [hmp]; rfl)
  | reset _ _ _ _ h => subst h; exact .reset rfl rfl

theorem VmmWrite.nameMove {u : UID} (h : VmmWrite u v r st) :
    NameMove (.vmm u) v r.status st := by
  cases h with
  | release _ _ _ _ _ _ _ _ h => subst h; exact .keep rfl fun m' hm' => by cases hm'
  | acquire _ _ _ _ _ _ h =>
    subst h
    exact .keep rfl fun m' hm' => by cases hm'; exact .inl rfl

theorem DaemonWrite.nameMove {n : String} (h : DaemonWrite n v r st) :
    NameMove (.daemon n) v r.status st := by
  cases h with
  | same h | bury _ h | power _ _ _ h | stop _ _ _ h => subst h; exact .same rfl rfl
  | volumes _ h | boot _ _ _ _ h =>
    have hpod := VMStatus.vmPodName_of_core h
    have hrec := VMStatus.migration_of_core h
    exact .same hpod hrec
  | target m _ _ _ _ _ hm hmp _ h =>
    have hpod := VMStatus.vmPodName_of_core h
    have hrec := VMStatus.migration_of_core h
    exact .push hpod hm hrec rfl (by rw [hmp]; rfl)
  | send m _ _ _ _ hm hmp _ _ _ _ h | sent m _ _ hm hmp _ h | lost m _ _ hm hmp _ h =>
    subst h
    exact .push rfl hm rfl rfl (by rw [hmp]; rfl)
  | arrive m _ _ hm hmp h => subst h; exact .arrive m _ hm hmp rfl rfl rfl rfl

theorem Write.nameMove (h : Write i v r st) : NameMove i v r.status st := by
  cases i with
  | controller => exact CtrlWrite.nameMove h
  | vmm u => exact VmmWrite.nameMove h
  | daemon n => exact h.1.nameMove

theorem VMStatus.mem_named {st : VMStatus} {s : String} :
    s ∈ st.named ↔ s = st.vmPodName ∨ ∃ m, st.migration = some m ∧ m.targetVMPodName = s := by
  simp only [VMStatus.named, List.mem_cons, Option.mem_toList, Option.map_eq_some_iff]

/-- The names in a new status were in the old one or were just drawn. -/
theorem NameMove.named {old new : VMStatus} (h : NameMove i v old new) {s : String}
    (hs : s ∈ new.named) (hne : s ≠ "") :
    s ∈ old.named ∨ (i = .controller ∧ v.drawn = some s) := by
  rw [VMStatus.mem_named] at hs ⊢
  cases h with
  | keep hpod htarget =>
    rcases hs with rfl | ⟨m', hm', rfl⟩
    · exact .inl (.inl hpod)
    · rcases htarget m' hm' with h | ⟨m, hm, htarget, -⟩
      · exact absurd h hne
      · exact .inl (.inr ⟨m, hm, htarget⟩)
  | pod hi _ hdrawn hrec =>
    rcases hs with rfl | ⟨m', hm', rfl⟩
    · exact .inr ⟨hi, hdrawn⟩
    · exact .inl (.inr ⟨m', hrec ▸ hm', rfl⟩)
  | target hi m hpod hm hdrawn =>
    rcases hs with rfl | ⟨m', hm', rfl⟩
    · exact .inl (.inl hpod)
    · rw [hm] at hm'; cases hm'
      exact .inr ⟨hi, hdrawn⟩
  | reset hpod hrec =>
    rcases hs with rfl | ⟨m', hm', -⟩
    · exact absurd hpod hne
    · rw [hrec] at hm'; cases hm'
  | arrive m m' hm _ hpod hm' htarget _ =>
    rcases hs with rfl | ⟨m'', hm'', rfl⟩
    · exact .inl (.inr ⟨m, hm, hpod.symm⟩)
    · rw [hm'] at hm''; cases hm''
      exact .inl (.inr ⟨m, hm, htarget.symm⟩)

end moves

/-! ### Drawing and Sending -/

/-- Every name is drawn once. -/
def FreshNames (w : World) : Action → Prop
  | .call _ (.generateName _) (.name s) => s ∉ w.names
  | _ => True

instance (w : World) (a : Action) : Decidable (FreshNames w a) := by
  unfold FreshNames
  split <;> infer_instance

section draws
variable {w w' : World} {a : Action}

theorem Moved.names (h : Moved w a w') {s : String} (hs : s ∈ w.names) : s ∈ w'.names := by
  cases h with
  | start i _ | finish i _ => exact hs
  | crash i => cases i <;> exact hs
  | call i o ch _ _ heff =>
    cases heff with
    | draw _ => exact List.mem_cons_of_mem _ hs
    | _ => exact hs
  | event e hev => cases hev <;> exact hs

/-- The controller holds a name that it has just drawn, or held before and has
    not written. -/
theorem Moved.drawn (h : Moved w a w') {s : String}
    (hs : (w'.views .controller).drawn = some s) :
    ((w.views .controller).drawn = some s ∧
      ∀ x ch, a ≠ .call .controller (.updateVMStatus x) ch) ∨
    ∃ base, a = .call .controller (.generateName base) (.name s) ∧ s ≠ "" ∧
      w' = { w with names := s :: w.names }.see .controller
        { w.views .controller with drawn := some s } := by
  have hnotWritten : ∀ x ch, a ≠ .call .controller (.updateVMStatus x) ch := by
    rintro x ch rfl
    obtain ⟨held, hview⟩ := h.released
    rw [hview] at hs; cases hs
  rcases h.view .controller with hv | ⟨hv, -⟩ | ⟨o, ch, rfl, hg, heff⟩
  · exact .inl ⟨by rw [← hv]; exact hs, hnotWritten⟩
  · rw [hv] at hs; cases hs
  · by_cases ho : ∃ base, o = .generateName base
    · obtain ⟨base, rfl⟩ := ho
      obtain ⟨ans, hans⟩ := h.answer
      simp only [World.answer] at hans
      split at hans
      · next s' =>
        split at hans
        · cases hans
        · next hne =>
          cases hans
          rw [World.see_views_self] at hs; cases hs
          exact .inr ⟨base, rfl, hne, rfl⟩
      · cases hans
    · refine .inl ⟨?_, hnotWritten⟩
      cases heff with
      | draw _ => exact absurd ⟨_, rfl⟩ ho
      | same | createPod _ _ | markPod | removePod => exact hs
      | keepStatus _ | writeStatus _ _ _ _ => exact absurd rfl (hnotWritten _ _)
      | keepVMM | writeVMM _ _ => exact hg.elim
      | _ => simpa [World.hold, World.replace] using hs

end draws

/-! ### The Invariant -/

/-- Sends are issued for the stored VM. -/
def SendsStored (w : World) (a : Action) : Prop :=
  ∀ i o ch r, a = .call i o ch → o.act = .sent → (w.views i).vm = some r → w.vm = some r

/-- No name is used twice. -/
structure NameInv (w : World) : Prop where
  named : ∀ vm, w.vm = some vm → NamedIn w.names vm.status
  source : ∀ x ∈ w.sends, x.source ≠ "" ∧ x.source ∈ w.names
  /-- A name the controller has drawn is not in use yet. -/
  drawn : ∀ s, (w.views .controller).drawn = some s → s ≠ "" ∧ s ∈ w.names ∧
    (∀ x ∈ w.sends, x.source ≠ s) ∧ ∀ vm, w.vm = some vm → s ∉ vm.status.named
  /-- The guest was not sent from the target pod of an active migration. -/
  apart : ∀ vm m, w.vm = some vm → vm.status.migration = some m → m.phase.terminal = false →
    m.targetVMPodName ≠ "" → vm.status.vmPodName ≠ m.targetVMPodName ∧
      ∀ x ∈ w.sends, x.source ≠ m.targetVMPodName

/-- What a move does to the names in the status. -/
theorem VMChange.nameMove {w w' : World} {a : Action} (h : VMChange w a w') {vm' : VM}
    (hvm' : w'.vm = some vm') :
    ∃ vm, w.vm = some vm ∧
      ((vm'.status.vmPodName = vm.status.vmPodName ∧
          vm'.status.migration = vm.status.migration) ∨
        ∃ i x ch, a = .call i (.updateVMStatus x) ch ∧
          NameMove i (w.views i) vm.status vm'.status) := by
  cases h.statusChange hvm' with
  | quiet cur action hcur hst => exact ⟨cur, hcur, .inl ⟨by rw [hst], by rw [hst]⟩⟩
  | written i x ch cur held ha hcur _ hwrite _ _ =>
    exact ⟨cur, hcur, .inr ⟨i, x, ch, ha, hwrite.nameMove⟩⟩

namespace NameInv

variable {w w' : World} {a : Action}

theorem named_step (hinv : NameInv w) (hocc : Occ w) (hmove : Moved w a w') {vm' : VM}
    (hvm' : w'.vm = some vm') : NamedIn w'.names vm'.status := by
  intro s hs hne
  refine hmove.names ?_
  obtain ⟨vm, hvm, ⟨hpod, hrec⟩ | ⟨i, x, ch, -, hname⟩⟩ := (hmove.vmChange hocc).nameMove hvm'
  · rw [VMStatus.mem_named, hpod, hrec, ← VMStatus.mem_named] at hs
    exact hinv.named vm hvm s hs hne
  · rcases hname.named hs hne with h | ⟨rfl, h⟩
    · exact hinv.named vm hvm s h hne
    · exact (hinv.drawn s h).2.1

/-- A new send is from the VM pod of the running guest. -/
theorem source_origin (hsend : SendsStored w a) (hmove : Moved w a w') {x' : Send}
    (hx' : x' ∈ w'.sends) :
    (∃ x ∈ w.sends, x.source = x'.source) ∨
    (∃ r, w.vm = some r ∧ r.status.phase = .running ∧ x'.source = r.status.vmPodName ∧
      ∀ i x ch, a ≠ .call i (.updateVMStatus x) ch) := by
  obtain ⟨k, hk⟩ := List.mem_iff_getElem?.mp hx'
  rcases hmove.send_origin hk with ⟨x, hx, hsource, -⟩ | ⟨n, r, u, h⟩
  · exact .inl ⟨x, List.mem_iff_getElem?.mpr ⟨k, hx⟩, hsource⟩
  · obtain ⟨pod, ctx, ch, rfl⟩ := h.call
    obtain ⟨m, -, hphase, -⟩ := h.sending
    refine .inr ⟨r, hsend _ _ ch r rfl rfl h.read, hphase, h.source, fun i x ch' h => ?_⟩
    cases h

theorem source_step (hinv : NameInv w) (hwell : ∀ vm, w.vm = some vm → WellNamed vm.status)
    (hsend : SendsStored w a) (hmove : Moved w a w') {x' : Send} (hx' : x' ∈ w'.sends) :
    x'.source ≠ "" ∧ x'.source ∈ w'.names := by
  rcases source_origin hsend hmove hx' with ⟨x, hx, h⟩ | ⟨r, hr, hphase, h, -⟩
  · rw [← h]
    exact ⟨(hinv.source x hx).1, hmove.names (hinv.source x hx).2⟩
  · have hne := (hwell r hr).vmPod (by rw [hphase]; rfl)
    rw [h]
    exact ⟨hne, hmove.names (hinv.named r hr _ (.head _) hne)⟩

theorem drawn_step (hinv : NameInv w) (hocc : Occ w) (hfresh : FreshNames w a)
    (hsend : SendsStored w a) (hmove : Moved w a w') {s : String}
    (hs : (w'.views .controller).drawn = some s) :
    s ≠ "" ∧ s ∈ w'.names ∧ (∀ x ∈ w'.sends, x.source ≠ s) ∧
      ∀ vm, w'.vm = some vm → s ∉ vm.status.named := by
  rcases hmove.drawn hs with ⟨hold, hnot⟩ | ⟨base, rfl, hne, hw⟩
  · obtain ⟨hne, hmem, hsrc, hst⟩ := hinv.drawn s hold
    refine ⟨hne, hmove.names hmem, fun x' hx' => ?_, fun vm' hvm' hin => ?_⟩
    · rcases source_origin hsend hmove hx' with ⟨x, hx, h⟩ | ⟨r, hr, -, h, -⟩
      · rw [← h]; exact hsrc x hx
      · rw [h]
        exact fun h => hst r hr (VMStatus.mem_named.mpr (.inl h.symm))
    · obtain ⟨vm, hvm, ⟨hpod, hrec⟩ | ⟨i, x, ch, ha, hname⟩⟩ := (hmove.vmChange hocc).nameMove hvm'
      · rw [VMStatus.mem_named, hpod, hrec, ← VMStatus.mem_named] at hin
        exact hst vm hvm hin
      · rcases hname.named hin hne with h | ⟨rfl, -⟩
        · exact hst vm hvm h
        · exact hnot x ch ha
  · -- a name that was never drawn is nowhere
    subst hw
    refine ⟨hne, .head _, fun x hx h => ?_, fun vm hvm hin => ?_⟩
    · exact hfresh (h ▸ (hinv.source x hx).2)
    · exact hfresh (hinv.named vm hvm s hin hne)

theorem apart_step (hinv : NameInv w) (hocc : Occ w)
    (huntouched : ∀ vm, w.vm = some vm → Untouched vm.status) (hsend : SendsStored w a)
    (hmove : Moved w a w') {vm' : VM} {m' : Migration} (hvm' : w'.vm = some vm')
    (hm' : vm'.status.migration = some m') (hterm : m'.phase.terminal = false)
    (hne : m'.targetVMPodName ≠ "") :
    vm'.status.vmPodName ≠ m'.targetVMPodName ∧
      ∀ x ∈ w'.sends, x.source ≠ m'.targetVMPodName := by
  obtain ⟨vm, hvm, ⟨hpod, hrec⟩ | ⟨i, x, ch, ha, hname⟩⟩ := (hmove.vmChange hocc).nameMove hvm'
  · obtain ⟨hpod', hsrc⟩ := hinv.apart vm m' hvm (hrec ▸ hm') hterm hne
    refine ⟨hpod ▸ hpod', fun x' hx' => ?_⟩
    rcases source_origin hsend hmove hx' with ⟨x, hx, h⟩ | ⟨r, hr, -, h, -⟩
    · rw [← h]; exact hsrc x hx
    · rw [hvm] at hr; cases hr
      rw [h]; exact hpod'
  · -- a write issues no send
    have hsends : ∀ x' ∈ w'.sends, ∃ x ∈ w.sends, x.source = x'.source := fun x' hx' =>
      (source_origin hsend hmove hx').resolve_right fun ⟨_, _, _, _, h⟩ => h i x ch ha
    have hall : (∀ x ∈ w.sends, x.source ≠ m'.targetVMPodName) →
        ∀ x ∈ w'.sends, x.source ≠ m'.targetVMPodName := by
      intro h x' hx'
      obtain ⟨x, hx, heq⟩ := hsends x' hx'
      rw [← heq]; exact h x hx
    cases hname with
    | keep hpod htarget =>
      rcases htarget m' hm' with h | ⟨m, hm, htarget, hactive⟩
      · exact absurd h hne
      · obtain ⟨hpod', hsrc⟩ := hinv.apart vm m hvm hm (hactive hterm) (by rw [htarget]; exact hne)
        rw [htarget] at hpod' hsrc
        exact ⟨hpod ▸ hpod', hall hsrc⟩
    | pod _ hphase _ hrec =>
      -- before the guest runs a record has no target
      have := huntouched vm hvm (.inr (.inl hphase)) m' (hrec ▸ hm')
      rw [this] at hne
      exact absurd rfl hne
    | target hi m hpod hm hdrawn =>
      rw [hm] at hm'; cases hm'
      subst hi
      obtain ⟨-, -, hsrc, hst⟩ := hinv.drawn _ hdrawn
      refine ⟨fun h => hst vm hvm (VMStatus.mem_named.mpr (.inl ?_)), hall hsrc⟩
      rw [← hpod, h]
    | reset _ hrec => rw [hrec] at hm'; cases hm'
    | arrive m m'' _ _ _ hm'' _ hterm' =>
      rw [hm''] at hm'; cases hm'
      rw [hterm'] at hterm; cases hterm

theorem step (hinv : NameInv w) (hocc : Occ w)
    (hwell : ∀ vm, w.vm = some vm → WellNamed vm.status)
    (huntouched : ∀ vm, w.vm = some vm → Untouched vm.status) (hfresh : FreshNames w a)
    (hsend : SendsStored w a) (hmove : Moved w a w') : NameInv w' where
  named _ hvm' := hinv.named_step hocc hmove hvm'
  source _ hx' := hinv.source_step hwell hsend hmove hx'
  drawn _ hs := hinv.drawn_step hocc hfresh hsend hmove hs
  apart _ _ hvm' hm' hterm hne := hinv.apart_step hocc huntouched hsend hmove hvm' hm' hterm hne

/-- **A status that names the source of a send has named it before.** -/
theorem source_kept (hinv : NameInv w) {i : Proc} {r : VM} {st : VMStatus} {x : Send}
    (hr : w.vm = some r) (hwrite : Write i (w.views i) r st) (hx : x ∈ w.sends)
    (hsource : x.source = st.vmPodName) : st.vmPodName = r.status.vmPodName := by
  cases hwrite.nameMove with
  | keep hpod _ | target _ _ hpod _ _ => exact hpod
  | pod hi _ hdrawn _ =>
    subst hi
    exact absurd hsource ((hinv.drawn _ hdrawn).2.2.1 x hx)
  | reset hpod _ => exact absurd (hsource.trans hpod) (hinv.source x hx).1
  | arrive m _ hm hmp hpod _ _ _ =>
    rw [hpod] at hsource
    have hne : m.targetVMPodName ≠ "" := hsource ▸ (hinv.source x hx).1
    exact absurd hsource ((hinv.apart r m hr hm (by rw [hmp]; rfl) hne).2 x hx)

end NameInv

/-- No name is used twice, if no name is drawn twice and sends are issued for
    the stored VM. -/
theorem Reached.nameInv {nodeIP : String → String} {ok : World → Action → Prop} {w : World}
    (hfresh : ∀ w a, ok w a → FreshNames w a) (hsend : ∀ w a, ok w a → SendsStored w a)
    (h : Reached nodeIP ok w) : NameInv w := by
  refine Reached.invariant ?_ ?_ h
  · rintro w ⟨v, hst, -, rfl⟩
    exact {
      named := fun vm hvm s hs hne => by
        cases hvm
        rw [hst] at hs
        exact absurd (List.mem_singleton.mp hs) hne
      source := fun x hx => by cases hx
      drawn := fun s hs => by cases hs
      apart := fun vm m hvm hm => by cases hvm; rw [hst] at hm; cases hm }
  · intro w a w' hreach hinv hok hmove
    exact hinv.step hreach.occ (fun vm hvm => (hreach.incarnationInv.status vm hvm).1)
      hreach.pointerInv.untouched (hfresh w a hok) (hsend w a hok) hmove

end Virtink
