import Virtink.Daemons

/-! # What a Daemon Remembers

    The daemon keeps the channel of the send it has issued in its memory, and
    later looks there to learn whether the send has failed. This module follows
    the channel from the send through the view of the daemon into its memory
    (`BlockInv`). It holds in every run; a restart of the daemon empties both.
-/

namespace Virtink

open Calls

/-- The channel that the daemon on node `n` remembers. -/
def World.errCh (w : World) (n : String) : Option Nat :=
  (w.memory n).bind (·.sendMigrationErrCh)

/-- What a move does to the view and the memory of the daemon on node `n`. -/
inductive NodeStep (n : String) (w : World) (a : Action) (w' : World) : Prop where
  | same (hview : w'.views (.daemon n) = w.views (.daemon n)) (hmem : w'.memory n = w.memory n)
  /-- The daemon begins a run, ends it, or issues its status write. -/
  | rest (vm : Option VM) (gone : Bool) (vmm : Option VMM)
      (hview : w'.views (.daemon n) = { vm := vm, gone := gone, vmm := vmm })
      (hmem : w'.memory n = w.memory n)
      (hwhy : (∃ x ch, a = .call (.daemon n) (.updateVMStatus x) ch) ∨
        (w.views (.daemon n)).acted = .none)
  | crash (ha : a = .crash (.daemon n)) (hview : w'.views (.daemon n) = {})
      (hmem : w'.memory n = none)
  | pod (p : Pod) (hp : p ∈ w.pods)
      (hview : w'.views (.daemon n) = { w.views (.daemon n) with pod := some p })
      (hmem : w'.memory n = w.memory n)
  | poll (k : Nat) (x : Send) (hx : w.sends[k]? = some x) (hf : x.state = .failed)
      (hview : w'.views (.daemon n) = { w.views (.daemon n) with failed := some k })
      (hmem : w'.memory n = w.memory n)
  | look (hblock : (w.views (.daemon n)).block = none)
      (hacted : (w.views (.daemon n)).acted = .none)
      (hview : w'.views (.daemon n) =
        { w.views (.daemon n) with block := some ((w.memory n).getD {}) })
      (hmem : w'.memory n = w.memory n)
  | setBlock (b b₀ : ControlBlock) (hb₀ : (w.views (.daemon n)).block = some b₀)
      (hb : b.sendMigrationErrCh = ((w.views (.daemon n)).channel <|> b₀.sendMigrationErrCh))
      (hview : w'.views (.daemon n) = { w.views (.daemon n) with saved := some b })
      (hmem : w'.memory n = some b)
  | close (r : VM) (hr : (w.views (.daemon n)).vm = some r)
      (hclosing : Closing n (w.views (.daemon n)) r)
      (hview : w'.views (.daemon n) =
        { w.views (.daemon n) with saved := none, acted := .closed })
      (hmem : w'.memory n = none)
  /-- The daemon executes a power action or starts a relay. -/
  | act (t : Acted) (ht : t = .powered ∨ t = .relayed)
      (hacted : (w.views (.daemon n)).acted = .none)
      (hview : w'.views (.daemon n) = { w.views (.daemon n) with acted := t })
      (hmem : w'.memory n = w.memory n)
  | send (r : VM) (u pod : UID) (hr : (w.views (.daemon n)).vm = some r)
      (hsending : Sending n r u) (hacted : (w.views (.daemon n)).acted = .relayed)
      (hsends : w'.sends =
        w.sends ++ [{ migration := u, source := r.status.vmPodName, pod := pod }])
      (hview : w'.views (.daemon n) =
        { w.views (.daemon n) with acted := .sent, channel := some w.sends.length })
      (hmem : w'.memory n = w.memory n)

theorem DaemonMove.nodeStep {w w' : World} {a : Action} (h : DaemonMove w a w') (n : String) :
    NodeStep n w a w' := by
  -- the move of another daemon
  have helse : ∀ {m : String} {v : View} {w₀ : World}, w' = w₀.see (.daemon m) v →
      w₀.views = w.views → (n ≠ m → w₀.memory n = w.memory n) →
      (n = m → w'.views (.daemon n) = v → w'.memory n = w₀.memory n → NodeStep n w a w') →
      NodeStep n w a w' := by
    intro m v w₀ hw h₀ hmem hself
    by_cases hn : n = m
    · subst hn
      exact hself rfl (by rw [hw]; exact World.see_views_self ..) (by rw [hw]; rfl)
    · refine .same ?_ ?_
      · rw [hw, World.see_views_ne _ _ (by simpa using hn), h₀]
      · rw [hw]; exact hmem hn
  cases h with
  | other hviews hnodes => exact .same (hviews n) (by rw [hnodes.memory])
  | sendEnds _ _ _ _ hviews _ _ hmemory _ _ => exact .same (by rw [hviews]) (by rw [hmemory])
  | finish m hacted hw =>
    exact helse hw rfl (fun _ => rfl) fun hn hv hmem => by
      subst hn; exact .rest none false none hv hmem (.inr hacted)
  | crash m ha hw =>
    exact helse hw rfl (fun hn => setAt_ne _ _ hn) fun hn hv hmem => by
      subst hn; exact .crash ha hv (hmem.trans (setAt_self _ _ _))
  | readVM m r hfresh _ hw =>
    exact helse hw rfl (fun _ => rfl) fun hn hv hmem => by
      subst hn; exact .rest (some r) false none hv hmem (.inr (by rw [hfresh]))
  | missVM m hfresh _ hw =>
    exact helse hw rfl (fun _ => rfl) fun hn hv hmem => by
      subst hn; exact .rest none true none hv hmem (.inr (by rw [hfresh]))
  | write m x ch held ha _ hview hviews hnodes =>
    by_cases hn : n = m
    · subst hn
      exact .rest held false _ hview (by rw [hnodes.memory]) (.inl ⟨x, ch, ha⟩)
    · exact .same (hviews n hn) (by rw [hnodes.memory])
  | readPod m _ p hp hw =>
    exact helse hw rfl (fun _ => rfl) fun hn hv hmem => by
      subst hn; exact .pod p (List.mem_of_find?_eq_some hp) hv hmem
  | poll m k x hx hf hw =>
    exact helse hw rfl (fun _ => rfl) fun hn hv hmem => by subst hn; exact .poll k x hx hf hv hmem
  | look m hblock hacted hw =>
    exact helse hw rfl (fun _ => rfl) fun hn hv hmem => by
      subst hn; exact .look hblock hacted hv hmem
  | setBlock m b b₀ hb₀ hb hw =>
    exact helse hw rfl (fun hn => setAt_ne _ _ hn) fun hn hv hmem => by
      subst hn; exact .setBlock b b₀ hb₀ hb hv (hmem.trans (setAt_self _ _ _))
  | close m ch r _ hr hclosing hw =>
    exact helse hw rfl (fun hn => setAt_ne _ _ hn) fun hn hv hmem => by
      subst hn; exact .close r hr hclosing hv (hmem.trans (setAt_self _ _ _))
  | power m _ _ _ _ _ _ _ _ _ _ hacted hw =>
    exact helse hw rfl (fun _ => rfl) fun hn hv hmem => by
      subst hn; exact .act _ (.inl rfl) hacted hv hmem
  | relay m _ _ _ _ _ _ _ _ _ _ hacted hw =>
    exact helse hw rfl (fun _ => rfl) fun hn hv hmem => by
      subst hn; exact .act _ (.inr rfl) hacted hv hmem
  | send m pod _ u _ r _ hr hsending hacted hw =>
    exact helse hw rfl (fun _ => rfl) fun hn hv hmem => by
      subst hn; exact .send r u pod hr hsending hacted (by rw [hw]; rfl) hv hmem

/-- A send stays, and one that has ended has ended for good. -/
theorem DaemonMove.send_kept {w w' : World} {a : Action} (h : DaemonMove w a w') {k : Nat}
    {x : Send} (hx : w.sends[k]? = some x) :
    ∃ x', w'.sends[k]? = some x' ∧ x'.migration = x.migration ∧ x'.source = x.source ∧
      (x.state ≠ .running → x' = x) := by
  have hsame : w'.sends = w.sends → ∃ x', w'.sends[k]? = some x' ∧ x'.migration = x.migration ∧
      x'.source = x.source ∧ (x.state ≠ .running → x' = x) :=
    fun h => ⟨x, h ▸ hx, rfl, rfl, fun _ => rfl⟩
  cases h with
  | other _ hnodes | write _ _ _ _ _ _ _ _ hnodes => exact hsame hnodes.sends
  | send n pod ctx u ch r _ _ _ _ hw =>
    subst hw
    exact ⟨x, (List.getElem?_append_left (List.getElem?_eq_some_iff.mp hx).1).trans hx, rfl, rfl,
      fun _ => rfl⟩
  | sendEnds j st _ _ _ _ hsends _ _ _ =>
    rw [hsends, World.endSend, List.getElem?_modify, hx]
    refine ⟨_, rfl, ?_⟩
    beta_reduce
    split
    · split
      · next hrun => exact ⟨rfl, rfl, fun h => absurd hrun h⟩
      · exact ⟨rfl, rfl, fun _ => rfl⟩
    · exact ⟨rfl, rfl, fun _ => rfl⟩
  | finish _ _ hw | crash _ _ hw | readVM _ _ _ _ hw | missVM _ _ _ hw | readPod _ _ _ _ hw
  | power _ _ _ _ _ _ _ _ _ _ _ _ hw | relay _ _ _ _ _ _ _ _ _ _ _ _ hw | poll _ _ _ _ _ hw
  | look _ _ _ hw | setBlock _ _ _ _ _ hw | close _ _ _ _ _ _ hw =>
    exact hsame (by rw [hw]; rfl)

/-- What the daemons remember of their sends. -/
structure BlockInv (w : World) : Prop where
  /-- A channel is there from the send on. -/
  channel : ∀ n, (w.views (.daemon n)).channel ≠ none → (w.views (.daemon n)).acted = .sent
  ready : ∀ n, (w.views (.daemon n)).acted = .sent →
    ∃ r u, (w.views (.daemon n)).vm = some r ∧ Sending n r u
  /-- The control block that was read has the channel that is remembered. -/
  block : ∀ n b, (w.views (.daemon n)).block = some b → (w.views (.daemon n)).channel = none →
    (w.views (.daemon n)).acted ≠ .closed → b.sendMigrationErrCh = w.errCh n
  saved : ∀ n b, (w.views (.daemon n)).saved = some b → w.memory n = some b
  failed : ∀ n k, (w.views (.daemon n)).failed = some k →
    ∃ x, w.sends[k]? = some x ∧ x.state = .failed

namespace BlockInv

variable {w w' : World} {a : Action}

/-- Whoever closes its control block has not sent anything in this run. -/
theorem channel_of_closing (hinv : BlockInv w) {n : String} {r : VM}
    (hclosing : Closing n (w.views (.daemon n)) r) : (w.views (.daemon n)).channel = none := by
  refine Decidable.not_not.mp fun h => ?_
  have hsent := hinv.channel n h
  rcases hclosing.acted with h | h <;> rw [hsent] at h <;> cases h

theorem channel_step (hinv : BlockInv w) (hmove : Moved w a w') {n : String}
    (hc : (w'.views (.daemon n)).channel ≠ none) : (w'.views (.daemon n)).acted = .sent := by
  cases hmove.daemonMove.nodeStep n with
  | same hview _ | pod _ _ hview _ | poll _ _ _ _ hview _ | look _ _ hview _
  | setBlock _ _ _ _ hview _ =>
    rw [hview] at hc ⊢; exact hinv.channel n hc
  | rest _ _ _ hview _ _ | crash _ hview _ => rw [hview] at hc; exact absurd rfl hc
  | close r _ hclosing hview _ =>
    rw [hview] at hc; exact absurd (hinv.channel_of_closing hclosing) hc
  | act t _ hacted hview _ =>
    rw [hview] at hc
    have := hinv.channel n hc
    rw [hacted] at this; cases this
  | send _ _ _ _ _ _ _ hview _ => rw [hview]

theorem ready_step (hinv : BlockInv w) (hmove : Moved w a w') {n : String}
    (hs : (w'.views (.daemon n)).acted = .sent) :
    ∃ r u, (w'.views (.daemon n)).vm = some r ∧ Sending n r u := by
  cases hmove.daemonMove.nodeStep n with
  | same hview _ | pod _ _ hview _ | poll _ _ _ _ hview _ | look _ _ hview _
  | setBlock _ _ _ _ hview _ =>
    rw [hview] at hs ⊢; exact hinv.ready n hs
  | rest _ _ _ hview _ _ | crash _ hview _ | close _ _ _ hview _ => rw [hview] at hs; cases hs
  | act t ht _ hview _ => rw [hview] at hs; rcases ht with rfl | rfl <;> cases hs
  | send r u _ hr hsending _ _ hview _ => rw [hview]; exact ⟨r, u, hr, hsending⟩

theorem block_step (hinv : BlockInv w) (hmove : Moved w a w') {n : String} {b : ControlBlock}
    (hb : (w'.views (.daemon n)).block = some b) (hc : (w'.views (.daemon n)).channel = none)
    (hopen : (w'.views (.daemon n)).acted ≠ .closed) : b.sendMigrationErrCh = w'.errCh n := by
  have hsame : w'.memory n = w.memory n → w'.errCh n = w.errCh n := by
    intro h; rw [World.errCh, h]; rfl
  cases hmove.daemonMove.nodeStep n with
  | same hview hmem | pod _ _ hview hmem | poll _ _ _ _ hview hmem =>
    rw [hview] at hb hc hopen
    rw [hsame hmem]; exact hinv.block n b hb hc hopen
  | rest _ _ _ hview _ _ | crash _ hview _ => rw [hview] at hb; cases hb
  | look _ _ hview hmem =>
    rw [hview] at hb; cases hb
    rw [hsame hmem, World.errCh]
    cases w.memory n <;> rfl
  | setBlock b' b₀ hb₀ hb' hview hmem =>
    rw [hview] at hb hc hopen
    obtain rfl : b₀ = b := Option.some.inj (hb₀.symm.trans hb)
    rw [World.errCh, hmem, Option.bind_some, hb', hc]; rfl
  | close _ _ _ hview _ => rw [hview] at hopen; exact absurd rfl hopen
  | act t _ hacted hview hmem =>
    rw [hview] at hb hc
    rw [hsame hmem]
    exact hinv.block n b hb hc (by rw [hacted]; nofun)
  | send _ _ _ _ _ _ _ hview _ => rw [hview] at hc; cases hc

theorem saved_step (hinv : BlockInv w) (hmove : Moved w a w') {n : String} {b : ControlBlock}
    (hb : (w'.views (.daemon n)).saved = some b) : w'.memory n = some b := by
  cases hmove.daemonMove.nodeStep n with
  | same hview hmem | pod _ _ hview hmem | poll _ _ _ _ hview hmem | look _ _ hview hmem
  | act _ _ _ hview hmem | send _ _ _ _ _ _ _ hview hmem =>
    rw [hview] at hb; rw [hmem]; exact hinv.saved n b hb
  | rest _ _ _ hview _ _ | crash _ hview _ | close _ _ _ hview _ => rw [hview] at hb; cases hb
  | setBlock _ _ _ _ hview hmem => rw [hview] at hb; cases hb; exact hmem

theorem failed_step (hinv : BlockInv w) (hmove : Moved w a w') {n : String} {k : Nat}
    (hk : (w'.views (.daemon n)).failed = some k) :
    ∃ x, w'.sends[k]? = some x ∧ x.state = .failed := by
  have hbefore : ∃ x, w.sends[k]? = some x ∧ x.state = .failed := by
    cases hmove.daemonMove.nodeStep n with
    | same hview _ | pod _ _ hview _ | look _ _ hview _ | setBlock _ _ _ _ hview _
    | close _ _ _ hview _ | act _ _ _ hview _ | send _ _ _ _ _ _ _ hview _ =>
      rw [hview] at hk; exact hinv.failed n k hk
    | rest _ _ _ hview _ _ | crash _ hview _ => rw [hview] at hk; cases hk
    | poll k' x hx hf hview _ => rw [hview] at hk; cases hk; exact ⟨x, hx, hf⟩
  obtain ⟨x, hx, hf⟩ := hbefore
  obtain ⟨x', hx', -, -, hsame⟩ := hmove.daemonMove.send_kept hx
  obtain rfl := hsame (by rw [hf]; nofun)
  exact ⟨x', hx', hf⟩

theorem step (hinv : BlockInv w) (hmove : Moved w a w') : BlockInv w' where
  channel _ hc := hinv.channel_step hmove hc
  ready _ hs := hinv.ready_step hmove hs
  block _ _ hb hc hopen := hinv.block_step hmove hb hc hopen
  saved _ _ hb := hinv.saved_step hmove hb
  failed _ _ hk := hinv.failed_step hmove hk

end BlockInv

theorem Reached.blockInv {nodeIP : String → String} {ok : World → Action → Prop} {w : World}
    (h : Reached nodeIP ok w) : BlockInv w := by
  refine Reached.invariant ?_ ?_ h
  · rintro w ⟨v, -, -, rfl⟩
    exact {
      channel := fun n h => absurd rfl h
      ready := fun n h => by cases h
      block := fun n b h => by cases h
      saved := fun n b h => by cases h
      failed := fun n k h => by cases h }
  · intro w a w' _ hinv _ hmove
    exact hinv.step hmove

end Virtink
