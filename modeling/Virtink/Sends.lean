import Virtink.Lock
import Virtink.Daemons

/-! # Starting a Migration Once

    On the source node a daemon starts the relay of a migration, issues the
    send, and then writes `Running` into the record. As long as that write goes
    through, and a migration that was sent does not take the record again,
    both happen at most once per migration.
-/

namespace Virtink

open Calls

/-! ### Relays and Sends -/

/-- The migrations that were sent, one entry per send. -/
def World.sent (w : World) : List UID := w.sends.map (·.migration)

theorem World.sent_congr {w w' : World} (h : w'.sends = w.sends) : w'.sent = w.sent := by
  rw [sent, h, sent]

theorem World.endSend_sent (w : World) (k : Nat) (st : SendState) :
    (w.endSend k st).sent = w.sent := by
  have hmodify : ∀ (l : List Send) (k : Nat), (l.modify k fun x =>
      if x.state = .running then { x with state := st } else x).map (·.migration) =
      l.map (·.migration) := by
    intro l
    induction l with
    | nil => intro k; cases k <;> rfl
    | cons x l ih =>
      intro k
      cases k with
      | zero => simp only [List.modify_zero_cons, List.map_cons]; split <;> rfl
      | succ k => simp only [List.modify_succ_cons, List.map_cons, ih]
  exact hmodify w.sends k

/-- What a move does to the relays and the sends, and to the daemons that have
    started a relay and not yet sent. -/
inductive SendStep (w : World) (a : Action) (w' : World) : Prop where
  | same (hrelays : w'.relays = w.relays) (hsent : w'.sent = w.sent)
      (hviews : ∀ n, (w'.views (.daemon n)).acted = .relayed →
        (w.views (.daemon n)).acted = .relayed ∧
        (w'.views (.daemon n)).vm = (w.views (.daemon n)).vm)
  | relay (n : String) (o : Op) (ch : Choice) (r : VM) (u : UID)
      (ha : a = .call (.daemon n) o ch) (ho : o.act = .relayed)
      (hr : (w.views (.daemon n)).vm = some r) (hsending : Sending n r u)
      (hacted : (w.views (.daemon n)).acted = .none) (hrelays : w'.relays = u :: w.relays)
      (hsent : w'.sent = w.sent) (hvm : w'.vm = w.vm)
      (hview : w'.views (.daemon n) = { w.views (.daemon n) with acted := .relayed })
      (hviews : ∀ m, m ≠ n → w'.views (.daemon m) = w.views (.daemon m))
  | send (n : String) (r : VM) (u : UID) (hr : (w.views (.daemon n)).vm = some r)
      (hsending : Sending n r u) (hacted : (w.views (.daemon n)).acted = .relayed)
      (hrelays : w'.relays = w.relays) (hsent : w'.sent = w.sent ++ [u])
      (hview : (w'.views (.daemon n)).acted = .sent)
      (hviews : ∀ m, m ≠ n → w'.views (.daemon m) = w.views (.daemon m))

theorem DaemonMove.sendStep {w w' : World} {a : Action} (h : DaemonMove w a w') :
    SendStep w a w' := by
  -- a daemon that has started a relay now had started it before
  have hsee : ∀ {n : String} {v : View} {w₀ : World}, w' = w₀.see (.daemon n) v →
      w₀.views = w.views → (v.acted = .relayed →
        (w.views (.daemon n)).acted = .relayed ∧ v.vm = (w.views (.daemon n)).vm) →
      ∀ m, (w'.views (.daemon m)).acted = .relayed →
        (w.views (.daemon m)).acted = .relayed ∧
        (w'.views (.daemon m)).vm = (w.views (.daemon m)).vm := by
    intro n v w₀ hw h₀ hv m hm
    rcases World.daemon_view hw h₀ m with ⟨rfl, hm'⟩ | hm'
    · rw [hm'] at hm ⊢; exact hv hm
    · rw [hm'] at hm ⊢; exact ⟨hm, rfl⟩
  cases h with
  | other hviews hnodes =>
    exact .same hnodes.relays (World.sent_congr hnodes.sends)
      fun n hn => by rw [hviews n] at hn ⊢; exact ⟨hn, rfl⟩
  | finish n _ hw | crash n _ hw | readVM n _ _ _ hw | missVM n _ _ hw =>
    exact .same (by rw [hw]; rfl) (by rw [hw]; rfl) (hsee hw rfl (fun h => by cases h))
  | write n x ch held _ _ hview hviews hnodes =>
    refine .same hnodes.relays (World.sent_congr hnodes.sends) fun m hm => ?_
    by_cases hmn : m = n
    · subst hmn; rw [hview] at hm; cases hm
    · rw [hviews m hmn] at hm ⊢; exact ⟨hm, rfl⟩
  | power n _ _ _ _ _ _ _ _ _ _ _ hw | close n _ _ _ _ _ hw =>
    exact .same (by rw [hw]; rfl) (by rw [hw]; rfl) (hsee hw rfl (fun h => by cases h))
  | readPod n _ _ _ hw | poll n _ _ _ _ hw | look n _ _ hw | setBlock n _ _ _ _ hw =>
    exact .same (by rw [hw]; rfl) (by rw [hw]; rfl) (hsee hw rfl (fun h => ⟨h, rfl⟩))
  | relay n ctx pod ip port u ch r ha hr hsending hacted hw =>
    refine .relay n _ ch r u ha rfl hr hsending hacted (by rw [hw]; rfl) (by rw [hw]; rfl)
      (by rw [hw]; rfl) (by rw [hw]; exact World.see_views_self ..) fun m hm => ?_
    rw [hw]; exact World.see_views_ne _ _ (by simpa using hm)
  | send n pod ctx u ch r ha hr hsending hacted hw =>
    refine .send n r u hr hsending hacted (by rw [hw]; rfl)
      (by rw [hw]; simp [World.sent, World.addSend, World.see])
      (by rw [hw, World.see_views_self]) fun m hm => ?_
    rw [hw]; exact World.see_views_ne _ _ (by simpa using hm)
  | sendEnds k st _ _ hviews _ hsends _ hrelays _ =>
    refine .same hrelays ((World.sent_congr hsends).trans (w.endSend_sent k st)) fun n hn => ?_
    rw [hviews] at hn ⊢; exact ⟨hn, rfl⟩

/-! ### The Condition -/

/-- Relays that were started for a migration that is still `TargetReady`. -/
def relayWindow : Window := fun acted _ => acted == .relayed || acted == .sent

theorem relayWindow_lawful : relayWindow.Lawful where
  none _ := rfl
  closed _ _ _ h := by cases h

/-- A migration takes the record only if no relay was started for it. -/
def NotRelayed (w : World) : Action → Prop
  | .call (.vmm u) (.updateVMStatus x) _ => x.status.migration ≠ none → u ∉ w.relays
  | _ => True

instance (w : World) (a : Action) : Decidable (NotRelayed w a) := by
  rcases a with i | ⟨i, o, c⟩ | i | i | e
  · exact instDecidableTrue
  · rcases i with ⟨⟩ | u | n
    · exact instDecidableTrue
    · rcases o with ⟨⟩ <;>
        first | exact instDecidableTrue | exact inferInstanceAs (Decidable (_ → _))
    · exact instDecidableTrue
  · exact instDecidableTrue
  · exact instDecidableTrue
  · exact instDecidableTrue

/-- Relays are started for the stored VM, nobody takes the VM from under the
    daemon before `Running` is written, and a migration that was started once
    does not take the record again. -/
def SendRecorded (w : World) (a : Action) : Prop :=
  relayWindow.kept w a = true ∧ NotRelayed w a

instance (w : World) (a : Action) : Decidable (SendRecorded w a) :=
  inferInstanceAs (Decidable (_ ∧ _))

/-! ### At Most Once -/

/-- The record of a migration whose relay was started is past `TargetReady`, or
    the daemon that started it has yet to say so. -/
structure RelayInv (w : World) : Prop where
  held : relayWindow.Held w
  record : ∀ vm m, w.vm = some vm → vm.status.migration = some m → m.uid ∈ w.relays →
    MigrationPhase.running.Onward m.phase ∨ relayWindow.isOpen (w.views w.host) = true
  once : ∀ u, w.relays.count u ≤ 1

namespace RelayInv

variable {w w' : World} {a : Action}

/-- A relay is started for a migration that none was started for. -/
theorem not_relayed (hinv : RelayInv w) {n : String} {r : VM} {u : UID} (hvm : w.vm = some r)
    (hsending : Sending n r u) (hacted : (w.views (.daemon n)).acted = .none) : u ∉ w.relays := by
  have hhost : w.host = .daemon n := by rw [World.host_eq hvm, hsending.nodeName]
  obtain ⟨m, -, -, hm, hmp, rfl⟩ := hsending
  intro hu
  rcases hinv.record r m hvm hm hu with h | h
  · rw [hmp] at h
    exact absurd h (by decide)
  · rw [hhost] at h
    exact absurd hacted (Window.acted_of_isOpen relayWindow_lawful h)

/-- While `Running` is not written, the record stays; then it is `Running`. -/
theorem record_of_open (hinv : RelayInv w) (hok : SendRecorded w a) (hmove : Moved w a w')
    (hopen : relayWindow.isOpen (w.views w.host) = true) {vm' : VM} {m' : Migration}
    (hvm' : w'.vm = some vm') (hm' : vm'.status.migration = some m') :
    MigrationPhase.running.Onward m'.phase ∨ relayWindow.isOpen (w'.views w'.host) = true := by
  obtain ⟨n, hn⟩ : ∃ n, w.host = .daemon n := ⟨_, rfl⟩
  rw [hn] at hopen
  rcases hinv.held.next relayWindow_lawful hok.1 hmove hopen with
    ⟨hvm, hview, hacted⟩ | ⟨x, ch, r, held, -, hr, hwrite, hw⟩
  · refine .inr ?_
    have hhost : w'.host = .daemon n := by rw [← hn, World.host, hvm]; rfl
    obtain ⟨r, hr, hact⟩ := (Option.any_eq_true ..).mp hopen
    rw [hhost, Window.isOpen, hview, hr, Option.any_some]
    rcases hacted with hacted | ⟨-, hacted⟩
    · rw [hacted]; exact hact
    · rw [hacted]; rfl
  · refine .inl ?_
    obtain ⟨r', -, hact⟩ := (Option.any_eq_true ..).mp hopen
    have hrec := hwrite.2
    rcases Bool.or_eq_true_iff.mp hact with h | h
    · rw [Recorded, beq_iff_eq.mp h] at hrec
      exact hrec.elim
    · rw [Recorded, beq_iff_eq.mp h] at hrec
      obtain ⟨m, -, -, hst⟩ := hrec
      have hvm : w'.vm = some (World.withStatus r x.status) := by
        rw [hw]; exact World.putStatus_vm hr
      rw [hvm] at hvm'; cases hvm'
      rw [World.withStatus_status, hst] at hm'; cases hm'
      exact .refl _

/-- A migration that takes the record was not started before, and its phase only
    moves onwards. -/
theorem record_of_closed (hinv : RelayInv w) (hocc : Occ w) (hok : SendRecorded w a)
    (hmove : Moved w a w') (hclosed : relayWindow.isOpen (w.views w.host) = false) {vm' : VM}
    {m' : Migration} (hvm' : w'.vm = some vm') (hm' : vm'.status.migration = some m')
    (hu : m'.uid ∈ w.relays) : MigrationPhase.running.Onward m'.phase := by
  have hbefore : ∀ vm m, w.vm = some vm → vm.status.migration = some m → m.uid ∈ w.relays →
      MigrationPhase.running.Onward m.phase := by
    intro vm m hvm hm hu
    refine (hinv.record vm m hvm hm hu).resolve_right fun h => ?_
    rw [hclosed] at h; cases h
  have hchange := hmove.vmChange hocc
  obtain ⟨vm, hvm⟩ := hchange.vm_before hvm'
  cases hchange.recordChange hvm hvm' with
  | same h => exact hbefore vm m' hvm (h.symm.trans hm') hu
  | moved i x ch ha hread hst hvmms hrec =>
    rw [hm'] at hrec
    rcases hrec.origin with ⟨m, hm, huid, hon⟩ | ⟨-, rfl, -⟩
    · exact (hbefore vm m hvm hm (huid ▸ hu)).trans hon
    · -- it would take the record a second time
      subst ha
      refine absurd hu (hok.2 ?_)
      rw [← hst, hm']; nofun

theorem step (hinv : RelayInv w) (hocc : Occ w) (hok : SendRecorded w a) (hmove : Moved w a w') :
    RelayInv w' where
  held := hinv.held.step relayWindow_lawful hok.1 hmove
  record vm' m' hvm' hm' hu := by
    cases hopen : relayWindow.isOpen (w.views w.host) with
    | true => exact hinv.record_of_open hok hmove hopen hvm' hm'
    | false =>
      cases hmove.daemonMove.sendStep with
      | same hrelays _ _ | send _ _ _ _ _ _ hrelays _ _ _ =>
        exact .inl (hinv.record_of_closed hocc hok hmove hopen hvm' hm' (hrelays ▸ hu))
      | relay n o ch r u ha ho hr hsending hacted hrelays _ hvm hview _ =>
        subst ha
        have hcur := Window.kept_current hok.1 hr (by rw [ho]; rfl)
        have hhost : w'.host = .daemon n := by
          rw [World.host_eq (hvm.trans hcur), hsending.nodeName]
        refine .inr ?_
        rw [hhost, hview, Window.isOpen]
        simp [hr, relayWindow]
  once u := by
    cases hmove.daemonMove.sendStep with
    | same hrelays _ _ | send _ _ _ _ _ _ hrelays _ _ _ => rw [hrelays]; exact hinv.once u
    | relay n o ch r u' ha ho hr hsending hacted hrelays _ hvm _ _ =>
      subst ha
      have hnew := hinv.not_relayed (Window.kept_current hok.1 hr (by rw [ho]; rfl)) hsending hacted
      rw [hrelays, List.count_cons]
      have hle := hinv.once u
      split
      · next h =>
        rw [beq_iff_eq.mp h] at hnew
        have hzero := List.count_eq_zero_of_not_mem hnew
        omega
      · exact hle

end RelayInv

theorem Reached.relayInv {nodeIP : String → String} {w : World}
    (h : Reached nodeIP SendRecorded w) : RelayInv w := by
  refine Reached.invariant ?_ ?_ h
  · rintro w ⟨v, -, -, rfl⟩
    exact ⟨fun n h => (by cases h), fun _ _ _ _ h => (by cases h), fun _ => Nat.zero_le _⟩
  · intro w a w' hreach hinv hok hmove
    exact hinv.step hreach.occ hok hmove

/-- Every send has a relay of its own. -/
structure SentInv (w : World) : Prop where
  sent : ∀ u, w.sent.count u ≤ w.relays.count u
  /-- A daemon that has only started the relay is one send behind. -/
  behind : ∀ n r m, (w.views (.daemon n)).acted = .relayed → (w.views (.daemon n)).vm = some r →
    r.status.migration = some m → w.sent.count m.uid < w.relays.count m.uid

theorem SentInv.step {w w' : World} {a : Action} (hinv : SentInv w) (hheld : relayWindow.Held w)
    (hmove : Moved w a w') : SentInv w' := by
  cases hmove.daemonMove.sendStep with
  | same hrelays hsent hviews =>
    refine ⟨by rw [hrelays, hsent]; exact hinv.sent, fun n r m hacted hr hm => ?_⟩
    obtain ⟨hacted', hview⟩ := hviews n hacted
    rw [hrelays, hsent]
    exact hinv.behind n r m hacted' (hview ▸ hr) hm
  | relay n o ch r u _ _ hr hsending _ hrelays hsent _ hview hviews =>
    rw [← List.singleton_append] at hrelays
    have hcount : ∀ u', w'.relays.count u' = [u].count u' + w.relays.count u' := by
      intro u'; rw [hrelays, List.count_append]
    refine ⟨fun u' => ?_, fun k r' m hacted hr' hm => ?_⟩
    · rw [hcount, hsent]
      exact Nat.le_trans (hinv.sent u') (Nat.le_add_left ..)
    · rw [hcount, hsent]
      by_cases hk : k = n
      · subst hk
        rw [hview] at hr'
        obtain rfl : r' = r := Option.some.inj (hr'.symm.trans hr)
        obtain ⟨m', -, -, hm', -, rfl⟩ := hsending
        rw [hm] at hm'; cases hm'
        rw [List.count_singleton_self]
        have := hinv.sent m.uid
        omega
      · rw [hviews k hk] at hacted hr'
        exact Nat.lt_of_lt_of_le (hinv.behind k r' m hacted hr' hm) (Nat.le_add_left ..)
  | send n r u hr hsending hacted hrelays hsent hview hviews =>
    obtain ⟨m, -, -, hm, -, rfl⟩ := hsending
    have hbehind := hinv.behind n r m hacted hr hm
    refine ⟨fun u' => ?_, fun k r' m' hacted' hr' hm' => ?_⟩
    · rw [hsent, hrelays, List.count_append, List.count_singleton]
      have := hinv.sent u'
      split
      · next h =>
        rw [beq_iff_eq.mp h] at hbehind
        omega
      · omega
    · -- two daemons would hold the stored VM
      have hkn : k ≠ n := by
        rintro rfl
        rw [hview] at hacted'
        cases hacted'
      rw [hviews k hkn] at hacted' hr'
      have hopen : ∀ {j : String} {x : VM}, (w.views (.daemon j)).acted = .relayed →
          (w.views (.daemon j)).vm = some x → relayWindow.isOpen (w.views (.daemon j)) = true := by
        intro j x hacted hx
        rw [Window.isOpen, hx, Option.any_some, hacted]; rfl
      have hhost := (hheld.host (hopen hacted' hr')).symm.trans (hheld.host (hopen hacted hr))
      exact absurd (Proc.daemon.inj hhost) hkn

theorem Reached.sentInv {nodeIP : String → String} {w : World}
    (h : Reached nodeIP SendRecorded w) : SentInv w := by
  refine Reached.invariant ?_ ?_ h
  · rintro w ⟨v, -, -, rfl⟩
    exact ⟨fun _ => Nat.le_refl 0, fun n r m h => by cases h⟩
  · intro w a w' hreach hinv hok hmove
    exact hinv.step hreach.relayInv.held hmove

/-- **A migration is started at most once**, if the VM is not taken from under
    the source daemon between the relay and the write, and the migration does
    not take the record again. -/
theorem migration_started_once {nodeIP : String → String} {c : Config}
    (h : Reach (system nodeIP) SendRecorded Init c) (u : UID) :
    c.store.relays.count u ≤ 1 ∧ c.store.sent.count u ≤ 1 := by
  have hreached := reached_of_reach h
  have honce := hreached.relayInv.once u
  exact ⟨honce, Nat.le_trans (hreached.sentInv.sent u) honce⟩

/-- The sample migration after its send. -/
theorem migration_started_once_sample :
    ∃ c, Reach Sample.cluster SendRecorded Init c ∧ c.store.sent = ["u"] ∧
      c.store.relays.count "u" ≤ 1 ∧ c.store.sent.count "u" ≤ 1 := by
  obtain ⟨c, hreach, htest⟩ := Sample.reach SendRecorded (Sample.targetReady ++ Sample.sends)
    (fun c => c.store.sent == ["u"]) (by decide +kernel)
  exact ⟨c, hreach, beq_iff_eq.mp htest, migration_started_once hreach "u"⟩

/-- A user asks for a power action between the send and the write. The write is
    refused, and the daemon starts the relay and the send again. -/
theorem migration_started_twice :
    ∃ c, Reachable Sample.cluster Init c ∧ c.store.relays = ["u", "u"] ∧
      c.store.sent = ["u", "u"] := by
  obtain ⟨c, hreach, htest⟩ := Sample.reach anyStep
    (Sample.targetReady ++ [.start (.daemon "a"), .call (.daemon "a") .ok, .call (.daemon "a") .ok,
      .call (.daemon "a") .ok, .call (.daemon "a") (.num 1), .call (.daemon "a") .ok,
      .call (.daemon "a") .ok, .call (.daemon "a") .ok, .event (.patchPowerAction .reset),
      .call (.daemon "a") .ok, .finish (.daemon "a")] ++ Sample.sends)
    (fun c => c.store.relays == ["u", "u"] && c.store.sent == ["u", "u"]) (by decide +kernel)
  rw [Bool.and_eq_true, beq_iff_eq, beq_iff_eq] at htest
  exact ⟨c, hreach, htest⟩

end Virtink
