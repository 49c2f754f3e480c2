import Mathlib.Data.List.Nodup
import Virtink.Node.Effect
import Virtink.Node.Rules

/-! # What Is Known Is True

    `Knows` says what the knowledge of a run means for its node. Each answer
    tells the truth, a call of the daemon that makes something untrue makes it
    forget as much, and the environment does not interfere: paths only vanish,
    and a hypervisor receives a guest only while it has none. Hence in every
    state that is reached, what is known is true (`informed_of_reach`).
-/

namespace Virtink

open Calls

/-- What the knowledge of a run means. -/
structure Knows (v : NodeView) (s : Node) : Prop where
  absent    : ∀ p ∈ v.absent, s.present p = false
  unmounted : ∀ p ∈ v.unmounted, p ∉ s.mounts
  record    : ∀ r, v.record = some r → s.record.entries = r
  disks     : ∀ pod l, v.disks = some (pod, l) →
    s.guests pod ≠ .fresh ∧ ∀ d ∈ (s.guests pod).disks, d ∈ l

theorem Knows.fresh (s : Node) : Knows {} s :=
  ⟨fun _ h => (List.not_mem_nil h).elim, fun _ h => (List.not_mem_nil h).elim, nofun, nofun⟩

/-! ### Answers -/

/-- Nothing appears. -/
structure Node.Shrinks (s s' : Node) : Prop where
  devices : ∀ p ∈ s'.devices, p ∈ s.devices
  files   : ∀ p ∈ s'.files, p ∈ s.files
  mounts  : ∀ p ∈ s'.mounts, p ∈ s.mounts

theorem Node.present_eq_false {s : Node} {p : String} :
    s.present p = false ↔ p ∉ s.devices ∧ p ∉ s.files ∧ p ∉ s.mounts := by
  simp [Node.present, and_assoc]

theorem Node.Shrinks.present {s s' : Node} (h : s.Shrinks s') {p : String}
    (hp : s.present p = false) : s'.present p = false := by
  rw [Node.present_eq_false] at hp ⊢
  exact ⟨fun h' => hp.1 (h.devices p h'), fun h' => hp.2.1 (h.files p h'),
    fun h' => hp.2.2 (h.mounts p h')⟩

theorem Knows.shrinks {v : NodeView} {s s' : Node} (h : Knows v s) (hs : s.Shrinks s')
    (hrecord : s'.record = s.record) (hguests : s'.guests = s.guests) : Knows v s' where
  absent p hp := hs.present (h.absent p hp)
  unmounted p hp hm := h.unmounted p hp (hs.mounts p hm)
  record r hr := by rw [hrecord]; exact h.record r hr
  disks pod l hl := by rw [hguests]; exact h.disks pod l hl

/-- The path is gone, and this is known. -/
theorem Knows.gone {v : NodeView} {s : Node} (h : Knows v s) {path : String}
    (hp : s.present path = false) : Knows (v.gone path) s where
  absent p hmem := by
    rcases List.mem_cons.mp hmem with rfl | hmem
    · exact hp
    · exact h.absent p hmem
  unmounted p hmem := by
    rcases List.mem_cons.mp hmem with rfl | hmem
    · exact (Node.present_eq_false.mp hp).2.2
    · exact h.unmounted p hmem
  record := h.record
  disks := h.disks

section
variable {K : Terms} {v : NodeView} {s s' : Node} {ch : NodeChoice}

theorem mem_filter_ne {l : List String} {p target : String} (h : p ∈ l.filter (· != target)) :
    p ∈ l ∧ p ≠ target := by
  simpa using h

/-- One path at most is added. -/
theorem not_mem_of_added {l l' : List String} {p target : String}
    (h : l' = l ∨ l' = target :: l) (hne : p ≠ target) (hp : p ∉ l) : p ∉ l' := by
  rcases h with rfl | rfl
  · exact hp
  · exact fun hmem => (List.mem_cons.mp hmem).elim hne hp

/-- A device node is made. -/
theorem Knows.mknod (h : Knows v s) {volume target : String} {major minor : Int}
    {a : Except String Unit} {devices : List String}
    (hd : devices = s.devices ∨ devices = target :: s.devices) :
    Knows (NodeView.told (.mknod volume target major minor) a v) { s with devices := devices } := by
  refine ⟨fun p hp => ?_, h.unmounted, h.record, h.disks⟩
  obtain ⟨hp, hne⟩ := mem_filter_ne hp
  have hold := Node.present_eq_false.mp (h.absent p hp)
  rw [Node.present_eq_false]
  exact ⟨not_mem_of_added hd hne hold.1, hold.2⟩

/-- A file is created. -/
theorem Knows.create (h : Knows v s) {path : String} {a : Except String Unit} {files : List String}
    (hf : files = s.files ∨ files = path :: s.files) :
    Knows (NodeView.told (.create path) a v) { s with files := files } := by
  refine ⟨fun p hp => ?_, h.unmounted, h.record, h.disks⟩
  obtain ⟨hp, hne⟩ := mem_filter_ne hp
  have hold := Node.present_eq_false.mp (h.absent p hp)
  rw [Node.present_eq_false]
  exact ⟨hold.1, not_mem_of_added hf hne hold.2.1, hold.2.2⟩

/-- Something is mounted. -/
theorem Knows.bindMount (h : Knows v s) {volume source target : String} {a : Except String Unit}
    {mounts : List String} (hm : mounts = s.mounts ∨ mounts = target :: s.mounts) :
    Knows (NodeView.told (.bindMount volume source target) a v) { s with mounts := mounts } := by
  refine ⟨fun p hp => ?_, fun p hp => ?_, h.record, h.disks⟩
  · obtain ⟨hp, hne⟩ := mem_filter_ne hp
    have hold := Node.present_eq_false.mp (h.absent p hp)
    rw [Node.present_eq_false]
    exact ⟨hold.1, hold.2.1, not_mem_of_added hm hne hold.2.2⟩
  · obtain ⟨hp, hne⟩ := mem_filter_ne hp
    exact not_mem_of_added hm hne (h.unmounted p hp)

/-- Only the record changes, and it is known or forgotten. -/
theorem Knows.record_step (h : Knows v s) {file : RecordFile} {known : Option (List MountEntry)}
    (hfile : ∀ r, known = some r → file.entries = r) :
    Knows { v with record := known } { s with record := file } :=
  ⟨h.absent, h.unmounted, hfile, h.disks⟩

/-- Paths that nothing is mounted on. -/
theorem Knows.add_unmounted (h : Knows v s) {path : String} (hp : path ∉ s.mounts) :
    Knows { v with unmounted := path :: v.unmounted } s := by
  refine ⟨h.absent, fun p hmem => ?_, h.record, h.disks⟩
  rcases List.mem_cons.mp hmem with rfl | hmem
  · exact hp
  · exact h.unmounted p hmem

theorem Node.Shrinks.umount (s : Node) (target : String) :
    s.Shrinks { s with mounts := s.mounts.erase target } :=
  ⟨fun _ hp => hp, fun _ hp => hp, fun _ hp => List.mem_of_mem_erase hp⟩

theorem Node.Shrinks.drop (s : Node) (target : String) : s.Shrinks (s.drop target) :=
  ⟨fun _ hp => (mem_filter_ne hp).1, fun _ hp => (mem_filter_ne hp).1, fun _ hp => hp⟩

theorem Node.Shrinks.vanish (s : Node) (path : String) :
    s.Shrinks { s.drop path with mounts := s.mounts.filter (· != path) } :=
  ⟨fun _ hp => (mem_filter_ne hp).1, fun _ hp => (mem_filter_ne hp).1,
    fun _ hp => (mem_filter_ne hp).1⟩

theorem Node.present_drop {target : String} (hfree : target ∉ s.mounts) :
    (s.drop target).present target = false := by
  rw [Node.present_eq_false]
  exact ⟨fun hp => (mem_filter_ne hp).2 rfl, fun hp => (mem_filter_ne hp).2 rfl, hfree⟩

/-- **Answer lemma**: a call on the node tells the truth. -/
theorem Knows.answer {o : NodeOp} {a : o.Ans} (h : Knows v s) (hnodup : s.mounts.Nodup)
    (hguard : (mounting K).guard o v) (heff : s.Effect o ch a s') :
    Knows (NodeView.told o a v) s' ∧ s'.mounts.Nodup := by
  cases heff with
  | quiet ho => rw [ho.told]; exact ⟨h, hnodup⟩
  | nextJob j => exact ⟨h, hnodup⟩
  | loadRecord => exact ⟨h.record_step fun r hr => Option.some.inj hr, hnodup⟩
  | loadFails msg => exact ⟨h.record_step nofun, hnodup⟩
  | writeRecord l => exact ⟨h.record_step fun r hr => Option.some.inj hr, hnodup⟩
  | writeFails l msg _ => exact ⟨h.record_step nofun, hnodup⟩
  | writeTears l msg => exact ⟨h.record_step nofun, hnodup⟩
  | removeRecord => exact ⟨h.record_step fun r hr => Option.some.inj hr, hnodup⟩
  | removeFails msg _ => exact ⟨h.record_step nofun, hnodup⟩
  | stat path =>
    cases hp : s.present path with
    | true => exact ⟨h, hnodup⟩
    | false => exact ⟨h.gone hp, hnodup⟩
  | statFails path msg => exact ⟨h, hnodup⟩
  | isMountPoint path =>
    cases hp : s.mounts.contains path with
    | true => exact ⟨h, hnodup⟩
    | false => exact ⟨h.add_unmounted (by simpa using hp), hnodup⟩
  | isMountPointFails path msg => exact ⟨h, hnodup⟩
  | @isBlockFile _ path b _ =>
    cases b with
    | true => exact ⟨h, hnodup⟩
    | false => exact ⟨⟨h.absent, h.unmounted, h.record, h.disks⟩, hnodup⟩
  | isBlockFileFails path applied msg =>
    exact ⟨⟨h.absent, h.unmounted, h.record, h.disks⟩, hnodup⟩
  | mknod volume target major minor hd => exact ⟨h.mknod hd, hnodup⟩
  | create path hf => exact ⟨h.create hf, hnodup⟩
  | bindMount volume source target hm =>
    -- the guard keeps a path from being mounted on twice
    have hfree : target ∉ s.mounts := h.unmounted target hguard.1
    refine ⟨h.bindMount hm, ?_⟩
    rcases hm with rfl | rfl
    · exact hnodup
    · exact List.nodup_cons.mpr ⟨hfree, hnodup⟩
  | umount cause volume target =>
    have hless := h.shrinks (.umount s target) rfl rfl
    exact ⟨hless.add_unmounted hnodup.not_mem_erase, hnodup.erase target⟩
  | umountFails cause volume target msg hm =>
    rcases hm with rfl | rfl
    · exact ⟨h, hnodup⟩
    · exact ⟨h.shrinks (.umount s target) rfl rfl, hnodup.erase target⟩
  | removeAll cause volume target hfree =>
    have hless := h.shrinks (.drop s target) rfl rfl
    exact ⟨hless.gone (Node.present_drop hfree), hnodup⟩
  | removeAllFails cause volume target msg hx =>
    rcases hx with rfl | rfl
    · exact ⟨h, hnodup⟩
    · exact ⟨h.shrinks (.drop s target) rfl rfl, hnodup⟩

/-! ### Hypervisors -/

/-- A request that fails has not been carried out unless it was applied all the
    same; one that succeeds has. -/
theorem Node.afterBase_hypervisor {pod : UID} {call : HypervisorCall} {account : Account}
    (c : Choice) :
    (∃ msg, c = .fail false msg ∧ s.afterBase (.hypervisor pod call account) c = s) ∨
      s.afterBase (.hypervisor pod call account) c =
        { s with guests := setAt s.guests pod ((s.guests pod).request call) } := by
  unfold Node.afterBase
  split
  · next h => cases h; exact .inl ⟨_, rfl, rfl⟩
  · next h _ => cases h; exact .inr rfl
  · next h _ => exact absurd rfl (h _ _ _)

/-- Other calls leave paths and the record alone. -/
theorem Node.afterBase_eq (s : Node) (o : Op) (c : Choice) :
    ∃ guests, s.afterBase o c = { s with guests := guests } := by
  unfold Node.afterBase
  split
  · exact ⟨s.guests, rfl⟩
  · exact ⟨_, rfl⟩
  · exact ⟨s.guests, rfl⟩

/-- They tell nothing about paths and the record. -/
theorem NodeView.toldBase_plain (o : Op) (a : o.Ans) (v : NodeView) :
    (NodeView.toldBase o a v).plain = v.plain := by
  unfold NodeView.toldBase
  split <;> rfl

/-- The VM that was read stays known, except that it is read again. -/
theorem NodeView.toldBase_vm {o : Op} (ho : o ≠ .getVM) (a : o.Ans) (v : NodeView) :
    (NodeView.toldBase o a v).vm = v.vm := by
  cases o with
  | getVM => exact absurd rfl ho
  | vmInfo pod => cases a <;> rfl
  | hypervisor pod call account =>
    cases call with
    | vmRemoveDevice id => cases a <;> rfl
    | _ => rfl
  | _ => rfl

theorem NodeView.told_vm {o : NodeOp} (ho : ∀ b, o ≠ .base b) (a : o.Ans) (v : NodeView) :
    (NodeView.told o a v).vm = v.vm := by
  cases o with
  | base o => exact absurd rfl (ho o)
  | loadRecord | writeRecord _ | removeRecord | umount _ _ _ | removeAll _ _ _ => cases a <;> rfl
  | stat path =>
    match a with
    | .error e => rfl
    | .ok true => rfl
    | .ok false => rfl
  | isMountPoint path =>
    match a with
    | .error e => rfl
    | .ok true => rfl
    | .ok false => rfl
  | isBlockFile path => cases a <;> rfl
  | _ => rfl

/-- The VM that a daemon knows after a call is the one it knew, or the stored
    one that it has read. -/
theorem NodeView.toldBase_vm_cases {i : Proc} {o : Op} {c : Choice} {a : o.Ans} {w w' : World}
    (h : World.answer i o c w = some (a, w')) {v : NodeView} {vm : VM}
    (hvm : (NodeView.toldBase o a v).vm = some vm) :
    v.vm = some vm ∨ (o = .getVM ∧ w.vm = some vm) := by
  by_cases ho : o = .getVM
  · subst ho
    simp only [World.answer] at h
    split at h
    · cases h; exact .inl hvm
    · split at h
      · cases h; exact .inl hvm
      · next hstored =>
        cases h
        exact .inr ⟨rfl, hstored.trans hvm⟩
  · rw [NodeView.toldBase_vm ho] at hvm
    exact .inl hvm

/-- Only `vmDelete` takes a guest back to where it has no guest. -/
theorem Guest.request_ne_fresh {call : HypervisorCall} {g : Guest} (hcall : call ≠ .vmDelete)
    (hg : g ≠ .fresh) : g.request call ≠ .fresh := by
  cases g with
  | fresh => exact absurd rfl hg
  | created l =>
    cases call with
    | vmDelete => exact absurd rfl hcall
    | _ => exact nofun
  | ended => cases call <;> exact nofun

/-- Only `vmCreate` and `vmAddDisk` attach disks. -/
theorem Guest.request_disks {call : HypervisorCall} {g : Guest}
    (hcreate : ∀ config, call ≠ .vmCreate config) (hadd : ∀ id path, call ≠ .vmAddDisk id path) :
    ∀ d ∈ (g.request call).disks, d ∈ g.disks := by
  intro d hd
  cases g with
  | fresh => cases call <;> first | exact hd | exact absurd rfl (hcreate _)
  | ended => cases call <;> exact hd
  | created l =>
    cases call with
    | vmCreate config => exact absurd rfl (hcreate config)
    | vmAddDisk id path => exact absurd rfl (hadd id path)
    | vmRemoveDevice id => exact (List.mem_filter.mp hd).1
    | vmDelete => cases hd
    | _ => exact hd

theorem Knows.forget_disks (h : Knows v s) (guests : UID → Guest) :
    Knows { v with disks := none } { s with guests := guests } :=
  ⟨h.absent, h.unmounted, h.record, nofun⟩

/-- The disks of a pod are known as well after a request that changes them in a
    way that is followed. -/
theorem Knows.follow (h : Knows v s) {pod : UID} {g : Guest} {f : List String → List String}
    (hfresh : s.guests pod ≠ .fresh → g ≠ .fresh)
    (hdisks : ∀ l, (∀ d ∈ (s.guests pod).disks, d ∈ l) → ∀ d ∈ g.disks, d ∈ f l) :
    Knows (v.onDisks pod f) { s with guests := setAt s.guests pod g } := by
  refine ⟨h.absent, h.unmounted, h.record, fun p l hl => ?_⟩
  obtain ⟨⟨q, m⟩, hv, heq⟩ := Option.map_eq_some_iff.mp hl
  obtain ⟨hne, hsub⟩ := h.disks q m hv
  by_cases hq : q = pod
  · subst hq
    rw [if_pos rfl] at heq
    cases heq
    simp only [setAt_self]
    exact ⟨hfresh hne, hdisks m hsub⟩
  · rw [if_neg hq] at heq
    cases heq
    simp only [setAt_ne _ _ hq]
    exact ⟨hne, hsub⟩

/-- Disks that are only taken away need not be followed. -/
theorem Knows.detach (h : Knows v s) {pod : UID} {g : Guest}
    (hfresh : s.guests pod ≠ .fresh → g ≠ .fresh)
    (hdisks : ∀ d ∈ g.disks, d ∈ (s.guests pod).disks) :
    Knows v { s with guests := setAt s.guests pod g } := by
  refine ⟨h.absent, h.unmounted, h.record, fun p l hl => ?_⟩
  obtain ⟨hne, hsub⟩ := h.disks p l hl
  by_cases hp : p = pod
  · subst hp
    simp only [setAt_self]
    exact ⟨hfresh hne, fun d hd => hsub d (hdisks d hd)⟩
  · simp only [setAt_ne _ _ hp]
    exact ⟨hne, hsub⟩

/-- A request that does not attach disks. -/
theorem Knows.quiet_request (h : Knows v s) {pod : UID} {call : HypervisorCall} {account : Account}
    {c : Choice} (hcreate : ∀ config, call ≠ .vmCreate config)
    (hadd : ∀ id path, call ≠ .vmAddDisk id path) (hdelete : call ≠ .vmDelete) :
    Knows v (s.afterBase (.hypervisor pod call account) c) := by
  rcases Node.afterBase_hypervisor (s := s) c with ⟨msg, -, hs⟩ | hs <;> rw [hs]
  · exact h
  · exact h.detach (Guest.request_ne_fresh hdelete) (Guest.request_disks hcreate hadd)

/-- A disk may have been attached. -/
theorem Knows.addDisk (h : Knows v s) {pod : UID} {id path : String} {account : Account}
    {c : Choice} :
    Knows (v.onDisks pod (id :: ·))
      (s.afterBase (.hypervisor pod (.vmAddDisk id path) account) c) := by
  rcases Node.afterBase_hypervisor (s := s) c with ⟨msg, -, hs⟩ | hs <;> rw [hs]
  · -- it was not; to know of one disk too many is no harm
    have hsame : s = { s with guests := setAt s.guests pod (s.guests pod) } := by
      rw [setAt_eq_self]
    rw [hsame]
    exact h.follow (fun hne => hne) fun l hl d hd => List.mem_cons_of_mem _ (hl d hd)
  · refine h.follow (Guest.request_ne_fresh nofun) fun l hl d hd => ?_
    cases hg : s.guests pod with
    | fresh => rw [hg] at hd; cases hd
    | ended => rw [hg] at hd; cases hd
    | created disks =>
      rw [hg] at hd hl
      rcases List.mem_cons.mp hd with rfl | hd
      · exact List.mem_cons_self
      · exact List.mem_cons_of_mem _ (hl d hd)

/-- A disk has been taken away. -/
theorem Knows.removeDevice (h : Knows v s) {pod : UID} {id : String} {account : Account}
    {c : Choice} (hc : ∀ applied msg, c ≠ .fail applied msg) :
    Knows (v.onDisks pod (·.filter (· != id)))
      (s.afterBase (.hypervisor pod (.vmRemoveDevice id) account) c) := by
  rcases Node.afterBase_hypervisor (s := s) c with ⟨msg, hfail, -⟩ | hs
  · exact absurd hfail (hc _ _)
  · rw [hs]
    refine h.follow (Guest.request_ne_fresh nofun) fun l hl d hd => ?_
    cases hg : s.guests pod with
    | fresh => rw [hg] at hd; cases hd
    | ended => rw [hg] at hd; cases hd
    | created disks =>
      rw [hg] at hd hl
      obtain ⟨hd, hne⟩ := List.mem_filter.mp hd
      exact List.mem_filter.mpr ⟨hl d hd, hne⟩

/-- A request to a hypervisor tells the truth. -/
theorem Knows.request (h : Knows v s) {pod : UID} {call : HypervisorCall} {account : Account}
    {c : Choice} :
    Knows (NodeView.toldBase (.hypervisor pod call account) c.unit v)
      (s.afterBase (.hypervisor pod call account) c) := by
  cases call with
  | vmAddDisk id path => exact h.addDisk
  | vmRemoveDevice id =>
    by_cases hc : ∃ applied msg, c = .fail applied msg
    · obtain ⟨applied, msg, rfl⟩ := hc
      exact h.quiet_request nofun nofun nofun
    · have hunit : c.unit = .ok () := by
        cases c with
        | fail applied msg => exact absurd ⟨applied, msg, rfl⟩ hc
        | _ => rfl
      rw [hunit]
      exact h.removeDevice fun applied msg heq => hc ⟨applied, msg, heq⟩
  | vmCreate config =>
    rcases Node.afterBase_hypervisor (s := s) c with ⟨msg, -, hs⟩ | hs <;> rw [hs]
    · exact h.forget_disks s.guests
    · exact h.forget_disks _
  | vmDelete =>
    rcases Node.afterBase_hypervisor (s := s) c with ⟨msg, -, hs⟩ | hs <;> rw [hs]
    · exact h.forget_disks s.guests
    · exact h.forget_disks _
  | _ => exact h.quiet_request nofun nofun nofun

/-- Any other call tells the truth as well. -/
theorem Knows.base {i : Proc} {o : Op} {a : o.Ans} {c : Choice} {w w' : World} (h : Knows v s)
    (hadmits : s.admits o c = true) (hans : World.answer i o c w = some (a, w')) :
    Knows (NodeView.toldBase o a v) (s.afterBase o c) := by
  cases o with
  | getVM =>
    cases a with
    | error e => exact h
    | ok vm => exact ⟨h.absent, h.unmounted, h.record, h.disks⟩
  | vmInfo pod =>
    simp only [World.answer] at hans
    split at hans
    · next info =>
      cases hans
      have hguest : s.guests pod = .created info.disks := by simpa [Node.admits] using hadmits
      refine ⟨h.absent, h.unmounted, h.record, fun p l hl => ?_⟩
      cases hl
      show s.guests pod ≠ .fresh ∧ ∀ d ∈ (s.guests pod).disks, d ∈ info.disks
      rw [hguest]
      exact ⟨(fun hfresh => by cases hfresh), fun d hd => hd⟩
    · cases hans; exact h
    · cases hans
  | hypervisor pod call account =>
    have ha : a = c.unit := by
      cases i with
      | daemon n => cases account <;> (cases hans; rfl)
      | controller => cases hans
      | vmm u => cases hans
    rw [ha]
    exact h.request
  | _ => exact h

end

/-! ### Runs -/

theorem Knows.disturbed {v : NodeView} {x x' : Node} (h : Knows v x) (hx : x.Disturbed x') :
    Knows v x' := by
  cases hx with
  | same => exact h
  | vanish path => exact h.shrinks (.vanish x path) rfl rfl
  | receive pod disks hfresh =>
    -- the disks that are known are not those of a hypervisor without a guest
    refine ⟨h.absent, h.unmounted, h.record, fun p l hl => ?_⟩
    obtain ⟨hne, hsub⟩ := h.disks p l hl
    have hp : p ≠ pod := fun heq => hne (heq ▸ hfresh)
    simp only [setAt_ne _ _ hp]
    exact ⟨hne, hsub⟩
  | exit pod =>
    refine h.detach (fun _ hfresh => ?_) (fun d hd => ?_)
    · cases hfresh
    · cases hd

/-- What is known is true, and no path is mounted on twice. -/
structure Informed (v : NodeView) (x : Node) : Prop where
  knows : Knows v x
  nodup : x.mounts.Nodup

/-- At first nothing is known, and no path is mounted on twice. -/
structure Unknown (s : Site) : Prop where
  known : ∀ i, s.known i = {}
  nodup : ∀ n, (s.nodes n).mounts.Nodup

section
variable {R : Type} {main : Proc → NodeCall R} {K : Terms}
  {ok : Site → Act nodeApi Proc NodeChoice NodeEvent → Prop} {I : Site → Prop}

theorem Informed.forget {v : NodeView} {x : Node} (h : Informed v x) : Informed {} x :=
  ⟨.fresh _, h.nodup⟩

theorem Informed.disturbed {v : NodeView} {x x' : Node} (h : Informed v x) (hx : x.Disturbed x') :
    Informed v x' := by
  refine ⟨h.knows.disturbed hx, ?_⟩
  cases hx with
  | vanish path => exact h.nodup.filter _
  | _ => exact h.nodup

theorem informed_invariant : NodeInvariant (mounting K) ok Informed where
  forget h := h.forget
  disturbed h hx := h.disturbed hx
  base {s n o c a w} h _ _ hadmits hans := by
    refine ⟨h.knows.base hadmits hans, ?_⟩
    obtain ⟨guests, heq⟩ := (s.nodes n).afterBase_eq o c
    rw [heq]
    exact h.nodup
  node h _ hguard hans := by
    obtain ⟨hknows, hnodup⟩ := h.knows.answer h.nodup hguard (Node.effect_of_answer hans)
    exact ⟨hknows, hnodup⟩

/-- **Truth**: in every state reached by programs that obey the protocol, what
    is known of the nodes is true. -/
theorem informed_of_reach (hkept : (Protocol.contract main (mounting K)).Kept)
    (hI : ∀ s, I s → Unknown s) {c : Conf nodeApi Site Proc R}
    (h : Reach (nodeMachine main) ok I c) (n : String) :
    Informed (c.store.known (.daemon n)) (c.store.nodes n) :=
  informed_invariant.holds hkept (fun s hs => (hI s hs).known)
    (fun s hs n => ⟨.fresh _, (hI s hs).nodup n⟩) h n

end

end Virtink
