import Virtink.Node.Store

/-! # What a Run Knows About Its Node

    What a daemon has been told stays true while it works, because nobody else
    puts anything on its node: the kubelet only clears paths away. A protocol
    over this knowledge is therefore a contract (`Protocol.contract`), and the
    calls of every step of the machine are guarded by it.

    The protocol `mounting` is about the paths and the record: a device node is
    made only where nothing is, a mount only where nothing is mounted, both only
    with an entry of the volume in the record, and an entry leaves the record
    only when its target has been released. When a volume may be recorded or
    unplugged and a disk attached is left to its `Terms`. A program that keeps
    the terms (`plan`) obeys the protocol when it is interpreted by the handler.
-/

namespace Virtink

open Calls

/-! ### Answers, Taken Apart -/

namespace Site

variable {i : Proc} {ch : NodeChoice} {s s' : Site}

/-- A call on the node is answered by the node of the daemon. -/
theorem answer_node {o : NodeOp} {a : o.Ans} (ho : ∀ b, o ≠ .base b)
    (h : Site.answer i o ch s = some (a, s')) :
    ∃ n node, i = .daemon n ∧ Node.answer o ch (s.nodes n) = some (a, node) ∧
      s' = { s with
        nodes := setAt s.nodes n node
        known := setAt s.known i (NodeView.told o a (s.known i)) } := by
  unfold Site.answer at h
  split at h
  · exact absurd rfl (ho _)
  · split at h
    · next n =>
      obtain ⟨⟨a', node⟩, hans, heq⟩ := Option.map_eq_some_iff.mp h
      cases heq
      exact ⟨n, node, rfl, hans, rfl⟩
    · cases h

/-- Any other call is answered by the cluster; a request to a hypervisor
    changes its guest. -/
structure BaseAnswer (i : Proc) (o : Op) (c : Choice) (s : Site) (a : o.Ans) (s' : Site) : Prop where
  world : World.answer i o c s.world = some (a, s'.world)
  known : s'.known = setAt s.known i (NodeView.told (.base o) a (s.known i))
  nodes : ∀ m, s'.nodes m =
    if i = .daemon m then (s.nodes m).afterBase o c else s.nodes m
  admits : ∀ m, i = .daemon m → (s.nodes m).admits o c = true

theorem answer_base {o : Op} {a : o.Ans} (h : Site.answer i (.base o) ch s = some (a, s')) :
    ∃ c, ch = .base c ∧ BaseAnswer i o c s a s' := by
  unfold Site.answer at h
  dsimp only at h
  split at h
  · next c =>
    refine ⟨c, rfl, ?_⟩
    split at h
    · next n =>
      split at h
      · next hadmits =>
        obtain ⟨⟨a', w⟩, hans, heq⟩ := Option.map_eq_some_iff.mp h
        cases heq
        refine ⟨hans, rfl, fun m => ?_, fun m hm => ?_⟩
        · by_cases hm : m = n
          · subst hm; simp
          · have hne : Proc.daemon n ≠ .daemon m := fun h => hm (Proc.daemon.inj h).symm
            simp [hm, hne]
        · cases hm; exact hadmits
      · cases h
    · next hother =>
      obtain ⟨⟨a', w⟩, hans, heq⟩ := Option.map_eq_some_iff.mp h
      cases heq
      refine ⟨hans, rfl, fun m => ?_, fun m hm => absurd hm (hother m)⟩
      rw [if_neg (hother m)]
  · cases h

/-- What a call tells goes to the process that makes it. -/
theorem answer_known {o : NodeOp} {a : o.Ans} (h : Site.answer i o ch s = some (a, s')) :
    s'.known = setAt s.known i (NodeView.told o a (s.known i)) := by
  by_cases ho : ∃ b, o = .base b
  · obtain ⟨b, rfl⟩ := ho
    obtain ⟨c, -, hbase⟩ := answer_base h
    exact hbase.known
  · obtain ⟨n, node, -, -, rfl⟩ := answer_node (fun b hb => ho ⟨b, hb⟩) h
    rfl

theorem event_known {e : NodeEvent} (h : Site.event e s = some s') : s'.known = s.known := by
  cases e with
  | base e =>
    obtain ⟨w, -, rfl⟩ := Option.map_eq_some_iff.mp h
    rfl
  | vanish n path => cases h; rfl
  | receive n pod disks =>
    unfold Site.event at h
    dsimp only at h
    split at h
    · cases h; rfl
    · cases h
  | exit n pod => cases h; rfl

end Site

/-! ### Protocols as Contracts -/

section
variable {R : Type} (main : Proc → NodeCall R)

/-- What each process knows is its view. -/
def nodeViews : Views (nodeMachine main) NodeView where
  view i s := s.known i
  fresh := {}
  view_enter _ _ := setAt_self ..
  view_crash _ _ := setAt_self ..
  view_enter_ne hij _ := setAt_ne _ _ hij
  view_crash_ne hij _ := setAt_ne _ _ hij
  view_call_ne {i j} hij {o ch a s s'} h := by
    have hknown : s'.known = _ := Site.answer_known h
    rw [hknown]
    exact setAt_ne _ _ hij
  view_event h := by rw [Site.event_known h]

/-- A discipline for the daemons. -/
def Protocol.contract (D : Protocol nodeApi NodeView) : Contract (nodeViews main) where
  guard i o v := ∀ n, i = .daemon n → D.guard o v
  done _ _ := True

variable {main} {D : Protocol nodeApi NodeView}

/-- If the programs of the daemons obey the protocol, it is a contract. -/
theorem Protocol.kept (htold : D.told = NodeView.told)
    (h : ∀ n, D.Obeys (main (.daemon n)) (fun _ _ => True) {}) :
    (Protocol.contract main D).Kept := by
  intro i
  have hsees : ∀ i o v a v', Contract.Sees (nodeViews main) i o v a v' → v' = D.told o a v := by
    intro i o v a v' hsees
    obtain ⟨s, ch, s', rfl, hans, rfl⟩ := hsees
    have hknown : s'.known = _ := Site.answer_known hans
    show s'.known i = _
    rw [hknown, setAt_self, htold]
    rfl
  cases i with
  | daemon n =>
    exact (h n).wp (fun o v hg m _ => hg) (fun o v a v' hs => hsees _ o v a v' hs)
  | controller => exact Contract.wp_of_guard (fun o v n hn => by cases hn) _
  | vmm u => exact Contract.wp_of_guard (fun o v n hn => by cases hn) _

end

/-! ### Mounting -/

/-- Nothing is mounted on the path, and it is no device node. -/
def NodeView.released (v : NodeView) (path : String) : Prop :=
  path ∈ v.unmounted ∧ path ∈ v.plain

/-- The record is known and has an entry for the volume. -/
def NodeView.records (v : NodeView) (volume : String) : Prop :=
  ∃ r, v.record = some r ∧ ∃ e ∈ r, e.volume = volume

/-- When a volume may get an entry in the record, when it may be unplugged,
    and when a disk may be attached to the hypervisor of a pod, by the VM as it
    was read and the disks that are known. -/
structure Terms where
  plug   : Option VM → String → Prop := fun _ _ => True
  unplug : Option VM → Option (UID × List String) → String → Prop := fun _ _ _ => True
  attach : Option VM → Option (UID × List String) → UID → String → Prop := fun _ _ _ _ => True

/-- The discipline of mounting. -/
def mounting (K : Terms) : Protocol nodeApi NodeView where
  told := NodeView.told
  guard
    | .mknod volume target _ _, v => target ∈ v.absent ∧ v.records volume
    | .bindMount volume _ target, v => target ∈ v.unmounted ∧ v.records volume
    | .writeRecord l, v => ∃ r, v.record = some r ∧
        (∀ e ∈ r, e ∈ l ∨ v.released e.target) ∧ ∀ e ∈ l, e ∈ r ∨ K.plug v.vm e.volume
    | .removeRecord, v => ∃ r, v.record = some r ∧ ∀ e ∈ r, v.released e.target
    | .umount .unplugged volume _, v => v.records volume ∧ K.unplug v.vm v.disks volume
    | .removeAll .unplugged volume _, v => v.records volume ∧ K.unplug v.vm v.disks volume
    | .base (.hypervisor pod (.vmAddDisk id _) _), v => K.attach v.vm v.disks pod id
    | _, _ => True

/-- The discipline of the programs that are to be interpreted. -/
def plan (K : Terms) : Protocol api NodeView where
  told := NodeView.toldBase
  guard
    | .mountVolume volume _ _ _, v => K.plug v.vm volume
    | .umountHotplugVolumes names, v => ∀ volume, volume ∉ names → K.unplug v.vm v.disks volume
    | .hypervisor pod (.vmAddDisk id _) _, v => K.attach v.vm v.disks pod id
    | _, _ => True

/-- More is known of the paths, and nothing else has changed. -/
structure NodeView.Grows (v v' : NodeView) : Prop where
  vm        : v'.vm = v.vm
  record    : v'.record = v.record
  disks     : v'.disks = v.disks
  absent    : ∀ p ∈ v.absent, p ∈ v'.absent
  unmounted : ∀ p ∈ v.unmounted, p ∈ v'.unmounted
  plain     : ∀ p ∈ v.plain, p ∈ v'.plain

theorem NodeView.Grows.refl (v : NodeView) : v.Grows v :=
  ⟨rfl, rfl, rfl, fun _ h => h, fun _ h => h, fun _ h => h⟩

theorem NodeView.Grows.trans {v₁ v₂ v₃ : NodeView} (h : v₁.Grows v₂) (h' : v₂.Grows v₃) :
    v₁.Grows v₃ where
  vm := h'.vm.trans h.vm
  record := h'.record.trans h.record
  disks := h'.disks.trans h.disks
  absent p hp := h'.absent p (h.absent p hp)
  unmounted p hp := h'.unmounted p (h.unmounted p hp)
  plain p hp := h'.plain p (h.plain p hp)

theorem NodeView.Grows.released {v v' : NodeView} (h : v.Grows v') {path : String}
    (hp : v.released path) : v'.released path :=
  ⟨h.unmounted path hp.1, h.plain path hp.2⟩

theorem NodeView.grows_gone (v : NodeView) (path : String) : v.Grows (v.gone path) :=
  ⟨rfl, rfl, rfl, fun _ => List.mem_cons_of_mem _, fun _ => List.mem_cons_of_mem _,
    fun _ => List.mem_cons_of_mem _⟩

theorem NodeView.released_gone (v : NodeView) (path : String) : (v.gone path).released path :=
  ⟨List.mem_cons_self, List.mem_cons_self⟩

/-- The VM and the disks are known as before. -/
structure NodeView.SameRun (v v' : NodeView) : Prop where
  vm    : v'.vm = v.vm
  disks : v'.disks = v.disks

theorem NodeView.SameRun.trans {v₁ v₂ v₃ : NodeView} (h : v₁.SameRun v₂) (h' : v₂.SameRun v₃) :
    v₁.SameRun v₃ :=
  ⟨h'.vm.trans h.vm, h'.disks.trans h.disks⟩

theorem NodeView.Grows.sameRun {v v' : NodeView} (h : v.Grows v') : v.SameRun v' :=
  ⟨h.vm, h.disks⟩

/-- The calls by which a daemon mounts and unmounts: none of the cluster, but
    for the question which process serves a socket. -/
def NodeOp.InPlace : NodeOp → Prop
  | .base (.getPIDBySocket _) => True
  | .base _ => False
  | _ => True

/-- The discipline, kept by such calls. -/
def inside (K : Terms) : Protocol nodeApi NodeView where
  guard
    | .base (.getPIDBySocket _), _ => True
    | .base _, _ => False
    | o, v => (mounting K).guard o v
  told := NodeView.told

theorem inside_guard {K : Terms} {o : NodeOp} {v : NodeView} (h : (inside K).guard o v) :
    o.InPlace ∧ (mounting K).guard o v := by
  cases o with
  | base b =>
    cases b with
    | getPIDBySocket pod => exact ⟨trivial, trivial⟩
    | _ => exact h.elim
  | _ => exact ⟨trivial, h⟩

theorem mounting_of_inside {α : Type} {K : Terms} {p : NodeCall α} {Q : α → NodeView → Prop}
    {v : NodeView} (h : (inside K).Obeys p Q v) : (mounting K).Obeys p Q v := by
  induction p generalizing v with
  | pure a => exact h
  | call o k ih => exact ⟨(inside_guard h.1).2, fun a => ih a (h.2 a)⟩

theorem inPlace_of_inside {α : Type} {K : Terms} {p : NodeCall α} {Q : α → NodeView → Prop}
    {v : NodeView} (h : (inside K).Obeys p Q v) : p.Only NodeOp.InPlace := by
  induction p generalizing v with
  | pure a => trivial
  | call o k ih => exact ⟨(inside_guard h.1).1, fun a => ih a (h.2 a)⟩

/-- Calls that tell nothing about paths and the record. -/
def Quiet : NodeOp → Prop
  | .base (.getPIDBySocket _) | .getBlockFileMajorMinor _ | .getHotplugVolumeSourcePathOnHost _ _
  | .statSocket _ | .openCgroup _ | .setCgroup _ _ _ _ | .panic => True
  | _ => False

theorem Quiet.told {o : NodeOp} (h : Quiet o) (a : o.Ans) (v : NodeView) :
    NodeView.told o a v = v := by
  cases o with
  | base o =>
    cases o with
    | getPIDBySocket pod => rfl
    | _ => exact h.elim
  | getBlockFileMajorMinor _ | getHotplugVolumeSourcePathOnHost _ _ | statSocket _ | openCgroup _
  | setCgroup _ _ _ _ | panic => rfl
  | _ => exact h.elim

namespace VMDaemon

theorem NewManager_quiet (pod : UID) : (NewManager pod).Only Quiet := by
  refine ⟨trivial, fun exists_ => ?_⟩
  match exists_ with
  | .error e => trivial
  | .ok false => trivial
  | .ok true =>
    refine ⟨trivial, fun pid => ?_⟩
    match pid with
    | .error e => trivial
    | .ok pid =>
      refine ⟨trivial, fun opened => ?_⟩
      match opened with
      | .error e => trivial
      | .ok () => trivial

theorem forbidDevice_quiet (pod : UID) (major minor : Int) :
    (forbidDevice pod major minor).Only Quiet := by
  refine (NewManager_quiet pod).bind fun manager => ?_
  match manager with
  | .error e => trivial
  | .ok none => trivial
  | .ok (some pod) => exact ⟨trivial, fun _ => trivial⟩

section
variable {K : Terms} {v : NodeView}

theorem quiet_guard {o : NodeOp} (h : Quiet o) : (inside K).guard o v := by
  cases o with
  | base o =>
    cases o with
    | getPIDBySocket pod => trivial
    | _ => exact h.elim
  | getBlockFileMajorMinor _ | getHotplugVolumeSourcePathOnHost _ _ | statSocket _ | openCgroup _
  | setCgroup _ _ _ _ | panic => trivial
  | _ => exact h.elim

theorem obeys_quiet {α : Type} {p : NodeCall α} (hp : p.Only Quiet) :
    (inside K).Obeys p (fun _ v' => v' = v) v := by
  refine Protocol.Obeys.of_only hp (fun o _ ho _ => quiet_guard ho) (fun o w a ho hw => ?_) rfl
  rw [← hw]
  exact ho.told a w

/-- The record with the volume in it is written, unless it has it. -/
theorem addVolumeToVMMountRecord_obeys {volume : String} (target : String) {r : List MountEntry}
    (hr : v.record = some r) (hplug : K.plug v.vm volume) :
    (inside K).Obeys (addVolumeToVMMountRecord volume target r)
      (fun x v' => v.SameRun v' ∧ ∀ r', x = .ok r' → v' = { v with record := some r' } ∧
        ∃ e ∈ r', e.volume = volume) v := by
  unfold addVolumeToVMMountRecord
  split
  · next hany =>
    obtain ⟨e, he, hname⟩ := List.any_eq_true.mp hany
    refine ⟨⟨rfl, rfl⟩, ?_⟩
    rintro r' ⟨⟩
    refine ⟨?_, e, he, by simpa using hname⟩
    rw [← hr]
  · refine ⟨⟨r, hr, fun e he => .inl (List.mem_append_left _ he), fun e he => ?_⟩, fun x => ?_⟩
    · rcases List.mem_append.mp he with he | he
      · exact .inl he
      · rw [List.mem_singleton] at he
        rw [he]
        exact .inr hplug
    · match x with
      | .error e => exact ⟨⟨rfl, rfl⟩, nofun⟩
      | .ok () =>
        refine ⟨⟨rfl, rfl⟩, ?_⟩
        rintro r' ⟨⟩
        exact ⟨rfl, _, List.mem_append_right _ (List.mem_singleton_self _), rfl⟩

/-- The end of mounting a block volume: what is known stays, and so does the
    record. -/
theorem allowDevice_obeys {pod : UID} {volume : String} {major minor : Int}
    {r : List MountEntry} :
    (inside K).Obeys (allowDevice pod volume major minor r)
      (fun x v' => v' = v ∧ ∀ r', x = .ok r' → r' = r) v := by
  refine Protocol.Obeys.bind ((obeys_quiet (NewManager_quiet pod)).mono ?_)
  rintro manager v' rfl
  match manager with
  | .error e => exact ⟨rfl, nofun⟩
  | .ok none => exact ⟨trivial, fun x => x.elim⟩
  | .ok (some pod) =>
    refine ⟨trivial, fun set => ?_⟩
    match set with
    | .error e => exact ⟨rfl, nofun⟩
    | .ok () => exact ⟨rfl, fun r' h => by cases h; rfl⟩

/-- What mounting a volume comes to: if it succeeds, the record is known. -/
def Mounts (v : NodeView) (x : Except String (List MountEntry)) (v' : NodeView) : Prop :=
  v.SameRun v' ∧ ∀ r, x = .ok r → v'.record = some r

theorem mountBlockVolume_obeys {pod : UID} {volume : String} {vmPodUID volumePodUID : UID}
    {r : List MountEntry} (hr : v.record = some r) (hplug : K.plug v.vm volume) :
    (inside K).Obeys (mountBlockVolume pod volume vmPodUID volumePodUID r) (Mounts v) v := by
  refine ⟨trivial, fun mounted => ?_⟩
  match mounted with
  | .error e => exact ⟨⟨rfl, rfl⟩, nofun⟩
  | .ok mounted =>
    -- if nothing is at the target, this is known from here on
    obtain ⟨v₁, hv₁, hgrows, habsent⟩ : ∃ v₁, v₁ =
        NodeView.told (.stat (mountBlockVolumeTarget vmPodUID volume)) (.ok mounted) v ∧
        v.Grows v₁ ∧ (mounted = false → mountBlockVolumeTarget vmPodUID volume ∈ v₁.absent) := by
      refine ⟨_, rfl, ?_⟩
      cases mounted with
      | true => exact ⟨.refl v, nofun⟩
      | false => exact ⟨v.grows_gone _, fun _ => List.mem_cons_self⟩
    show (inside K).Obeys _ _ (NodeView.told (.stat _) (.ok mounted) v)
    rw [← hv₁]
    refine ⟨trivial, fun numbers => ?_⟩
    match numbers with
    | .error e => exact ⟨hgrows.sameRun, nofun⟩
    | .ok (major, minor) =>
      have hadd := addVolumeToVMMountRecord_obeys (K := K)
        (mountBlockVolumeTarget vmPodUID volume) (hgrows.record.trans hr) (hgrows.vm ▸ hplug)
      refine Protocol.Obeys.bind (p := addVolumeToVMMountRecord volume _ r) (hadd.mono ?_)
      rintro added v₂ ⟨hsame, hok⟩
      match added with
      | .error e => exact ⟨hgrows.sameRun.trans hsame, nofun⟩
      | .ok r' =>
        obtain ⟨rfl, hentry⟩ := hok r' rfl
        have hdone : ∀ v₃ : NodeView, v.SameRun v₃ → v₃.record = some r' →
            (inside K).Obeys (allowDevice pod volume major minor r') (Mounts v) v₃ := by
          intro v₃ hsame₃ hrecord
          refine allowDevice_obeys.mono ?_
          rintro x v₄ ⟨rfl, hx⟩
          exact ⟨hsame₃, fun r'' h => by rw [hx r'' h]; exact hrecord⟩
        have hsame₂ := hgrows.sameRun.trans hsame
        cases mounted with
        | true => exact hdone _ hsame₂ rfl
        | false =>
          refine ⟨⟨habsent rfl, r', rfl, hentry⟩, fun made => ?_⟩
          match made with
          | .error e => exact ⟨⟨hsame₂.vm, hsame₂.disks⟩, nofun⟩
          | .ok () => exact hdone _ ⟨hsame₂.vm, hsame₂.disks⟩ rfl

theorem isMounted_obeys (path : String) :
    (inside K).Obeys (isMounted path)
      (fun x v' => v.Grows v' ∧ (x = .ok false → path ∈ v'.unmounted)) v := by
  refine ⟨trivial, fun there => ?_⟩
  match there with
  | .error e => exact ⟨.refl v, nofun⟩
  | .ok false => exact ⟨v.grows_gone path, fun _ => List.mem_cons_self⟩
  | .ok true =>
    refine ⟨trivial, fun mounted => ?_⟩
    match mounted with
    | .error e => exact ⟨.refl v, nofun⟩
    | .ok true => exact ⟨.refl v, nofun⟩
    | .ok false =>
      exact ⟨⟨rfl, rfl, rfl, fun _ h => h, fun _ => List.mem_cons_of_mem _, fun _ h => h⟩,
        fun _ => List.mem_cons_self⟩

/-- Creating the target keeps what is known of mounts and of the record. -/
theorem createTarget_obeys (target : String) :
    (inside K).Obeys (createTarget target)
      (fun _ v' => v.SameRun v' ∧ v'.record = v.record ∧ ∀ p ∈ v.unmounted, p ∈ v'.unmounted) v := by
  refine ⟨trivial, fun there => ?_⟩
  match there with
  | .error e => exact ⟨⟨rfl, rfl⟩, rfl, fun _ h => h⟩
  | .ok true => exact ⟨⟨rfl, rfl⟩, rfl, fun _ h => h⟩
  | .ok false =>
    exact ⟨trivial, fun _ => ⟨⟨rfl, rfl⟩, rfl, fun _ => List.mem_cons_of_mem _⟩⟩

theorem mountFileSystemVolume_obeys {volume : String} {vmPodUID volumePodUID : UID}
    {r : List MountEntry} (hr : v.record = some r) (hplug : K.plug v.vm volume) :
    (inside K).Obeys (mountFileSystemVolume volume vmPodUID volumePodUID r) (Mounts v) v := by
  refine Protocol.Obeys.bind ((isMounted_obeys _).mono ?_)
  rintro mounted v₁ ⟨hgrows, hfree⟩
  match mounted with
  | .error e => exact ⟨hgrows.sameRun, nofun⟩
  | .ok true => exact ⟨hgrows.sameRun, fun r' h => by cases h; exact hgrows.record.trans hr⟩
  | .ok false =>
    refine ⟨trivial, fun source => ?_⟩
    match source with
    | .error e => exact ⟨hgrows.sameRun, nofun⟩
    | .ok source =>
      have hadd := addVolumeToVMMountRecord_obeys (K := K)
        (mountFileSystemVolumeTarget vmPodUID volume) (hgrows.record.trans hr) (hgrows.vm ▸ hplug)
      refine Protocol.Obeys.bind (p := addVolumeToVMMountRecord volume _ r) (hadd.mono ?_)
      rintro added v₂ ⟨hsame, hok⟩
      have hsame₂ := hgrows.sameRun.trans hsame
      match added with
      | .error e => exact ⟨hsame₂, nofun⟩
      | .ok r' =>
        obtain ⟨rfl, hentry⟩ := hok r' rfl
        refine Protocol.Obeys.bind (p := createTarget _) ((createTarget_obeys _).mono ?_)
        rintro created v₃ ⟨hsame₃, hrecord, hkeep⟩
        have hsame₃ := hsame₂.trans hsame₃
        match created with
        | .error e => exact ⟨hsame₃, nofun⟩
        | .ok () =>
          refine ⟨⟨hkeep _ (hfree rfl), r', hrecord, hentry⟩, fun bound => ?_⟩
          match bound with
          | .error e => exact ⟨⟨hsame₃.vm, hsame₃.disks⟩, nofun⟩
          | .ok () =>
            exact ⟨⟨hsame₃.vm, hsame₃.disks⟩, fun r'' h => by cases h; exact hrecord⟩

/-- An entry that is released in full. -/
theorem umountHotplugVolume_obeys {cause : Release} (pod : UID) {entry : MountEntry}
    (hterms : cause = .unplugged → v.records entry.volume ∧ K.unplug v.vm v.disks entry.volume) :
    (inside K).Obeys (umountHotplugVolume cause pod entry)
      (fun x v' => v.Grows v' ∧ (x = .ok () → v'.released entry.target)) v := by
  have hguard : ∀ v' : NodeView, v.Grows v' → cause = .unplugged →
      v'.records entry.volume ∧ K.unplug v'.vm v'.disks entry.volume := by
    intro v' hgrows hcause
    obtain ⟨⟨r, hr, hentry⟩, hunplug⟩ := hterms hcause
    exact ⟨⟨r, hgrows.record.trans hr, hentry⟩, by rw [hgrows.vm, hgrows.disks]; exact hunplug⟩
  refine ⟨trivial, fun block => ?_⟩
  match block with
  | true =>
    refine ⟨trivial, fun there => ?_⟩
    match there with
    | .error e => exact ⟨.refl v, nofun⟩
    | .ok false => exact ⟨v.grows_gone _, fun _ => v.released_gone _⟩
    | .ok true =>
      refine ⟨trivial, fun numbers => ?_⟩
      match numbers with
      | .error e => exact ⟨.refl v, nofun⟩
      | .ok (major, minor) =>
        refine Protocol.Obeys.bind (p := forbidDevice pod major minor)
          ((obeys_quiet (forbidDevice_quiet pod major minor)).mono ?_)
        rintro forbidden v' rfl
        match forbidden with
        | .error e => exact ⟨.refl v', nofun⟩
        | .ok () =>
          refine ⟨?_, fun removed => ?_⟩
          · cases cause with
            | unplugged => exact hguard v' (.refl v') rfl
            | all => trivial
          · match removed with
            | .error e => exact ⟨.refl v', nofun⟩
            | .ok () => exact ⟨v'.grows_gone _, fun _ => v'.released_gone _⟩
  | false =>
    -- the target is no device node; what is left is that nothing is mounted on it
    have hplain : v.Grows (NodeView.told (.isBlockFile entry.target) false v) :=
      ⟨rfl, rfl, rfl, fun _ h => h, fun _ h => h, fun _ => List.mem_cons_of_mem _⟩
    have hmem : entry.target ∈ (NodeView.told (.isBlockFile entry.target) false v).plain :=
      List.mem_cons_self
    refine Protocol.Obeys.bind (p := isMounted entry.target) ((isMounted_obeys _).mono ?_)
    rintro mounted v₁ ⟨hgrows, hfree⟩
    have hgrows₁ := hplain.trans hgrows
    have hplain₁ := hgrows.plain _ hmem
    match mounted with
    | .error e => exact ⟨hgrows₁, nofun⟩
    | .ok false => exact ⟨hgrows₁, fun _ => ⟨hfree rfl, hplain₁⟩⟩
    | .ok true =>
      refine ⟨?_, fun umounted => ?_⟩
      · cases cause with
        | unplugged => exact hguard v₁ hgrows₁ rfl
        | all => trivial
      · match umounted with
        | .error e => exact ⟨hgrows₁, nofun⟩
        | .ok () =>
          refine ⟨hgrows₁.trans ?_, fun _ => ⟨List.mem_cons_self, hplain₁⟩⟩
          exact ⟨rfl, rfl, rfl, fun _ h => h, fun _ => List.mem_cons_of_mem _, fun _ h => h⟩

/-- The loop: what is not kept is released. -/
theorem umountEntries_obeys (cause : Release) (pod : UID) (keep : MountEntry → Bool)
    (l : List MountEntry)
    (hterms : cause = .unplugged → ∀ e ∈ l, keep e = false →
      v.records e.volume ∧ K.unplug v.vm v.disks e.volume) :
    (inside K).Obeys (umountEntries cause pod keep l)
      (fun x v' => v.Grows v' ∧ (x = .ok () → ∀ e ∈ l, keep e = true ∨ v'.released e.target)) v := by
  induction l generalizing v with
  | nil => exact ⟨.refl v, fun _ e he => by cases he⟩
  | cons entry rest ih =>
    have hrest : ∀ v' : NodeView, v.Grows v' → cause = .unplugged → ∀ e ∈ rest, keep e = false →
        v'.records e.volume ∧ K.unplug v'.vm v'.disks e.volume := by
      intro v' hgrows hcause e he hkeep
      obtain ⟨⟨r, hr, hentry⟩, hunplug⟩ := hterms hcause e (List.mem_cons_of_mem _ he) hkeep
      exact ⟨⟨r, hgrows.record.trans hr, hentry⟩, by rw [hgrows.vm, hgrows.disks]; exact hunplug⟩
    unfold umountEntries
    split
    · next hkeep =>
      refine (ih (hrest v (.refl v))).mono ?_
      rintro x v' ⟨hgrows, hdone⟩
      refine ⟨hgrows, fun hx e he => ?_⟩
      rcases List.mem_cons.mp he with rfl | he
      · exact .inl hkeep
      · exact hdone hx e he
    · next hkeep =>
      have hentry := umountHotplugVolume_obeys (K := K) pod fun hcause =>
        hterms hcause entry List.mem_cons_self (by simpa using hkeep)
      refine Protocol.Obeys.bind (hentry.mono ?_)
      rintro x v₁ ⟨hgrows, hreleased⟩
      match x with
      | .error e => exact ⟨hgrows, nofun⟩
      | .ok () =>
        refine (ih (hrest v₁ hgrows)).mono ?_
        rintro y v₂ ⟨hgrows₂, hdone⟩
        refine ⟨hgrows.trans hgrows₂, fun hy e he => ?_⟩
        rcases List.mem_cons.mp he with rfl | he
        · exact .inr (hgrows₂.released (hreleased rfl))
        · exact hdone hy e he

theorem umountHotplugVolumes_obeys {pod : UID} {names : List String}
    (hterms : ∀ volume, volume ∉ names → K.unplug v.vm v.disks volume) :
    (inside K).Obeys (umountHotplugVolumes pod names) (fun _ v' => v.SameRun v') v := by
  refine ⟨trivial, fun loaded => ?_⟩
  match loaded with
  | .error e => exact ⟨rfl, rfl⟩
  | .ok record =>
    have hentries := umountEntries_obeys (K := K) (v := { v with record := some record }) .unplugged
      pod (fun e => names.contains e.volume) record
      fun _ e he hkeep => ⟨⟨record, rfl, e, he, rfl⟩, hterms e.volume (by simpa using hkeep)⟩
    refine Protocol.Obeys.bind (p := umountEntries _ pod _ record) (hentries.mono ?_)
    rintro x v₁ ⟨hgrows, hdone⟩
    have hsame : v.SameRun v₁ := ⟨hgrows.vm, hgrows.disks⟩
    match x with
    | .error e => exact hsame
    | .ok () =>
      have hdone := hdone rfl
      by_cases hkept : (record.filter fun e => names.contains e.volume).length > 0
      · simp only [hkept]
        refine ⟨⟨record, hgrows.record, fun e he => ?_, fun e he => ?_⟩, fun written => ?_⟩
        · exact (hdone e he).imp_left fun hkeep => List.mem_filter.mpr ⟨he, hkeep⟩
        · exact .inl (List.mem_filter.mp he).1
        · cases written <;> exact ⟨hsame.vm, hsame.disks⟩
      · -- no entry is kept, so all have been released
        simp only [hkept]
        refine ⟨⟨record, hgrows.record, fun e he => ?_⟩, fun removed => ?_⟩
        · refine (hdone e he).resolve_left fun hkeep => hkept ?_
          exact List.length_pos_of_mem (List.mem_filter.mpr ⟨he, hkeep⟩)
        · cases removed <;> exact ⟨hsame.vm, hsame.disks⟩

theorem umountAllHotplugVolumes_obeys {pod : UID} :
    (inside K).Obeys (umountAllHotplugVolumes pod) (fun _ v' => v.SameRun v') v := by
  refine ⟨trivial, fun loaded => ?_⟩
  match loaded with
  | .error e => exact ⟨rfl, rfl⟩
  | .ok record =>
    have hentries := umountEntries_obeys (K := K) (v := { v with record := some record }) .all pod
      (fun _ => false) record nofun
    refine Protocol.Obeys.bind (p := umountEntries _ pod _ record) (hentries.mono ?_)
    rintro x v₁ ⟨hgrows, hdone⟩
    have hsame : v.SameRun v₁ := ⟨hgrows.vm, hgrows.disks⟩
    match x with
    | .error e => exact hsame
    | .ok () =>
      refine ⟨⟨record, hgrows.record, fun e he => ?_⟩, fun removed => ?_⟩
      · exact (hdone rfl e he).resolve_left nofun
      · cases removed <;> exact ⟨hsame.vm, hsame.disks⟩

/-! ### The Handler -/

/-- What is known on the two levels: the VM and the disks, and the record that
    `mountHotplugVolumes` works with is the one that is stored. -/
structure Agrees (l : Local) (v v' : NodeView) : Prop where
  vm     : v'.vm = v.vm
  disks  : v'.disks = v.disks
  record : ∀ r, l.record = some r → v'.record = some r

theorem Agrees.sameRun {l l' : Local} {v v' w' : NodeView} (h : Agrees l v v')
    (hsame : v'.SameRun w') (hrecord : ∀ r, l'.record = some r → w'.record = some r) :
    Agrees l' v w' :=
  ⟨hsame.vm.trans h.vm, hsame.disks.trans h.disks, hrecord⟩

/-- Other calls tell the same on both levels. -/
theorem Agrees.toldBase {l : Local} {v v' : NodeView} (h : Agrees l v v') (o : Op) (a : o.Ans) :
    Agrees l (NodeView.toldBase o a v) (NodeView.toldBase o a v') := by
  cases o with
  | getVM =>
    cases a with
    | error e => exact h
    | ok vm => exact ⟨rfl, h.disks, h.record⟩
  | vmInfo pod =>
    cases a with
    | error e => exact h
    | ok info => exact ⟨h.vm, rfl, h.record⟩
  | hypervisor pod call account =>
    cases call with
    | vmAddDisk id path =>
      refine ⟨h.vm, ?_, h.record⟩
      simp only [NodeView.toldBase, NodeView.onDisks, h.disks]
    | vmRemoveDevice id =>
      cases a with
      | error e => exact h
      | ok _ =>
        refine ⟨h.vm, ?_, h.record⟩
        simp only [NodeView.toldBase, NodeView.onDisks, h.disks]
    | vmCreate config => exact ⟨h.vm, rfl, h.record⟩
    | vmDelete => exact ⟨h.vm, rfl, h.record⟩
    | _ => exact h
  | _ => exact h

theorem obeys_base {l : Local} {v v' : NodeView} (h : Agrees l v v') {o : Op}
    (hguard : (mounting K).guard (.base o) v') :
    (mounting K).Obeys (Prog.call (NodeOp.base o) fun a => .pure (a, l))
      (fun x w' => Agrees x.2 (NodeView.toldBase o x.1 v) w') v' :=
  ⟨hguard, fun a => h.toldBase o a⟩

/-- **The handler** keeps the protocol for every call that keeps the plan. -/
theorem handler_obeys (o : Op) (l : Local) (v v' : NodeView) (h : Agrees l v v')
    (hguard : (plan K).guard o v) :
    (mounting K).Obeys (handler o l) (fun x w' => Agrees x.2 ((plan K).told o x.1 v) w') v' := by
  cases o with
  | getVM =>
    refine ⟨trivial, fun a => ?_⟩
    match a with
    | .error e => exact h
    | .ok vm => exact ⟨rfl, h.disks, h.record⟩
  | getVMMountRecord =>
    refine ⟨trivial, fun a => ?_⟩
    match a with
    | .error e => exact ⟨h.vm, h.disks, nofun⟩
    | .ok r => exact ⟨h.vm, h.disks, fun r' hr => by cases hr; rfl⟩
  | mountVolume volume block vmPodUID volumePodUID =>
    have hplug : K.plug v'.vm volume := by rw [h.vm]; exact hguard
    cases hrecord : l.record with
    | none =>
      simp only [handler, hrecord]
      exact ⟨trivial, fun x => x.elim⟩
    | some r =>
      have hdone : ∀ p : NodeCall (Except String (List MountEntry)),
          (inside K).Obeys p (Mounts v') v' →
          (mounting K).Obeys (p.bind fun x => .pure (l.mounted x))
            (fun x w' => Agrees x.2 v w') v' := by
        intro p hp
        refine Protocol.Obeys.bind ((mounting_of_inside hp).mono ?_)
        rintro x w' ⟨hsame, hok⟩
        match x with
        | .error e => exact h.sameRun hsame nofun
        | .ok r' => exact h.sameRun hsame fun r'' hr => by cases hr; exact hok r' rfl
      simp only [handler, hrecord]
      cases block with
      | true => exact hdone _ (mountBlockVolume_obeys (h.record r hrecord) hplug)
      | false => exact hdone _ (mountFileSystemVolume_obeys (h.record r hrecord) hplug)
  | umountHotplugVolumes names =>
    have hterms : ∀ volume, volume ∉ names → K.unplug v'.vm v'.disks volume := by
      rw [h.vm, h.disks]
      exact hguard
    refine Protocol.Obeys.bind ((mounting_of_inside (umountHotplugVolumes_obeys hterms)).mono ?_)
    intro x w' hsame
    exact h.sameRun hsame nofun
  | umountAllHotplugVolumes =>
    refine Protocol.Obeys.bind ((mounting_of_inside umountAllHotplugVolumes_obeys).mono ?_)
    intro x w' hsame
    exact h.sameRun hsame nofun
  | hypervisor pod call account =>
    refine obeys_base h ?_
    cases call with
    | vmAddDisk id path =>
      show K.attach v'.vm v'.disks pod id
      rw [h.vm, h.disks]
      exact hguard
    | _ => trivial
  | _ => exact obeys_base h trivial

/-- **Interpretation**: a program that keeps the plan obeys the protocol on its
    node. -/
theorem obeys_interp {α : Type} {p : Call α} {Q : α → NodeView → Prop} {l : Local}
    {v v' : NodeView} (hp : (plan K).Obeys p Q v) (h : Agrees l v v') :
    (mounting K).Obeys (p.interp handler l) (fun _ _ => True) v' :=
  (Protocol.Obeys.interp (J := Agrees) handler_obeys hp h).mono fun _ _ _ => trivial

end

end VMDaemon

end Virtink
