import Virtink.Admission.Runs
import Virtink.Node.Plan

/-! # Volumes Are Attached at Most Once

    A daemon may be thrown away after any call, and what it writes to the
    status may be lost; the next run begins with whatever the last one has left
    on the node and in the hypervisor. It looks before it acts: a mount is made
    only where nothing is mounted, a device node only where nothing is, and a
    disk is attached only if the hypervisor does not list it. Since nobody else
    acts on the node, what it has seen is still so when it acts
    (`volumes_attached_once`).

    That the names of the volumes are distinct is needed for the disks only: the
    hypervisor is asked once for all of them.
-/

namespace Virtink

open Calls

/-- The volumes of the VM have distinct names. -/
def DistinctNames (s : Site) : Act nodeApi Proc NodeChoice NodeEvent → Prop :=
  fun _ => ∀ vm, s.world.vm = some vm → vm.specNames.Nodup

instance (s : Site) (a : Act nodeApi Proc NodeChoice NodeEvent) : Decidable (DistinctNames s a) :=
  inferInstanceAs (Decidable (∀ vm, s.world.vm = some vm → vm.specNames.Nodup))

/-- A call does not put a volume where one is: nothing is mounted on a path
    twice, no device node is made where something is, and no disk is attached
    under an id that is in use. -/
def AttachesOnce (s : Node) : NodeOp → Prop
  | .bindMount _ _ target => target ∉ s.mounts
  | .mknod _ target _ _ => s.present target = false
  | .base (.hypervisor pod (.vmAddDisk id _) _) => id ∉ (s.guests pod).disks
  | _ => True

/-- A call that keeps the discipline of mounting, with true knowledge, attaches
    once. -/
theorem Knows.attachesOnce {v : NodeView} {s : Node} (h : Knows v s)
    (hnames : ∀ vm, v.vm = some vm → vm.specNames.Nodup) {o : NodeOp}
    (hguard : (mounting daemonTerms).guard o v) : AttachesOnce s o := by
  cases o with
  | bindMount volume source target => exact h.unmounted target hguard.1
  | mknod volume target major minor => exact h.absent target hguard.1
  | base o =>
    cases o with
    | hypervisor pod call account =>
      cases call with
      | vmAddDisk id path =>
        obtain ⟨l, hl, hfree⟩ := hguard hnames
        exact fun hmem => hfree ((h.disks pod l hl).2 id hmem)
      | _ => trivial
    | _ => trivial
  | _ => trivial

/-- The VMs that the daemons work on have distinct names. -/
theorem distinct_invariant {D : Protocol nodeApi NodeView} :
    NodeInvariant D DistinctNames fun v _ => ∀ vm, v.vm = some vm → vm.specNames.Nodup where
  forget _ vm hvm := by cases hvm
  disturbed h _ := h
  base h hok _ _ hans vm hvm := by
    rcases NodeView.toldBase_vm_cases hans hvm with hknown | ⟨-, hstored⟩
    · exact h vm hknown
    · exact hok vm hstored
  node {s n o ch a x} h _ _ hans vm hvm := by
    have ho : ∀ b, o ≠ .base b := by
      rintro b rfl
      cases hans
    rw [NodeView.told_vm ho] at hvm
    exact h vm hvm

section
variable {nodeIP : String → String} {c : Conf nodeApi Site Proc (Outcome × VMDaemon.Local)}

/-- **Attachment is at most once**: in every run of the system, with failing
    calls, lost writes and restarts at any point, a daemon puts no volume where
    one is. -/
theorem volumes_attached_once {c' : Conf nodeApi Site Proc (Outcome × VMDaemon.Local)}
    {n : String} {o : NodeOp} {ch : NodeChoice}
    (h : Reach (nodeSystem nodeIP) DistinctNames Unknown c)
    (hstep : Step (nodeSystem nodeIP) c (.call (.daemon n) o ch) c') :
    AttachesOnce (c.store.nodes n) o := by
  have hkept := nodeSystem_kept nodeIP
  have hknown : ∀ s, Unknown s → ∀ i, s.known i = {} := fun s hs => hs.known
  have hinformed := informed_of_reach hkept (fun _ hs => hs) h n
  have hdistinct := distinct_invariant.holds hkept hknown (fun _ _ _ _ hvm => by cases hvm) h n
  have hmove := hkept.gstep hknown h hstep
  cases hmove with
  | call hguard _ => exact hinformed.knows.attachesOnce hdistinct (hguard n rfl)

end

/-! ### A Sample Run

    A machine is booted on node `a`, and disk `a` is plugged in. -/

/-- Moves of the system and its nodes. -/
abbrev NodeScript := List (Move Proc NodeChoice NodeEvent)

/-- A move of the cluster. -/
def onSite : Move Proc Choice Event → Move Proc NodeChoice NodeEvent
  | .start i => .start i
  | .call i ch => .call i (.base ch)
  | .finish i => .finish i
  | .crash i => .crash i
  | .event e => .event (.base e)

namespace Sample

/-- The system of the sample machine with its nodes. -/
abbrev nodeCluster : Machine nodeApi Site Proc NodeChoice NodeEvent (Outcome × VMDaemon.Local) :=
  nodeSystem fun _ => ""

/-- The machine has been created, and the nodes are empty. -/
def bootingSite : Site := { world := booting }

/-- The daemon of node `a` runs. -/
def daemonTurn (answers : List NodeChoice) : NodeScript :=
  .start (.daemon "a") :: answers.map (.call (.daemon "a")) ++ [.finish (.daemon "a")]

/-- The guest is created and booted, and then found running. -/
def bootsGuest : NodeScript :=
  daemonTurn [.base .ok, .base .ok, .ok, .base (.fail false "VM is not created"),
    .base (.config { disks := ["root"] }), .base .ok, .base .ok, .base .ok] ++
  daemonTurn [.base .ok, .base .ok, .ok, .base (.info { state := .running, disks := ["root"] }),
    .base .ok]

/-- Disk `a` is plugged in; its volume pod is created and comes up. -/
def volumePodUp : Script :=
  plugs [disk "a"] ++
  turn .controller [.ok, .ok, .flag true, .ok, .flag false,
    .create "uid-v" "v" [{ name := "token" }] none, .ok, .ok, .ok] ++
  [.event (.bindPod "uid-v" "a"), .event (.setPodPhase "uid-v" .running)] ++
  turn .controller [.ok, .ok, .flag true, .ok, .ok, .ok, .ok, .ok]

/-- The guest runs, and the volume pod of disk `a` is up. -/
def diskWaits : NodeScript :=
  scheduled.map onSite ++ bootsGuest ++ volumePodUp.map onSite

/-- The daemon mounts the disk and is about to attach it. -/
def mountsPlugged : NodeScript :=
  [.start (.daemon "a"), .call (.daemon "a") (.base .ok), .call (.daemon "a") (.base .ok),
    .call (.daemon "a") (.base (.info { state := .running, disks := ["root"] }))] ++
  [NodeChoice.ok, .base (.flag false), .ok, .text "/src", .ok, .ok, .ok, .ok,
    .base (.flag false)].map (.call (.daemon "a"))

theorem bootingSite_unknown : Unknown bootingSite :=
  ⟨fun _ => rfl, fun _ => List.nodup_nil⟩

/-- A step that the machine and its nodes take after steps that meet `ok`. -/
theorem nodeStep (ok : Site → Act nodeApi Proc NodeChoice NodeEvent → Prop)
    [∀ s a, Decidable (ok s a)] {I : Site → Prop} (hI : I bootingSite) (moves : NodeScript)
    (move : Move Proc NodeChoice NodeEvent)
    (test : Conf nodeApi Site Proc (Outcome × VMDaemon.Local) →
      Act nodeApi Proc NodeChoice NodeEvent →
      Conf nodeApi Site Proc (Outcome × VMDaemon.Local) → Bool)
    (h : ((execAll nodeCluster ok (.idle bootingSite) moves).any
      fun c => (exec nodeCluster c move).any fun x => test c x.1 x.2) = true) :
    ∃ c a c', Reach nodeCluster ok I c ∧ Step nodeCluster c a c' ∧ test c a c' = true :=
  step_of_execAll hI moves move test h

/-- Disk `a` is attached on node `a` to a guest that has its root disk only. -/
def attachesFirst (s : Site) : Act nodeApi Proc NodeChoice NodeEvent → Bool
  | .call (.daemon n) (.base (.hypervisor pod (.vmAddDisk id _) _)) _ =>
      n == "a" && id == "a" && ((s.nodes "a").guests pod).disks == ["root"]
  | _ => false

end Sample

/-- Disk `a` is attached to the guest, which has its root disk only. -/
theorem volumes_attached_once_sample :
    ∃ c c' pod path account ch, Reach Sample.nodeCluster DistinctNames Unknown c ∧
      Step Sample.nodeCluster c
        (.call (.daemon "a") (.base (.hypervisor pod (.vmAddDisk "a" path) account)) ch) c' ∧
      ((c.store.nodes "a").guests pod).disks = ["root"] ∧
      AttachesOnce (c.store.nodes "a") (.base (.hypervisor pod (.vmAddDisk "a" path) account)) := by
  obtain ⟨c, act, c', hreach, hstep, htest⟩ := Sample.nodeStep DistinctNames
    Sample.bootingSite_unknown (Sample.diskWaits ++ Sample.mountsPlugged)
    (.call (.daemon "a") (.base .ok))
    (fun c act _ => Sample.attachesFirst c.store act)
    (by decide +kernel)
  unfold Sample.attachesFirst at htest
  split at htest
  · next n pod id path account ch =>
    simp only [Bool.and_eq_true, beq_iff_eq] at htest
    obtain ⟨⟨rfl, rfl⟩, hdisks⟩ := htest
    exact ⟨c, c', pod, path, account, ch, hreach, hstep, hdisks,
      volumes_attached_once hreach hstep⟩
  · cases htest

end Virtink
