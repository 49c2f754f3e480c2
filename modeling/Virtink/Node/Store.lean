import Virtink.Daemon.Node
import Virtink.System

/-! # Nodes

    What the daemons find and leave on their nodes: the file of the mount
    record, the device nodes, files and mounts in the volume directories of the
    pods, and the hypervisors with the disks that are attached to them. A call
    may fail, and it may have had its effect all the same; a write of the
    record may be cut off in the middle.

    `nodeMachine` runs programs of daemons (and, through `base` calls, of the
    controllers) on the cluster and all its nodes.
-/

namespace Virtink

open Calls

/-! ### The State of a Node -/

/-- The file of the mount record. -/
inductive RecordFile where
  | absent
  /-- A write was cut off; what is there cannot be decoded. -/
  | torn
  | stored (l : List MountEntry)
  deriving DecidableEq, Repr

/-- The entries that can be read from it. -/
def RecordFile.entries : RecordFile → List MountEntry
  | .stored l => l
  | _ => []

/-- The hypervisor of a pod: it has no guest yet, it has one with these disks,
    or it is gone. -/
inductive Guest where
  | fresh
  | created (disks : List String)
  | ended
  deriving DecidableEq, Repr

/-- The disks that are attached. -/
def Guest.disks : Guest → List String
  | .created l => l
  | _ => []

/-- A node, as far as the mounts and the hypervisors of the VM go. -/
structure Node where
  record  : RecordFile := .absent
  /-- The paths of device nodes, -/
  devices : List String := []
  /-- of regular files, -/
  files   : List String := []
  /-- and those that something is mounted on. -/
  mounts  : List String := []
  guests  : UID → Guest := fun _ => .fresh

/-- There is something at the path. -/
def Node.present (s : Node) (path : String) : Bool :=
  s.devices.contains path || s.files.contains path || s.mounts.contains path

/-- A request changes the guest. -/
def Guest.request : HypervisorCall → Guest → Guest
  | .vmCreate config, .fresh => .created config.disks
  | .vmAddDisk id _, .created l => .created (id :: l)
  | .vmRemoveDevice id, .created l => .created (l.filter (· != id))
  | .vmDelete, .created _ => .fresh
  | _, g => g

/-! ### Answers -/

/-- How the environment answers a call. -/
inductive NodeChoice where
  | base (ch : Choice)
  | job (j : Job)
  | ok
  /-- The call fails; it may have had its effect all the same. -/
  | fail (applied : Bool) (msg : String)
  /-- The write of the record is cut off. -/
  | torn (msg : String)
  | flag (b : Bool)
  | numbers (major minor : Int)
  | text (s : String)

/-- The outcome of a call that changes the node from `s` to `s'`. -/
def NodeChoice.change (ch : NodeChoice) (s s' : Node) : Except String Unit × Node :=
  match ch with
  | .fail applied msg => (.error msg, if applied then s' else s)
  | _ => (.ok (), s')

/-- The outcome of a call that tells something. -/
def NodeChoice.tell {α : Type} (ch : NodeChoice) (a : α) : Except String α :=
  match ch with
  | .fail _ msg => .error msg
  | _ => .ok a

namespace Node

/-- The path is gone, whatever it was. -/
def drop (s : Node) (path : String) : Node :=
  { s with
    devices := s.devices.filter (· != path)
    files := s.files.filter (· != path) }

/-- The answer of a call on the node and the node it leaves. -/
def answer (o : NodeOp) (ch : NodeChoice) (s : Node) : Option (o.Ans × Node) :=
  match o with
  | .base _ => none
  | .nextJob =>
      match ch with
      | .job j => some (j, s)
      | _ => none
  | .loadRecord =>
      match s.record with
      | .torn => some (.error "EOF", s)
      | r => some (ch.tell r.entries, s)
  | .writeRecord l =>
      match ch with
      | .torn msg => some (.error msg, { s with record := .torn })
      | ch => some (ch.change s { s with record := .stored l })
  | .removeRecord => some (ch.change s { s with record := .absent })
  | .stat path => some (ch.tell (s.present path), s)
  | .isMountPoint path => some (ch.tell (s.mounts.contains path), s)
  | .isBlockFile path =>
      -- what is mounted on a device node is seen in its place
      match ch with
      | .fail _ _ => some (false, s)
      | _ => some (s.devices.contains path && !s.mounts.contains path, s)
  | .getBlockFileMajorMinor _ =>
      match ch with
      | .numbers major minor => some (.ok (major, minor), s)
      | .fail _ msg => some (.error msg, s)
      | _ => none
  | .getHotplugVolumeSourcePathOnHost _ _ =>
      match ch with
      | .text path => some (.ok path, s)
      | .fail _ msg => some (.error msg, s)
      | _ => none
  | .mknod _ target _ _ =>
      if s.present target then some (.error "File exists", s)
      else some (ch.change s { s with devices := target :: s.devices })
  | .create path => some (ch.change s { s with files := path :: s.files })
  | .bindMount _ _ target => some (ch.change s { s with mounts := target :: s.mounts })
  | .umount _ _ target => some (ch.change s { s with mounts := s.mounts.erase target })
  | .removeAll _ _ target =>
      if s.mounts.contains target then some (.error "device or resource busy", s)
      else some (ch.change s (s.drop target))
  | .statSocket _ =>
      match ch with
      | .flag b => some (.ok b, s)
      | .fail _ msg => some (.error msg, s)
      | _ => none
  | .openCgroup _ => some (ch.change s s)
  | .setCgroup _ _ _ _ => some (ch.change s s)
  | .panic => none

/-- `VmInfo` lists exactly the disks that are attached. -/
def admits (s : Node) (o : Op) (ch : Choice) : Bool :=
  match o, ch with
  | .vmInfo pod, .info info => s.guests pod == .created info.disks
  | _, _ => true

/-- What another call of the daemon does to the node. -/
def afterBase (s : Node) (o : Op) (ch : Choice) : Node :=
  match o, ch with
  | .hypervisor _ _ _, .fail false _ => s
  | .hypervisor pod call _, _ =>
      { s with guests := setAt s.guests pod ((s.guests pod).request call) }
  | _, _ => s

end Node

/-! ### What a Run Knows -/

/-- What the current run of a daemon has been told about its node. -/
structure NodeView where
  /-- The VM as it was read. -/
  vm : Option VM := none
  /-- The record as it was last read or written. -/
  record : Option (List MountEntry) := none
  /-- Paths that nothing is at, -/
  absent : List String := []
  /-- that nothing is mounted on, -/
  unmounted : List String := []
  /-- and that are no device nodes. -/
  plain : List String := []
  /-- The disks that can be attached to the hypervisor of a pod. -/
  disks : Option (UID × List String) := none

namespace NodeView

/-- Nothing is at the path. -/
def gone (v : NodeView) (path : String) : NodeView :=
  { v with
    absent := path :: v.absent
    unmounted := path :: v.unmounted
    plain := path :: v.plain }

/-- The known disks of a pod change. -/
def onDisks (v : NodeView) (pod : UID) (f : List String → List String) : NodeView :=
  { v with disks := v.disks.map fun d => if d.1 = pod then (d.1, f d.2) else d }

/-- What the answer of a call that is not about mounts tells. -/
def toldBase (o : Op) (a : o.Ans) (v : NodeView) : NodeView :=
  match o, a with
  | .getVM, .ok vm => { v with vm := some vm }
  | .vmInfo pod, .ok info => { v with disks := some (pod, info.disks) }
  | .hypervisor pod (.vmAddDisk id _) _, _ => v.onDisks pod (id :: ·)
  | .hypervisor pod (.vmRemoveDevice id) _, .ok _ => v.onDisks pod (·.filter (· != id))
  | .hypervisor _ (.vmCreate _) _, _ => { v with disks := none }
  | .hypervisor _ .vmDelete _, _ => { v with disks := none }
  | _, _ => v

/-- What the answer of a call tells. -/
def told (o : NodeOp) (a : o.Ans) (v : NodeView) : NodeView :=
  match o, a with
  | .base o, a => v.toldBase o a
  | .loadRecord, .ok l => { v with record := some l }
  | .loadRecord, .error _ => { v with record := none }
  | .writeRecord l, .ok _ => { v with record := some l }
  | .writeRecord _, .error _ => { v with record := none }
  | .removeRecord, .ok _ => { v with record := some [] }
  | .removeRecord, .error _ => { v with record := none }
  | .stat path, .ok false => v.gone path
  | .isMountPoint path, .ok false => { v with unmounted := path :: v.unmounted }
  | .isBlockFile path, false => { v with plain := path :: v.plain }
  | .mknod _ target _ _, _ =>
      { v with
        absent := v.absent.filter (· != target)
        plain := v.plain.filter (· != target) }
  | .create path, _ => { v with absent := v.absent.filter (· != path) }
  | .bindMount _ _ target, _ =>
      { v with
        absent := v.absent.filter (· != target)
        unmounted := v.unmounted.filter (· != target) }
  | .umount _ _ target, .ok _ => { v with unmounted := target :: v.unmounted }
  | .removeAll _ _ target, .ok _ => v.gone target
  | _, _ => v

end NodeView

/-! ### The Machine -/

/-- The cluster and all its nodes. -/
structure Site where
  world : World
  nodes : String → Node := fun _ => {}
  /-- What the current run of each process knows. -/
  known : Proc → NodeView := fun _ => {}

/-- What happens beside the reconcilers. -/
inductive NodeEvent where
  | base (e : Event)
  /-- The kubelet clears a path of a pod that is gone. -/
  | vanish (node path : String)
  /-- A hypervisor that waits for a migration has received the guest. -/
  | receive (node : String) (pod : UID) (disks : List String)
  /-- A hypervisor exits. -/
  | exit (node : String) (pod : UID)

namespace Site

/-- The answer of a call and the site it leaves. -/
def answer (i : Proc) (o : NodeOp) (ch : NodeChoice) (s : Site) : Option (o.Ans × Site) :=
  match o with
  | .base o =>
      match ch with
      | .base ch =>
          match i with
          | .daemon n =>
              if (s.nodes n).admits o ch then
                (World.answer i o ch s.world).map fun x =>
                  (x.1, { world := x.2
                          nodes := setAt s.nodes n ((s.nodes n).afterBase o ch)
                          known := setAt s.known i (NodeView.told (.base o) x.1 (s.known i)) })
              else none
          | i => (World.answer i o ch s.world).map fun x =>
              (x.1, { s with
                world := x.2
                known := setAt s.known i (NodeView.told (.base o) x.1 (s.known i)) })
      | _ => none
  | o =>
      match i with
      | .daemon n =>
          (Node.answer o ch (s.nodes n)).map fun x =>
            (x.1, { s with
              nodes := setAt s.nodes n x.2
              known := setAt s.known i (NodeView.told o x.1 (s.known i)) })
      | _ => none

/-- A change of one node. -/
def onNode (s : Site) (n : String) (f : Node → Node) : Site :=
  { s with nodes := setAt s.nodes n (f (s.nodes n)) }

/-- What an event does. A hypervisor receives a guest while it has none. -/
def event (e : NodeEvent) (s : Site) : Option Site :=
  match e with
  | .base e => (World.event e s.world).map fun w => { s with world := w }
  | .vanish n path => some (s.onNode n fun x =>
      { x.drop path with mounts := x.mounts.filter (· != path) })
  | .receive n pod disks =>
      if (s.nodes n).guests pod = .fresh then
        some (s.onNode n fun x => { x with guests := setAt x.guests pod (.created disks) })
      else none
  | .exit n pod => some (s.onNode n fun x => { x with guests := setAt x.guests pod .ended })

/-- A process begins or ends a run. -/
def enter (i : Proc) (s : Site) : Site :=
  { s with world := World.enter i s.world, known := setAt s.known i {} }

/-- A process is restarted; what is on the nodes stays. -/
def crash (i : Proc) (s : Site) : Site :=
  { s with world := World.crash i s.world, known := setAt s.known i {} }

end Site

/-- The machine that runs these programs. -/
def nodeMachine {R : Type} (main : Proc → NodeCall R) :
    Machine nodeApi Site Proc NodeChoice NodeEvent R where
  main := main
  answer := Site.answer
  event := Site.event
  enter := Site.enter
  crash := Site.crash

/-- The system with its daemons at work on their nodes. -/
def nodeSystem (nodeIP : String → String) :
    Machine nodeApi Site Proc NodeChoice NodeEvent (Outcome × VMDaemon.Local) :=
  nodeMachine fun i => ((system nodeIP).main i).interp VMDaemon.handler {}

end Virtink
