import Virtink.Framework.Channels
import Virtink.Framework.Text

/-! # The Device Plugins of virt-daemon

    A device plugin serves the kubelet over a socket. Its threads are

    * the loop of `Start`, which calls `run` again and again: `run` listens,
      registers with the kubelet and waits for an error;
    * one `Serve` and one `healthCheck` for each `run`, whose results go to the
      `errChan` of that `run`;
    * one `ListAndWatch` for each call by the kubelet.

    `healthCheck` watches the device file and the socket. What it learns about
    the device goes to `ListAndWatch` over the channel `health`.

    The file system reports its events to every open watcher in one order, also
    those that `run` causes itself. A watcher that is not open yet, or not any
    more, misses them.
-/

namespace Virtink

namespace DevicePlugins

open Channels

/-! ### Events of Files -/

/-- `fsnotify.Op`, a set of bits. -/
abbrev FsOp := UInt32

/-- `fsnotify.Create`. -/
def Create : FsOp := 1

/-- `fsnotify.Remove`. -/
def Remove : FsOp := 4

/-- `fsnotify.Rename`. -/
def Rename : FsOp := 8

/-- `fsnotify.Event`. -/
structure Event where
  name : String
  op   : FsOp
  deriving DecidableEq, Repr

/-! ### Plugins -/

/-- A device as the kubelet is told of it. -/
structure Device where
  ID     : String
  Health : String
  deriving DecidableEq, Repr

/-- `devicepluginv1beta1.Healthy`. -/
def Healthy : String := "Healthy"

/-- `devicepluginv1beta1.Unhealthy`. -/
def Unhealthy : String := "Unhealthy"

/-- `devicePluginsDir`. -/
def devicePluginsDir : String := "/var/lib/kubelet/device-plugins"

/-- `socketNamePrefix`. -/
def socketNamePrefix : String := "virtink-"

/-- `devicePlugin`. Of the channel its room is known; it is nil if it was not made. -/
structure DevicePlugin where
  deviceName : String
  devicePath : String
  devices    : List Device := []
  socketPath : String := ""
  health     : Option Nat := none
  deriving DecidableEq, Repr

/-- `newDevicePlugin`. -/
def newDevicePlugin (deviceName devicePath : String) (deviceCount : Int) : DevicePlugin :=
  { deviceName := deviceName
    devicePath := devicePath
    devices := (List.range deviceCount.toNat).map fun i =>
      { ID := deviceName ++ toString (i + 1), Health := Healthy } }

/-- `run` sets the path of the socket. -/
def DevicePlugin.withSocket (dp : DevicePlugin) : DevicePlugin :=
  { dp with
    socketPath := Text.Path.join [devicePluginsDir, socketNamePrefix ++ dp.deviceName ++ ".sock"] }

/-- All devices get this health. -/
def DevicePlugin.withHealth (dp : DevicePlugin) (health : String) : DevicePlugin :=
  { dp with devices := dp.devices.map fun dev => { dev with Health := health } }

/-- What `healthCheck` does about an event. -/
inductive Reaction where
  | report (health : String)
  | stop
  | ignore
  deriving DecidableEq, Repr

/-- The body of the loop of `healthCheck`. An event of several bits is neither
    of those it asks for. -/
def DevicePlugin.react (dp : DevicePlugin) (event : Event) : Reaction :=
  if dp.devicePath = event.name then
    if event.op = Remove ∨ event.op = Rename then .report Unhealthy
    else if event.op = Create then .report Healthy
    else .ignore
  else if dp.socketPath = event.name ∧ event.op = Remove then .stop
  else .ignore

/-! ### Threads -/

/-- Where the loop of `Start` is. -/
inductive Phase where
  | starting
  | registering (run : Nat)
  | waiting (run : Nat)
  | sleeping
  deriving DecidableEq, Repr

/-- Where a `Serve` is. -/
inductive Serve where
  | serving
  | returned (err : Option String)
  | done
  deriving DecidableEq, Repr

/-- Where a `healthCheck` is. -/
inductive Check where
  | opening
  | watching
  | reporting (health : String)
  | returned (err : Option String)
  | done
  deriving DecidableEq, Repr

/-- Where a `ListAndWatch` is, with the last devices that the kubelet was told of. -/
inductive Stream where
  | listening (last : Option (List Device))
  | sending (last : Option (List Device))
  | returned (err : String)
  deriving DecidableEq, Repr

/-- The loop has not ended. -/
def Stream.running : Stream → Bool
  | .listening _ | .sending _ => true
  | .returned _ => false

/-- The threads of a plugin. A `run` has a number, which its own threads share. -/
inductive Thread where
  | start (phase : Phase)
  | serve (run : Nat) (serve : Serve)
  | healthCheck (run : Nat) (check : Check)
  | listAndWatch (stream : Stream)
  deriving DecidableEq, Repr

/-- The channels of a plugin. -/
inductive Chan where
  | health
  | errChan (run : Nat)
  deriving DecidableEq, Repr

/-- What is sent over them: a health, or an error that may be nil. -/
abbrev Msg := Option String

/-- The plugin, the events of files to come, those that the open watchers have
    not handed out yet, and how many runs and registrations there were. -/
structure World where
  dp            : DevicePlugin
  upcoming      : List Event
  queues        : Nat → Option (List Event) := fun _ => none
  runs          : Nat := 0
  registrations : Nat := 0

/-- The errors of a `healthCheck` that cannot open its watcher. -/
def openErrors (dp : DevicePlugin) (text : String) : List String :=
  [ "create watcher: " ++ text,
    "start watching " ++ dp.devicePath ++ ": " ++ text,
    "start watching " ++ dp.socketPath ++ ": " ++ text ]

/-- The steps of the threads. -/
inductive Moves : World → Thread → Act Chan Msg → World → Thread → List Thread → Prop where
  -- `run`
  | listen {w : World} :
      Moves w (.start .starting) .inner
        { w with dp := w.dp.withSocket, runs := w.runs + 1 }
        (.start (.registering w.runs)) [.serve w.runs .serving]
  | listenFails {w : World} :
      Moves w (.start .starting) .inner { w with dp := w.dp.withSocket } (.start .sleeping) []
  | register {w : World} {run : Nat} :
      Moves w (.start (.registering run)) .inner
        { w with registrations := w.registrations + 1 }
        (.start (.waiting run)) [.healthCheck run .opening]
  | registerFails {w : World} {run : Nat} :
      Moves w (.start (.registering run)) .inner w (.start .sleeping) []
  | runReturns {w : World} {run : Nat} {err : Option String} :
      Moves w (.start (.waiting run)) (.receive (.errChan run) err) w (.start .sleeping) []
  | wakes {w : World} :
      Moves w (.start .sleeping) .inner w (.start .starting) []
  -- `Serve`
  | serveReturns {w : World} {run : Nat} {err : Option String} :
      Moves w (.serve run .serving) .inner w (.serve run (.returned err)) []
  | serveSends {w : World} {run : Nat} {err : Option String} :
      Moves w (.serve run (.returned err)) (.send (.errChan run) err) w (.serve run .done) []
  -- `healthCheck`
  | openFails {w : World} {run : Nat} {err text : String} :
      err ∈ openErrors w.dp text →
      Moves w (.healthCheck run .opening) .inner w (.healthCheck run (.returned (some err))) []
  | opens {w : World} {run : Nat} :
      Moves w (.healthCheck run .opening) .inner
        { w with queues := Function.update w.queues run (some []) }
        (.healthCheck run .watching) []
  | reports {w : World} {run : Nat} {event : Event} {rest : List Event} {health : String} :
      w.queues run = some (event :: rest) → w.dp.react event = .report health →
      Moves w (.healthCheck run .watching) .inner
        { w with queues := Function.update w.queues run (some rest) }
        (.healthCheck run (.reporting health)) []
  | stops {w : World} {run : Nat} {event : Event} {rest : List Event} :
      w.queues run = some (event :: rest) → w.dp.react event = .stop →
      Moves w (.healthCheck run .watching) .inner
        { w with queues := Function.update w.queues run none }
        (.healthCheck run (.returned none)) []
  | ignores {w : World} {run : Nat} {event : Event} {rest : List Event} :
      w.queues run = some (event :: rest) → w.dp.react event = .ignore →
      Moves w (.healthCheck run .watching) .inner
        { w with queues := Function.update w.queues run (some rest) }
        (.healthCheck run .watching) []
  | logs {w : World} {run : Nat} :
      Moves w (.healthCheck run .watching) .inner w (.healthCheck run .watching) []
  | sendsHealth {w : World} {run : Nat} {health : String} :
      Moves w (.healthCheck run (.reporting health)) (.send .health (some health)) w
        (.healthCheck run .watching) []
  | checkSends {w : World} {run : Nat} {err : Option String} :
      Moves w (.healthCheck run (.returned err)) (.send (.errChan run) err) w
        (.healthCheck run .done) []
  -- `ListAndWatch`
  | hears {w : World} {last : Option (List Device)} {health : String} :
      Moves w (.listAndWatch (.listening last)) (.receive .health (some health))
        { w with dp := w.dp.withHealth health } (.listAndWatch (.sending last)) []
  | ticks {w : World} {last : Option (List Device)} :
      Moves w (.listAndWatch (.listening last)) .inner w (.listAndWatch (.sending last)) []
  | tells {w : World} {last : Option (List Device)} :
      Moves w (.listAndWatch (.sending last)) .inner w
        (.listAndWatch (.listening (some w.dp.devices))) []
  | tellFails {w : World} {last : Option (List Device)} {text : String} :
      Moves w (.listAndWatch (.sending last)) .inner w
        (.listAndWatch (.returned ("send response: " ++ text))) []

/-- An open watcher gets an event. -/
def World.deliver (w : World) (event : Event) (rest : List Event) : World :=
  { w with upcoming := rest, queues := fun run => (w.queues run).map (· ++ [event]) }

/-- What happens around the plugin. -/
inductive Happens : World → World → List Thread → Prop where
  | file {w : World} {event : Event} {rest : List Event} :
      w.upcoming = event :: rest → Happens w (w.deliver event rest) []
  /-- The kubelet calls; that the first response was not sent is not noticed. -/
  | call {w : World} {first : Option (List Device)} :
      0 < w.runs → first = some w.dp.devices ∨ first = none →
      Happens w w [.listAndWatch (.listening first)]

/-- The threads of the plugin, with its own channel. -/
def net (dp : DevicePlugin) : Net World Thread Chan Msg where
  capacity
    | .health => dp.health
    | .errChan _ => some 1
  step := Moves
  event := Happens

/-- States of a plugin. -/
abbrev PluginConf := Conf World Thread Chan Msg

/-- `Start` was called, and these events will happen. -/
def started (dp : DevicePlugin) (events : List Event) : PluginConf where
  shared := { dp := dp, upcoming := events }
  buffer := fun _ => []
  threads := [.start .starting]

end DevicePlugins

end Virtink
