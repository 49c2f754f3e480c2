import Virtink.Cluster.World
import Virtink.Framework.Text

/-! # The Console of a VM

    A user asks the API server for the console of a VM. The handler of the
    subresource reads the VM, looks for the virt-daemon of its node and dials
    a URL in which it writes the namespace and the name of the VM. The daemon
    takes both from the path of the request, reads the VM itself and connects
    the caller with the serial socket or the pty.

    Modelled are both handlers up to the point where bytes are copied. A URL
    is kept in its fields: the daemon reads the path and the query after
    `net/http` has undone the escapes that `net/url` has written. A path is
    any `String`. Go's strings are byte sequences, and of the bytes only the
    slash and those of the fixed segments matter here.
-/

namespace Virtink

/-- The text of a `VirtualMachinePhase`. -/
def VMPhase.text : VMPhase → String
  | .empty => ""
  | .pending => "Pending"
  | .scheduling => "Scheduling"
  | .scheduled => "Scheduled"
  | .running => "Running"
  | .succeeded => "Succeeded"
  | .failed => "Failed"
  | .unknown => "Unknown"

/-- The text of a `corev1.PodPhase`. -/
def PodPhase.text : PodPhase → String
  | .empty => ""
  | .pending => "Pending"
  | .running => "Running"
  | .succeeded => "Succeeded"
  | .failed => "Failed"
  | .unknown => "Unknown"

namespace Console

/-! ### What the Handlers Read -/

/-- A `VirtualMachine` with the namespace it is in. -/
structure VMObject where
  ns : String
  vm : VM
  deriving DecidableEq

/-- `client.Client`, as far as it reads VMs. An object that it returns has the
    key it was asked for. -/
structure Client where
  get     : (ns name : String) → Except ApiError VMObject
  get_key : ∀ {ns name : String} {o : VMObject}, get ns name = .ok o → o.ns = ns ∧ o.vm.name = name

/-- What the proxy reads from the pod of a virt-daemon. -/
structure DaemonPod where
  phase : PodPhase
  podIP : String
  deriving DecidableEq, Repr

/-- `url.URL` with the values of its query. -/
structure URL where
  scheme : String
  host   : String
  path   : String
  query  : List (String × String)
  deriving DecidableEq, Repr

/-- `http.Request`, as far as the daemon reads it. -/
structure Request where
  method : String
  path   : String
  query  : List (String × String)
  deriving DecidableEq, Repr

/-- `r.URL.Query().Get(key)`. -/
def Request.queryValue (r : Request) (key : String) : String :=
  (r.query.lookup key).getD ""

/-- The request of a WebSocket client that dials the URL. -/
def URL.request (u : URL) : Request where
  method := "GET"
  path := u.path
  query := u.query

/-- The options of a connection: `VirtualMachineConsoleOptions` with the type
    asked for, or an object of another Go type. -/
inductive ConnectOptions where
  | console (type : String)
  | other (goType : String)
  deriving DecidableEq, Repr

/-- `ProxyHandler`: the VM and the `Type` of the options. -/
structure ProxyHandler where
  vm          : VMObject
  consoleType : String
  deriving DecidableEq

def virtDaemonPort : Nat := 8082

/-- `ConsoleREST.Connect`. -/
def connect (client : Client) (ctxNamespace : Option String) (name : String)
    (opts : ConnectOptions) : Except String ProxyHandler :=
  match opts with
  | .other goType => .error ("invalid options object: " ++ goType)
  | .console type =>
    match ctxNamespace with
    | none => .error "namespace not found in context"
    | some ns =>
      match client.get ns name with
      | .error err => .error ("failed to get VirtualMachine: " ++ err.text)
      | .ok o =>
        if o.vm.status.phase ≠ .running then
          .error ("VM is not in Running state (current: " ++ o.vm.status.phase.text ++ ")")
        else if o.vm.status.nodeName = "" then
          .error "VM has not been scheduled to a node"
        else
          .ok { vm := o, consoleType := type }

/-- `buildDaemonURL`. -/
def ProxyHandler.buildDaemonURL (h : ProxyHandler) (pod : DaemonPod) : Except String URL :=
  if pod.podIP = "" then
    .error "virt-daemon pod has no IP"
  else
    .ok {
      scheme := "ws"
      host := pod.podIP ++ ":" ++ toString virtDaemonPort
      path := "/api/v1/vms/" ++ h.vm.ns ++ "/" ++ h.vm.vm.name ++ "/console"
      query := if h.consoleType ≠ "" then [("type", h.consoleType)] else [] }

/-- `parseConsolePath`. -/
def parseConsolePath (path : String) : Option (String × String) :=
  let trimmed := Text.trim '/' path
  match Text.split '/' trimmed with
  | [api, v1, vms, ns, name, console] =>
    if api ≠ "api" ∨ v1 ≠ "v1" ∨ vms ≠ "vms" ∨ console ≠ "console" then none
    else if ns = "" ∨ name = "" then none
    else some (ns, name)
  | _ => none

/-- The `type` parameter; the serial port is the default. -/
def consoleType (r : Request) : String :=
  if r.queryValue "type" = "" then "serial" else r.queryValue "type"

end Console

end Virtink
