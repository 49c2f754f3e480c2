import Virtink.Prerunner.Masquerade

/-! # vhost-user Networks

    `setupVhostUserNetwork` takes the type of the network and its socket from
    the environment. For `kube-ovn` it reads the path of the socket into a
    variable of its own, so the one that is written to the configuration stays
    empty. For `userspace` it looks for its link in the configuration data that
    the CNI plugin has left in an annotation of the pod.
-/

namespace Virtink.Prerunner

/-! ### The Source -/

/-- `userspacecni.ConfigurationData`, as far as it is read. The ID of a container
    is hexadecimal, so its characters are its bytes. -/
structure ConfigurationData where
  ifName      : String := ""
  containerId : String := ""
  socketfile  : String := ""
  deriving DecidableEq, Repr

/-- What `os.Stat` says of a directory. -/
inductive Stat where
  | found
  | notExist
  | failed (err : String)
  deriving DecidableEq, Repr

/-- What the set-up leaves to others. -/
structure VhostStack where
  /-- `netlink.LinkByName`, as far as the MTU goes. -/
  linkByName : String → Except String Int
  /-- `json.Unmarshal` of the configuration data. -/
  unmarshal : String → Except String (List ConfigurationData)
  /-- `os.Stat`. -/
  stat : String → Stat

/-- The directory of the sockets of a container: `containerID[0:12]` below that
    of all sockets. -/
def ConfigurationData.socketDir (config : ConfigurationData) : String :=
  "/var/run/vhost-user/" ++ String.ofList (config.containerId.toList.take 12)

section source
variable (stack : VhostStack)

/-- The socket of a link in the configuration data. The slice of a container's ID
    that is too short panics. -/
def userspaceSocket (userspaceConfigData linkName : String) : Except String String :=
  if userspaceConfigData = "" then .error "userspace configuration data not found"
  else do
    let configData ← named "unmarshal userspace configuration data"
      (stack.unmarshal userspaceConfigData)
    let config := (configData.find? (·.ifName == linkName)).getD {}
    if config.containerId = "" ∨ config.socketfile = "" then .error "vhost-user link not found"
    else if config.containerId.length < 12 then .error "slice bounds out of range"
    else
      match stack.stat config.socketDir with
      | .notExist => .ok ("/var/run/vhost-user/" ++ config.socketfile)
      | .failed err => .error err
      | .found => .ok (config.socketDir ++ "/" ++ config.socketfile)

/-- `setupVhostUserNetwork`, with the variables of its container. -/
def setupVhostUserNetwork (getenv : String → String) (linkName : String) (netConfig : NetConfig) :
    Except String NetConfig :=
  let netType := getenv "NET_TYPE"
  if netType = "" then .error "network type not found"
  else if netType = "kube-ovn" then
    if getenv "VHOST_USER_SOCKET" = "" then .error "vhost-user socket path not found"
    else do
      let mtu ← named "get link" (stack.linkByName "eth0")
      -- the path is in a variable of this block
      pure { netConfig with mtu := mtu, vhostSocket := "" }
  else if netType = "userspace" then do
    let socketPath ← userspaceSocket stack (getenv "USERSPACE_CONFIGURATION_DATA") linkName
    pure { netConfig with mtu := 1500, vhostSocket := socketPath }
  else .ok { netConfig with mtu := 1500, vhostSocket := "" }

end source

/-! ### Sockets of Links -/

/-- The paths that the socket of a link can have. -/
def ConfigurationData.SocketPath (config : ConfigurationData) (path : String) : Prop :=
  path = "/var/run/vhost-user/" ++ config.socketfile ∨
  path = config.socketDir ++ "/" ++ config.socketfile

theorem ConfigurationData.SocketPath.ne_empty {config : ConfigurationData} {path : String}
    (h : config.SocketPath path) : path ≠ "" := by
  rcases h with rfl | rfl <;> simp

/-- The name of its file is the last part of the path. -/
theorem ConfigurationData.SocketPath.base {config : ConfigurationData} {path : String}
    (h : config.SocketPath path) (hplain : '/' ∉ config.socketfile.toList) :
    Text.Path.base path = config.socketfile := by
  rcases h with rfl | rfl
  · exact Text.Path.base_append_slash hplain "/var/run/vhost-user"
  · exact Text.Path.base_append_slash hplain config.socketDir

theorem userspaceSocket_eq_ok {stack : VhostStack} {data linkName path : String}
    (h : userspaceSocket stack data linkName = .ok path) :
    ∃ configs config, stack.unmarshal data = .ok configs ∧ config ∈ configs ∧
      config.ifName = linkName ∧ config.SocketPath path := by
  simp only [userspaceSocket] at h
  split at h
  · cases h
  · obtain ⟨configs, hconfigs, h⟩ := Loop.bind_eq_ok.mp h
    have hunmarshal : stack.unmarshal data = .ok configs := by
      cases hcase : stack.unmarshal data with
      | error e =>
        rw [hcase] at hconfigs
        cases hconfigs
      | ok l =>
        rw [hcase] at hconfigs
        exact hconfigs
    split at h
    · cases h
    · next hfound =>
      -- an entry with a socket is one of the list
      cases hfind : configs.find? (·.ifName == linkName) with
      | none =>
        rw [hfind] at hfound
        exact absurd (.inl rfl) hfound
      | some config =>
        rw [hfind] at h
        refine ⟨configs, config, hunmarshal, List.mem_of_find?_eq_some hfind,
          by simpa using List.find?_some hfind, ?_⟩
        split at h
        · cases h
        · dsimp only [Option.getD_some] at h
          split at h
          · exact .inl (Except.ok.inj h).symm
          · cases h
          · exact .inr (Except.ok.inj h).symm

/-- What is known of a vhost-user network that was set up. -/
theorem setupVhostUserNetwork_eq_ok {stack : VhostStack} {getenv : String → String}
    {linkName : String} {netConfig c : NetConfig}
    (h : setupVhostUserNetwork stack getenv linkName netConfig = .ok c) :
    c.id = netConfig.id ∧ c.vhostUser = netConfig.vhostUser ∧ getenv "NET_TYPE" ≠ "" ∧
    (getenv "NET_TYPE" = "kube-ovn" → c.vhostSocket = "") ∧
    (getenv "NET_TYPE" = "userspace" →
      userspaceSocket stack (getenv "USERSPACE_CONFIGURATION_DATA") linkName =
        .ok c.vhostSocket) := by
  simp only [setupVhostUserNetwork] at h
  split at h
  · cases h
  · next hset =>
    split at h
    · next hovn =>
      split at h
      · cases h
      · obtain ⟨mtu, -, h⟩ := Loop.bind_eq_ok.mp h
        cases h
        exact ⟨rfl, rfl, hset, fun _ => rfl, fun hspace => by simp [hovn] at hspace⟩
    · next hovn =>
      split at h
      · obtain ⟨path, hpath, h⟩ := Loop.bind_eq_ok.mp h
        cases h
        exact ⟨rfl, rfl, hset, fun hcontra => absurd hcontra hovn, fun _ => hpath⟩
      · next hspace =>
        cases h
        exact ⟨rfl, rfl, hset, fun _ => rfl, fun hcontra => absurd hcontra hspace⟩

end Virtink.Prerunner
