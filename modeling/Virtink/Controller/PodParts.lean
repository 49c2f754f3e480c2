import Virtink.Admission.Accepted
import Virtink.Controller.Pod

/-! # What the Loops of the Pod Builder Collect

    The two loops of `buildVMPod` over the volumes and the networks, read field
    by field: which names and paths every volume and every network contributes,
    as functions of the spec and of what the API server has answered.
-/

namespace Virtink

/-! ### Volumes -/

/-- The user data of the volume comes from a secret. -/
def Volume.userSecret (v : Volume) : Bool :=
  v.cloudInit.any (fun s => s.userData == "" && s.userDataBase64 == "" && s.userDataSecretName != "")

/-- The network data of the volume comes from a secret. -/
def Volume.networkSecret (v : Volume) : Bool :=
  v.cloudInit.any (fun s =>
    s.networkData == "" && s.networkDataBase64 == "" && s.networkDataSecretName != "")

/-- An init container fills the volume. -/
def Volume.filled (v : Volume) : Bool :=
  v.containerDisk.isSome || v.cloudInit.isSome || v.containerRootfs.isSome

/-- The volume is on a claim in block mode. -/
def blockMode (env : BuildEnv) (v : Volume) : Bool :=
  match isBlock env v with
  | .ok b => b
  | .error _ => false

/-- A list with one element, if the condition holds. -/
def when {α : Type} (c : Bool) (a : α) : List α := if c then [a] else []

@[simp] theorem when_true {α : Type} (a : α) : when true a = [a] := rfl
@[simp] theorem when_false {α : Type} (a : α) : when false a = [] := rfl

/-- What a volume contributes to the pod. -/
structure VolumeFields (env : BuildEnv) (v : Volume) (p : PodParts) : Prop where
  volumes : p.volumes.map (·.name) =
    when v.userSecret "virtink-cloud-init-user-data" ++
    when v.networkSecret "virtink-cloud-init-network-data" ++ when (!v.isHotpluggable) v.name
  mounts : p.volumeMounts.map (·.mountPath) =
    when v.networkSecret "/mnt/virtink-cloud-init-network-data" ++
    when (!v.isHotpluggable && !blockMode env v) (mountPath v.name)
  devices : p.volumeDevices.map (·.devicePath) =
    when (!v.isHotpluggable && blockMode env v) (mountPath v.name)
  inits : p.initContainers.map (·.name) = when v.filled ("init-volume-" ++ v.name)
  block : p.blockVolumes = when (blockMode env v) v.name
  env : p.env = []

theorem userData_secret (env : BuildEnv) (s : CloudInitVolumeSource) :
    (userData env s).2.isSome =
      (s.userData == "" && s.userDataBase64 == "" && s.userDataSecretName != "") := by
  simp only [userData]
  split
  · simp_all
  · split
    · simp_all
    · split <;> simp_all

theorem networkData_secret (env : BuildEnv) (s : CloudInitVolumeSource) :
    (networkData env s).2.isSome =
      (s.networkData == "" && s.networkDataBase64 == "" && s.networkDataSecretName != "") := by
  simp only [networkData]
  split
  · simp_all
  · split
    · simp_all
    · split <;> simp_all

theorem secretVolumes_names (name : String) (secret : Option String) :
    (secretVolumes name secret).map (·.name) = when secret.isSome name := by
  cases secret <;> rfl

theorem secretMounts_paths (name : String) (secret : Option String) :
    (secretMounts name secret).map (·.mountPath) = when secret.isSome (mountPath name) := by
  cases secret <;> rfl

/-- A volume that is not on a claim is in no mode. -/
theorem blockMode_of_filled {env : BuildEnv} {v : Volume} (h : v.pvcName = "") :
    blockMode env v = false := by
  simp [blockMode, isBlock, getPVC, h]

theorem volumeFields_of_image {env : BuildEnv} {v : Volume} (hcloud : v.cloudInit = none)
    (hplug : v.isHotpluggable = false) (hpvc : v.pvcName = "") (hfilled : v.filled = true)
    (image pullPolicy : String) (args : List String) :
    VolumeFields env v (imageParts v image pullPolicy args) := by
  have hblock : blockMode env v = false := blockMode_of_filled hpvc
  constructor <;>
    simp [imageParts, imageInit, userMount, Volume.userSecret, Volume.networkSecret, hcloud, hplug,
      hblock, hfilled]

theorem volumeFields_of_claim {env : BuildEnv} {v : Volume} (hcloud : v.cloudInit = none)
    (hfilled : v.filled = false) {block : Bool} (hblock : isBlock env v = .ok block) :
    VolumeFields env v (claimParts v block) := by
  have hmode : blockMode env v = block := by simp [blockMode, hblock]
  constructor <;>
    cases block <;> cases hplug : v.isHotpluggable <;>
      simp [claimParts, userMount, Volume.userSecret, Volume.networkSecret, hcloud, hplug, hmode,
        hfilled]

/-- **Pass**: what one pass of the loop over the volumes contributes. -/
theorem volumeParts_fields {env : BuildEnv} {vm : VM} {v : Volume} {p : PodParts} (hv : v.Single)
    (h : volumeParts env vm v = .ok p) : VolumeFields env v p := by
  cases hv with
  | containerDisk | containerRootfs =>
    simp only [volumeParts, Except.ok.injEq] at h
    exact h ▸ volumeFields_of_image rfl rfl rfl rfl _ _ _
  | @cloudInit n s =>
    simp only [volumeParts, Except.ok.injEq] at h
    subst h
    have hblock : blockMode env { name := n, cloudInit := some s } = false :=
      blockMode_of_filled rfl
    have huser := userData_secret env s
    have hnetwork := networkData_secret env s
    constructor <;>
      simp [cloudInitParts, secretVolumes_names, secretMounts_paths, Volume.userSecret,
        Volume.networkSecret, Volume.filled, Volume.isHotpluggable, hblock, huser, hnetwork,
        userMount, mountPath]
  | persistentVolumeClaim | dataVolume =>
    simp only [volumeParts, Option.isSome_some, Option.isSome_none, Bool.or_true, Bool.or_false,
      if_true] at h
    split at h
    · cases h
    · split at h
      · cases h
      · next block hblock => cases h; exact volumeFields_of_claim rfl rfl hblock

/-- What the loop over the volumes has collected. -/
structure VolumesFields (env : BuildEnv) (l : List Volume) (r : PodParts) : Prop where
  volumes : r.volumes.map (·.name) = l.flatMap (fun v =>
    when v.userSecret "virtink-cloud-init-user-data" ++
    when v.networkSecret "virtink-cloud-init-network-data" ++ when (!v.isHotpluggable) v.name)
  mounts : r.volumeMounts.map (·.mountPath) = l.flatMap (fun v =>
    when v.networkSecret "/mnt/virtink-cloud-init-network-data" ++
    when (!v.isHotpluggable && !blockMode env v) (mountPath v.name))
  devices : r.volumeDevices.map (·.devicePath) = l.flatMap (fun v =>
    when (!v.isHotpluggable && blockMode env v) (mountPath v.name))
  inits : r.initContainers.map (·.name) = l.flatMap (fun v =>
    when v.filled ("init-volume-" ++ v.name))
  block : r.blockVolumes = l.flatMap (fun v => when (blockMode env v) v.name)
  env : r.env = []

/-- **Loop**: the contributions of all volumes, one after another. -/
theorem volumesParts_fields {env : BuildEnv} {vm : VM} {l : List Volume} {r : PodParts}
    (hl : ∀ v ∈ l, v.Single) (h : volumesParts env vm l = .ok r) : VolumesFields env l r := by
  have hpass : ∀ v ∈ l, ∀ p, volumeParts env vm v = .ok p → VolumeFields env v p :=
    fun v hv p hp => volumeParts_fields (hl v hv) hp
  constructor
  · exact Loop.collect_field (g := fun p : PodParts => p.volumes.map (·.name)) rfl
      (fun _ _ => List.map_append) (fun v hv p hp => (hpass v hv p hp).volumes) h
  · exact Loop.collect_field (g := fun p : PodParts => p.volumeMounts.map (·.mountPath)) rfl
      (fun _ _ => List.map_append) (fun v hv p hp => (hpass v hv p hp).mounts) h
  · exact Loop.collect_field (g := fun p : PodParts => p.volumeDevices.map (·.devicePath)) rfl
      (fun _ _ => List.map_append) (fun v hv p hp => (hpass v hv p hp).devices) h
  · exact Loop.collect_field (g := fun p : PodParts => p.initContainers.map (·.name)) rfl
      (fun _ _ => List.map_append) (fun v hv p hp => (hpass v hv p hp).inits) h
  · exact Loop.collect_field (g := fun p : PodParts => p.blockVolumes) rfl (fun _ _ => rfl)
      (fun v hv p hp => (hpass v hv p hp).block) h
  · have henv := Loop.collect_field (g := fun p : PodParts => p.env) (h := fun _ => []) rfl
      (fun _ _ => rfl) (fun v hv p hp => (hpass v hv p hp).env) h
    rw [henv, List.flatMap_eq_nil_iff]
    exact fun _ _ => rfl

/-! ### Networks -/

/-- How a vhost-user interface gets its sockets. -/
inductive VhostKind where
  | kubeOvn (volume : String)
  | userspace
  deriving DecidableEq, Repr

/-- The interface of a network. -/
def ifaceOf (spec : VMSpec) (network : Network) : Option Interface :=
  spec.instance_.interfaces.find? (·.name == network.name)

/-- The kind of sockets that a NAD provides. -/
def NAD.vhostKind (nad : NAD) : Option VhostKind :=
  match nad.config with
  | .error _ => none
  | .ok cfg =>
      if cfg.type = "kube-ovn" then some (.kubeOvn cfg.vhostUserSocketVolumeName)
      else if cfg.type = "userspace" then some .userspace
      else none

/-- The kind of sockets that a network needs, if its interface is a vhost-user
    one. -/
def vhostKind (env : BuildEnv) (spec : VMSpec) (network : Network) : Option VhostKind :=
  match ifaceOf spec network, network.multus with
  | some iface, some multus =>
      if iface.vhostUser then
        match env.nad multus.networkName with
        | .ok nad => nad.vhostKind
        | .error _ => none
      else none
  | _, _ => none

/-- The socket volumes of the networks, after `n` userspace interfaces: those
    share one, while every `kube-ovn` interface has its own. -/
def socketVolumes : Nat → List VhostKind → List String
  | _, [] => []
  | n, .kubeOvn volume :: l => volume :: socketVolumes n l
  | n, .userspace :: l => when (n == 0) "vhost-user-sockets" ++ socketVolumes (n + 1) l

/-- The number of userspace interfaces. -/
def userspaceCount (l : List VhostKind) : Nat := l.countP (· == .userspace)

theorem socketVolumes_append (n : Nat) (l m : List VhostKind) :
    socketVolumes n (l ++ m) = socketVolumes n l ++ socketVolumes (n + userspaceCount l) m := by
  induction l generalizing n with
  | nil => rfl
  | cons k l ih =>
    cases k with
    | kubeOvn volume => simp [socketVolumes, ih, userspaceCount]
    | userspace =>
      have hcount : userspaceCount (.userspace :: l) = userspaceCount l + 1 := by
        simp [userspaceCount]
      have hn : n + 1 + userspaceCount l = n + userspaceCount (.userspace :: l) := by omega
      simp [socketVolumes, ih, hn]

/-- The init containers of network `i`. -/
def bindingNames (spec : VMSpec) (network : Network) (i : Nat) : List String :=
  match ifaceOf spec network with
  | none => []
  | some iface =>
      when iface.masquerade.isSome "enable-ip-forward" ++
      when iface.bridge ("enable-arp-ignore-" ++ toString i)

/-- The variables that networks set. -/
def networkVariables : List String :=
  ["NETWORK_STATUS", "VHOST_USER_SOCKET", "NET_TYPE", "USERSPACE_CONFIGURATION_DATA"]

/-- What a network contributes to the pod, after `n` userspace interfaces. -/
structure NetworkFields (env : BuildEnv) (spec : VMSpec) (network : Network) (i n n' : Nat)
    (p : PodParts) : Prop where
  count : n' = n + userspaceCount (vhostKind env spec network).toList
  volumes : p.volumes.map (·.name) = socketVolumes n (vhostKind env spec network).toList
  mounts : p.volumeMounts.map (·.mountPath) =
    (socketVolumes n (vhostKind env spec network).toList).map (fun _ => "/var/run/vhost-user")
  devices : p.volumeDevices = []
  inits : p.initContainers.map (·.name) = bindingNames spec network i
  plain : ∀ c ∈ p.initContainers, c.volumeMounts = [] ∧ c.volumeDevices = []
  env : ∀ e ∈ p.env, e.name ∈ networkVariables

/-- The init containers of the binding method; it contributes nothing else. -/
theorem bindingParts_inits (env : BuildEnv) (i : Nat) (iface : Interface) :
    (bindingParts env i iface).initContainers.map (·.name) =
      when iface.masquerade.isSome "enable-ip-forward" ++
      when iface.bridge ("enable-arp-ignore-" ++ toString i) := by
  cases hm : iface.masquerade.isSome <;> cases hb : iface.bridge <;>
    simp [bindingParts, sysctlInit, hm, hb]

theorem bindingParts_plain (env : BuildEnv) (i : Nat) (iface : Interface) :
    ∀ c ∈ (bindingParts env i iface).initContainers, c.volumeMounts = [] ∧ c.volumeDevices = [] := by
  intro c hc
  simp only [bindingParts, List.mem_append] at hc
  rcases hc with hc | hc <;> split at hc <;> simp at hc <;> subst hc <;> exact ⟨rfl, rfl⟩

/-- What the sockets of a vhost-user interface contribute. -/
theorem vhostUserParts_fields {nad : NAD} {iface : Interface} {n n' : Nat} {q : PodParts}
    (h : vhostUserParts nad iface n = .ok (q, n')) :
    n' = n + userspaceCount nad.vhostKind.toList ∧
    q.volumes.map (·.name) = socketVolumes n nad.vhostKind.toList ∧
    q.volumeMounts.map (·.mountPath) =
      (socketVolumes n nad.vhostKind.toList).map (fun _ => "/var/run/vhost-user") ∧
    q.volumeDevices = [] ∧ q.initContainers = [] ∧ ∀ e ∈ q.env, e.name ∈ networkVariables := by
  simp only [vhostUserParts] at h
  split at h
  · cases h
  · next cfg hcfg =>
    by_cases hovn : cfg.type = "kube-ovn"
    · simp only [hovn, if_true, Except.ok.injEq, Prod.mk.injEq] at h
      obtain ⟨rfl, rfl⟩ := h
      simp [NAD.vhostKind, hcfg, hovn, kubeOvnParts, socketVolumes, userspaceCount,
        networkVariables]
    by_cases hspace : cfg.type = "userspace"
    · simp only [hspace, if_true] at h
      simp only [NAD.vhostKind, hcfg, hspace]
      by_cases hn : n = 0
      · subst hn
        simp at h
        obtain ⟨rfl, rfl⟩ := h
        simp [userspaceParts, socketVolumes, userspaceCount, networkVariables]
      · have hzero : (n == 0) = false := by simp [hn]
        simp [hn] at h
        obtain ⟨rfl, rfl⟩ := h
        simp [socketVolumes, userspaceCount, hzero]
    · simp [hovn, hspace] at h

/-- **Pass**: what one pass of the loop over the networks contributes. -/
theorem networkParts_fields {env : BuildEnv} {vm : VM} {network : Network} {i n n' : Nat}
    {p : PodParts} (h : networkParts env vm i n network = .ok (p, n')) :
    NetworkFields env vm.spec network i n n' p := by
  simp only [networkParts] at h
  split at h
  · cases h
  · next iface hiface =>
    have hof : ifaceOf vm.spec network = some iface := hiface
    have hinits := bindingParts_inits env i iface
    have hplain := bindingParts_plain env i iface
    split at h
    · next hmultus =>
      cases h
      have hkind : vhostKind env vm.spec network = none := by simp [vhostKind, hof, hmultus]
      constructor <;>
        simp_all [bindingParts, bindingNames, socketVolumes, userspaceCount]
    · next multus hmultus =>
      split at h
      · cases h
      · next nad hnad =>
        split at h
        · next hvhost =>
          split at h
          · cases h
          · next q m hq =>
            cases h
            obtain ⟨hcount, hvolumes, hmounts, hdevices, hinit, henv⟩ := vhostUserParts_fields hq
            have hkind : vhostKind env vm.spec network = nad.vhostKind := by
              simp [vhostKind, hof, hmultus, hvhost, hnad]
            constructor
            · simp [hkind, hcount]
            · simp [bindingParts, multusParts, hkind, hvolumes]
            · simp [bindingParts, multusParts, hkind, hmounts]
            · simp [bindingParts, multusParts, hdevices]
            · simp [hinits, multusParts, hinit, bindingNames, hof]
            · simpa [multusParts, hinit] using hplain
            · intro e he
              simp [bindingParts, multusParts] at he
              rcases he with rfl | he
              · simp [networkVariables]
              · exact henv e he
        · next hvhost =>
          cases h
          have hkind : vhostKind env vm.spec network = none := by
            simp [vhostKind, hof, hmultus, hvhost]
          constructor
          · simp [hkind, userspaceCount]
          · simp [bindingParts, multusParts, hkind, socketVolumes]
          · simp [bindingParts, multusParts, hkind, socketVolumes]
          · simp [bindingParts, multusParts]
          · simp [hinits, multusParts, bindingNames, hof]
          · simpa [multusParts] using hplain
          · intro e he
            simp [bindingParts, multusParts] at he
            simp [he, networkVariables]

/-- What the loop over the networks has collected, from index `i` on and after
    `n` userspace interfaces. -/
structure NetworksFields (env : BuildEnv) (spec : VMSpec) (i n : Nat) (l : List Network)
    (r : PodParts) : Prop where
  volumes : r.volumes.map (·.name) = socketVolumes n (l.filterMap (vhostKind env spec))
  mounts : r.volumeMounts.map (·.mountPath) =
    (socketVolumes n (l.filterMap (vhostKind env spec))).map (fun _ => "/var/run/vhost-user")
  devices : r.volumeDevices = []
  inits : r.initContainers.map (·.name) =
    (l.zipIdx i).flatMap (fun x => bindingNames spec x.1 x.2)
  plain : ∀ c ∈ r.initContainers, c.volumeMounts = [] ∧ c.volumeDevices = []
  env : ∀ e ∈ r.env, e.name ∈ networkVariables

/-- A loop that goes on has come through its first pass. -/
theorem networksParts_cons_ok {env : BuildEnv} {vm : VM} {i n : Nat} {network : Network}
    {l : List Network} {r : PodParts} (h : networksParts env vm i n (network :: l) = .ok r) :
    ∃ p n' q, networkParts env vm i n network = .ok (p, n') ∧
      networksParts env vm (i + 1) n' l = .ok q ∧ r = p ++ q := by
  simp only [networksParts] at h
  split at h
  · cases h
  · next p n' hpass =>
    split at h
    · cases h
    · next q hrest =>
      cases h
      exact ⟨p, n', q, hpass, hrest, rfl⟩

/-- **Loop**: the contributions of all networks; the number of userspace
    interfaces is carried along. -/
theorem networksParts_fields {env : BuildEnv} {vm : VM} {i n : Nat} {l : List Network}
    {r : PodParts} (h : networksParts env vm i n l = .ok r) :
    NetworksFields env vm.spec i n l r := by
  induction l generalizing i n r with
  | nil => cases h; constructor <;> simp [socketVolumes]
  | cons network l ih =>
    obtain ⟨p, n', q, hpass, hrest, rfl⟩ := networksParts_cons_ok h
    have hp := networkParts_fields hpass
    have hq := ih hrest
    have hcons : (network :: l).filterMap (vhostKind env vm.spec) =
        (vhostKind env vm.spec network).toList ++ l.filterMap (vhostKind env vm.spec) := by
      cases hk : vhostKind env vm.spec network <;> simp [hk]
    constructor
    · simp [hp.volumes, hq.volumes, hcons, socketVolumes_append, hp.count]
    · simp [hp.mounts, hq.mounts, hcons, socketVolumes_append, hp.count]
    · simp [hp.devices, hq.devices]
    · simp [hp.inits, hq.inits, List.zipIdx_cons]
    · intro c hc
      rcases List.mem_append.mp hc with hc | hc
      · exact hp.plain c hc
      · exact hq.plain c hc
    · intro e he
      rcases List.mem_append.mp he with he | he
      · exact hp.env e he
      · exact hq.env e he

/-- **Loop**: all networks have passed, and what the loop has collected comes from
    one of them. -/
theorem networksParts_passes {env : BuildEnv} {vm : VM} {l : List Network} {i n : Nat}
    {r : PodParts} (h : networksParts env vm i n l = .ok r) :
    (∀ network ∈ l, ∃ j m p, networkParts env vm j m network = .ok p) ∧
    ∀ {γ : Type} (g : PodParts → List γ), g {} = [] → (∀ p q, g (p ++ q) = g p ++ g q) →
      ∀ x ∈ g r, ∃ network ∈ l, ∃ j m p m', networkParts env vm j m network = .ok (p, m') ∧
        x ∈ g p := by
  induction l generalizing i n r with
  | nil =>
    cases h
    refine ⟨by simp, fun g hnil _ x hx => ?_⟩
    rw [hnil] at hx
    cases hx
  | cons network l ih =>
    obtain ⟨p, n', q, hpass, hrest, rfl⟩ := networksParts_cons_ok h
    obtain ⟨hall, hmem⟩ := ih hrest
    refine ⟨List.forall_mem_cons.mpr ⟨⟨i, n, _, hpass⟩, hall⟩, fun g hnil happend x hx => ?_⟩
    rw [happend] at hx
    rcases List.mem_append.mp hx with hx | hx
    · exact ⟨network, List.mem_cons_self, i, n, p, n', hpass, hx⟩
    · obtain ⟨m, hm, hpart⟩ := hmem g hnil happend x hx
      exact ⟨m, List.mem_cons_of_mem _ hm, hpart⟩

end Virtink
