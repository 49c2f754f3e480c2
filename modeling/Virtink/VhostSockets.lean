import Virtink.DiskLocations
import Virtink.Prerunner.VhostUser

/-! # The Sockets of vhost-user Interfaces

    The controller passes the sockets of a pod's vhost-user interfaces through
    one set of variables, and the prerunner reads them for each interface. For
    networks of type `userspace` that is enough, since the configuration data
    has an entry for every link. For `kube-ovn` there is one variable for the
    path, and the path that is read from it is dropped. So the interfaces of a
    VM get their own sockets exactly if none of them is on a `kube-ovn` network
    (`own_sockets_iff`).
-/

namespace Virtink

open Prerunner

/-! ### What Is Expected -/

/-- The socket that is configured for network `i`: by its NAD, or by the entry of
    its link in the configuration data. -/
def Configured (env : BuildEnv) (stack : VhostStack) (data : String) (network : Network) (i : Nat)
    (socket : String) : Prop :=
  ∃ multus nad cfg, network.multus = some multus ∧ env.nad multus.networkName = .ok nad ∧
    nad.config = .ok cfg ∧
    (cfg.type = "kube-ovn" ∧ socket = "/var/run/vhost-user/" ++ cfg.vhostUserSocketName ∨
     cfg.type = "userspace" ∧ ∃ configs config, stack.unmarshal data = .ok configs ∧
       config ∈ configs ∧ config.ifName = "net" ++ toString i ∧ config.SocketPath socket)

/-- Every vhost-user interface has its own socket. -/
structure OwnSockets (env : BuildEnv) (stack : VhostStack) (data : String) (spec : VMSpec)
    (cfg : Prerunner.VmConfig) : Prop where
  /-- It is not empty, and it is the one that is configured for its network. -/
  own : ∀ c ∈ cfg.net, c.vhostUser = true → c.vhostSocket ≠ "" ∧
    ∃ (i : Nat) (network : Network), spec.networks[i]? = some network ∧ network.name = c.id ∧
      Configured env stack data network i c.vhostSocket
  /-- No other interface has it. -/
  distinct : ∀ c ∈ cfg.net, ∀ c' ∈ cfg.net, c.vhostUser = true → c'.vhostUser = true →
    c.id ≠ c'.id → c.vhostSocket ≠ c'.vhostSocket

/-- The prerunner runs in this container: its variables are those of the container
    unless their values come from elsewhere, and the other bindings do not make a
    vhost-user interface. -/
structure RunsIn (host : Host) (stack : VhostStack) (c : Container) : Prop where
  vhostUser  : host.setupVhostUserNetwork = setupVhostUserNetwork stack host.getenv
  getenv     : ∀ name, (∀ e ∈ c.env, e.name = name → e.fieldPath = none) →
    host.getenv name = c.getenv name
  bridge     : ∀ link address c c', host.setupBridgeNetwork link address c = .ok c' →
    c'.vhostUser = c.vhostUser
  masquerade : ∀ link cidr c c', host.setupMasqueradeNetwork link cidr c = .ok c' →
    c'.vhostUser = c.vhostUser

/-- The configuration data that the CNI plugin leaves: entries for the links of
    `userspace` networks, each with a socket file of its own. -/
structure UserspaceData (env : BuildEnv) (spec : VMSpec) (configs : List ConfigurationData) :
    Prop where
  links : ∀ config ∈ configs, ∃ (i : Nat) (network : Network),
    spec.networks[i]? = some network ∧ vhostKind env spec network = some .userspace ∧
    config.ifName = "net" ++ toString i
  files : ∀ config ∈ configs, ∀ config' ∈ configs, config.ifName ≠ config'.ifName →
    config.socketfile ≠ config'.socketfile
  plain : ∀ config ∈ configs, '/' ∉ config.socketfile.toList

/-- The vhost-user interfaces of a VM are on Multus networks. -/
def OnMultus (spec : VMSpec) : Prop :=
  ∀ iface ∈ spec.instance_.interfaces, iface.vhostUser = true →
    ∀ network ∈ spec.networks, network.name = iface.name → network.multus.isSome = true

/-- Some vhost-user interface is on a `kube-ovn` network. -/
def UsesKubeOvn (env : BuildEnv) (spec : VMSpec) : Prop :=
  ∃ network ∈ spec.networks, ∃ volume, vhostKind env spec network = some (.kubeOvn volume)

/-! ### The Type of the Networks -/

/-- What a network writes to `NET_TYPE`. -/
def NetTypeEntry (env : BuildEnv) (spec : VMSpec) (e : EnvVar) : Prop :=
  e.fieldPath = none ∧ (e.value = "userspace" ∨ e.value = "kube-ovn" ∧ UsesKubeOvn env spec)

theorem vhostUserParts_netType {nad : NAD} {iface : Interface} {n n' : Nat} {q : PodParts}
    (h : vhostUserParts nad iface n = .ok (q, n')) :
    ∀ e ∈ q.env, e.name = "NET_TYPE" → e.fieldPath = none ∧
      (e.value = "userspace" ∨ e.value = "kube-ovn" ∧
        ∃ volume, nad.vhostKind = some (.kubeOvn volume)) := by
  simp only [vhostUserParts] at h
  split at h
  · cases h
  · next cfg hcfg =>
    split at h
    · next hovn =>
      cases h
      simp [kubeOvnParts, NAD.vhostKind, hcfg, hovn]
    · split at h
      · cases h
        split <;> simp [userspaceParts]
      · cases h

theorem networkParts_netType {env : BuildEnv} {vm : VM} {network : Network} {i n n' : Nat}
    {p : PodParts} (hnetwork : network ∈ vm.spec.networks)
    (h : networkParts env vm i n network = .ok (p, n')) :
    ∀ e ∈ p.env, e.name = "NET_TYPE" → NetTypeEntry env vm.spec e := by
  intro e he hname
  simp only [networkParts] at h
  split at h
  · cases h
  · next iface hiface =>
    split at h
    · cases h
      cases he
    · next multus hmultus =>
      split at h
      · cases h
      · next nad hnad =>
        -- the variable of Multus has another name
        have hstatus : ∀ x ∈ (bindingParts env i iface ++ multusParts i iface multus nad).env,
            x.name ≠ "NET_TYPE" := by
          simp [bindingParts, multusParts]
        split at h
        · next hvhost =>
          split at h
          · cases h
          · next q m hq =>
            cases h
            rcases List.mem_append.mp he with he | he
            · exact absurd hname (hstatus e he)
            · have hkind : vhostKind env vm.spec network = nad.vhostKind := by
                have hof : ifaceOf vm.spec network = some iface := hiface
                simp [vhostKind, hof, hmultus, hvhost, hnad]
              obtain ⟨hfield, hvalue⟩ := vhostUserParts_netType hq e he hname
              refine ⟨hfield, hvalue.imp_right fun hovn => ⟨hovn.1, network, hnetwork, ?_⟩⟩
              rw [hkind]
              exact hovn.2
        · cases h
          exact absurd hname (hstatus e he)

/-- The entries for the type in the container that is built. -/
theorem buildVMPod_netType {env : BuildEnv} {vm : VM} {pod : VMPod} (hvm : vm.spec.Accepted)
    (hpod : buildVMPod env vm = .ok pod) :
    ∀ e ∈ pod.main.env, e.name = "NET_TYPE" → NetTypeEntry env vm.spec e := by
  obtain ⟨volumes, networks, hvolumes, hnetworks, rfl⟩ := buildVMPod_eq_ok.mp hpod
  intro e he hname
  simp only [assemble, podParts, PodParts.append_env, instanceParts_env,
    (volumesParts_fields hvm.volumes_single hvolumes).env, List.nil_append, List.mem_append] at he
  rcases he with (he | he) | he
  · -- the variable of the block volumes
    simp only [blockParts] at he
    split at he
    · cases he
    · rw [List.mem_singleton.mp he] at hname
      simp at hname
  · obtain ⟨network, hnetwork, j, m, p, m', hpass, hp⟩ :=
      (networksParts_passes hnetworks).2 (fun p => p.env) rfl (fun _ _ => rfl) e he
    exact networkParts_netType hnetwork hpass e hp hname
  · simp only [sidecarParts, List.mem_singleton] at he
    rw [he] at hname
    simp at hname

/-- What the prerunner reads: without a `kube-ovn` interface never `kube-ovn`. -/
theorem netType_cases {env : BuildEnv} {vm : VM} {pod : VMPod} (hvm : vm.spec.Accepted)
    (hpod : buildVMPod env vm = .ok pod) {host : Host} {stack : VhostStack}
    (hhost : RunsIn host stack pod.main) :
    host.getenv "NET_TYPE" = "" ∨ host.getenv "NET_TYPE" = "userspace" ∨
      host.getenv "NET_TYPE" = "kube-ovn" ∧ UsesKubeOvn env vm.spec := by
  have hentries := buildVMPod_netType hvm hpod
  rw [hhost.getenv "NET_TYPE" fun e he hname => (hentries e he hname).1, Container.getenv]
  cases hlast : (pod.main.env.filter (·.name == "NET_TYPE")).getLast? with
  | none => exact .inl rfl
  | some e =>
    have hmem := List.mem_filter.mp (List.mem_of_getLast? hlast)
    exact .inr (hentries e hmem.1 (by simpa using hmem.2)).2

/-! ### The Configurations of the Links -/

/-- The first of the networks has another name, or the interface is on it. -/
theorem ifaceNetworks_cons_ok {host : Host} {status : List NetworkStatus} {iface : Interface}
    {network : Network} {networks : List Network} {i : Nat} {links : Links}
    (h : ifaceNetworks host status iface i (network :: networks) = .ok links) :
    ∃ rest, ifaceNetworks host status iface (i + 1) networks = .ok rest ∧
      (network.name ≠ iface.name ∧ links = rest ∨
       network.name = iface.name ∧ ∃ link l, linkName network i = .ok link ∧
        interfaceLinks host status iface link i = .ok l ∧ links = l.append rest) := by
  simp only [ifaceNetworks] at h
  split at h
  · next hname => exact ⟨links, h, .inl ⟨hname, rfl⟩⟩
  · next hname =>
    split at h
    · cases h
    · next link hlink =>
      split at h
      · cases h
      · next l hl =>
        split at h
        · cases h
        · next rest hrest =>
          cases h
          exact ⟨rest, hrest, .inr ⟨not_not.mp hname, link, l, hlink, hl, rfl⟩⟩

/-- What is collected for an interface comes from one of its networks. -/
theorem mem_of_ifaceNetworks {host : Host} {status : List NetworkStatus} {iface : Interface}
    {networks : List Network} {i : Nat} {links : Links} {c : NetConfig}
    (h : ifaceNetworks host status iface i networks = .ok links) (hc : c ∈ links.net) :
    ∃ (k : Nat) (network : Network) (link : String) (l : Links),
      networks[k]? = some network ∧ network.name = iface.name ∧
      linkName network (i + k) = .ok link ∧
      interfaceLinks host status iface link (i + k) = .ok l ∧ c ∈ l.net := by
  induction networks generalizing i links with
  | nil =>
    cases h
    cases hc
  | cons network networks ih =>
    obtain ⟨rest, hrest, hfirst⟩ := ifaceNetworks_cons_ok h
    have hcase : c ∈ rest.net ∨ network.name = iface.name ∧ ∃ link l,
        linkName network i = .ok link ∧ interfaceLinks host status iface link i = .ok l ∧
        c ∈ l.net := by
      rcases hfirst with ⟨-, rfl⟩ | ⟨hname, link, l, hlink, hl, rfl⟩
      · exact .inl hc
      · rcases List.mem_append.mp hc with hc | hc
        · exact .inr ⟨hname, link, l, hlink, hl, hc⟩
        · exact .inl hc
    rcases hcase with hlater | ⟨hname, link, l, hlink, hl, hcl⟩
    · obtain ⟨k, m, link, l, hm, hname, hlink, hl, hcl⟩ := ih hrest hlater
      have hindex : i + (k + 1) = i + 1 + k := by omega
      exact ⟨k + 1, m, link, l, hm, hname, by rw [hindex, hlink], by rw [hindex, hl], hcl⟩
    · exact ⟨0, network, link, l, rfl, hname, hlink, hl, hcl⟩

/-- What a network of the interface contributes is collected. -/
theorem ifaceNetworks_mem {host : Host} {status : List NetworkStatus} {iface : Interface}
    {networks : List Network} {i k : Nat} {links : Links} {network : Network}
    (h : ifaceNetworks host status iface i networks = .ok links)
    (hk : networks[k]? = some network) (hname : network.name = iface.name) :
    ∃ link l, linkName network (i + k) = .ok link ∧
      interfaceLinks host status iface link (i + k) = .ok l ∧ ∀ c ∈ l.net, c ∈ links.net := by
  induction networks generalizing i k links with
  | nil => cases hk
  | cons m networks ih =>
    obtain ⟨rest, hrest, hfirst⟩ := ifaceNetworks_cons_ok h
    cases k with
    | zero =>
      cases hk
      rcases hfirst with ⟨hne, -⟩ | ⟨-, link, l, hlink, hl, rfl⟩
      · exact absurd hname hne
      · exact ⟨link, l, hlink, hl, fun c hc => List.mem_append_left _ hc⟩
    | succ k =>
      have hindex : i + (k + 1) = i + 1 + k := by omega
      obtain ⟨link, l, hlink, hl, hmem⟩ := ih hrest hk
      refine ⟨link, l, by rw [hindex, hlink], by rw [hindex, hl], fun c hc => ?_⟩
      rcases hfirst with ⟨-, rfl⟩ | ⟨-, _, _, -, -, rfl⟩
      · exact hmem c hc
      · exact List.mem_append_right _ (hmem c hc)

/-- The configuration of a vhost-user interface before its socket is known. -/
def vhostConfig (iface : Interface) : NetConfig :=
  { id := iface.name, mac := iface.mac, vhostUser := true, vhostMode := "Server" }

theorem netLinks_eq_ok {what : String} {vhostUser : Bool} {r : Except String NetConfig} {l : Links}
    (h : netLinks what vhostUser r = .ok l) : ∃ c, r = .ok c ∧ l.net = [c] := by
  cases r with
  | error e => cases h
  | ok c =>
    cases h
    exact ⟨c, rfl, rfl⟩

/-- A vhost-user configuration comes from a vhost-user interface. -/
theorem vhostUser_of_interfaceLinks {host : Host} {stack : VhostStack} {container : Container}
    (hhost : RunsIn host stack container) {status : List NetworkStatus} {iface : Interface}
    {link : String} {i : Nat} {l : Links} {c : NetConfig}
    (h : interfaceLinks host status iface link i = .ok l) (hc : c ∈ l.net)
    (hvhost : c.vhostUser = true) :
    iface.vhostUser = true ∧
      setupVhostUserNetwork stack host.getenv link (vhostConfig iface) = .ok c := by
  have hnet : ∀ {what : String} {v : Bool} {r : Except String NetConfig},
      netLinks what v r = .ok l → r = .ok c := by
    intro what v r hr
    obtain ⟨c', hok, hl⟩ := netLinks_eq_ok hr
    rw [hl] at hc
    rw [List.mem_singleton.mp hc]
    exact hok
  unfold interfaceLinks at h
  split at h
  · have hsame := hhost.bridge _ _ _ _ (hnet h)
    rw [hvhost] at hsame
    cases hsame
  · have hsame := hhost.masquerade _ _ _ _ (hnet h)
    rw [hvhost] at hsame
    cases hsame
  · cases h
    cases hc
  · cases h
    cases hc
  · next hiface =>
    have hsetup := hnet h
    rw [hhost.vhostUser] at hsetup
    exact ⟨hiface, hsetup⟩
  · cases h
    cases hc

/-- A vhost-user interface has a vhost-user configuration. -/
theorem interfaceLinks_vhostUser {host : Host} {stack : VhostStack} {container : Container}
    (hhost : RunsIn host stack container) {status : List NetworkStatus} {iface : Interface}
    (hiface : iface.Single) (hvhost : iface.vhostUser = true) {link : String} {i : Nat} {l : Links}
    (h : interfaceLinks host status iface link i = .ok l) :
    ∃ c ∈ l.net, setupVhostUserNetwork stack host.getenv link (vhostConfig iface) = .ok c := by
  cases hiface with
  | bridge | masquerade | sriov | vdpa => cases hvhost
  | vhostUser =>
    simp only [interfaceLinks, hhost.vhostUser] at h
    obtain ⟨c, hsetup, hl⟩ := netLinks_eq_ok h
    exact ⟨c, by simp [hl], hsetup⟩

/-- The link of a Multus network. -/
theorem linkName_multus {network : Network} (hnetwork : network.Single)
    (hmultus : network.multus.isSome = true) (i : Nat) :
    linkName network i = .ok ("net" ++ toString i) := by
  cases hnetwork with
  | pod => cases hmultus
  | multus => rfl

section config
variable {host : Host} {stack : VhostStack} {container : Container} {spec : VMSpec}
  {cfg : Prerunner.VmConfig} (hspec : spec.Accepted) (hhost : RunsIn host stack container)
  (hmultus : OnMultus spec) (hcfg : buildVMConfig host spec = .ok cfg)

include hspec hhost hmultus hcfg

/-- Where a vhost-user configuration comes from. -/
theorem vhostNet_of_mem {c : NetConfig} (hc : c ∈ cfg.net) (hvhost : c.vhostUser = true) :
    ∃ iface ∈ spec.instance_.interfaces, ∃ (i : Nat) (network : Network),
      spec.networks[i]? = some network ∧ network.name = iface.name ∧ iface.vhostUser = true ∧
      setupVhostUserNetwork stack host.getenv ("net" ++ toString i) (vhostConfig iface) = .ok c := by
  obtain ⟨_, _, _, status, links, -, -, -, -, hlinks, rfl⟩ := buildVMConfig_eq_ok.mp hcfg
  obtain ⟨iface, hiface, l, hl, hcl⟩ :=
    Loop.mem_collect (g := fun links : Links => links.net) rfl (fun _ _ => rfl) hlinks hc
  obtain ⟨i, network, link, l', hnetwork, hname, hlink, hl', hcl'⟩ := mem_of_ifaceNetworks hl hcl
  obtain ⟨hivhost, hsetup⟩ := vhostUser_of_interfaceLinks hhost hl' hcl' hvhost
  have hmem := List.mem_of_getElem? hnetwork
  rw [Nat.zero_add, linkName_multus (hspec.networks_single network hmem)
    (hmultus iface hiface hivhost network hmem hname)] at hlink
  cases hlink
  exact ⟨iface, hiface, i, network, hnetwork, hname, hivhost, hsetup⟩

/-- Every vhost-user interface of a network has one. -/
theorem exists_vhostNet {iface : Interface} (hiface : iface ∈ spec.instance_.interfaces)
    (hivhost : iface.vhostUser = true) {i : Nat} {network : Network}
    (hnetwork : spec.networks[i]? = some network) (hname : network.name = iface.name) :
    ∃ c ∈ cfg.net, c.vhostUser = true ∧
      setupVhostUserNetwork stack host.getenv ("net" ++ toString i) (vhostConfig iface) = .ok c := by
  obtain ⟨_, _, _, status, links, -, -, -, -, hlinks, rfl⟩ := buildVMConfig_eq_ok.mp hcfg
  obtain ⟨l, hl, hmem⟩ :=
    Loop.collect_mem (g := fun links : Links => links.net) (fun _ _ => rfl) hlinks hiface
  obtain ⟨link, l', hlink, hl', hmem'⟩ := ifaceNetworks_mem hl hnetwork hname
  have hin := List.mem_of_getElem? hnetwork
  rw [Nat.zero_add, linkName_multus (hspec.networks_single network hin)
    (hmultus iface hiface hivhost network hin hname)] at hlink
  cases hlink
  obtain ⟨c, hc, hsetup⟩ :=
    interfaceLinks_vhostUser hhost (hspec.ifaces_single iface hiface) hivhost hl'
  exact ⟨c, hmem c (hmem' c hc), (setupVhostUserNetwork_eq_ok hsetup).2.1, hsetup⟩

end config

/-! ### Own Sockets -/

/-- The interface of a network is the one with its name. -/
theorem ifaceOf_eq_some {spec : VMSpec} (hspec : spec.Accepted) {iface : Interface}
    (hiface : iface ∈ spec.instance_.interfaces) {network : Network}
    (hname : network.name = iface.name) : ifaceOf spec network = some iface := by
  cases hfind : ifaceOf spec network with
  | none =>
    have hnone := List.find?_eq_none.mp hfind iface hiface
    simp [hname] at hnone
  | some iface' =>
    have hname' : iface'.name = network.name := by simpa using List.find?_some hfind
    rw [List.inj_on_of_nodup_map hspec.iface_names (List.mem_of_find?_eq_some hfind) hiface
      (hname'.trans hname)]

/-- A network with a vhost-user interface passes only with a NAD of a known type. -/
theorem networkParts_supported {env : BuildEnv} {vm : VM} {network : Network} {i n : Nat}
    {r : PodParts × Nat} (h : networkParts env vm i n network = .ok r) {iface : Interface}
    (hiface : ifaceOf vm.spec network = some iface) (hvhost : iface.vhostUser = true)
    {multus : MultusNetworkSource} (hmultus : network.multus = some multus) :
    ∃ nad, env.nad multus.networkName = .ok nad ∧ nad.Supported := by
  have hfind : vm.spec.instance_.interfaces.find? (·.name == network.name) = some iface := hiface
  simp only [networkParts, hfind, hmultus, hvhost, if_true] at h
  split at h
  · cases h
  · next nad hnad =>
    refine ⟨nad, hnad, ?_⟩
    simp only [vhostUserParts] at h
    cases hcfg : nad.config with
    | error e => simp [hcfg] at h
    | ok cfg =>
      refine ⟨cfg, hcfg, ?_⟩
      by_contra htype
      rw [not_or] at htype
      simp [hcfg, htype.1, htype.2] at h

section sockets
variable {env : BuildEnv} {vm : VM} {pod : VMPod} {host : Host} {stack : VhostStack}
  {cfg : Prerunner.VmConfig} (hvm : vm.spec.Accepted) (hpod : buildVMPod env vm = .ok pod)
  (hhost : RunsIn host stack pod.main) (hmultus : OnMultus vm.spec)
  (hdata : ∀ configs, stack.unmarshal (host.getenv "USERSPACE_CONFIGURATION_DATA") = .ok configs →
    UserspaceData env vm.spec configs)
  (hcfg : buildVMConfig host vm.spec = .ok cfg)

include hvm hpod hmultus in
/-- The network of a vhost-user interface, in a VM without `kube-ovn`. -/
theorem configured_of_entry (hno : ¬ UsesKubeOvn env vm.spec) {iface : Interface}
    (hiface : iface ∈ vm.spec.instance_.interfaces) (hivhost : iface.vhostUser = true) {i : Nat}
    {network : Network} (hnetwork : vm.spec.networks[i]? = some network)
    (hname : network.name = iface.name) {data socket : String}
    (hentry : ∃ configs config, stack.unmarshal data = .ok configs ∧ config ∈ configs ∧
      config.ifName = "net" ++ toString i ∧ config.SocketPath socket) :
    Configured env stack data network i socket := by
  have hmem := List.mem_of_getElem? hnetwork
  have hof := ifaceOf_eq_some hvm hiface hname
  obtain ⟨multus, hsome⟩ :=
    Option.isSome_iff_exists.mp (hmultus iface hiface hivhost network hmem hname)
  obtain ⟨_, _, -, hnetworks, -⟩ := buildVMPod_eq_ok.mp hpod
  obtain ⟨j, m, p, hpass⟩ := (networksParts_passes hnetworks).1 network hmem
  obtain ⟨nad, hnad, cfg, hconfig, htype⟩ := networkParts_supported hpass hof hivhost hsome
  refine ⟨multus, nad, cfg, hsome, hnad, hconfig, ?_⟩
  -- the type is known since the pod was built
  rcases htype with hovn | hspace
  · refine absurd ⟨network, hmem, cfg.vhostUserSocketVolumeName, ?_⟩ hno
    simp [vhostKind, hof, hsome, hivhost, hnad, NAD.vhostKind, hconfig, hovn]
  · exact .inr ⟨hspace, hentry⟩

include hvm hpod hhost hmultus hcfg in
/-- Without `kube-ovn` every socket comes from the entry of its link. -/
theorem entry_of_mem (hno : ¬ UsesKubeOvn env vm.spec) {c : NetConfig} (hc : c ∈ cfg.net)
    (hvhost : c.vhostUser = true) :
    ∃ iface ∈ vm.spec.instance_.interfaces, ∃ (i : Nat) (network : Network),
      iface.vhostUser = true ∧ vm.spec.networks[i]? = some network ∧
      network.name = iface.name ∧ c.id = iface.name ∧
      ∃ configs config,
        stack.unmarshal (host.getenv "USERSPACE_CONFIGURATION_DATA") = .ok configs ∧
        config ∈ configs ∧ config.ifName = "net" ++ toString i ∧ config.SocketPath c.vhostSocket := by
  obtain ⟨iface, hiface, i, network, hnetwork, hname, hivhost, hsetup⟩ :=
    vhostNet_of_mem hvm hhost hmultus hcfg hc hvhost
  obtain ⟨hid, -, hset, -, hspace⟩ := setupVhostUserNetwork_eq_ok hsetup
  -- the one variable for all networks can have only one value left
  have htype : host.getenv "NET_TYPE" = "userspace" := by
    rcases netType_cases hvm hpod hhost with hempty | hspace | ⟨-, hovn⟩
    · exact absurd hempty hset
    · exact hspace
    · exact absurd hovn hno
  exact ⟨iface, hiface, i, network, hivhost, hnetwork, hname, hid,
    userspaceSocket_eq_ok (hspace htype)⟩

include hvm hpod hhost hmultus hdata hcfg in
/-- With `kube-ovn` some socket is not the one of its network. -/
theorem not_own_of_kubeOvn (h : UsesKubeOvn env vm.spec) :
    ¬ OwnSockets env stack (host.getenv "USERSPACE_CONFIGURATION_DATA") vm.spec cfg := by
  intro hown
  obtain ⟨network, hmem, volume, hkind⟩ := h
  obtain ⟨i, hnetwork⟩ := List.getElem?_of_mem hmem
  obtain ⟨iface, hof, hivhost⟩ : ∃ iface, ifaceOf vm.spec network = some iface ∧
      iface.vhostUser = true := by
    simp only [vhostKind] at hkind
    split at hkind
    · next iface multus hof hsome =>
      split at hkind
      · next hivhost => exact ⟨iface, hof, hivhost⟩
      · cases hkind
    · cases hkind
  have hname : iface.name = network.name := by simpa using List.find?_some hof
  obtain ⟨c, hc, hvhost, hsetup⟩ :=
    exists_vhostNet hvm hhost hmultus hcfg (List.mem_of_find?_eq_some hof) hivhost hnetwork
      hname.symm
  obtain ⟨-, -, hset, hovn, hspace⟩ := setupVhostUserNetwork_eq_ok hsetup
  rcases netType_cases hvm hpod hhost with hempty | htype | ⟨htype, -⟩
  · exact hset hempty
  · -- the data has no entry for the link
    obtain ⟨configs, config, hconfigs, hin, hif, -⟩ := userspaceSocket_eq_ok (hspace htype)
    obtain ⟨j, network', hnetwork', hkind', hif'⟩ := (hdata configs hconfigs).links config hin
    rw [hif] at hif'
    have hindex : i = j := Text.toString_injective ((String.append_right_inj _).mp hif')
    rw [← hindex, hnetwork] at hnetwork'
    cases hnetwork'
    rw [hkind] at hkind'
    cases hkind'
  · exact (hown.own c hc hvhost).1 (hovn htype)

end sockets

/-- **Every vhost-user interface gets its own socket** exactly if none of them is on
    a `kube-ovn` network: for every accepted VM, whenever the prerunner succeeds in
    the container that was built for it. -/
theorem own_sockets_iff {lib : Library} {env : BuildEnv} {vm : VM} {oldVM : Option VM}
    {pod : VMPod} {host : Host} {stack : VhostStack} {cfg : Prerunner.VmConfig}
    (hvalid : validateVM lib vm oldVM = []) (hpod : buildVMPod env vm = .ok pod)
    (hhost : RunsIn host stack pod.main) (hmultus : OnMultus vm.spec)
    (hdata : ∀ configs,
      stack.unmarshal (host.getenv "USERSPACE_CONFIGURATION_DATA") = .ok configs →
      UserspaceData env vm.spec configs)
    (hcfg : buildVMConfig host vm.spec = .ok cfg) :
    OwnSockets env stack (host.getenv "USERSPACE_CONFIGURATION_DATA") vm.spec cfg ↔
      ¬ UsesKubeOvn env vm.spec := by
  have hvm := accepted_of_validateVM hvalid
  constructor
  · intro hown huses
    exact not_own_of_kubeOvn hvm hpod hhost hmultus hdata hcfg huses hown
  · intro hno
    constructor
    · intro c hc hvhost
      obtain ⟨iface, hiface, i, network, hivhost, hnetwork, hname, hid, hentry⟩ :=
        entry_of_mem hvm hpod hhost hmultus hcfg hno hc hvhost
      obtain ⟨_, config, -, -, -, hpath⟩ := id hentry
      exact ⟨hpath.ne_empty, i, network, hnetwork, hname.trans hid.symm,
        configured_of_entry hvm hpod hmultus hno hiface hivhost hnetwork hname hentry⟩
    · intro c hc c' hc' hvhost hvhost' hne heq
      obtain ⟨iface, -, i, network, -, hnetwork, hname, hid, configs, config, hconfigs, hin, hif,
        hpath⟩ := entry_of_mem hvm hpod hhost hmultus hcfg hno hc hvhost
      obtain ⟨iface', -, i', network', -, hnetwork', hname', hid', configs', config', hconfigs',
        hin', hif', hpath'⟩ := entry_of_mem hvm hpod hhost hmultus hcfg hno hc' hvhost'
      rw [hconfigs] at hconfigs'
      cases hconfigs'
      -- interfaces of different names are on different networks, with links of their own
      have hindex : i ≠ i' := by
        rintro rfl
        rw [hnetwork] at hnetwork'
        cases hnetwork'
        exact hne (by rw [hid, hid', ← hname, ← hname'])
      have hlinks : config.ifName ≠ config'.ifName := by
        rw [hif, hif']
        exact fun h => hindex (Text.toString_injective ((String.append_right_inj _).mp h))
      have hsound := hdata configs hconfigs
      apply hsound.files config hin config' hin' hlinks
      rw [← hpath.base (hsound.plain config hin), ← hpath'.base (hsound.plain config' hin'), heq]

namespace Sample

/-- The resources of a machine with one dedicated CPU and one page of memory. -/
def dpdkResources : ResourceList :=
  some [("cpu", .units 1), ("memory", .units 268435456), ("hugepages-1Gi", .units 1073741824)]

/-- A machine with these vhost-user interfaces. -/
def vhostVM (names : List String) : VM where
  name := "vm"
  uid := "vm-uid"
  spec := {
    resources := { requests := dpdkResources, limits := dpdkResources }
    instance_ := {
      cpu := { sockets := 1, coresPerSocket := 1, dedicatedCPUPlacement := true }
      memory := { size := .units 1073741824, hugepages := some {} }
      interfaces := names.map fun n => { name := n, mac := "52:54:00:00:00:01", vhostUser := true } }
    networks := names.map fun n => { name := n, multus := some { networkName := n } } }

/-- The networks of these machines are of type `kube-ovn`. -/
def ovnEnv : BuildEnv :=
  { plainEnv with
    nad := fun _ => .ok { config := .ok {
      type := "kube-ovn"
      vhostUserSocketVolumeName := "sockets"
      vhostUserSocketName := "sock" } } }

/-- The entries of two links. -/
def twoLinks : List ConfigurationData :=
  [ { ifName := "net0", containerId := "0123456789abcdef", socketfile := "sock-net0" },
    { ifName := "net1", containerId := "0123456789abcdef", socketfile := "sock-net1" } ]

/-- The data of the CNI plugin, if there is any, has these two. -/
def vhostStack : VhostStack where
  linkByName _ := .ok 1500
  unmarshal data := if data = "" then .error "unexpected end of JSON input" else .ok twoLinks
  stat _ := .found

/-- A host for a container, with this configuration data. -/
def vhostHost (c : Container) (data : String) : Host :=
  let getenv := fun name =>
    if name = "USERSPACE_CONFIGURATION_DATA" then data else c.getenv name
  { plainHost 1 with
    getenv := getenv
    setupVhostUserNetwork := setupVhostUserNetwork vhostStack getenv }

/-- The configuration data is that of the annotation, or there is none. -/
theorem vhostHost_runsIn {c : Container} {data : String}
    (h : (∃ e ∈ c.env, e.name = "USERSPACE_CONFIGURATION_DATA" ∧ e.fieldPath ≠ none) ∨
      data = c.getenv "USERSPACE_CONFIGURATION_DATA") :
    RunsIn (vhostHost c data) vhostStack c where
  vhostUser := rfl
  getenv := by
    intro name hplain
    by_cases hname : name = "USERSPACE_CONFIGURATION_DATA"
    · subst hname
      rcases h with ⟨e, he, hename, hfield⟩ | hdata
      · exact absurd (hplain e he hename) hfield
      · exact hdata
    · exact if_neg hname
  bridge _ _ c c' h := by cases h; rfl
  masquerade _ _ c c' h := by cases h; rfl

theorem vhostVM_onMultus (names : List String) : OnMultus (vhostVM names).spec := by
  intro iface _ _ network hnetwork _
  obtain ⟨n, -, rfl⟩ := List.mem_map.mp hnetwork
  rfl

end Sample

/-- Two `userspace` interfaces. -/
theorem own_sockets_sample :
    ∃ pod cfg, buildVMPod plainEnv (Sample.vhostVM ["a", "b"]) = .ok pod ∧
      buildVMConfig (Sample.vhostHost pod.main "data") (Sample.vhostVM ["a", "b"]).spec = .ok cfg ∧
      OwnSockets plainEnv Sample.vhostStack "data" (Sample.vhostVM ["a", "b"]).spec cfg := by
  have haccepted : validateVM Sample.library (Sample.vhostVM ["a", "b"]) none = [] := by decide
  refine ⟨_, _, rfl, rfl, ?_⟩
  refine (own_sockets_iff haccepted rfl (Sample.vhostHost_runsIn (.inl ?_))
    (Sample.vhostVM_onMultus _) ?_ rfl).mpr ?_
  · exact ⟨_, List.mem_cons_of_mem _ List.mem_cons_self, rfl, by decide⟩
  · intro configs hconfigs
    obtain rfl : Sample.twoLinks = configs := Except.ok.inj hconfigs
    refine ⟨?_, by decide, by decide⟩
    simp only [Sample.twoLinks, List.forall_mem_cons]
    exact ⟨⟨0, _, rfl, rfl, rfl⟩, ⟨1, _, rfl, rfl, rfl⟩, by simp⟩
  · rintro ⟨network, hnetwork, volume, hkind⟩
    simp only [Sample.vhostVM, List.map_cons, List.map_nil, List.mem_cons, List.not_mem_nil,
      or_false] at hnetwork
    rcases hnetwork with rfl | rfl <;> cases hkind

/-- One `kube-ovn` interface: its variable has the path of the socket, and the
    configuration has none. -/
theorem kube_ovn_socket_lost :
    validateVM Sample.library (Sample.vhostVM ["a"]) none = [] ∧
    ∃ pod cfg, buildVMPod Sample.ovnEnv (Sample.vhostVM ["a"]) = .ok pod ∧
      pod.main.getenv "VHOST_USER_SOCKET" = "/var/run/vhost-user/sock" ∧
      RunsIn (Sample.vhostHost pod.main "") Sample.vhostStack pod.main ∧
      buildVMConfig (Sample.vhostHost pod.main "") (Sample.vhostVM ["a"]).spec = .ok cfg ∧
      cfg.net.map (·.vhostSocket) = [""] ∧
      ¬ OwnSockets Sample.ovnEnv Sample.vhostStack "" (Sample.vhostVM ["a"]).spec cfg := by
  refine ⟨by decide, _, _, rfl, by decide, Sample.vhostHost_runsIn (.inr (by decide)), rfl,
    by decide, fun hown => ?_⟩
  exact (hown.own _ List.mem_cons_self rfl).1 rfl

end Virtink
