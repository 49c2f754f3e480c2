import Virtink.Admission.Updates
import Virtink.Daemon.Cgroup
import Virtink.Framework.Verdict

/-! # What a New Device Rule Does

    runc applies the device rules of a cgroup in their order, and the last rule
    that matches decides. Both managers of the daemon put the new rules before
    those in force, so a new rule takes effect only where no rule that is kept
    contradicts it (`new_rules_take_effect_iff`).

    That of cgroups v1 keeps everything, so a rule that forbids a device never
    changes anything: the device of an unplugged volume stays allowed
    (`unplugged_device_stays_allowed`). That of cgroups v2 drops the rules for
    the device of the last of the new rules only. For a single rule for a volume
    this is enough; for two rules it is not.
-/

namespace Virtink

open Calls

/-! ### Access to Devices -/

/-- The kinds of access that a rule grants or denies. -/
inductive Access where
  | read | write | mknod
  deriving DecidableEq, Repr

/-- How they are written in the permissions of a rule. -/
def Access.letter : Access → Char
  | .read => 'r'
  | .write => 'w'
  | .mknod => 'm'

/-- Access of a kind to a device. -/
structure AccessRequest where
  type   : DeviceType
  major  : Int
  minor  : Int
  access : Access
  deriving DecidableEq, Repr

namespace DeviceRule

/-- The rule is about the request. -/
def hits (r : DeviceRule) (q : AccessRequest) : Bool :=
  (r.type == .wildcard || r.type == q.type) && (r.major == -1 || r.major == q.major) &&
    (r.minor == -1 || r.minor == q.minor) && r.permissions.toList.contains q.access.letter

/-- Access to the device that the rule names. -/
def request (r : DeviceRule) (access : Access) : AccessRequest :=
  { type := r.type, major := r.major, minor := r.minor, access := access }

/-- The device that the rule names. -/
def device (r : DeviceRule) : DeviceType × Int × Int := (r.type, r.major, r.minor)

/-- The rule names one device. -/
def Concrete (r : DeviceRule) : Prop := r.type ≠ .wildcard ∧ r.major ≠ -1 ∧ r.minor ≠ -1

instance (r : DeviceRule) : Decidable r.Concrete :=
  inferInstanceAs (Decidable (_ ∧ _ ∧ _))

end DeviceRule

/-- What the last of the rules about a request says. -/
def lastRule : List DeviceRule → AccessRequest → Option Bool :=
  Verdict.last DeviceRule.hits DeviceRule.allow

/-- The request is allowed under the rules. -/
def accessAllowed : List DeviceRule → AccessRequest → Bool :=
  Verdict.allowed DeviceRule.hits DeviceRule.allow

/-- Under the rules, the device that `r` names is allowed as `r` says. -/
def TakesEffect (rules : List DeviceRule) (r : DeviceRule) : Prop :=
  ∀ access : Access, access.letter ∈ r.permissions.toList →
    accessAllowed rules (r.request access) = r.allow

/-- No verdict of the rules contradicts `r`. -/
def NotOverridden (rules : List DeviceRule) (r : DeviceRule) : Prop :=
  ∀ access : Access, access.letter ∈ r.permissions.toList →
    ∀ allow, lastRule rules (r.request access) = some allow → allow = r.allow

/-- Rules for distinct devices. -/
structure NewRules (new : List DeviceRule) : Prop where
  ne_nil   : new ≠ []
  concrete : ∀ r ∈ new, r.Concrete
  distinct : (new.map DeviceRule.device).Nodup

section rules
variable {new current rules : List DeviceRule} {r r' : DeviceRule} {access : Access}

theorem hits_request (h : access.letter ∈ r.permissions.toList) :
    r.hits (r.request access) = true := by
  simp [DeviceRule.hits, DeviceRule.request, h]

/-- A rule for one device is about no other. -/
theorem device_of_hits (hr' : r'.Concrete) (h : r'.hits (r.request access) = true) :
    r'.device = r.device := by
  obtain ⟨htype, hmajor, hminor⟩ := hr'
  simp only [DeviceRule.hits, DeviceRule.request, Bool.and_eq_true, Bool.or_eq_true,
    beq_iff_eq] at h
  obtain ⟨⟨⟨ht, hma⟩, hmi⟩, -⟩ := h
  unfold DeviceRule.device
  rw [ht.resolve_left htype, hma.resolve_left hmajor, hmi.resolve_left hminor]

/-- Of the new rules only `r` is about its device. -/
theorem NewRules.last_eq (h : NewRules new) (hr : r ∈ new)
    (haccess : access.letter ∈ r.permissions.toList) :
    lastRule new (r.request access) = some r.allow := by
  apply Verdict.last_eq_some hr (hits_request haccess)
  intro r' hr' hhits
  have hdevice : r'.device = r.device := device_of_hits (h.concrete r' hr') hhits
  rw [List.inj_on_of_nodup_map h.distinct hr' hr hdevice]

/-- With other rules after the new ones, each takes effect iff it is not
    overridden. -/
theorem NewRules.takesEffect_iff (h : NewRules new) (hr : r ∈ new) :
    TakesEffect (new ++ rules) r ↔ NotOverridden rules r := by
  have hverdict : ∀ access : Access, access.letter ∈ r.permissions.toList →
      accessAllowed (new ++ rules) (r.request access) =
        (lastRule rules (r.request access)).getD r.allow := by
    intro access haccess
    have hlast := h.last_eq hr haccess
    unfold lastRule at hlast ⊢
    unfold accessAllowed Verdict.allowed
    rw [Verdict.last_append, hlast]
    cases Verdict.last DeviceRule.hits DeviceRule.allow rules (r.request access) <;> rfl
  constructor
  · intro heffect access haccess allow hallow
    have hsame := heffect access haccess
    rw [hverdict access haccess, hallow] at hsame
    exact hsame
  · intro hnot access haccess
    rw [hverdict access haccess]
    cases hlast : lastRule rules (r.request access) with
    | none => rfl
    | some allow => exact hnot access haccess allow hlast

end rules

/-! ### The Rules of a VM -/

/-- The rule is for a device of the hypervisor or of a volume. -/
def OfVM (r : DeviceRule) : Prop :=
  r.allow = true ∧ (r.type = .char ∨ r.type = .block ∧ r.Concrete)

theorem hypervisorRules_ofVM : ∀ r ∈ hypervisorRules, OfVM r := by
  intro r hr
  have hall : ∀ r ∈ hypervisorRules, r.allow = true ∧ r.type = .char := by decide
  exact ⟨(hall r hr).1, .inl (hall r hr).2⟩

/-- What `/bin/stat` writes has no signs. -/
def UnsignedOutput : Prog.Entry cgroupApi → Prop
  | ⟨.statDevice _, (output, none)⟩ => ∀ part ∈ Text.split ',' output, '-' ∉ part.toList
  | _ => True

theorem majorMinorOf_nonneg {output : String} {major minor : Int}
    (h : majorMinorOf output = .ok (major, minor))
    (hparts : ∀ part ∈ Text.split ',' output, '-' ∉ part.toList) : 0 ≤ major ∧ 0 ≤ minor := by
  unfold majorMinorOf at h
  split at h
  · next majorText minorText mode kind hsplit =>
    rw [hsplit] at hparts
    split at h
    · cases h
    · next hmajor =>
      split at h
      · cases h
      · next hminor =>
        cases h
        exact ⟨parseInt_nonneg hmajor (hparts majorText (by simp)),
          parseInt_nonneg hminor (hparts minorText (by simp))⟩
  · cases h

theorem cgroupBlockFileMajorMinor_nonneg {path : String} {l : List (Prog.Entry cgroupApi)}
    {major minor : Int} (h : Prog.Path (cgroupBlockFileMajorMinor path) l (.ok (major, minor)))
    (hl : ∀ e ∈ l, UnsignedOutput e) : 0 ≤ major ∧ 0 ≤ minor := by
  obtain ⟨answer, l₁, rfl, h₁⟩ := Prog.Path.of_call h
  obtain ⟨output, error⟩ := answer
  cases error with
  | some e => cases h₁
  | none =>
    have hpure : Prog.Path (.pure (majorMinorOf output)) l₁ (.ok (major, minor)) := h₁
    generalize hresult : majorMinorOf output = result at hpure
    cases hpure
    exact majorMinorOf_nonneg hresult (hl _ List.mem_cons_self)

theorem volumeRules_ofVM {vm : VM} {pid : Nat} {volumes : List Volume}
    {rules out : List DeviceRule} {l : List (Prog.Entry cgroupApi)}
    (h : Prog.Path (volumeRules vm pid volumes rules) l (.ok out))
    (hl : ∀ e ∈ l, UnsignedOutput e) (hrules : ∀ r ∈ rules, OfVM r) : ∀ r ∈ out, OfVM r := by
  induction volumes generalizing rules l with
  | nil =>
    cases h
    exact hrules
  | cons volume rest ih =>
    unfold volumeRules at h
    split at h
    · obtain ⟨there, l₁, rfl, h₁⟩ := Prog.Path.of_call h
      have hl₁ : ∀ e ∈ l₁, UnsignedOutput e := fun e he => hl e (List.mem_cons_of_mem _ he)
      rcases there with e | ⟨_ | _⟩
      · cases h₁
      · exact ih h₁ hl₁ hrules
      · obtain ⟨l₂, l₃, numbers, rfl, h₂, h₃⟩ := Prog.Path.of_bind
          (p := cgroupBlockFileMajorMinor (deviceNode vm pid volume)) h₁
        cases numbers with
        | error e => cases h₃
        | ok numbers =>
          obtain ⟨major, minor⟩ := numbers
          obtain ⟨hmajor, hminor⟩ := cgroupBlockFileMajorMinor_nonneg h₂
            fun e he => hl₁ e (List.mem_append_left _ he)
          -- the rule that is added is for one device
          have hadded : OfVM (volumeRule major minor true) := by
            refine ⟨rfl, .inr ⟨rfl, by simp [volumeRule], ?_, ?_⟩⟩
            · show major ≠ -1
              omega
            · show minor ≠ -1
              omega
          refine ih h₃ (fun e he => hl₁ e (List.mem_append_right _ he)) ?_
          intro r hr
          rcases List.mem_append.mp hr with hr | hr
          · exact hrules r hr
          · rw [List.mem_singleton.mp hr]
            exact hadded
    · exact ih h hl hrules

/-! ### What is Handed On -/

section runs
variable {new : List DeviceRule} {l : List (Prog.Entry cgroupApi)}

/-- `v1Manager.Set` hands on the new rules and those it has read. -/
theorem v1ManagerSet_hands (h : Prog.Path (v1ManagerSet new) l (.ok ())) :
    ∃ text current, ⟨.emulatorFromList text, .ok (.ok current)⟩ ∈ l ∧
      ⟨.managerSet (v1Rules new current), .ok ()⟩ ∈ l := by
  obtain ⟨path, l₁, rfl, h₁⟩ := Prog.Path.of_call h
  cases path with
  | none => cases h₁
  | some path =>
    obtain ⟨text, l₂, rfl, h₂⟩ := Prog.Path.of_call h₁
    cases text with
    | error e => cases h₂
    | ok text =>
      obtain ⟨emulator, l₃, rfl, h₃⟩ := Prog.Path.of_call h₂
      rcases emulator with e | ⟨e | current⟩
      · cases h₃
      · cases h₃
      · obtain ⟨done, l₄, rfl, h₄⟩ := Prog.Path.of_call h₃
        cases h₄
        exact ⟨text, current, by simp, by simp⟩

/-- `v2Manager.Set` hands on the new rules and those of the VM. -/
theorem v2ManagerSet_hands {vm : VM} {pid : Nat}
    (h : Prog.Path (v2ManagerSet vm pid new) l (.ok ())) :
    ∃ l₁ current, Prog.Path (generateDeviceRuleForVM vm pid) l₁ (.ok current) ∧
      l = l₁ ++ [⟨.managerSet (v2Rules new current), .ok ()⟩] := by
  obtain ⟨l₁, l₂, current, rfl, h₁, h₂⟩ := Prog.Path.of_bind h
  cases current with
  | error e => cases h₂
  | ok current =>
    obtain ⟨done, l₃, rfl, h₃⟩ := Prog.Path.of_call h₂
    cases done with
    | error e => cases h₃
    | ok u =>
      cases h₃
      exact ⟨l₁, current, h₁, rfl⟩

end runs

/-- Of the rules of a VM, those that are kept for a rule for a volume are about
    other devices. -/
theorem volumeRule_notOverridden {current : List DeviceRule} (hcurrent : ∀ r ∈ current, OfVM r)
    (major minor : Int) (allow : Bool) :
    NotOverridden (current.filter (!found [volumeRule major minor allow] ·))
      (volumeRule major minor allow) := by
  intro access _ allow' hlast
  obtain ⟨r, hr, hhits, -⟩ := Verdict.mem_of_last hlast
  obtain ⟨hmem, hkept⟩ := List.mem_filter.mp hr
  obtain ⟨-, hchar | ⟨-, hconcrete⟩⟩ := hcurrent r hmem
  · -- a rule for character devices
    simp [DeviceRule.hits, DeviceRule.request, volumeRule, hchar] at hhits
  · -- the rules for the device itself are dropped
    have hdevice := device_of_hits hconcrete hhits
    simp only [DeviceRule.device, Prod.mk.injEq] at hdevice
    obtain ⟨htype, hmajor, hminor⟩ := hdevice
    simp [found, htype, hmajor, hminor] at hkept

theorem volumeRule_new {major minor : Int} (hmajor : 0 ≤ major) (hminor : 0 ≤ minor)
    (allow : Bool) : NewRules [volumeRule major minor allow] := by
  refine ⟨List.cons_ne_nil _ _, ?_, List.nodup_singleton _⟩
  intro r hr
  rw [List.mem_singleton.mp hr]
  refine ⟨by simp [volumeRule], ?_, ?_⟩
  · show major ≠ -1
    omega
  · show minor ≠ -1
    omega

/-- **When new device rules take effect.** For all rules in force and all new
    rules for distinct devices: what either manager hands on makes every new
    rule take effect exactly if no verdict of the rules that it keeps
    contradicts one. The manager of cgroups v1 keeps all rules, and rules that
    only forbid change nothing. In every run of the manager of cgroups v2 a
    single rule for the device of a volume takes effect. -/
theorem new_rules_take_effect_iff {new : List DeviceRule} (hnew : NewRules new) :
    (∀ current, ((∀ r ∈ new, TakesEffect (v1Rules new current) r) ↔
        ∀ r ∈ new, NotOverridden current r) ∧
      ((∀ r ∈ new, TakesEffect (v2Rules new current) r) ↔
        ∀ r ∈ new, NotOverridden (current.filter (!found new ·)) r)) ∧
    (∀ l, Prog.Path (v1ManagerSet new) l (.ok ()) →
      ∃ text current, ⟨.emulatorFromList text, .ok (.ok current)⟩ ∈ l ∧
        ⟨.managerSet (v1Rules new current), .ok ()⟩ ∈ l ∧
        ((∀ r ∈ new, r.allow = false) →
          ∀ q, accessAllowed (v1Rules new current) q = accessAllowed current q)) ∧
    ∀ vm pid l, Prog.Path (v2ManagerSet vm pid new) l (.ok ()) → (∀ e ∈ l, UnsignedOutput e) →
      ∃ current, ⟨.managerSet (v2Rules new current), .ok ()⟩ ∈ l ∧
        (∀ major minor allow, 0 ≤ major → 0 ≤ minor → new = [volumeRule major minor allow] →
          TakesEffect (v2Rules new current) (volumeRule major minor allow)) := by
  refine ⟨?_, ?_, ?_⟩
  · intro current
    exact ⟨forall₂_congr fun r hr => hnew.takesEffect_iff hr,
      forall₂_congr fun r hr => hnew.takesEffect_iff hr⟩
  · intro l hrun
    obtain ⟨text, current, hread, hset⟩ := v1ManagerSet_hands hrun
    exact ⟨text, current, hread, hset, fun hdeny q => Verdict.allowed_append_of_deny hdeny⟩
  · intro vm pid l hrun hl
    obtain ⟨l₁, current, hgenerate, rfl⟩ := v2ManagerSet_hands hrun
    have hcurrent : ∀ r ∈ current, OfVM r :=
      volumeRules_ofVM hgenerate (fun e he => hl e (List.mem_append_left _ he)) hypervisorRules_ofVM
    refine ⟨current, by simp, ?_⟩
    intro major minor allow hmajor hminor hsingle
    subst hsingle
    exact (hnew.takesEffect_iff List.mem_cons_self).mpr
      (volumeRule_notOverridden hcurrent major minor allow)

namespace Sample

/-- A run of `v1Manager.Set` where one device of a volume is allowed. -/
def v1Log (new : List DeviceRule) : List (Prog.Entry cgroupApi) :=
  [⟨.getPaths, some "/sys/fs/cgroup/devices/vm"⟩,
    ⟨.readFile "/sys/fs/cgroup/devices/vm" "devices.list", .ok "b 8:1 rwm"⟩,
    ⟨.emulatorFromList "b 8:1 rwm", .ok (.ok [volumeRule 8 1 true])⟩,
    ⟨.managerSet (v1Rules new [volumeRule 8 1 true]), .ok ()⟩]

/-- The device of the hotplug volume of the sample machine. -/
def dataNode : String := mountBlockVolumeTarget "" "data"

/-- A run of `v2Manager.Set` where the machine has one hotplug volume, on the
    device with these numbers in base 16. -/
def v2Log (new : List DeviceRule) : List (Prog.Entry cgroupApi) :=
  [⟨.stat dataNode, .ok true⟩, ⟨.statDevice dataNode, ("8,1,660,block special file", none)⟩,
    ⟨.managerSet (v2Rules new (hypervisorRules ++ [volumeRule 8 1 true])), .ok ()⟩]

theorem v1Log_path (new : List DeviceRule) :
    Prog.Path (v1ManagerSet new) (v1Log new) (.ok ()) :=
  .call (.call (.call (.call (.pure _))))

theorem v2Log_path (new : List DeviceRule) :
    Prog.Path (v2ManagerSet (withVolumes [dataDisk]) 7 new) (v2Log new) (.ok ()) :=
  .call (.call (.call (.pure _)))

theorem v2Log_unsigned (new : List DeviceRule) : ∀ e ∈ v2Log new, UnsignedOutput e := by
  intro e he
  rcases List.mem_cons.mp he with rfl | he
  · trivial
  · rcases List.mem_cons.mp he with rfl | he
    · show ∀ part ∈ Text.split ',' "8,1,660,block special file", '-' ∉ part.toList
      decide
    · rw [List.mem_singleton.mp he]
      trivial

end Sample

/-- Under cgroups v2, the device of a volume is forbidden by one rule although
    the VM still has the volume. -/
theorem new_rules_take_effect_iff_sample :
    NewRules [volumeRule 8 1 false] ∧
      Prog.Path (v2ManagerSet (Sample.withVolumes [Sample.dataDisk]) 7 [volumeRule 8 1 false])
        (Sample.v2Log [volumeRule 8 1 false]) (.ok ()) ∧
      ∃ current, ⟨.managerSet (v2Rules [volumeRule 8 1 false] current), .ok ()⟩ ∈
          Sample.v2Log [volumeRule 8 1 false] ∧
        TakesEffect (v2Rules [volumeRule 8 1 false] current) (volumeRule 8 1 false) := by
  have hnew : NewRules [volumeRule 8 1 false] := volumeRule_new (by decide) (by decide) false
  obtain ⟨-, -, hv2⟩ := new_rules_take_effect_iff hnew
  obtain ⟨current, hset, heffect⟩ := hv2 _ _ _ (Sample.v2Log_path _) (Sample.v2Log_unsigned _)
  exact ⟨hnew, Sample.v2Log_path _, current, hset,
    heffect 8 1 false (by decide) (by decide) rfl⟩

/-- **Access is not revoked.** Under cgroups v1 the rule with which
    `umountHotplugVolume` forbids the device of an unplugged volume leaves the
    device allowed. Under cgroups v2 the first of two rules that forbid a device
    each leaves its device allowed, since only the rules for the device of the
    last one are dropped. -/
theorem unplugged_device_stays_allowed :
    let q : AccessRequest := { type := .block, major := 8, minor := 1, access := .write }
    NewRules [volumeRule 8 1 false] ∧
      Prog.Path (v1ManagerSet [volumeRule 8 1 false]) (Sample.v1Log [volumeRule 8 1 false])
        (.ok ()) ∧
      accessAllowed (v1Rules [volumeRule 8 1 false] [volumeRule 8 1 true]) q = true ∧
      NewRules [volumeRule 8 1 false, volumeRule 8 2 false] ∧
      Prog.Path (v2ManagerSet (Sample.withVolumes [Sample.dataDisk]) 7
          [volumeRule 8 1 false, volumeRule 8 2 false])
        (Sample.v2Log [volumeRule 8 1 false, volumeRule 8 2 false]) (.ok ()) ∧
      accessAllowed (v2Rules [volumeRule 8 1 false, volumeRule 8 2 false]
        (hypervisorRules ++ [volumeRule 8 1 true])) q = true :=
  ⟨⟨by decide, by decide, by decide⟩, Sample.v1Log_path _, by decide,
    ⟨by decide, by decide, by decide⟩, Sample.v2Log_path _, by decide⟩

end Virtink
