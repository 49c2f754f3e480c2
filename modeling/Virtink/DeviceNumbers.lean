import Virtink.Daemon.Cgroup

/-! # The Numbers of a Device

    `/bin/stat` writes the numbers of a device in base 16. The daemon decodes
    them to allow or forbid a device, and its package `cgroup` decodes them
    again to make up the rules of the disks that are attached already. The
    second decoder reads base 26: both return the numbers of the device exactly
    if each of them is a single digit (`decoders_invert_iff`).
-/

namespace Virtink

open Calls Numeral

/-! ### The Decoders -/

/-- What both decoders do with the output of `/bin/stat`, which differ in the
    base. -/
def decodeStat (base : Nat) (output : String) : Except String (Int × Int × String) :=
  match Text.split ',' output with
  | [majorText, minorText, permissions, _] =>
      match parseInt majorText base 32 with
      | .error e => .error e
      | .ok major =>
          match parseInt minorText base 32 with
          | .error e => .error e
          | .ok minor => .ok (major, minor, permissions)
  | _ => .error "output is invalid"

/-- `getBlockFileMajorMinor` of the daemon. -/
def daemonBlockFileMajorMinor (path : String) :
    CgroupCall (Except String (Int × Int × String)) := do
  match ← consult (.statDevice path) with
  | (output, some e) => pure (.error ("/bin/stat " ++ output ++ ": " ++ e))
  | (output, none) => pure (decodeStat 16 output)

/-- The numbers that the package `cgroup` decodes; nobody there looks at the
    permissions. -/
theorem majorMinorOf_eq (output : String) :
    majorMinorOf output = (decodeStat 26 output).map (fun r => (r.1, r.2.1)) := by
  unfold majorMinorOf decodeStat
  generalize Text.split ',' output = parts
  -- both look at lists of four parts only
  rcases parts with _ | ⟨majorText, _ | ⟨minorText, _ | ⟨permissions, _ | ⟨rest, _ | ⟨more, l⟩⟩⟩⟩⟩
  · rfl
  · rfl
  · rfl
  · rfl
  · dsimp only
    cases parseInt majorText 26 32 with
    | error e => rfl
    | ok major => cases parseInt minorText 26 32 <;> rfl
  · rfl

/-! ### The Output of `stat` -/

/-- A number in base 16, as `%t` and `%T` write it. -/
def hex (n : Nat) : String := String.ofList (Nat.toDigits 16 n)

/-- The output of `/bin/stat -c%t,%T,%a,%F`. -/
def statOutput (major minor : Nat) (permissions fileType : String) : String :=
  Text.join ',' [hex major, hex minor, permissions, fileType ++ "\n"]

section decode
variable {major minor : Nat} {permissions fileType : String}

theorem split_statOutput (hpermissions : ',' ∉ permissions.toList) (htype : ',' ∉ fileType.toList) :
    Text.split ',' (statOutput major minor permissions fileType) =
      [hex major, hex minor, permissions, fileType ++ "\n"] := by
  have hhex : ∀ n, ',' ∉ (hex n).toList := by
    intro n
    rw [hex, String.toList_ofList]
    exact not_mem_toDigits (by decide) n
  refine Text.split_join ?_ (List.cons_ne_nil _ _)
  intro s hs
  simp only [List.mem_cons, List.not_mem_nil, or_false] at hs
  rcases hs with rfl | rfl | rfl | rfl
  · exact hhex major
  · exact hhex minor
  · exact hpermissions
  · simp [String.toList_append, htype]

/-- Five digits fit 32 bits in every base that is used. -/
theorem reread_lt_32 {base n : Nat} (hlow : 16 ≤ base) (hhigh : base ≤ 36) (hn : n < 2 ^ 20) :
    reread 16 base n < 2 ^ 31 := by
  calc reread 16 base n
      < base ^ 5 := reread_lt_pow (by decide) hlow (by simpa using hn)
    _ ≤ 36 ^ 5 := Nat.pow_le_pow_left hhigh 5
    _ < 2 ^ 31 := by decide

/-- **Decode**: a decoder never fails on the output of `stat`. It returns what
    the digits are worth in its base. -/
theorem decodeStat_statOutput {base : Nat} (hlow : 16 ≤ base) (hhigh : base ≤ 36)
    (hmajor : major < 2 ^ 12) (hminor : minor < 2 ^ 20) (hpermissions : ',' ∉ permissions.toList)
    (htype : ',' ∉ fileType.toList) :
    decodeStat base (statOutput major minor permissions fileType) =
      .ok (reread 16 base major, reread 16 base minor, permissions) := by
  have hreadMajor : parseInt (hex major) base 32 = .ok (reread 16 base major : Int) :=
    parseInt_toDigits hlow major (reread_lt_32 hlow hhigh (by omega))
  have hreadMinor : parseInt (hex minor) base 32 = .ok (reread 16 base minor : Int) :=
    parseInt_toDigits hlow minor (reread_lt_32 hlow hhigh hminor)
  simp only [decodeStat, split_statOutput hpermissions htype, hreadMajor, hreadMinor]

end decode

/-! ### Both Decoders -/

/-- What the daemon returns once `stat` has answered. -/
theorem daemonBlockFileMajorMinor_path {path output : String}
    {r : Except String (Int × Int × String)} :
    Prog.Path (daemonBlockFileMajorMinor path) [⟨.statDevice path, (output, none)⟩] r ↔
      r = decodeStat 16 output := by
  constructor
  · intro h
    obtain ⟨answer, l, hl, hrest⟩ := Prog.Path.of_call h
    cases hl
    cases hrest
    rfl
  · rintro rfl
    exact .call (.pure _)

/-- What the package `cgroup` returns once `stat` has answered. -/
theorem cgroupBlockFileMajorMinor_path {path output : String} {r : Except String (Int × Int)} :
    Prog.Path (cgroupBlockFileMajorMinor path) [⟨.statDevice path, (output, none)⟩] r ↔
      r = majorMinorOf output := by
  constructor
  · intro h
    obtain ⟨answer, l, hl, hrest⟩ := Prog.Path.of_call h
    cases hl
    cases hrest
    rfl
  · rintro rfl
    exact .call (.pure _)

/-- Both decoders return the numbers that `stat` has written. -/
structure DecodersInvert (path : String) (major minor : Nat) (permissions fileType : String) :
    Prop where
  daemon : ∀ r, Prog.Path (daemonBlockFileMajorMinor path)
      [⟨.statDevice path, (statOutput major minor permissions fileType, none)⟩] r ↔
    r = .ok ((major : Int), (minor : Int), permissions)
  cgroup : ∀ r, Prog.Path (cgroupBlockFileMajorMinor path)
      [⟨.statDevice path, (statOutput major minor permissions fileType, none)⟩] r ↔
    r = .ok ((major : Int), (minor : Int))

/-- **Both decoders invert `stat`** exactly for numbers of one digit, whatever
    the permissions and the type of the file; that of the daemon does so for all
    numbers. -/
theorem decoders_invert_iff {path : String} {major minor : Nat} {permissions fileType : String}
    (hmajor : major < 2 ^ 12) (hminor : minor < 2 ^ 20) (hpermissions : ',' ∉ permissions.toList)
    (htype : ',' ∉ fileType.toList) :
    (∀ r, Prog.Path (daemonBlockFileMajorMinor path)
        [⟨.statDevice path, (statOutput major minor permissions fileType, none)⟩] r ↔
      r = .ok ((major : Int), (minor : Int), permissions)) ∧
    (DecodersInvert path major minor permissions fileType ↔ major < 16 ∧ minor < 16) := by
  have hdaemon : ∀ r, Prog.Path (daemonBlockFileMajorMinor path)
      [⟨.statDevice path, (statOutput major minor permissions fileType, none)⟩] r ↔
      r = .ok ((major : Int), (minor : Int), permissions) := by
    intro r
    rw [daemonBlockFileMajorMinor_path,
      decodeStat_statOutput (by decide) (by decide) hmajor hminor hpermissions htype,
      reread_self, reread_self]
  have hdecoded : majorMinorOf (statOutput major minor permissions fileType) =
      .ok ((reread 16 26 major : Int), (reread 16 26 minor : Int)) := by
    rw [majorMinorOf_eq,
      decodeStat_statOutput (by decide) (by decide) hmajor hminor hpermissions htype]
    rfl
  refine ⟨hdaemon, ?_⟩
  constructor
  · intro h
    -- what the package returns is what it was asked to return
    have hboth := (h.cgroup _).mp (cgroupBlockFileMajorMinor_path.mpr rfl)
    rw [hdecoded] at hboth
    simp only [Except.ok.injEq, Prod.mk.injEq, Nat.cast_inj] at hboth
    exact ⟨(reread_eq_iff (by decide) (by decide)).mp hboth.1,
      (reread_eq_iff (by decide) (by decide)).mp hboth.2⟩
  · rintro ⟨hone, hone'⟩
    refine ⟨hdaemon, ?_⟩
    intro r
    rw [cgroupBlockFileMajorMinor_path, hdecoded, reread_of_lt hone, reread_of_lt hone']

/-- The first partition of the first disk. -/
theorem decoders_invert_sample :
    DecodersInvert "/dev/sda1" 8 1 "660" "block special file" :=
  (decoders_invert_iff (by decide) (by decide) (by decide) (by decide)).2.mpr (by decide)

/-- Device 253:16 of the device mapper: the package `cgroup` takes it for device
    403:26. -/
theorem decoder_reads_wrong_device :
    statOutput 253 16 "660" "block special file" = "fd,10,660,block special file\n" ∧
    decodeStat 16 "fd,10,660,block special file\n" = .ok (253, 16, "660") ∧
    majorMinorOf "fd,10,660,block special file\n" = .ok (403, 26) ∧
    ¬ DecodersInvert "/dev/dm-16" 253 16 "660" "block special file" := by
  have houtput : statOutput 253 16 "660" "block special file" = "fd,10,660,block special file\n" := by
    decide
  have hmajorMinor : majorMinorOf "fd,10,660,block special file\n" = .ok (403, 26) := by decide
  refine ⟨houtput, by decide, hmajorMinor, ?_⟩
  intro h
  have hboth := (h.cgroup _).mp (cgroupBlockFileMajorMinor_path.mpr rfl)
  rw [houtput, hmajorMinor] at hboth
  revert hboth
  decide

end Virtink
