import Virtink.Node.Knowledge

/-! # The Effects of Calls on a Node

    `Node.Effect` is the inversion of `Node.answer`: everything a call can come
    to on a node, with what it is answered. A call that fails may have had its
    effect all the same. Proofs about nodes go through it and never unfold
    `answer`.
-/

namespace Virtink

open Calls

/-- `x.Effect o ch a x'`: the call `o` can be answered with `a` and turn the
    node `x` into `x'`. -/
inductive Node.Effect (x : Node) : (o : NodeOp) → NodeChoice → o.Ans → Node → Prop where
  /-- Nothing changes, and nothing is learnt of the paths and the record. -/
  | quiet {o : NodeOp} {ch : NodeChoice} {a : o.Ans} (ho : Quiet o) : Effect x o ch a x
  | nextJob {ch : NodeChoice} (j : Job) : Effect x .nextJob ch j x
  | loadRecord {ch : NodeChoice} : Effect x .loadRecord ch (.ok x.record.entries) x
  | loadFails {ch : NodeChoice} (msg : String) : Effect x .loadRecord ch (.error msg) x
  | writeRecord {ch : NodeChoice} (l : List MountEntry) :
      Effect x (.writeRecord l) ch (.ok ()) { x with record := .stored l }
  | writeFails {ch : NodeChoice} (l : List MountEntry) (msg : String) {file : RecordFile}
      (hfile : file = x.record ∨ file = .stored l) :
      Effect x (.writeRecord l) ch (.error msg) { x with record := file }
  /-- The write is cut off. -/
  | writeTears (l : List MountEntry) (msg : String) :
      Effect x (.writeRecord l) (.torn msg) (.error msg) { x with record := .torn }
  | removeRecord {ch : NodeChoice} :
      Effect x .removeRecord ch (.ok ()) { x with record := .absent }
  | removeFails {ch : NodeChoice} (msg : String) {file : RecordFile}
      (hfile : file = x.record ∨ file = .absent) :
      Effect x .removeRecord ch (.error msg) { x with record := file }
  | stat {ch : NodeChoice} (path : String) : Effect x (.stat path) ch (.ok (x.present path)) x
  | statFails {ch : NodeChoice} (path msg : String) : Effect x (.stat path) ch (.error msg) x
  | isMountPoint {ch : NodeChoice} (path : String) :
      Effect x (.isMountPoint path) ch (.ok (x.mounts.contains path)) x
  | isMountPointFails {ch : NodeChoice} (path msg : String) :
      Effect x (.isMountPoint path) ch (.error msg) x
  /-- A device node that nothing is mounted on is seen to be one. -/
  | isBlockFile {ch : NodeChoice} (path : String) {b : Bool}
      (hb : b = false → path ∈ x.devices → path ∈ x.mounts) : Effect x (.isBlockFile path) ch b x
  /-- A failure of the call is taken for a no. -/
  | isBlockFileFails (path : String) (applied : Bool) (msg : String) :
      Effect x (.isBlockFile path) (.fail applied msg) false x
  | mknod {ch : NodeChoice} (volume target : String) (major minor : Int) {a : Except String Unit}
      {devices : List String} (h : devices = x.devices ∨ devices = target :: x.devices) :
      Effect x (.mknod volume target major minor) ch a { x with devices := devices }
  | create {ch : NodeChoice} (path : String) {a : Except String Unit} {files : List String}
      (h : files = x.files ∨ files = path :: x.files) :
      Effect x (.create path) ch a { x with files := files }
  | bindMount {ch : NodeChoice} (volume source target : String) {a : Except String Unit}
      {mounts : List String} (h : mounts = x.mounts ∨ mounts = target :: x.mounts) :
      Effect x (.bindMount volume source target) ch a { x with mounts := mounts }
  | umount {ch : NodeChoice} (cause : Release) (volume target : String) :
      Effect x (.umount cause volume target) ch (.ok ())
        { x with mounts := x.mounts.erase target }
  | umountFails {ch : NodeChoice} (cause : Release) (volume target msg : String)
      {mounts : List String} (h : mounts = x.mounts ∨ mounts = x.mounts.erase target) :
      Effect x (.umount cause volume target) ch (.error msg) { x with mounts := mounts }
  | removeAll {ch : NodeChoice} (cause : Release) (volume target : String)
      (hfree : target ∉ x.mounts) :
      Effect x (.removeAll cause volume target) ch (.ok ()) (x.drop target)
  | removeAllFails {ch : NodeChoice} (cause : Release) (volume target msg : String) {x' : Node}
      (h : x' = x ∨ x' = x.drop target) :
      Effect x (.removeAll cause volume target) ch (.error msg) x'

/-! ### Inversion -/

section
variable {ch : NodeChoice} {x x' : Node}

/-- A call that changes the node has done so, or it has failed. -/
theorem change_cases {y : Node} {a : Except String Unit} (h : ch.change x y = (a, x')) :
    (∃ msg, a = .error msg ∧ (x' = x ∨ x' = y)) ∨ (a = .ok () ∧ x' = y) := by
  unfold NodeChoice.change at h
  split at h
  · next applied msg =>
    cases h
    refine .inl ⟨msg, rfl, ?_⟩
    cases applied with
    | true => exact .inr rfl
    | false => exact .inl rfl
  · cases h
    exact .inr ⟨rfl, rfl⟩

/-- It is told, or the call has failed. -/
theorem tell_cases {α : Type} {a : Except String α} {y : α} (h : ch.tell y = a) :
    a = .ok y ∨ ∃ msg, a = .error msg := by
  unfold NodeChoice.tell at h
  split at h
  · exact .inr ⟨_, h.symm⟩
  · exact .inl h.symm

/-- Where it does not matter how the call has ended. -/
theorem change_or_same {y : Node} {a : Except String Unit} (h : ch.change x y = (a, x')) :
    x' = x ∨ x' = y := by
  rcases change_cases h with ⟨-, -, hx⟩ | ⟨-, hx⟩
  · exact hx
  · exact .inr hx

theorem Node.answer_quiet {o : NodeOp} {a : o.Ans} (ho : Quiet o)
    (h : Node.answer o ch x = some (a, x')) : x' = x := by
  cases o with
  | base o => cases h
  | getBlockFileMajorMinor path =>
    simp only [Node.answer] at h
    split at h <;> first | (cases h; rfl) | cases h
  | getHotplugVolumeSourcePathOnHost volume volumePodUID =>
    simp only [Node.answer] at h
    split at h <;> first | (cases h; rfl) | cases h
  | statSocket pod =>
    simp only [Node.answer] at h
    split at h <;> first | (cases h; rfl) | cases h
  | openCgroup pid => exact (change_or_same (Option.some.inj h)).elim id id
  | setCgroup pod major minor allow => exact (change_or_same (Option.some.inj h)).elim id id
  | panic => cases h
  | _ => exact ho.elim

/-- **Inversion** of answers. -/
theorem Node.effect_of_answer {o : NodeOp} {a : o.Ans} (h : Node.answer o ch x = some (a, x')) :
    x.Effect o ch a x' := by
  by_cases hquiet : Quiet o
  · rw [Node.answer_quiet hquiet h]
    exact .quiet hquiet
  cases o with
  | base o => cases h
  | nextJob =>
    simp only [Node.answer] at h
    split at h
    · cases h; exact .nextJob _
    · cases h
  | loadRecord =>
    simp only [Node.answer] at h
    split at h
    · cases h; exact .loadFails _
    · obtain ⟨ha, rfl⟩ := Prod.ext_iff.mp (Option.some.inj h)
      rcases tell_cases ha with rfl | ⟨msg, rfl⟩
      · exact .loadRecord
      · exact .loadFails msg
  | writeRecord l =>
    simp only [Node.answer] at h
    split at h
    · cases h; exact .writeTears l _
    · rcases change_cases (Option.some.inj h) with ⟨msg, rfl, rfl | rfl⟩ | ⟨rfl, rfl⟩
      · exact .writeFails l msg (.inl rfl)
      · exact .writeFails l msg (.inr rfl)
      · exact .writeRecord l
  | removeRecord =>
    rcases change_cases (Option.some.inj h) with ⟨msg, rfl, rfl | rfl⟩ | ⟨rfl, rfl⟩
    · exact .removeFails msg (.inl rfl)
    · exact .removeFails msg (.inr rfl)
    · exact .removeRecord
  | stat path =>
    obtain ⟨ha, rfl⟩ := Prod.ext_iff.mp (Option.some.inj h)
    rcases tell_cases ha with rfl | ⟨msg, rfl⟩
    · exact .stat path
    · exact .statFails path msg
  | isMountPoint path =>
    obtain ⟨ha, rfl⟩ := Prod.ext_iff.mp (Option.some.inj h)
    rcases tell_cases ha with rfl | ⟨msg, rfl⟩
    · exact .isMountPoint path
    · exact .isMountPointFails path msg
  | isBlockFile path =>
    simp only [Node.answer] at h
    split at h
    · next applied msg => cases h; exact .isBlockFileFails path applied msg
    · obtain ⟨ha, rfl⟩ := Prod.ext_iff.mp (Option.some.inj h)
      refine .isBlockFile path fun hfalse hd => ?_
      have hseen : (x.devices.contains path && !x.mounts.contains path) = false := ha.trans hfalse
      simpa [hd] using hseen
  | mknod volume target major minor =>
    simp only [Node.answer] at h
    split at h
    · cases h; exact .mknod volume target major minor (.inl rfl)
    · rcases change_or_same (Option.some.inj h) with rfl | rfl
      · exact .mknod volume target major minor (.inl rfl)
      · exact .mknod volume target major minor (.inr rfl)
  | create path =>
    rcases change_or_same (Option.some.inj h) with rfl | rfl
    · exact .create path (.inl rfl)
    · exact .create path (.inr rfl)
  | bindMount volume source target =>
    rcases change_or_same (Option.some.inj h) with rfl | rfl
    · exact .bindMount volume source target (.inl rfl)
    · exact .bindMount volume source target (.inr rfl)
  | umount cause volume target =>
    rcases change_cases (Option.some.inj h) with ⟨msg, rfl, rfl | rfl⟩ | ⟨rfl, rfl⟩
    · exact .umountFails cause volume target msg (.inl rfl)
    · exact .umountFails cause volume target msg (.inr rfl)
    · exact .umount cause volume target
  | removeAll cause volume target =>
    simp only [Node.answer] at h
    split at h
    · cases h; exact .removeAllFails cause volume target _ (.inl rfl)
    · next hfree =>
      rcases change_cases (Option.some.inj h) with ⟨msg, rfl, hx⟩ | ⟨rfl, rfl⟩
      · exact .removeAllFails cause volume target msg hx
      · exact .removeAll cause volume target (by simpa using hfree)
  | _ => exact absurd trivial hquiet

end

/-! ### The Record -/

/-- The record is left alone, removed or written. -/
theorem Node.Effect.record {o : NodeOp} {ch : NodeChoice} {a : o.Ans} {x x' : Node}
    (h : x.Effect o ch a x') :
    x'.record = x.record ∨ x'.record = .absent ∨
      ∃ l, o = .writeRecord l ∧ (x'.record = .torn ∨ x'.record = .stored l) := by
  cases h with
  | writeRecord l => exact .inr (.inr ⟨l, rfl, .inr rfl⟩)
  | writeFails l msg hfile =>
    rcases hfile with rfl | rfl
    · exact .inl rfl
    · exact .inr (.inr ⟨l, rfl, .inr rfl⟩)
  | writeTears l msg => exact .inr (.inr ⟨l, rfl, .inl rfl⟩)
  | removeRecord => exact .inr (.inl rfl)
  | removeFails msg hfile =>
    rcases hfile with rfl | rfl
    · exact .inl rfl
    · exact .inr (.inl rfl)
  | removeAllFails cause volume target msg hx =>
    rcases hx with rfl | rfl
    · exact .inl rfl
    · exact .inl rfl
  | _ => exact .inl rfl

end Virtink
