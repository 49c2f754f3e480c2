import Virtink.Admission.Updates
import Virtink.HotplugPods

/-! # Runs in Which Every Update Is Accepted

    The webhook stands before the API server: of the updates of a VM spec only
    those reach the reconcilers that `ValidateVM` accepts.
-/

namespace Virtink

open Calls

/-- Where the step is an update of the spec, the webhook accepts it. -/
def acceptedUpdate (lib : Library) (w : World) : Action → Bool
  | .event (.updateSpec spec) =>
      w.vm.any fun cur => (validateVM lib { cur with spec := spec } (some cur)).isEmpty
  | _ => true

/-- The steps that the webhook lets through. -/
abbrev Accepts (lib : Library) (w : World) (a : Action) : Prop := acceptedUpdate lib w a = true

namespace Sample

/-- The sample machine that is to run always, with these volumes besides its
    root disk. -/
def machine (volumes : List Volume) : VM :=
  let vm := withVolumes (rootDisk :: volumes)
  { vm with spec := { vm.spec with runPolicy := .always } }

/-- The world in which the machine has been created with its root disk. -/
def booting : World := World.created (machine [])

theorem booting_init : Init booting := ⟨machine [], rfl, rfl, rfl⟩

/-- The machine is valid as it is created. -/
theorem machine_valid : validateVM library (machine []) none = [] := by decide

/-- A configuration that the machine gets into by accepted updates. -/
theorem reachAccepted (moves : Script) (test : Config → Bool)
    (h : (execAll cluster (Accepts library) (.idle booting) moves).any test = true) :
    ∃ c, Reach cluster (Accepts library) Init c ∧ test c = true :=
  reach_of_execAll booting_init moves test h

/-- The machine gets these volumes besides its root disk. -/
def plugs (volumes : List Volume) : Script := [.event (.updateSpec (machine volumes).spec)]

/-- Disk `a` is plugged into the running machine; its volume pod is created and
    comes up. -/
def plugsIn : Script :=
  running ++ plugs [disk "a"] ++
  turn .controller [.ok, .ok, .flag true, .ok, .flag false,
    .create "uid-v" "v" [{ name := "token" }] none, .ok, .ok, .ok] ++
  [.event (.bindPod "uid-v" "a"), .event (.setPodPhase "uid-v" .running)] ++
  turn .controller [.ok, .ok, .flag true, .ok, .ok, .ok, .ok, .ok]

end Sample

end Virtink
