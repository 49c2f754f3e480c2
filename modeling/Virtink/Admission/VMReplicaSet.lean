import Virtink.Admission.Field
import Virtink.Controller.VMReplicaSet

/-! # The Webhook of Replica Sets

    `ValidateVMReplicaSet`. Values of structured fields are not repeated in the
    errors here. The comparison with the old object dereferences both
    templates, so a request with a nil template is answered with a panic, which
    the API server counts as a rejection.
-/

namespace Virtink

open FieldPath VMRSController

section
variable (lib : Packages)

/-- `ValidateVMReplicaSetSpec`. -/
def validateVMReplicaSetSpec (spec : VMRSSpec) (path : String) : List FieldError :=
  check spec.selector.isNone { type := .required, field := child path "selector" } ++
  (match spec.replicas with
    | none => []
    | some replicas =>
        check (decide (replicas < 0))
          { type := .invalid, field := child path "replicas", badValue := toString replicas,
            detail := "must be greater than or equal to 0" }) ++
  match spec.template with
  | none => [{ type := .required, field := child path "template" }]
  | some t =>
      let labelsPath := child (child (child path "template") "metadata") "labels"
      check t.labels.isNone { type := .required, field := labelsPath } ++
      match spec.selector, t.labels with
      | some selector, some labels =>
          match lib.labelSelectorAsSelector (some selector) with
          | .error e =>
              [{ type := .invalid, field := child path "selector",
                 detail := "invalid selector: " ++ e }]
          | .ok selects =>
              check (!selects labels)
                { type := .invalid, field := labelsPath, detail := "must match selector" }
      | _, _ => []

/-- `ValidateVMReplicaSetUpdate`. -/
def validateVMReplicaSetUpdate (vmrs oldVmrs : VMRS) : Option (List FieldError) :=
  match vmrs.spec.template, oldVmrs.spec.template with
  | some t, some t' => some <|
      check (decide (vmrs.spec.selector ≠ oldVmrs.spec.selector))
        { type := .forbidden, field := "spec.selector", detail := "field is immutable" } ++
      check (decide (t.spec ≠ t'.spec))
        { type := .forbidden, field := "spec.template.spec", detail := "field is immutable" }
  | _, _ => none

/-- `ValidateVMReplicaSet`; without a value the webhook has panicked. -/
def validateVMReplicaSet (vmrs : VMRS) (oldVmrs : Option VMRS) : Option (List FieldError) :=
  let errs := validateVMReplicaSetSpec lib vmrs.spec "spec"
  match oldVmrs with
  | none => some errs
  | some oldVmrs => (validateVMReplicaSetUpdate vmrs oldVmrs).map (errs ++ ·)

end

/-! ### What the Webhook Accepts -/

/-- The selector of the spec can be parsed and selects the labels of its own
    template. -/
def VMRSSpec.SelectsTemplate (lib : Packages) (spec : VMRSSpec) : Prop :=
  ∃ selects template labels, lib.labelSelectorAsSelector spec.selector = .ok selects ∧
    spec.template = some template ∧ template.labels = some labels ∧ selects labels = true

theorem selectsTemplate_of_valid {lib : Packages} {spec : VMRSSpec} {path : String}
    (h : validateVMReplicaSetSpec lib spec path = []) : spec.SelectsTemplate lib := by
  simp only [validateVMReplicaSetSpec, List.append_eq_nil_iff, check_eq_nil] at h
  obtain ⟨⟨hselector, -⟩, hrest⟩ := h
  obtain ⟨selector, hs⟩ := Option.isSome_iff_exists.mp (by simpa using hselector)
  split at hrest
  · cases hrest
  · next t ht =>
    simp only [List.append_eq_nil_iff, check_eq_nil] at hrest
    obtain ⟨hlabels, hmatch⟩ := hrest
    obtain ⟨labels, hl⟩ := Option.isSome_iff_exists.mp (by simpa using hlabels)
    simp only [hs, hl] at hmatch
    split at hmatch
    · cases hmatch
    · next selects hselects =>
      refine ⟨selects, t, labels, hs ▸ hselects, ht, hl, ?_⟩
      simpa using hmatch

/-- An accepted set selects its template, and an accepted update keeps the
    selector. -/
theorem selectsTemplate_of_validateVMReplicaSet {lib : Packages} {vmrs : VMRS}
    {oldVmrs : Option VMRS} (h : validateVMReplicaSet lib vmrs oldVmrs = some []) :
    vmrs.spec.SelectsTemplate lib ∧
      ∀ old, oldVmrs = some old → vmrs.spec.selector = old.spec.selector := by
  cases oldVmrs with
  | none =>
    simp only [validateVMReplicaSet, Option.some.injEq] at h
    exact ⟨selectsTemplate_of_valid h, by simp⟩
  | some old =>
    simp only [validateVMReplicaSet, Option.map_eq_some_iff, List.append_eq_nil_iff] at h
    obtain ⟨errs, hupdate, hspec, rfl⟩ := h
    refine ⟨selectsTemplate_of_valid hspec, ?_⟩
    intro old' hold
    cases hold
    simp only [validateVMReplicaSetUpdate] at hupdate
    split at hupdate
    · simp only [Option.some.injEq, List.append_eq_nil_iff, check_eq_nil] at hupdate
      simpa using hupdate.1
    · cases hupdate

end Virtink
