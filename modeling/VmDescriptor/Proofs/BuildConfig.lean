import Mathlib.Tactic.Lemma
import VmDescriptor.BuildConfig

/-!
The machine that a configuration is resolved for.

The chipset is that of the machine type which the machine names, while the machine is started
with the default of its architecture if it names none.
-/

namespace VmDescriptor.BuildConfig

variable {config : EngineConfig} {vm : VirtualMachine}

/-- The chipset of the machine type that the machine is started with. -/
def startedChipset (c : BuildConfig) : Chipset :=
  .ofMachine (some c.emulatedMachine)

/-- The machine names its type, or the default type has the chipset of machines that name
none. -/
def NamesChipset (config : EngineConfig) (vm : VirtualMachine) : Prop :=
  vm.emulatedMachine = none → Chipset.ofMachine (some (config.defaultMachine vm.arch)) = .i440fx

lemma cdInterface_resolve :
    (resolve config vm).cdInterface = config.cdInterface vm.os (resolve config vm).chipset := rfl

/-- The chipset is that of the machine type unless a default type has another one. -/
theorem chipset_resolve_iff :
    (resolve config vm).chipset = (resolve config vm).startedChipset ↔
      NamesChipset config vm := by
  unfold NamesChipset startedChipset resolve
  cases vm.emulatedMachine with
  | none => exact ⟨fun h _ => h.symm, fun h => (h rfl).symm⟩
  | some machine => simp

/-- The CD-ROM bus is that of the chipset unless a default type has another chipset, with
another bus. -/
theorem cdInterface_resolve_iff :
    (resolve config vm).cdInterface = config.cdInterface vm.os (resolve config vm).startedChipset ↔
      NamesChipset config vm ∨
        config.cdInterface vm.os .i440fx = config.cdInterface vm.os .q35 := by
  by_cases hnames : NamesChipset config vm
  · rw [cdInterface_resolve, chipset_resolve_iff.mpr hnames]
    simp only [hnames, true_or]
  · -- The machine names no type, and its default type has the other chipset.
    obtain ⟨hnone, -⟩ := Classical.not_imp.mp hnames
    have hchipset : (resolve config vm).chipset = .i440fx := by
      simp [resolve, hnone, Chipset.ofMachine]
    have hstarted : (resolve config vm).startedChipset = .q35 := by
      have hne := mt chipset_resolve_iff.mp hnames
      rw [hchipset] at hne
      cases h : (resolve config vm).startedChipset with
      | i440fx => exact absurd h.symm hne
      | q35 => rfl
    rw [cdInterface_resolve, hchipset, hstarted]
    simp only [hnames, false_or]

end VmDescriptor.BuildConfig
