import VmDescriptor.Build
import VmDescriptor.Proofs.DeviceClasses
import VmDescriptor.Proofs.Encoder.Disks
import VmDescriptor.Proofs.Encoder.Interfaces
import VmDescriptor.Proofs.Encoder.Peripherals
import VmDescriptor.Proofs.Encoder.Sections

/-!
What the encoder of the domain writes.

The encoders of the devices and of the other sections are put together: on an empty draft the
domain is written as one tree after the declaration, so the descriptor of a request is the
document of that tree.
-/

namespace VmDescriptor

open Program Xml

namespace Encoder

/-- The loop over the peripherals finds the path of the last serial console among them. -/
lemma findSome?_serialPath? (id : Uuid) (cs : DeviceClasses) :
    cs.peripherals.reverse.findSome? (serialPath? id) =
      cs.serialConsole?.map (socketPath id) := by
  rw [DeviceClasses.serialConsole?, List.map_findSome?]
  refine congrArg cs.peripherals.reverse.findSome? (funext fun p => ?_)
  obtain ⟨kind, a⟩ := p
  cases kind with
  | console c => cases hserial : c.isSerial <;> simp [serialPath?, hserial]
  | _ => rfl

section

variable (fresh : FreshIds) (req : Request) (config : BuildConfig)

/-- The devices are written in one element. -/
lemma run_devices (d : Draft) :
    (devices fresh req config).run d =
      Program.lookup (.devicesForVm req.vm.id) >>= fun stored =>
        Descriptor.deviceNodes req config (Descriptor.classified fresh req config stored) >>=
          fun ns => pure
            ((Descriptor.classified fresh req config stored).serialConsole?.map
              (socketPath req.vm.id), d.add [.element "devices" [] ns]) := by
  have hchannels (d : Draft) := writes_each (writes_agentChannel req.vm.id)
    Descriptor.agentChannels d
  have hserial (c : Option Console) (d : Draft) :
      (whenSome (c.map (socketPath req.vm.id)) serial).run d =
        pure ((), d.add (c.toList.map (Descriptor.serial req.vm.id))) := by
    cases c with
    | none => rfl
    | some c => exact writes_serial_socketPath req.vm.id c d
  have hinterfaces (order : BootOrder) (is : List InterfaceDevice) (d : Draft) :=
    encodes_each (encodes_interfaceOf req.vm order) is d
  unfold devices Descriptor.deviceNodes Descriptor.fixedDevices Descriptor.dependentDevices
    Descriptor.classified
  simp [DeviceClasses.classify_eq, writes_input, hchannels, writes_emulator, run_peripherals,
    findSome?_serialPath?, hserial, writes_when writes_noBalloon,
    writes_whenSome (writes_lease req.vm.id), writes_when writes_spiceChannel, hinterfaces,
    run_payloadCdroms, run_userCdroms, writes_whenSome (writes_floppy req.vm), encodes_disks,
    -Bool.not_eq_true]

/-- The domain is written as one tree after the declaration. -/
lemma run_domain :
    (domain fresh req config).run .empty =
      Descriptor.domain fresh req config >>= fun root =>
        pure ((), Draft.add ⟨Writer.empty.declaration, [.declaration]⟩ [root]) := by
  simp [domain, Descriptor.domain, run_startDomain, encodes_sizing, writes_metadata, writes_sysinfo,
    writes_clock, writes_powerEvents, writes_features, encodes_cpu, writes_cpuTune, writes_numaTune,
    run_devices, writes_os]

end

end Encoder

namespace Request

variable (fresh : FreshIds) (req : Request) (config : BuildConfig)

lemma draft_eq : req.draft fresh config = Descriptor.domain fresh req config >>= fun root =>
    pure (Draft.add ⟨Writer.empty.declaration, [.declaration]⟩ [root]) := by
  simp [draft, Encoder.run_domain]

/-- The descriptor is the document of the domain. -/
lemma descriptor_eq :
    req.descriptor fresh config = (Descriptor.domain fresh req config).bind fun root =>
      Program.ofExcept (root.document.mapError .document) := by
  unfold descriptor
  rw [draft_eq, bind_assoc]
  refine congrArg (Descriptor.domain fresh req config).bind (funext fun root => ?_)
  have hdocument : root.document =
      .ok (Draft.add ⟨Writer.empty.declaration, [.declaration]⟩ [root]).writer.rendered := by
    rw [Node.document, root.write_eq, Draft.add, piecesOf_singleton]
    rfl
  rw [hdocument]
  rfl

end Request

end VmDescriptor
