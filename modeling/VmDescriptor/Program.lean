import VmDescriptor.Device.Parameters
import VmDescriptor.Lookup
import VmDescriptor.Xml.Writer

/-!
Builds as programs.

A program makes lookups, reports notices and may fail; it is a value that says what to do next
for each answer it may get. Running it against stores yields its result, the lookups that it
made and the notices that it reported. A lookup that fails ends the run with its error.

Some lookups are shared: a program that remembers does not repeat them.
-/

namespace VmDescriptor

open Text

/-- The severity of a notice. -/
inductive Level where
  | warning
  | error
  deriving DecidableEq, Repr

/-- Something that a build leaves out or ignores, and why.

These are the warnings and errors of a build. Its records of lower severity, for information and
for debugging, are left out: the settings that it goes by, the length of the document, disks
without a plugged device, memory devices and placeholders that are passed over. -/
inductive Notice where
  | unknownDisk (subtype : String)
  | unknownInterface (subtype : String)
  | unusableParameters (subtype : String) (cause : ParameterError)
  | interfaceWithoutNic (device : Uuid)
  | missingProfile (nic profile : Uuid)
  | missingNetwork (nic network : Uuid)
  | ignoredIoThread (disk : Uuid) (cause : ParameterError)
  | unsupportedChannel (channel : String)
  | missingHostDevice (name : String)
  | unsupportedHostDevice (name : String)
  | invalidVhost (network value : String)
  deriving DecidableEq

namespace Notice

/-- Unusable parameters are errors, all else are warnings. -/
def level : Notice → Level
  | .unusableParameters .. => .error
  | _ => .warning

/-- The wording of the notice. -/
def message : Notice → String
  | .unknownDisk _ => "skipping disk device of unknown kind"
  | .unknownInterface _ => "skipping interface of unknown kind"
  | .unusableParameters .. => "skipping device with unusable parameters"
  | .interfaceWithoutNic _ => "skipping interface device without a NIC"
  | .missingProfile .. => "vNIC profile not found"
  | .missingNetwork .. => "network of vNIC profile not found"
  | .ignoredIoThread .. => "ignoring iothread pinning"
  | .unsupportedChannel _ => "ignoring unsupported spice channel"
  | .missingHostDevice _ => "skipping host device missing from host"
  | .unsupportedHostDevice _ => "skipping host device with unsupported capability"
  | .invalidVhost .. => "invalid vhost setting"

/-- What the notice is about: texts by key. -/
def details : Notice → List (String × String)
  | .unknownDisk subtype | .unknownInterface subtype => [("device", subtype)]
  | .unusableParameters subtype cause => [("device", subtype), ("error", cause.message)]
  | .interfaceWithoutNic device => [("device", device.text)]
  | .missingProfile nic profile => [("nic", nic.text), ("profile", profile.text)]
  | .missingNetwork nic network => [("nic", nic.text), ("network", network.text)]
  | .ignoredIoThread disk cause => [("disk", disk.text), ("error", cause.message)]
  | .unsupportedChannel channel => [("channel", channel)]
  | .missingHostDevice name | .unsupportedHostDevice name => [("device", name)]
  | .invalidVhost network value => [("network", network), ("value", value)]

end Notice

/-- Why a build fails. -/
inductive BuildError where
  | lookup (cause : LookupError)
  | document (cause : Xml.Misuse)
  | missingStorageDomain (disk domain : Uuid)
  | noStorageForImage (disk : Uuid)
  /-- A product that does not fit its width. -/
  | overflow
  deriving DecidableEq

/-- The wording of the error. -/
def BuildError.message : BuildError → String
  | .lookup cause => cause.message
  | .document cause => "failed to write descriptor: " ++ cause.message
  | .missingStorageDomain disk domain =>
    "storage domain " ++ domain.text ++ " of disk " ++ disk.text ++ " not found"
  | .noStorageForImage disk => "image disk " ++ disk.text ++ " is not on any storage domain"
  | .overflow => "attempt to multiply with overflow"

/-- A program with a result of type `α`. -/
inductive Program (α : Type) : Type where
  | done (a : α)
  | fail (e : BuildError)
  | report (n : Notice) (next : Program α)
  | ask (c : Lookup) (next : c.Answer → Program α)

namespace Program

variable {α β : Type}

/-- The program that goes on with the result of another one. -/
def bind : Program α → (α → Program β) → Program β
  | .done a, k => k a
  | .fail e, _ => .fail e
  | .report n p, k => .report n (p.bind k)
  | .ask c p, k => .ask c fun a => (p a).bind k

instance : Monad Program where
  pure := .done
  bind := bind

/-- Makes a lookup. -/
def lookup (c : Lookup) : Program c.Answer :=
  .ask c .done

/-- Reports a notice. -/
def notice (n : Notice) : Program Unit :=
  .report n (.done ())

/-- Reports notices in order. -/
def notices (ns : List Notice) : Program Unit :=
  ns.foldr .report (.done ())

/-- The value of a checked product. -/
def exact (n : Option α) : Program α :=
  match n with
  | some n => .done n
  | none => .fail .overflow

/-! ### Running -/

/-- A finished run: the result, and the lookups and notices in order. -/
structure Run (α : Type) where
  result : Except BuildError α
  lookups : List Lookup
  notices : List Notice

/-- Runs a program after the lookups `past`, the latest first. -/
def runFrom (stores : Stores) : List Lookup → Program α → Run α
  | _, .done a => ⟨.ok a, [], []⟩
  | _, .fail e => ⟨.error e, [], []⟩
  | past, .report n p =>
    let run := runFrom stores past p
    { run with notices := n :: run.notices }
  | past, .ask c p =>
    match stores past c with
    | .ok a =>
      let run := runFrom stores (c :: past) (p a)
      { run with lookups := c :: run.lookups }
    | .error e => ⟨.error (.lookup e), [c], []⟩

/-- Runs a program. -/
def run (stores : Stores) (p : Program α) : Run α :=
  runFrom stores [] p

/-! ### Remembering -/

/-- Answers known from earlier lookups. -/
abbrev Memory := (c : Lookup) → Option c.Answer

/-- The memory with the answer to one more lookup. -/
def Memory.learn (m : Memory) (c : Lookup) (a : c.Answer) : Memory :=
  fun c' => if h : c = c' then some (h ▸ a) else m c'

/-- Whether the answer to a lookup is kept for the rest of the build. -/
def isShared : Lookup → Bool
  | .hostDevices _ | .displayNetwork _ | .storageQos _ => true
  | _ => false

/-- The program that makes no shared lookup whose answer is known or was given before. -/
def remembering : Memory → Program α → Program α
  | _, .done a => .done a
  | _, .fail e => .fail e
  | m, .report n p => .report n (remembering m p)
  | m, .ask c p =>
    match m c with
    | some a => remembering m (p a)
    | none =>
      .ask c fun a => remembering (if isShared c then m.learn c a else m) (p a)

/-- The program that makes each shared lookup at most once. -/
def sharing (p : Program α) : Program α :=
  remembering (fun _ => none) p

end Program

end VmDescriptor
