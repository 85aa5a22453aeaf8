import VmDescriptor.Build

/-!
Fixtures: everything that one build needs, in one record.
-/

namespace VmDescriptor

/-- A request with the inventory it refers to. -/
structure Fixture where
  vm : VirtualMachine
  host : Uuid
  params : CreateParams
  payload : Option Device
  isVolatile : Bool
  inventory : Inventory

namespace Fixture

def codec : Codec Fixture := .record <|
  Fixture.mk
    <$> .required "vm" vm VirtualMachine.codec
    <*> .required "host_id" host .uuid
    <*> .withDefault "params" params CreateParams.codec .none
    <*> .optional "run_once_payload" payload Device.codec
    <*> .withDefault "volatile" isVolatile .boolean false
    <*> .withDefault "inventory" inventory Inventory.codec .empty

/-- What the fixture asks for. -/
def request (f : Fixture) : Request :=
  ⟨f.vm, f.host, f.params, f.payload, f.isVolatile⟩

/-- Builds the descriptor from the fixture's own inventory. -/
def build (f : Fixture) (fresh : FreshIds) (config : EngineConfig) : Program.Run String :=
  f.request.build fresh config (.ofInventory f.inventory)

end Fixture

end VmDescriptor
