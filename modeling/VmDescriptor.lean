import VmDescriptor.Address
import VmDescriptor.BootOrder
import VmDescriptor.BootSequence
import VmDescriptor.Build
import VmDescriptor.BuildConfig
import VmDescriptor.Checked
import VmDescriptor.Codec.Basic
import VmDescriptor.Codec.Choice
import VmDescriptor.Codec.Document
import VmDescriptor.Codec.Record
import VmDescriptor.CommandLine
import VmDescriptor.CreateParams
import VmDescriptor.Descriptor.Consoles
import VmDescriptor.Descriptor.Disks
import VmDescriptor.Descriptor.Displays
import VmDescriptor.Descriptor.Domain
import VmDescriptor.Descriptor.Interfaces
import VmDescriptor.Descriptor.Parts
import VmDescriptor.Descriptor.Peripherals
import VmDescriptor.Descriptor.Platform
import VmDescriptor.Descriptor.Resources
import VmDescriptor.Device
import VmDescriptor.Device.Parameters
import VmDescriptor.DeviceClasses
import VmDescriptor.Disk
import VmDescriptor.DiskIndices
import VmDescriptor.Encoder.Basic
import VmDescriptor.Encoder.Consoles
import VmDescriptor.Encoder.Disks
import VmDescriptor.Encoder.Domain
import VmDescriptor.Encoder.Interfaces
import VmDescriptor.Encoder.Parts
import VmDescriptor.Encoder.Peripherals
import VmDescriptor.Encoder.Sections
import VmDescriptor.EngineConfig
import VmDescriptor.Fixture
import VmDescriptor.HostDevice
import VmDescriptor.Inventory
import VmDescriptor.Json.Basic
import VmDescriptor.Json.Number
import VmDescriptor.Json.Printer
import VmDescriptor.Json.Reader
import VmDescriptor.Json.Shortest
import VmDescriptor.Json.Token
import VmDescriptor.Lookup
import VmDescriptor.Machine
import VmDescriptor.Main
import VmDescriptor.Malformed
import VmDescriptor.Network
import VmDescriptor.Peripheral
import VmDescriptor.Program
import VmDescriptor.RunOnce
import VmDescriptor.SortedMap
import VmDescriptor.TargetBus
import VmDescriptor.Text.Blank
import VmDescriptor.Text.Numeral
import VmDescriptor.Text.Printable
import VmDescriptor.Text.Quoted
import VmDescriptor.Toml.DateTime
import VmDescriptor.Toml.Quoted
import VmDescriptor.Toml.Reader
import VmDescriptor.Toml.Scalar
import VmDescriptor.Toml.Table
import VmDescriptor.Uuid
import VmDescriptor.Version
import VmDescriptor.Vhost
import VmDescriptor.VirtualMachine
import VmDescriptor.Xml.Tree
import VmDescriptor.Xml.Writer
import VmDescriptor.Proofs.Results
import VmDescriptor.Proofs.Outcomes
import VmDescriptor.Proofs.Evaluation
import VmDescriptor.Proofs.Descriptor.DiskOrder
import VmDescriptor.Proofs.Xml.Elements
import VmDescriptor.Proofs.Xml.Writing
import VmDescriptor.Proofs.Encoder.Basic
import VmDescriptor.Proofs.Encoder.Sections
import VmDescriptor.Proofs.SortedMap
import VmDescriptor.Proofs.Encoder.Peripherals
import VmDescriptor.Proofs.Encoder.Disks
import VmDescriptor.Proofs.Encoder.Interfaces
import VmDescriptor.Proofs.Peripheral
import VmDescriptor.Proofs.DeviceClasses
import VmDescriptor.Proofs.Encoder.Domain
import VmDescriptor.Proofs.Descriptor.Vocabulary
import VmDescriptor.Proofs.BootOrder
import VmDescriptor.Proofs.BuildConfig
import VmDescriptor.Proofs.Descriptor.BootPositions
import VmDescriptor.Proofs.Descriptor.Failures
import VmDescriptor.Proofs.Descriptor.MachineType
import VmDescriptor.Proofs.Descriptor.TargetNames
import VmDescriptor.Proofs.Descriptor.Endings
import VmDescriptor.Proofs.Descriptor.Unplugged
import VmDescriptor.Proofs.Descriptor.BootNumbering
import VmDescriptor.Proofs.Json.Canonical
import VmDescriptor.Proofs.Codec.Laws
import VmDescriptor.Proofs.Text.Numeral
import VmDescriptor.Proofs.Version
import VmDescriptor.Proofs.Device.Parameters
import VmDescriptor.Proofs.TargetBus.Numerals
import VmDescriptor.Proofs.Text.Utf8
import VmDescriptor.Proofs.Text.Casing
import VmDescriptor.Proofs.Address
import VmDescriptor.Proofs.Address.Grammar
import VmDescriptor.Proofs.Uuid
import VmDescriptor.Proofs.Codec.Texts
import VmDescriptor.Proofs.Codec.Record
import VmDescriptor.Proofs.Codec.Choice
import VmDescriptor.Proofs.Codec.Models
import VmDescriptor.Proofs.Xml.Reader
import VmDescriptor.Proofs.Xml.Reading
import VmDescriptor.Proofs.Xml.Session
import VmDescriptor.Proofs.Xml.WellFormed
import VmDescriptor.Proofs.Xml.Joining
import VmDescriptor.Proofs.Descriptor.AttributeKeys
import VmDescriptor.Proofs.Descriptor.Markup
import VmDescriptor.Proofs.Products
import VmDescriptor.Proofs.BootOrder.Words
import VmDescriptor.Proofs.Descriptor.Overflow
import VmDescriptor.Proofs.DiskIndices.Words
import VmDescriptor.Proofs.Descriptor.IndexCalls
import VmDescriptor.Proofs.Descriptor.Numbers
import VmDescriptor.Proofs.Lookups
import VmDescriptor.Proofs.Descriptor.Lookups
import VmDescriptor.Proofs.FailedLookups
import VmDescriptor.Proofs.Descriptor.FailedLookups
import VmDescriptor.Proofs.Descriptor.DiskElements
import VmDescriptor.Proofs.Descriptor.Reordering
import VmDescriptor.Proofs.Descriptor.RunOnceDisplays
import VmDescriptor.Proofs.Descriptor.DependentSections
import VmDescriptor.Proofs.Descriptor.AddedIds
import VmDescriptor.Proofs.Descriptor.Sizes
import VmDescriptor.Proofs.DeviceClasses.Controllers
import VmDescriptor.Proofs.DeviceClasses.Distribution
import VmDescriptor.Proofs.DeviceClasses.Respelling
import VmDescriptor.Proofs.Descriptor.Controllers
import VmDescriptor.Proofs.Descriptor.Notices
import VmDescriptor.Proofs.BootOrder.Selection
import VmDescriptor.Proofs.DiskIndices.Calls
import VmDescriptor.Proofs.Exchanges
import VmDescriptor.Proofs.Descriptor.Interfaces
import VmDescriptor.Proofs.Descriptor.ReadBack
import VmDescriptor.Proofs.Vhost
