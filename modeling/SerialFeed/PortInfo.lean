/-
This file holds the description of a serial port that a machine has found: what it is attached to
and, for a port on a universal serial bus, which device it belongs to.
-/

namespace SerialFeed

/-- The device behind a port on a universal serial bus. -/
structure UsbDevice where
  vendor : UInt16
  product : UInt16
  serialNumber : Option String := none
  manufacturer : Option String := none
  productName : Option String := none
  deriving DecidableEq, Repr

/-- What a port is attached to. -/
inductive Attachment where
  | usb (device : UsbDevice)
  | pci
  | bluetooth
  | unknown
  deriving DecidableEq, Repr

/-- The description of a port. -/
structure PortInfo where
  name : String
  kind : String
  vendor : Option UInt16 := none
  product : Option UInt16 := none
  serialNumber : Option String := none
  manufacturer : Option String := none
  productName : Option String := none
  deriving DecidableEq, Repr

namespace PortInfo

/-- The description of a port with a known attachment. Only a device on a universal serial bus has
more to it than its name and kind. -/
def ofAttachment (name : String) : Attachment → PortInfo
  | .usb device =>
    { name
      kind := "USB"
      vendor := some device.vendor
      product := some device.product
      serialNumber := device.serialNumber
      manufacturer := device.manufacturer
      productName := device.productName }
  | .pci => { name, kind := "PCI" }
  | .bluetooth => { name, kind := "Bluetooth" }
  | .unknown => { name, kind := "Unknown" }

/-- A number as four hexadecimal capitals. -/
def fourDigits (number : UInt16) : String :=
  let digits := (Nat.toDigits 16 number.toNat).map Char.toUpper
  String.ofList (List.replicate (4 - digits.length) '0' ++ digits)

/-- The vendor and the product number, if both are known. -/
def numbers (info : PortInfo) : String :=
  match info.vendor, info.product with
  | some vendor, some product => s!" {fourDigits vendor}:{fourDigits product}"
  | _, _ => ""

/-- The line that describes a port to a user. -/
def display (info : PortInfo) : String :=
  let productName :=
    match info.productName with
    | some name => s!" {name}"
    | none => ""
  s!"{info.name} [{info.kind}]{info.numbers}{productName}"

end PortInfo

end SerialFeed
