/-
This file holds the list of serial ports of a machine, sorted by name. Names that
are addresses with a scheme are never listed and always count as available.
-/

namespace KeyFeed.Link

/-- One serial port of the machine. Only a USB device has the two numbers. -/
structure PortInfo where
  name : String
  description : Option String
  vendor : Option Int
  product : Option Int
  hardware : String
  deriving Repr, DecidableEq

/-- The name of a port, with its description if there is one worth showing. -/
def PortInfo.describe (info : PortInfo) : String :=
  match info.description with
  | none => info.name
  | some description =>
    if description = "" ∨ description = "n/a" then info.name else s!"{info.name} ({description})"

/-- The ports by name, in the order of code points. Ports of one name keep their order. -/
def sortPorts (ports : List PortInfo) : List PortInfo :=
  ports.mergeSort fun first second => first.name ≤ second.name

/-- What separates the scheme of an address from the rest. -/
def schemeMark : List Char := "://".toList

/-- A text contains another one. -/
def contains (part : List Char) : List Char → Bool
  | [] => part.isEmpty
  | char :: rest => part.isPrefixOf (char :: rest) || contains part rest

/-- The port is an address with a scheme. -/
def isAddress (port : String) : Bool := contains schemeMark port.toList

/-- The port can be opened as far as the list tells. -/
def isListed (ports : List PortInfo) (port : String) : Bool := ports.any (·.name == port)

/-- The names of the ports in a message. -/
def portNames (ports : List PortInfo) : String :=
  let names := ", ".intercalate (ports.map (·.name))
  if names = "" then "none" else names

end KeyFeed.Link
