/-
Addresses of nodes.

An address is carried in messages as its sender wrote it, so a bad port survives reading and is
rejected only by `check`, which every connection passes first. The port travels as a 32-bit word;
only a checked address has a port that a socket can take.
-/

import SqlLedger.NetworkError
import SqlLedger.Wire.Codec

namespace SqlLedger

/-- Host and port of a node, as carried in messages. -/
structure NodeAddress where
  /-- A name or a numeric address. -/
  host : String
  /-- The port, which may be out of range until the address is checked. -/
  port : UInt32
  deriving DecidableEq, Repr

namespace NodeAddress

/-- Lowest port that a node may listen on; the privileged ones are refused. -/
def leastPort : Nat := 1025

/-- Highest port there is. -/
def greatestPort : Nat := 65535

/-- Why an address is refused. -/
inductive Fault
  | port (value : UInt32)
  | emptyHost
  deriving DecidableEq, Repr

/-- The wording of a refusal. -/
def Fault.message : Fault → String
  | .port value => s!"node address port has wrong value {value.toNat}"
  | .emptyHost => "node address host is empty"

/-- Refuses a port out of range, and then an empty host. -/
def check (address : NodeAddress) : Except Fault Unit :=
  if address.port.toNat < leastPort ∨ greatestPort < address.port.toNat then
    .error (.port address.port)
  else if address.host = "" then .error .emptyHost
  else .ok ()

/-- Refuses an address that `check` refuses, as an error of the network. -/
def validate (address : NodeAddress) : Except NetworkError Unit :=
  address.check.mapError fun fault => .addressInvalid fault.message

/-- The port in the width that sockets take, if it fits. -/
def socketPort? (address : NodeAddress) : Option UInt16 :=
  if address.port.toNat < UInt16.size then some address.port.toUInt16 else none

/-- How an address is shown. -/
def display (address : NodeAddress) : String :=
  s!"{address.host}:{address.port.toNat}"

/-- An address on the wire is its host and its port. -/
def codec : Codec NodeAddress :=
  .along (fun address => (address.host, address.port)) (fun (host, port) => ⟨host, port⟩)
    (.pair .text .word32)

end NodeAddress

end SqlLedger
