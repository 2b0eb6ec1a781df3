import Shoes.Wire

/-!
# Fragmented UDP packets

The TUIC and Hysteria2 servers reassemble a UDP packet cut into fragments the same way. An
entry per packet id records the fragment count, how many fragments have arrived, their total
length, a slot for each fragment, and the destination of the fragment that created it. Each
arriving fragment is checked against the entry and stored; the last one completes the
packet, whose payload is the fragments in fragment order.

This module models one fragment arriving at its packet's entry, over the type of the
destination the entry records (`Option<NetLocation>` for TUIC, `NetLocation` for Hysteria2).
Each server wraps it in its own handling of the fragment cache.
-/

namespace Shoes

open Wire

structure FragmentedPacket (α : Type) where
  fragmentCount : UInt8
  fragmentReceived : UInt8
  packetLen : Nat
  received : List (Option (List UInt8))
  remoteLocation : α
  deriving DecidableEq

namespace FragmentedPacket

variable {α : Type}

/-- The entry that a packet's first arriving fragment creates. -/
def new (fragmentCount : UInt8) (remoteLocation : α) : FragmentedPacket α :=
  ⟨fragmentCount, 0, 0, List.replicate fragmentCount.toNat none, remoteLocation⟩

/-- What one fragment does to its packet's entry. -/
inductive Arrival (α : Type)
  | mismatchedCount
  | outOfRange
  | duplicate
  | pending (packet : FragmentedPacket α)
  | complete (packet : FragmentedPacket α)

/-- The checks and updates both servers make on the entry `get_mut` returns: the fragment
count must match the entry's, the slot must exist (indexing `received` panics otherwise) and
be empty; then the fragment is stored and counted, and the packet is complete when the count
reaches the fragment count. -/
def receive (packet : FragmentedPacket α) (fragTotal fragId : UInt8) (payload : List UInt8) :
    Arrival α :=
  if packet.fragmentCount ≠ fragTotal then .mismatchedCount
  else
    match packet.received[fragId.toNat]? with
    | none => .outOfRange
    | some (some _) => .duplicate
    | some none =>
      let packet :=
        { packet with
          fragmentReceived := packet.fragmentReceived + 1
          packetLen := packet.packetLen + payload.length
          received := packet.received.set fragId.toNat (some payload) }
      if packet.fragmentReceived ≠ packet.fragmentCount then .pending packet
      else .complete packet

end FragmentedPacket

/-- The complete payload: the fragments in fragment order; `unwrap` panics on a missing one. -/
def joinFragments : List (Option (List UInt8)) → Result (List UInt8)
  | [] => .ok []
  | none :: _ => abort
  | some fragment :: rest => do
    let tail ← joinFragments rest
    .ok (fragment ++ tail)

end Shoes
