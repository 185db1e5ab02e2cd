/-
This file is about how many bytes of a packet are copied into the data of an
ICMP message about it: into the request, and again from the request into the
frame. Both ends take the lesser of the field and what the IP header leaves for
the transport layer, as a signed number that is then cut to 16 bits; where the
total length is less than the header length it comes out negative, and large.
-/

import LionsOS.Firewall.IcmpModule

namespace LionsOS.Firewall

variable {interfaces : Nat}

/-! ### Lengths -/

/-- The length of the transport layer that the IP header declares. -/
def declaredTransport (packet : Packet) : Nat :=
  (htons packet.totLen).toNat - 4 * packet.ihl.toNat

/-- A copy stays inside the data field and inside what the IP header declares. -/
structure CopyFits (packet : Packet) (copied : Nat) : Prop where
  field : copied ≤ fwIcmpSrcDataLen
  declared : copied ≤ declaredTransport packet

/-- The header that the packet declares fits in its total length. -/
def HeaderFits (packet : Packet) : Prop :=
  4 * packet.ihl.toNat ≤ (htons packet.totLen).toNat

/-- The lesser of the field and the signed difference is right unless the difference is negative:
then it is as good as `2 ^ 16`. -/
theorem cut_min_cases {total header : Nat} (small : total < 65536) (short : header ≤ 60) :
    (header ≤ total ∧ (min (fwIcmpSrcDataLen : Int) ((total : Int) - header) % 65536).toNat =
        min fwIcmpSrcDataLen (total - header)) ∨
      (total < header ∧
        65476 ≤ (min (fwIcmpSrcDataLen : Int) ((total : Int) - header) % 65536).toNat) := by
  omega

theorem icmpSrcDataToCopy_cases (packet : Packet) :
    (HeaderFits packet ∧
        icmpSrcDataToCopy packet = min fwIcmpSrcDataLen (declaredTransport packet)) ∨
      (¬ HeaderFits packet ∧ 65476 ≤ icmpSrcDataToCopy packet) := by
  have cases := cut_min_cases (htons packet.totLen).isLt (show 4 * packet.ihl.toNat ≤ 60 by omega)
  rw [← ipv4HeaderLength_toNat] at cases
  unfold HeaderFits declaredTransport icmpSrcDataToCopy
  rw [← ipv4HeaderLength_toNat, Nat.not_le]
  exact cases

theorem copyFits_iff (packet : Packet) :
    CopyFits packet (icmpSrcDataToCopy packet) ↔ HeaderFits packet := by
  rcases icmpSrcDataToCopy_cases packet with ⟨fits, copied⟩ | ⟨overrun, large⟩
  · rw [copied]
    exact iff_of_true ⟨Nat.min_le_left _ _, Nat.min_le_right _ _⟩ fits
  · refine iff_of_false (fun copy => ?_) overrun
    have small : icmpSrcDataToCopy packet ≤ 8 := copy.field
    omega

/-! ### Requests -/

/-- The requests that a packet gives rise to. -/
inductive RequestedFor [NeZero interfaces] (packet : Packet)
    (icmpQueue : FwQueue (IcmpReq interfaces)) (req : IcmpReq interfaces) : Prop
  | error (type code : UInt8T) (outInterface : Fin interfaces)
    (enqueued : (icmpEnqueueError icmpQueue type code packet outInterface).2.entries =
      icmpQueue.entries ++ [req])
  | redirect (code : UInt8T) (gatewayIp : UInt32T)
    (enqueued : (icmpEnqueueRedirect icmpQueue code packet gatewayIp).2.entries =
      icmpQueue.entries ++ [req])

theorem eq_of_fwEnqueueOrDrop {Entry : Type} {queue : FwQueue Entry} {entry last : Entry}
    (enqueued : (fwEnqueueOrDrop queue entry).entries = queue.entries ++ [last]) :
    last = entry := by
  rcases fwEnqueueOrDrop_cases queue entry with ⟨same, _⟩ | ⟨entries, _⟩
  · rw [same] at enqueued
    simp at enqueued
  · rw [entries] at enqueued
    simpa using enqueued.symm

theorem RequestedFor.ipHdr [NeZero interfaces] {packet : Packet}
    {icmpQueue : FwQueue (IcmpReq interfaces)} {req : IcmpReq interfaces}
    (requested : RequestedFor packet icmpQueue req) :
    req.ipHdr = packet.copy Packet.ipv4HdrOffset ipv4HdrLenMin := by
  cases requested with
  | error type code outInterface enqueued
  | redirect code gatewayIp enqueued => rw [eq_of_fwEnqueueOrDrop enqueued]

/-- What is copied for a packet, into a request and from a request into a frame, stays inside the
data field and the transport layer of the packet exactly where the packet's total length covers
its header. -/
theorem icmp_copies_fit_iff [NeZero interfaces] (packet : Packet) :
    (CopyFits packet (icmpSrcDataToCopy packet) ↔ HeaderFits packet) ∧
      ∀ (icmpQueue : FwQueue (IcmpReq interfaces)) req, RequestedFor packet icmpQueue req →
        (CopyFits packet (icmpQuotedToCopy req.ipHdr) ↔ HeaderFits packet) := by
  refine ⟨copyFits_iff packet, fun icmpQueue req requested => ?_⟩
  rw [requested.ipHdr]
  exact copyFits_iff packet

/-- A packet whose header of 60 bytes is longer than the 20 bytes it declares in all. -/
def overrunPacket : Packet := fun i =>
  match i with
  | 14 => 0x4f
  | 17 => 20
  | _ => 0

theorem overrunPacket_copies_fit_iff :
    (CopyFits overrunPacket (icmpSrcDataToCopy overrunPacket) ↔ HeaderFits overrunPacket) ∧
      ∀ (icmpQueue : FwQueue (IcmpReq 1)) req, RequestedFor overrunPacket icmpQueue req →
        (CopyFits overrunPacket (icmpQuotedToCopy req.ipHdr) ↔ HeaderFits overrunPacket) :=
  icmp_copies_fit_iff overrunPacket

/-- For it 65496 bytes are copied into the eight of the request. -/
theorem overrun_copied : ¬ ∀ packet : Packet, CopyFits packet (icmpSrcDataToCopy packet) := by
  intro claimed
  exact absurd (claimed overrunPacket).field (by decide)

end LionsOS.Firewall
