/-
This file embeds the ICMP module (`icmp_module.c`): the frame it builds in a
transmit buffer for one request. The frame is written over what the buffer held
before, so it is a function of that as well. Of the queue of transmit buffers
only the contents of the buffer that is taken matters.
-/

import LionsOS.Firewall.Router

namespace LionsOS.Firewall

open Packet

variable {interfaces : Nat}

/-! ### Layout -/

def icmpHdrOffset : Nat := ipv4HdrOffset + ipv4HdrLenMin
def icmpPayloadOffset : Nat := icmpHdrOffset + icmpCommonHdrLen
def icmpCheckOffset : Nat := icmpHdrOffset + 2

/-- The quoted IP header comes after four bytes that are unused. -/
def icmpQuotedHdrOffset : Nat := icmpPayloadOffset + 4
def icmpQuotedDataOffset : Nat := icmpQuotedHdrOffset + ipv4HdrLenMin

def icmpDestLen : Nat := icmpCommonHdrLen + 4 + ipv4HdrLenMin + fwIcmpSrcDataLen
def icmpTimeExceededLen : Nat := icmpCommonHdrLen + 4 + ipv4HdrLenMin + fwIcmpSrcDataLen
def icmpRedirectLen : Nat := icmpCommonHdrLen + 4 + ipv4HdrLenMin + fwIcmpSrcDataLen

def ipv4DscpNetCtrl : UInt8T := 48

namespace Packet

def store32 (packet : Packet) (n : Nat) (value : UInt32T) : Packet :=
  (packet.store16 n (value.setWidth 16)).store16 (n + 2) ((value >>> 16).setWidth 16)

/-- The bytes that `memcpy` writes. -/
def storeBytes (packet : Packet) (n : Nat) (bytes : List UInt8T) : Packet := fun i =>
  if n ≤ i ∧ i < n + bytes.length then bytes.getD (i - n) 0 else packet i

end Packet

/-! ### Building a frame -/

structure FwIcmpInterface where
  macAddr : MacAddr
  ip : UInt32T

structure FwIcmpModuleConfig (interfaces : Nat) where
  interface : Fin interfaces → FwIcmpInterface
  /-- The build leaves checksums to the hardware. -/
  networkHwHasChecksum : Bool

/-- A frame that is handed to the transmit virtualiser. -/
structure IcmpFrame (interfaces : Nat) where
  outInterface : Fin interfaces
  packet : Packet
  len : UInt16T

/-- A 16-bit field of a header that was copied into a request. -/
def headerField (hdr : List UInt8T) (n : Nat) : UInt16T :=
  hdr.getD (n + 1) 0 ++ hdr.getD n 0

/-- How many bytes of quoted data are copied into a frame. The subtraction is on signed integers,
and the result is kept in 16 bits; the request holds no bytes past its field. -/
def icmpQuotedToCopy (ipHdr : List UInt8T) : Nat :=
  let headerLength : UInt8T := 4 * ((ipHdr.getD 0 0).setWidth 4).setWidth 8
  (min (fwIcmpSrcDataLen : Int) ((htons (headerField ipHdr 2)).toNat - headerLength.toNat)
    % 65536).toNat

/-- The Ethernet and IP headers and the ICMP type and code, the same for every message. -/
def icmpFrameHeaders (config : FwIcmpModuleConfig interfaces) (buffer : Packet)
    (req : IcmpReq interfaces) : Packet :=
  let own := config.interface req.outInterface
  let packet := buffer.storeBytes ethdstAddrOffset ((req.ethHdr.drop ethHwaddrLen).take
    ethHwaddrLen)
  let packet := packet.storeMac ethsrcAddrOffset own.macAddr
  let packet := packet.store16 ethtypeOffset (htons ethTypeIp)
  -- Version 4 and a header of five words, and the service code above the ECN bits.
  let packet := packet.store8 ipv4HdrOffset 0x45
  let packet := packet.store8 (ipv4HdrOffset + 1) (ipv4DscpNetCtrl <<< 2)
  let packet := packet.store16 (ipv4HdrOffset + 4) 0
  -- Of the fragment fields only the bit against fragmenting is set.
  let packet := packet.store8 (ipv4HdrOffset + 6) 0x40
  let packet := packet.store8 (ipv4HdrOffset + 7) 0
  let packet := packet.store8 ttlOffset 64
  let packet := packet.store8 protocolOffset ipv4ProtoIcmp
  let packet := packet.store32 srcIpOffset own.ip
  let packet := packet.storeBytes dstIpOffset ((req.ipHdr.drop 12).take 4)
  let packet := packet.store8 icmpHdrOffset req.type
  packet.store8 (icmpHdrOffset + 1) req.code

/-- The part of the frame that depends on the type of message, and the length it gives the
packet. A request carries the data of its type. -/
def icmpFramePayload (packet : Packet) (req : IcmpReq interfaces) : Packet × UInt16T :=
  match req.data with
  | .echo echoId echoSeq payloadLen data =>
    let icmpTotalLen : UInt16T :=
      BitVec.ofNat 16 (icmpCommonHdrLen + icmpEchoDataOffset) + payloadLen
    let packet := packet.store16 icmpPayloadOffset (htons echoId)
    let packet := packet.store16 (icmpPayloadOffset + 2) (htons echoSeq)
    (packet.storeBytes (icmpPayloadOffset + icmpEchoDataOffset) (data.take payloadLen.toNat),
      BitVec.ofNat 16 ipv4HdrLenMin + icmpTotalLen)
  | .dest data =>
    let packet := packet.store32 icmpPayloadOffset 0
    let packet := packet.storeBytes icmpQuotedHdrOffset req.ipHdr
    let icmpLen := if req.type = icmpTtlExceed then icmpTimeExceededLen else icmpDestLen
    (packet.storeBytes icmpQuotedDataOffset (data.take (icmpQuotedToCopy req.ipHdr)),
      BitVec.ofNat 16 (ipv4HdrLenMin + icmpLen))
  | .redirect gatewayIp data =>
    let packet := packet.store32 icmpPayloadOffset gatewayIp
    let packet := packet.storeBytes icmpQuotedHdrOffset req.ipHdr
    (packet.storeBytes icmpQuotedDataOffset (data.take (icmpQuotedToCopy req.ipHdr)),
      BitVec.ofNat 16 (ipv4HdrLenMin + icmpRedirectLen))

/-- The checksums, which are zeroed first and calculated unless the hardware does it. -/
def icmpFrameChecksums (config : FwIcmpModuleConfig interfaces) (packet : Packet)
    (totLen : UInt16T) : Packet :=
  let packet := packet.store16 icmpCheckOffset 0
  let packet := packet.store16 checkOffset 0
  if config.networkHwHasChecksum then packet
  else
    let packet := packet.store16 icmpCheckOffset
      (fwInternetChecksum (packet.advance icmpHdrOffset) (totLen.toNat - ipv4HdrLenMin))
    packet.store16 checkOffset (fwInternetChecksum (packet.advance ipv4HdrOffset) ipv4HdrLenMin)

/-- The frame for a request, written over what the transmit buffer held. -/
def icmpFrame (config : FwIcmpModuleConfig interfaces) (buffer : Packet)
    (req : IcmpReq interfaces) : IcmpFrame interfaces :=
  let (packet, totLen) := icmpFramePayload (icmpFrameHeaders config buffer req) req
  let packet := packet.store16 totLenOffset (htons totLen)
  { outInterface := req.outInterface
    packet := icmpFrameChecksums config packet totLen
    len := totLen + BitVec.ofNat 16 ipv4HdrOffset }

/-- Process a request: `none` when its type is not supported or no transmit buffer is free. -/
def processIcmpRequest (config : FwIcmpModuleConfig interfaces) (free : Option Packet)
    (req : IcmpReq interfaces) : Option (IcmpFrame interfaces) :=
  if req.type ≠ icmpDestUnreachable ∧ req.type ≠ icmpEchoReply ∧ req.type ≠ icmpTtlExceed then none
  else free.map fun buffer => icmpFrame config buffer req

/-! ### The type of a frame -/

theorem Packet.storeBytes_of_lt (packet : Packet) {n i : Nat} (bytes : List UInt8T)
    (below : i < n) : packet.storeBytes n bytes i = packet i :=
  if_neg fun inside => absurd inside.1 (Nat.not_le_of_lt below)

theorem icmpFrameHeaders_type (config : FwIcmpModuleConfig interfaces) (buffer : Packet)
    (req : IcmpReq interfaces) : icmpFrameHeaders config buffer req icmpHdrOffset = req.type := by
  unfold icmpFrameHeaders
  rw [store8_of_ne _ _ (by decide)]
  exact Function.update_self _ _ _

theorem icmpFramePayload_type (packet : Packet) (req : IcmpReq interfaces) :
    (icmpFramePayload packet req).1 icmpHdrOffset = packet icmpHdrOffset := by
  unfold icmpFramePayload
  cases req.data with
  | echo echoId echoSeq payloadLen data =>
    dsimp only
    rw [storeBytes_of_lt _ _ (by decide), store16_of_ne _ _ (by decide) (by decide),
      store16_of_ne _ _ (by decide) (by decide)]
  | dest data | redirect gatewayIp data =>
    dsimp only
    rw [storeBytes_of_lt _ _ (by decide), storeBytes_of_lt _ _ (by decide),
      store32, store16_of_ne _ _ (by decide) (by decide),
      store16_of_ne _ _ (by decide) (by decide)]

theorem icmpFrameChecksums_type (config : FwIcmpModuleConfig interfaces) (packet : Packet)
    (totLen : UInt16T) :
    icmpFrameChecksums config packet totLen icmpHdrOffset = packet icmpHdrOffset := by
  have zeroed : ∀ first second : UInt16T, ((packet.store16 icmpCheckOffset first).store16
      checkOffset second) icmpHdrOffset = packet icmpHdrOffset := by
    intro first second
    rw [store16_of_ne _ _ (by decide) (by decide), store16_of_ne _ _ (by decide) (by decide)]
  unfold icmpFrameChecksums
  split_ifs
  · exact zeroed _ _
  · exact zeroed _ _

theorem icmpFrame_type (config : FwIcmpModuleConfig interfaces) (buffer : Packet)
    (req : IcmpReq interfaces) :
    (icmpFrame config buffer req).packet icmpHdrOffset = req.type := by
  unfold icmpFrame
  dsimp only
  rw [icmpFrameChecksums_type, store16_of_ne _ _ (by decide) (by decide),
    icmpFramePayload_type, icmpFrameHeaders_type]

theorem processIcmpRequest_type {config : FwIcmpModuleConfig interfaces} {free : Option Packet}
    {req : IcmpReq interfaces} {frame : IcmpFrame interfaces}
    (processed : processIcmpRequest config free req = some frame) :
    frame.packet icmpHdrOffset = req.type := by
  unfold processIcmpRequest at processed
  split_ifs at processed
  obtain ⟨buffer, _, rfl⟩ := Option.map_eq_some_iff.mp processed
  exact icmpFrame_type config buffer req

end LionsOS.Firewall
