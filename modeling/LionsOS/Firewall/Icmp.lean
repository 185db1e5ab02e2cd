/-
This file embeds the requests to the ICMP module, as `icmp.h` fills them in from
the offending packet. Nothing asks for redirects, and the module does not send
them.
-/

import LionsOS.Firewall.Packet
import LionsOS.Firewall.Queue

namespace LionsOS.Firewall

def icmpEchoReply : UInt8T := 0
def icmpDestUnreachable : UInt8T := 3
def icmpRedirectMsg : UInt8T := 5
def icmpEchoReq : UInt8T := 8
def icmpTtlExceed : UInt8T := 11

def icmpDestNetUnreachable : UInt8T := 0
def icmpDestHostUnreachable : UInt8T := 1
def icmpTimeExceededTtl : UInt8T := 0

def fwIcmpSrcDataLen : Nat := 8
def fwIcmpEchoPayloadLen : Nat := 56
def icmpCommonHdrLen : Nat := 4
def icmpEchoDataOffset : Nat := 4
def ipv4HdrLenMin : Nat := 20

/-- The type-specific part of a request. The error types share one layout. -/
inductive IcmpReqData where
  | dest (data : List UInt8T)
  | redirect (gatewayIp : UInt32T) (data : List UInt8T)
  | echo (echoId echoSeq payloadLen : UInt16T) (data : List UInt8T)

structure IcmpReq (interfaces : Nat) where
  type : UInt8T
  code : UInt8T
  outInterface : Fin interfaces
  ethHdr : List UInt8T
  ipHdr : List UInt8T
  data : IcmpReqData

/-- The bytes `memcpy` reads. -/
def Packet.copy (packet : Packet) (offset len : Nat) : List UInt8T :=
  (List.range len).map fun i => packet (offset + i)

/-- A field of zeroes whose first `len` bytes were copied over. -/
def Packet.copyZeroPadded (packet : Packet) (offset len field : Nat) : List UInt8T :=
  (List.range field).map fun i => if i < len then packet (offset + i) else 0

/-- How many bytes of transport data are copied. The subtraction is on signed integers, and the
result is kept in 16 bits. -/
def icmpSrcDataToCopy (packet : Packet) : Nat :=
  (min (fwIcmpSrcDataLen : Int)
    ((htons packet.totLen).toNat - (ipv4HeaderLength packet).toNat) % 65536).toNat

variable {interfaces : Nat}

/-- Enqueue an ICMP error request for a packet; `false` when the queue is full. -/
def icmpEnqueueError (icmpQueue : FwQueue (IcmpReq interfaces)) (type code : UInt8T)
    (packet : Packet) (outInterface : Fin interfaces) : Bool × FwQueue (IcmpReq interfaces) :=
  let req : IcmpReq interfaces :=
    { type, code, outInterface
      ethHdr := packet.copy 0 Packet.ipv4HdrOffset
      ipHdr := packet.copy Packet.ipv4HdrOffset ipv4HdrLenMin
      -- Bytes past the field, which a negative length makes the code write, are not kept.
      data := .dest (packet.copyZeroPadded (transportLayerOffset packet).toNat
        (icmpSrcDataToCopy packet) fwIcmpSrcDataLen) }
  ((fwEnqueue icmpQueue req).isSome, fwEnqueueOrDrop icmpQueue req)

/-- Enqueue an echo reply request for a packet; `false` when the queue is full. -/
def icmpEnqueueEchoReply (icmpQueue : FwQueue (IcmpReq interfaces)) (packet : Packet)
    (outInterface : Fin interfaces) : Bool × FwQueue (IcmpReq interfaces) :=
  let echoHdr := (transportLayerOffset packet).toNat + icmpCommonHdrLen
  let icmpTotalLen : UInt16T :=
    htons packet.totLen - (ipv4HeaderLength packet).setWidth 16
  let declared : UInt16T :=
    icmpTotalLen - BitVec.ofNat 16 icmpCommonHdrLen - BitVec.ofNat 16 icmpEchoDataOffset
  let payloadLen : UInt16T :=
    if BitVec.ofNat 16 fwIcmpEchoPayloadLen < declared then BitVec.ofNat 16 fwIcmpEchoPayloadLen
    else declared
  let req : IcmpReq interfaces :=
    { type := icmpEchoReply, code := 0, outInterface
      ethHdr := packet.copy 0 Packet.ipv4HdrOffset
      ipHdr := packet.copy Packet.ipv4HdrOffset ipv4HdrLenMin
      data := .echo (htons (packet.load16 echoHdr)) (htons (packet.load16 (echoHdr + 2))) payloadLen
        (packet.copyZeroPadded (echoHdr + icmpEchoDataOffset) payloadLen.toNat
          fwIcmpEchoPayloadLen) }
  ((fwEnqueue icmpQueue req).isSome, fwEnqueueOrDrop icmpQueue req)

/-- Enqueue an ICMP redirect request; the result is that of `fw_enqueue`. The interface of the
request stays the first one. -/
def icmpEnqueueRedirect [NeZero interfaces] (icmpQueue : FwQueue (IcmpReq interfaces))
    (code : UInt8T) (packet : Packet) (gatewayIp : UInt32T) : Int × FwQueue (IcmpReq interfaces) :=
  let req : IcmpReq interfaces :=
    { type := icmpRedirectMsg, code, outInterface := 0
      ethHdr := packet.copy 0 Packet.ipv4HdrOffset
      ipHdr := packet.copy Packet.ipv4HdrOffset ipv4HdrLenMin
      data := .redirect gatewayIp (packet.copyZeroPadded (transportLayerOffset packet).toNat
        (icmpSrcDataToCopy packet) fwIcmpSrcDataLen) }
  (if (fwEnqueue icmpQueue req).isSome then 0 else -1, fwEnqueueOrDrop icmpQueue req)

end LionsOS.Firewall
