/-
This file is about the reply to an echo request, over both ends of the ICMP
queue. The length of the payload is a difference of 16-bit words that is cut to
the size of the field afterwards, so where the total length of a request does not
cover its headers, a whole field of bytes behind it is sent back. Where it does,
and the payload fits, the reply parses as the request did.
-/

import LionsOS.Firewall.Checksum
import LionsOS.Firewall.IcmpFrames
import Mathlib.Tactic.FinCases

namespace LionsOS.Firewall

open OnesComplement Set Packet

variable {interfaces : Nat} {packet : Packet}

variable {icmpQueue : FwQueue (IcmpReq interfaces)} {req : IcmpReq interfaces} {i : Nat}

/-! ### Requests -/

/-- The length of the payload that a packet declares behind its IP header and its echo header. -/
def declaredPayload (packet : Packet) : Nat :=
  declaredTransport packet - (icmpCommonHdrLen + icmpEchoDataOffset)

/-- The total length of a packet covers its IP header and an echo header. -/
def EchoFits (packet : Packet) : Prop :=
  4 * packet.ihl.toNat + (icmpCommonHdrLen + icmpEchoDataOffset) ≤ (htons packet.totLen).toNat

/-- How much of the payload is copied. -/
def echoPayloadLen (packet : Packet) : UInt16T :=
  let icmpTotalLen : UInt16T := htons packet.totLen - (ipv4HeaderLength packet).setWidth 16
  let declared : UInt16T :=
    icmpTotalLen - BitVec.ofNat 16 icmpCommonHdrLen - BitVec.ofNat 16 icmpEchoDataOffset
  if BitVec.ofNat 16 fwIcmpEchoPayloadLen < declared then BitVec.ofNat 16 fwIcmpEchoPayloadLen
  else declared

/-- Where the echo header of a packet begins. -/
def echoHdrOffset (packet : Packet) : Nat :=
  (transportLayerOffset packet).toNat + icmpCommonHdrLen

/-- What is enqueued for a packet. -/
def echoReq (packet : Packet) (outInterface : Fin interfaces) : IcmpReq interfaces :=
  { type := icmpEchoReply, code := 0, outInterface
    ethHdr := packet.copy 0 ipv4HdrOffset
    ipHdr := packet.copy ipv4HdrOffset ipv4HdrLenMin
    data := .echo (htons (packet.load16 (echoHdrOffset packet)))
      (htons (packet.load16 (echoHdrOffset packet + 2))) (echoPayloadLen packet)
      (packet.copyZeroPadded (echoHdrOffset packet + icmpEchoDataOffset)
        (echoPayloadLen packet).toNat fwIcmpEchoPayloadLen) }

theorem eq_echoReq {outInterface : Fin interfaces}
    (enqueued : (icmpEnqueueEchoReply icmpQueue packet outInterface).2.entries =
      icmpQueue.entries ++ [req]) : req = echoReq packet outInterface :=
  eq_of_fwEnqueueOrDrop enqueued

/-- The subtractions wrap around where the headers are longer than the total length. -/
theorem declared_toNat (total : UInt16T) {header : UInt8T} (short : header.toNat ≤ 60) :
    (total - header.setWidth 16 - BitVec.ofNat 16 icmpCommonHdrLen -
        BitVec.ofNat 16 icmpEchoDataOffset).toNat =
      if header.toNat + (icmpCommonHdrLen + icmpEchoDataOffset) ≤ total.toNat then
        total.toNat - header.toNat - (icmpCommonHdrLen + icmpEchoDataOffset)
      else 65536 + total.toNat - header.toNat - (icmpCommonHdrLen + icmpEchoDataOffset) := by
  unfold icmpCommonHdrLen icmpEchoDataOffset
  split_ifs <;> bv_omega

/-- The cut length is right unless the difference wraps around: then it is the whole field. -/
theorem echoPayloadLen_cases (packet : Packet) :
    (EchoFits packet ∧
        (echoPayloadLen packet).toNat = min fwIcmpEchoPayloadLen (declaredPayload packet)) ∨
      (¬ EchoFits packet ∧ declaredPayload packet = 0 ∧
        (echoPayloadLen packet).toNat = fwIcmpEchoPayloadLen) := by
  have header := ipv4HeaderLength_toNat packet
  have declared := declared_toNat (htons packet.totLen)
    (show (ipv4HeaderLength packet).toNat ≤ 60 by omega)
  have field : (BitVec.ofNat 16 fwIcmpEchoPayloadLen).toNat = fwIcmpEchoPayloadLen := rfl
  unfold EchoFits declaredPayload declaredTransport echoPayloadLen
  simp only [apply_ite BitVec.toNat, BitVec.lt_def, declared, field]
  unfold fwIcmpEchoPayloadLen icmpCommonHdrLen icmpEchoDataOffset
  split_ifs <;> omega

theorem echoPayloadLen_le (packet : Packet) :
    (echoPayloadLen packet).toNat ≤ fwIcmpEchoPayloadLen := by
  rcases echoPayloadLen_cases packet with ⟨_, len⟩ | ⟨_, _, len⟩
  · rw [len]
    exact Nat.min_le_left _ _
  · exact Nat.le_of_eq len

theorem echoPayloadLen_le_declared_iff (packet : Packet) :
    (echoPayloadLen packet).toNat ≤ declaredPayload packet ↔ EchoFits packet := by
  rcases echoPayloadLen_cases packet with ⟨fits, len⟩ | ⟨overrun, none, len⟩
  · rw [len]
    exact iff_of_true (Nat.min_le_right _ _) fits
  · rw [len, none]
    exact iff_of_false (by decide) overrun

/-! ### Payloads -/

/-- The payload that a request holds. -/
def IcmpReqData.echoPayload : IcmpReqData → List UInt8T
  | .echo _ _ payloadLen data => data.take payloadLen.toNat
  | _ => []

/-- The payload that a frame sends back. -/
def IcmpFrame.echoPayload (frame : IcmpFrame interfaces) : List UInt8T :=
  frame.packet.copy (icmpPayloadOffset + icmpEchoDataOffset)
    (frame.len.toNat - (icmpPayloadOffset + icmpEchoDataOffset))

/-- A payload is the first part of what a packet declares. -/
def DeclaredBy (packet : Packet) (payload : List UInt8T) : Prop :=
  ∃ len ≤ declaredPayload packet,
    payload = packet.copy (echoHdrOffset packet + icmpEchoDataOffset) len

theorem take_copyZeroPadded (packet : Packet) (offset : Nat) {len field : Nat}
    (fits : len ≤ field) :
    (packet.copyZeroPadded offset len field).take len = packet.copy offset len := by
  unfold copyZeroPadded copy
  rw [← List.map_take, List.take_range, Nat.min_eq_left fits]
  exact List.map_congr_left fun i inside => if_pos (List.mem_range.mp inside)

/-- What the module takes for the payload of the packet. -/
def repliedPayload (packet : Packet) : List UInt8T :=
  packet.copy (echoHdrOffset packet + icmpEchoDataOffset) (echoPayloadLen packet).toNat

theorem echoReq_payload (packet : Packet) (outInterface : Fin interfaces) :
    (echoReq packet outInterface).data.echoPayload = repliedPayload packet :=
  take_copyZeroPadded packet _ (echoPayloadLen_le packet)

theorem repliedPayload_declared_iff (packet : Packet) :
    DeclaredBy packet (repliedPayload packet) ↔ EchoFits packet := by
  rw [← echoPayloadLen_le_declared_iff]
  constructor
  · rintro ⟨len, declared, same⟩
    have length := congrArg List.length same
    rw [repliedPayload, length_copy, length_copy] at length
    rwa [length]
  · intro declared
    exact ⟨_, declared, rfl⟩

/-! ### Frames -/

variable (config : FwIcmpModuleConfig interfaces) (buffer packet : Packet)
  (outInterface : Fin interfaces)

theorem not_mem_checkPlaces (outside : i < 24 ∨ 26 ≤ i ∧ i < 36 ∨ 38 ≤ i) : i ∉ checkPlaces := by
  show ¬ ((36 ≤ i ∧ i < 38) ∨ (24 ≤ i ∧ i < 26))
  omega

theorem icmpFrame_kept (req : IcmpReq interfaces)
    (elsewhere : i < 16 ∨ 18 ≤ i ∧ i < 24 ∨ 26 ≤ i ∧ i < 36 ∨ 38 ≤ i) :
    (icmpFrame config buffer req).packet i =
      (icmpFramePayload (icmpFrameHeaders config buffer req) req).1 i := by
  have notFirst : i ≠ 16 := by omega
  have notSecond : i ≠ 17 := by omega
  rw [icmpFrame_packet, (icmpFrameChecksums_overwrites config _).kept _ _
    (not_mem_checkPlaces (by omega))]
  exact store16_of_ne _ _ notFirst notSecond

/-- The message is built of the fields of the packet as they are in memory. -/
theorem echoReq_built (built : Packet) :
    (icmpFramePayload built (echoReq packet outInterface)).1 =
      ((built.store16 icmpPayloadOffset (packet.load16 (echoHdrOffset packet))).store16
        (icmpPayloadOffset + 2) (packet.load16 (echoHdrOffset packet + 2))).storeBytes
        (icmpPayloadOffset + icmpEchoDataOffset) (repliedPayload packet) := by
  rw [← echoReq_payload packet outInterface]
  show ((built.store16 _ (htons (htons _))).store16 _ (htons (htons _))).storeBytes _ _ = _
  rw [htons_htons, htons_htons]
  rfl

/-- The frame for what is enqueued, in a transmit buffer. -/
def echoFrame : IcmpFrame interfaces :=
  icmpFrame config buffer (echoReq packet outInterface)

theorem echoFrame_header (header : i < 16 ∨ 18 ≤ i ∧ i < 24 ∨ 26 ≤ i ∧ i < 36) :
    (echoFrame config buffer packet outInterface).packet i =
      icmpFrameHeaders config buffer (echoReq packet outInterface) i := by
  have before : i < icmpPayloadOffset := show i < 38 by omega
  rw [echoFrame, icmpFrame_kept config buffer _ (by omega), echoReq_built,
    storeBytes_of_lt _ _ (by omega), store16_of_ne _ _ (by omega) (by omega),
    store16_of_ne _ _ (by omega) (by omega)]

theorem echoFrame_body (body : 38 ≤ i) :
    (echoFrame config buffer packet outInterface).packet i =
      (((icmpFrameHeaders config buffer (echoReq packet outInterface)).store16 icmpPayloadOffset
        (packet.load16 (echoHdrOffset packet))).store16 (icmpPayloadOffset + 2)
        (packet.load16 (echoHdrOffset packet + 2))).storeBytes
        (icmpPayloadOffset + icmpEchoDataOffset) (repliedPayload packet) i := by
  rw [echoFrame, icmpFrame_kept config buffer _ (by omega), echoReq_built]

theorem echoFrame_echoId :
    (echoFrame config buffer packet outInterface).packet.load16 icmpPayloadOffset =
      packet.load16 (echoHdrOffset packet) := by
  rw [← load16_store16 (icmpFrameHeaders config buffer (echoReq packet outInterface))
    icmpPayloadOffset (packet.load16 (echoHdrOffset packet))]
  refine load16_congr ?_ ?_
  · rw [echoFrame_body _ _ _ _ (by decide), storeBytes_of_lt _ _ (by decide),
      store16_of_ne _ _ (by decide) (by decide)]
  · rw [echoFrame_body _ _ _ _ (by decide), storeBytes_of_lt _ _ (by decide),
      store16_of_ne _ _ (by decide) (by decide)]

theorem echoFrame_echoSeq :
    (echoFrame config buffer packet outInterface).packet.load16 (icmpPayloadOffset + 2) =
      packet.load16 (echoHdrOffset packet + 2) := by
  rw [← load16_store16 ((icmpFrameHeaders config buffer (echoReq packet
    outInterface)).store16 icmpPayloadOffset (packet.load16 (echoHdrOffset packet)))
    (icmpPayloadOffset + 2) (packet.load16 (echoHdrOffset packet + 2))]
  refine load16_congr ?_ ?_
  · rw [echoFrame_body _ _ _ _ (by decide), storeBytes_of_lt _ _ (by decide)]
  · rw [echoFrame_body _ _ _ _ (by decide), storeBytes_of_lt _ _ (by decide)]

theorem icmpFrame_totLen (req : IcmpReq interfaces) :
    (icmpFrame config buffer req).packet.totLen =
      htons (icmpFramePayload (icmpFrameHeaders config buffer req) req).2 := by
  have first : totLenOffset ∉ checkPlaces := not_mem_checkPlaces (by decide)
  have second : totLenOffset + 1 ∉ checkPlaces := not_mem_checkPlaces (by decide)
  have kept := (icmpFrameChecksums_overwrites config
    (icmpFramePayload (icmpFrameHeaders config buffer req) req).2).kept
  exact (load16_congr (kept _ _ first) (kept _ _ second)).trans (load16_store16 _ _ _)

theorem echoFramePayload_len (built : Packet) :
    (icmpFramePayload built (echoReq packet outInterface)).2.toNat =
      ipv4HdrLenMin + (icmpCommonHdrLen + icmpEchoDataOffset) + (echoPayloadLen packet).toNat := by
  have short := echoPayloadLen_le packet
  unfold fwIcmpEchoPayloadLen at short
  show (20#16 + (8#16 + echoPayloadLen packet)).toNat = 28 + (echoPayloadLen packet).toNat
  bv_omega

theorem echoFrame_len :
    (echoFrame config buffer packet outInterface).len.toNat =
      icmpPayloadOffset + icmpEchoDataOffset + (echoPayloadLen packet).toNat := by
  have short := echoPayloadLen_le packet
  unfold fwIcmpEchoPayloadLen at short
  show (20#16 + (8#16 + echoPayloadLen packet) + 14#16).toNat = 42 + (echoPayloadLen packet).toNat
  bv_omega

theorem echoFrame_payload :
    (echoFrame config buffer packet outInterface).echoPayload = repliedPayload packet := by
  have length : (repliedPayload packet).length = (echoPayloadLen packet).toNat :=
    length_copy _ _ _
  have body := fun i (_ : i < (repliedPayload packet).length) =>
    echoFrame_body config buffer packet outInterface
      (i := icmpPayloadOffset + icmpEchoDataOffset + i) (show 38 ≤ 42 + i by omega)
  rw [IcmpFrame.echoPayload, echoFrame_len, Nat.add_sub_cancel_left, ← length, copy_congr body]
  exact copy_storeBytes _ _ _

theorem echoFrame_sent
    (enqueued : (icmpEnqueueEchoReply icmpQueue packet outInterface).2.entries =
      icmpQueue.entries ++ [req]) :
    processIcmpRequest config (some buffer) req =
      some (echoFrame config buffer packet outInterface) := by
  rw [eq_echoReq enqueued]
  rfl

/-- The payload that is copied into a request, and what is sent back for it, is part of what the
packet declares exactly where its total length covers the headers. -/
theorem echo_payload_declared_iff {icmpQueue : FwQueue (IcmpReq interfaces)}
    {req : IcmpReq interfaces}
    (enqueued : (icmpEnqueueEchoReply icmpQueue packet outInterface).2.entries =
      icmpQueue.entries ++ [req]) :
    (DeclaredBy packet req.data.echoPayload ↔ EchoFits packet) ∧
      ∀ config buffer frame, processIcmpRequest config (some buffer) req = some frame →
        (DeclaredBy packet frame.echoPayload ↔ EchoFits packet) := by
  refine ⟨?_, fun config buffer frame processed => ?_⟩
  · rw [eq_echoReq enqueued, echoReq_payload]
    exact repliedPayload_declared_iff packet
  · rw [echoFrame_sent config buffer packet outInterface enqueued, Option.some.injEq] at processed
    rw [← processed, echoFrame_payload]
    exact repliedPayload_declared_iff packet

/-- An echo request of which the total length covers no more than the IP header. -/
def bareHeader : Packet := fun i =>
  match i with
  | 12 => 0x08
  | 14 => 0x45
  | 17 => 20
  | 23 => ipv4ProtoIcmp
  | 34 => icmpEchoReq
  | _ => 0

theorem bareHeader_payload_declared_iff :
    (DeclaredBy bareHeader (echoReq bareHeader (0 : Fin 1)).data.echoPayload ↔
        EchoFits bareHeader) ∧
      ∀ config buffer frame,
        processIcmpRequest config (some buffer) (echoReq bareHeader (0 : Fin 1)) = some frame →
        (DeclaredBy bareHeader frame.echoPayload ↔ EchoFits bareHeader) :=
  @echo_payload_declared_iff 1 bareHeader 0 (FwQueue.empty 1) (echoReq bareHeader 0) rfl

/-- For it the 56 bytes behind the headers are copied. -/
theorem undeclared_payload_copied :
    ¬ ∀ (icmpQueue : FwQueue (IcmpReq 1)) (packet : Packet) (outInterface : Fin 1)
        (req : IcmpReq 1),
      (icmpEnqueueEchoReply icmpQueue packet outInterface).2.entries = icmpQueue.entries ++ [req] →
        DeclaredBy packet req.data.echoPayload := by
  intro claimed
  obtain ⟨len, declared, same⟩ := claimed (FwQueue.empty 1) bareHeader 0 _ rfl
  have length := congrArg List.length same
  have none : declaredPayload bareHeader = 0 := by decide
  have zero : len = 0 := Nat.le_zero.mp (Nat.le_trans declared (Nat.le_of_eq none))
  rw [zero] at length
  exact absurd length (by decide)

/-! ### Echo messages -/

/-- The ICMP echo message that a packet holds. -/
@[ext]
structure EchoMessage where
  type : UInt8T
  code : UInt8T
  echoId : UInt16T
  echoSeq : UInt16T
  payload : List UInt8T
  deriving DecidableEq

namespace Packet

def version (packet : Packet) : BitVec 4 := (packet ipv4HdrOffset >>> 4).setWidth 4

def echoMessage (packet : Packet) : EchoMessage where
  type := packet (transportLayerOffset packet).toNat
  code := packet ((transportLayerOffset packet).toNat + 1)
  echoId := htons (packet.load16 (echoHdrOffset packet))
  echoSeq := htons (packet.load16 (echoHdrOffset packet + 2))
  payload := packet.copy (echoHdrOffset packet + icmpEchoDataOffset) (declaredPayload packet)

end Packet

instance decidableEchoFits (packet : Packet) : Decidable (EchoFits packet) :=
  inferInstanceAs (Decidable (_ ≤ _))

/-- The echo message in an Ethernet frame of this length. -/
def parseEcho (packet : Packet) (len : Nat) : Option EchoMessage :=
  if packet.ethtype = htons ethTypeIp ∧ packet.version = 4 ∧
      ipv4HdrLenMin ≤ 4 * packet.ihl.toNat ∧ packet.protocol = ipv4ProtoIcmp ∧ EchoFits packet ∧
      len = ipv4HdrOffset + (htons packet.totLen).toNat then
    some packet.echoMessage
  else none

/-- The header and the total length of an echo request are consistent, and its payload is no
longer than the field of a request. -/
structure WellFormedEcho (packet : Packet) : Prop where
  header : ipv4HdrLenMin ≤ 4 * packet.ihl.toNat
  fits : EchoFits packet
  payload : declaredPayload packet ≤ fwIcmpEchoPayloadLen

/-- The checksums of the IP header and of the ICMP message. -/
structure ChecksumsVerify (packet : Packet) : Prop where
  header : Verifies (packet.advance ipv4HdrOffset).bytes (4 * packet.ihl.toNat)
  message : Verifies (packet.advance (transportLayerOffset packet).toNat).bytes
    (declaredTransport packet)

/-- The frame sends the message of the packet back to where the packet came from. -/
structure EchoReplyTo (config : FwIcmpModuleConfig interfaces) (packet : Packet)
    (outInterface : Fin interfaces) (frame : IcmpFrame interfaces) : Prop where
  interface : frame.outInterface = outInterface
  ethdstAddr : frame.packet.ethdstAddr = packet.ethsrcAddr
  ethsrcAddr : frame.packet.ethsrcAddr = (config.interface outInterface).macAddr
  dstIp : frame.packet.dstIp = packet.srcIp
  srcIp : frame.packet.srcIp = (config.interface outInterface).ip
  message : parseEcho frame.packet frame.len.toNat =
    some { packet.echoMessage with type := icmpEchoReply, code := 0 }
  checksums : config.networkHwHasChecksum = false → ChecksumsVerify frame.packet

/-! ### The checksums of a frame -/

theorem icmpFrameChecksums_verify (software : config.networkHwHasChecksum = false)
    {totLen : UInt16T} (long : ipv4HdrLenMin + icmpCommonHdrLen ≤ totLen.toNat) :
    Verifies ((icmpFrameChecksums config packet totLen).advance ipv4HdrOffset).bytes ipv4HdrLenMin ∧
      Verifies ((icmpFrameChecksums config packet totLen).advance icmpHdrOffset).bytes
        (totLen.toNat - ipv4HdrLenMin) := by
  have lengths : 20 + 4 ≤ totLen.toNat := long
  let zeroed := (packet.store16 icmpCheckOffset 0).store16 checkOffset 0
  let icmp := zeroed.store16 icmpCheckOffset
    (fwInternetChecksum (zeroed.advance icmpHdrOffset) (totLen.toNat - ipv4HdrLenMin))
  have both : icmpFrameChecksums config packet totLen = icmp.store16 checkOffset
      (fwInternetChecksum (icmp.advance ipv4HdrOffset) ipv4HdrLenMin) := by
    unfold icmpFrameChecksums
    rw [software]
    rfl
  have behind : (icmpFrameChecksums config packet totLen).advance icmpHdrOffset =
      icmp.advance icmpHdrOffset := by
    funext i
    rw [both]
    exact store16_of_ne _ _ (show 34 + i ≠ 24 by omega) (show 34 + i ≠ 25 by omega)
  constructor
  · rw [both]
    exact @storeChecksum_verifies icmp ipv4HdrOffset 5 ipv4HdrLenMin (by decide) (by decide)
      rfl rfl
  · rw [behind]
    exact @storeChecksum_verifies zeroed icmpHdrOffset 1 (totLen.toNat - ipv4HdrLenMin)
      (by omega) (show 3 < totLen.toNat - 20 by omega) rfl rfl

theorem icmpFrame_verify (req : IcmpReq interfaces) (software : config.networkHwHasChecksum = false)
    (long : ipv4HdrLenMin + icmpCommonHdrLen ≤
      (icmpFramePayload (icmpFrameHeaders config buffer req) req).2.toNat) :
    Verifies ((icmpFrame config buffer req).packet.advance ipv4HdrOffset).bytes ipv4HdrLenMin ∧
      Verifies ((icmpFrame config buffer req).packet.advance icmpHdrOffset).bytes
        ((icmpFramePayload (icmpFrameHeaders config buffer req) req).2.toNat - ipv4HdrLenMin) :=
  icmpFrameChecksums_verify config _ software long

/-! ### A reply is the request again -/

theorem echoFrame_version :
    (echoFrame config buffer packet outInterface).packet ipv4HdrOffset = 0x45 :=
  echoFrame_header config buffer packet outInterface (Or.inl (by decide))

theorem echoFrame_transportLayerOffset :
    transportLayerOffset (echoFrame config buffer packet outInterface).packet =
      BitVec.ofNat 8 icmpHdrOffset := by
  unfold transportLayerOffset ipv4HeaderLength ihl
  rw [echoFrame_version]
  rfl

theorem echoFrame_ihl : (echoFrame config buffer packet outInterface).packet.ihl = 5 := by
  unfold ihl
  rw [echoFrame_version]
  rfl

theorem echoFrame_totLen :
    (htons (echoFrame config buffer packet outInterface).packet.totLen).toNat =
      ipv4HdrLenMin + (icmpCommonHdrLen + icmpEchoDataOffset) + (echoPayloadLen packet).toNat := by
  rw [echoFrame, icmpFrame_totLen, htons_htons, echoFramePayload_len]

theorem echoFrame_declaredTransport :
    declaredTransport (echoFrame config buffer packet outInterface).packet =
      icmpCommonHdrLen + icmpEchoDataOffset + (echoPayloadLen packet).toNat := by
  unfold declaredTransport
  rw [echoFrame_totLen, echoFrame_ihl, Nat.add_assoc]
  exact Nat.add_sub_cancel_left 20 _

theorem echoFrame_echoHdrOffset :
    echoHdrOffset (echoFrame config buffer packet outInterface).packet =
      icmpPayloadOffset := by
  unfold echoHdrOffset
  rw [echoFrame_transportLayerOffset]
  rfl

theorem echoFrame_declaredPayload :
    declaredPayload (echoFrame config buffer packet outInterface).packet =
      (echoPayloadLen packet).toNat := by
  unfold declaredPayload
  rw [echoFrame_declaredTransport, Nat.add_sub_cancel_left]

theorem WellFormedEcho.payloadLen (formed : WellFormedEcho packet) :
    (echoPayloadLen packet).toNat = declaredPayload packet := by
  rcases echoPayloadLen_cases packet with ⟨_, len⟩ | ⟨overrun, _⟩
  · rw [len]
    exact Nat.min_eq_right formed.payload
  · exact absurd formed.fits overrun

theorem echoFrame_echoMessage (formed : WellFormedEcho packet) :
    (echoFrame config buffer packet outInterface).packet.echoMessage =
      { packet.echoMessage with type := icmpEchoReply, code := 0 } := by
  have payload := echoFrame_payload config buffer packet outInterface
  rw [IcmpFrame.echoPayload, echoFrame_len, Nat.add_sub_cancel_left, repliedPayload,
    formed.payloadLen] at payload
  unfold echoMessage
  rw [echoFrame_transportLayerOffset, echoFrame_echoHdrOffset, echoFrame_echoId,
    echoFrame_echoSeq, echoFrame_declaredPayload, formed.payloadLen, payload]
  have type := icmpFrame_type config buffer (echoReq packet outInterface)
  have code := echoFrame_header config buffer packet outInterface (i := icmpHdrOffset + 1)
    (by decide)
  exact EchoMessage.ext type code rfl rfl rfl

theorem echoFrame_parseEcho (formed : WellFormedEcho packet) :
    parseEcho (echoFrame config buffer packet outInterface).packet
        (echoFrame config buffer packet outInterface).len.toNat =
      some { packet.echoMessage with type := icmpEchoReply, code := 0 } := by
  have header : ∀ i, i < 16 ∨ 18 ≤ i ∧ i < 24 ∨ 26 ≤ i ∧ i < 36 → _ := fun i =>
    echoFrame_header config buffer packet outInterface (i := i)
  have ethtype : (echoFrame config buffer packet outInterface).packet.ethtype = htons ethTypeIp :=
    load16_congr (header 12 (by decide)) (header 13 (by decide))
  have version : (echoFrame config buffer packet outInterface).packet.version = 4 := by
    unfold version
    rw [echoFrame_version]
    rfl
  have words :
      ipv4HdrLenMin ≤ 4 * (echoFrame config buffer packet outInterface).packet.ihl.toNat := by
    rw [echoFrame_ihl]
    decide
  have protocol : (echoFrame config buffer packet outInterface).packet.protocol =
      ipv4ProtoIcmp := header 23 (by decide)
  have fits : EchoFits (echoFrame config buffer packet outInterface).packet := by
    unfold EchoFits
    rw [echoFrame_totLen, echoFrame_ihl]
    exact Nat.le_add_right _ _
  have len : (echoFrame config buffer packet outInterface).len.toNat = ipv4HdrOffset +
      (htons (echoFrame config buffer packet outInterface).packet.totLen).toNat := by
    rw [echoFrame_len, echoFrame_totLen]
    exact Nat.add_assoc 14 28 _
  rw [parseEcho, if_pos ⟨ethtype, version, words, protocol, fits, len⟩,
    echoFrame_echoMessage config buffer packet outInterface formed]

theorem echoFrame_address {n : Nat} (address : 26 ≤ n ∧ n ≤ 30) :
    (echoFrame config buffer packet outInterface).packet.load32 n =
      (icmpFrameHeaders config buffer (echoReq packet outInterface)).load32 n := by
  have header : ∀ i, 26 ≤ i ∧ i < 34 → (icmpFrame config buffer (echoReq packet
      outInterface)).packet i = icmpFrameHeaders config buffer (echoReq packet outInterface) i :=
    fun i inside => echoFrame_header config buffer packet outInterface (by omega)
  exact load32_congr (load16_congr (header n (by omega)) (header (n + 1) (by omega)))
    (load16_congr (header (n + 2) (by omega)) (header (n + 2 + 1) (by omega)))

theorem icmpFrameHeaders_srcIp (req : IcmpReq interfaces) :
    (icmpFrameHeaders config buffer req).srcIp = (config.interface req.outInterface).ip := by
  have kept : ∀ (built : Packet) (bytes : List UInt8T) (type code : UInt8T), ∀ i < 30,
      (((built.storeBytes dstIpOffset bytes).store8 icmpHdrOffset type).store8
        (icmpHdrOffset + 1) code) i = built i := by
    intro built bytes type code i below
    have notType : i ≠ icmpHdrOffset := Nat.ne_of_lt (Nat.lt_trans below (by decide))
    have notCode : i ≠ icmpHdrOffset + 1 := Nat.ne_of_lt (Nat.lt_trans below (by decide))
    rw [store8_of_ne _ _ notCode, store8_of_ne _ _ notType]
    exact storeBytes_of_lt _ _ below
  have address : ∀ (built : Packet) (bytes : List UInt8T) (type code : UInt8T),
      (((built.storeBytes dstIpOffset bytes).store8 icmpHdrOffset type).store8
        (icmpHdrOffset + 1) code).srcIp = built.srcIp := fun _ _ _ _ =>
    load32_congr (load16_congr (kept _ _ _ _ 26 (by decide)) (kept _ _ _ _ 27 (by decide)))
      (load16_congr (kept _ _ _ _ 28 (by decide)) (kept _ _ _ _ 29 (by decide)))
  exact (address _ _ _ _).trans (load32_store32 _ _ _)

theorem icmpFrameHeaders_dstIp :
    (icmpFrameHeaders config buffer (echoReq packet outInterface)).dstIp = packet.srcIp := rfl

theorem echoFrame_checksumsVerify (software : config.networkHwHasChecksum = false) :
    ChecksumsVerify (echoFrame config buffer packet outInterface).packet := by
  have len := echoFramePayload_len packet outInterface
    (icmpFrameHeaders config buffer (echoReq packet outInterface))
  have long : ipv4HdrLenMin + icmpCommonHdrLen ≤ (icmpFramePayload (icmpFrameHeaders config buffer
      (echoReq packet outInterface)) (echoReq packet outInterface)).2.toNat := by
    rw [len]
    exact Nat.le_add_right_of_le (by decide)
  obtain ⟨header, message⟩ := icmpFrame_verify config buffer _ software long
  rw [len, Nat.add_assoc, Nat.add_sub_cancel_left] at message
  constructor
  · rw [echoFrame_ihl]
    exact header
  · rw [echoFrame_transportLayerOffset, echoFrame_declaredTransport]
    exact message

theorem echoFrame_replyTo (formed : WellFormedEcho packet) :
    EchoReplyTo config packet outInterface (echoFrame config buffer packet outInterface) where
  interface := rfl
  ethdstAddr := by
    funext i
    have inside : i.val < 6 := i.isLt
    refine (echoFrame_header config buffer packet outInterface (Or.inl ?_)).trans ?_
    · show 0 + i.val < 16
      omega
    · fin_cases i <;> rfl
  ethsrcAddr := by
    funext i
    have inside : i.val < 6 := i.isLt
    refine (echoFrame_header config buffer packet outInterface (Or.inl ?_)).trans ?_
    · show 6 + i.val < 16
      omega
    · fin_cases i <;> rfl
  dstIp := (echoFrame_address config buffer packet outInterface (by decide)).trans
    (icmpFrameHeaders_dstIp config buffer packet outInterface)
  srcIp := (echoFrame_address config buffer packet outInterface (by decide)).trans
    (icmpFrameHeaders_srcIp config buffer (echoReq packet outInterface))
  message := echoFrame_parseEcho config buffer packet outInterface formed
  checksums := echoFrame_checksumsVerify config buffer packet outInterface

/-- Where a well-formed echo request is accepted into the queue, the module makes the reply to it
of what was enqueued, in whatever transmit buffer. -/
theorem echo_reply_round_trip {icmpQueue : FwQueue (IcmpReq interfaces)}
    (formed : WellFormedEcho packet)
    (accepted : (icmpEnqueueEchoReply icmpQueue packet outInterface).1 = true) :
    ∃ req, (icmpEnqueueEchoReply icmpQueue packet outInterface).2.entries =
        icmpQueue.entries ++ [req] ∧
      ∀ config buffer, ∃ frame, processIcmpRequest config (some buffer) req = some frame ∧
        EchoReplyTo config packet outInterface frame := by
  have enqueued : (icmpEnqueueEchoReply icmpQueue packet outInterface).2.entries =
      icmpQueue.entries ++ [echoReq packet outInterface] := by
    have room : (fwEnqueue icmpQueue (echoReq packet outInterface)).isSome = true := accepted
    obtain ⟨next, result⟩ := Option.isSome_iff_exists.mp room
    show ((fwEnqueue icmpQueue (echoReq packet outInterface)).getD icmpQueue).entries = _
    rw [result]
    exact (fwEnqueue_eq_some.mp result).1
  refine ⟨echoReq packet outInterface, enqueued, fun config buffer => ?_⟩
  exact ⟨_, echoFrame_sent config buffer packet outInterface enqueued,
    echoFrame_replyTo config buffer packet outInterface formed⟩

/-- A request with three bytes of payload, an odd number. -/
def oddEcho : Packet := fun i =>
  match i with
  | 12 => 0x08
  | 14 => 0x45
  | 17 => 31
  | 23 => ipv4ProtoIcmp
  | 34 => icmpEchoReq
  | 42 => 1
  | 43 => 2
  | 44 => 3
  | _ => 0

theorem oddEcho_reply_round_trip :
    ∃ req, (icmpEnqueueEchoReply (FwQueue.empty 1) oddEcho (0 : Fin 1)).2.entries = [req] ∧
      ∀ config buffer, ∃ frame, processIcmpRequest config (some buffer) req = some frame ∧
        EchoReplyTo config oddEcho 0 frame :=
  echo_reply_round_trip oddEcho 0 ⟨by decide, by decide, by decide⟩ rfl

end LionsOS.Firewall
