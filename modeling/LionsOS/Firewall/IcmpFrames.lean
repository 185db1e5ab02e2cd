/-
This file says which bytes of an ICMP error message the module writes. The frame
is as long as its type says, and the quoted data is as long as the header of the
offending packet leaves for it, so the last bytes of a frame about a short packet
are what the transmit buffer held before.
-/

import LionsOS.Firewall.FrameBytes
import LionsOS.Firewall.IcmpCopies

namespace LionsOS.Firewall

open Set Packet

variable {interfaces : Nat}

/-! ### Error requests -/

/-- A request for an error message, with fields of the sizes that `icmp_req_t` gives them. -/
structure ErrorRequest (req : IcmpReq interfaces) (data : List UInt8T) : Prop where
  type : req.type = icmpDestUnreachable ∨ req.type = icmpTtlExceed
  carries : req.data = .dest data
  ethHdr : req.ethHdr.length = ipv4HdrOffset
  ipHdr : req.ipHdr.length = ipv4HdrLenMin
  size : data.length = fwIcmpSrcDataLen

/-- The quoted header declares all the bytes of transport data that a message has room for, or it
does not even cover itself, and the length that is copied wraps around. -/
def QuotesAllData (ipHdr : List UInt8T) : Prop :=
  let total := (htons (headerField ipHdr 2)).toNat
  let header := 4 * ((ipHdr.getD 0 0).setWidth 4 : BitVec 4).toNat
  header + fwIcmpSrcDataLen ≤ total ∨ total < header

theorem quotesAllData_iff (ipHdr : List UInt8T) :
    QuotesAllData ipHdr ↔ fwIcmpSrcDataLen ≤ icmpQuotedToCopy ipHdr := by
  have length : (4 * ((ipHdr.getD 0 0).setWidth 4 : BitVec 4).setWidth 8 : UInt8T).toNat =
      4 * ((ipHdr.getD 0 0).setWidth 4 : BitVec 4).toNat := by
    have four : (4 : UInt8T).toNat = 4 := rfl
    rw [BitVec.toNat_mul, BitVec.toNat_setWidth, four]
    omega
  unfold QuotesAllData icmpQuotedToCopy
  dsimp only
  unfold fwIcmpSrcDataLen at *
  omega

/-! ### What is written -/

variable (config : FwIcmpModuleConfig interfaces) {req : IcmpReq interfaces} {data : List UInt8T}

/-- The headers, without the total length of the packet and the checksums. -/
def headerPlaces : Set Nat :=
  {i | i < 16 ∨ 18 ≤ i ∧ i < 24 ∨ 26 ≤ i ∧ i < 36}

theorem icmpFrameHeaders_overwrites (ethHdr : req.ethHdr.length = ipv4HdrOffset)
    (ipHdr : req.ipHdr.length = ipv4HdrLenMin) :
    Overwrites ∅ headerPlaces fun buffer => icmpFrameHeaders config buffer req := by
  have macLength : ((req.ethHdr.drop ethHwaddrLen).take ethHwaddrLen).length = 6 := by
    rw [List.length_take, List.length_drop, ethHdr]
    rfl
  have ipLength : ((req.ipHdr.drop 12).take 4).length = 4 := by
    rw [List.length_take, List.length_drop, ipHdr]
    rfl
  have ethernet := ((storeBytes_overwrites ethdstAddrOffset
    ((req.ethHdr.drop ethHwaddrLen).take ethHwaddrLen)).andThen
    (storeMac_overwrites ethsrcAddrOffset (config.interface req.outInterface).macAddr)).andThen
    (store16_overwrites ethtypeOffset (htons ethTypeIp))
  have version := ((ethernet.andThen (store8_overwrites ipv4HdrOffset 0x45)).andThen
    (store8_overwrites (ipv4HdrOffset + 1) (ipv4DscpNetCtrl <<< 2))).andThen
    (store16_overwrites (ipv4HdrOffset + 4) 0)
  have fragment := (version.andThen (store8_overwrites (ipv4HdrOffset + 6) 0x40)).andThen
    (store8_overwrites (ipv4HdrOffset + 7) 0)
  have addresses := (((fragment.andThen (store8_overwrites ttlOffset 64)).andThen
    (store8_overwrites protocolOffset ipv4ProtoIcmp)).andThen
    (store32_overwrites srcIpOffset (config.interface req.outInterface).ip)).andThen
    (storeBytes_overwrites dstIpOffset ((req.ipHdr.drop 12).take 4))
  have icmp := (addresses.andThen (store8_overwrites icmpHdrOffset req.type)).andThen
    (store8_overwrites (icmpHdrOffset + 1) req.code)
  refine icmp.congr ?_
  rw [macLength]
  ext i
  simp only [ethdstAddrOffset, ethsrcAddrOffset, ethtypeOffset, ethHwaddrLen,
    ipv4HdrOffset, ttlOffset, protocolOffset, srcIpOffset,
    dstIpOffset, icmpHdrOffset, ipv4HdrLenMin, headerPlaces, mem_union, mem_Ico]
  rw [mem_ofPred_eq]
  omega

/-- How much of the data of an error message is written. -/
def quotedLen (req : IcmpReq interfaces) : Nat :=
  min (icmpQuotedToCopy req.ipHdr) fwIcmpSrcDataLen

section

variable (request : ErrorRequest req data)
include request

theorem icmpFramePayload_overwrites :
    Overwrites ∅ (headerPlaces ∪ Ico icmpPayloadOffset (icmpQuotedDataOffset + quotedLen req))
      fun buffer => (icmpFramePayload (icmpFrameHeaders config buffer req) req).1 := by
  have quoted : (data.take (icmpQuotedToCopy req.ipHdr)).length = quotedLen req := by
    rw [List.length_take, request.size]
    rfl
  have unused := (icmpFrameHeaders_overwrites config request.ethHdr request.ipHdr).andThen
    (store32_overwrites icmpPayloadOffset 0)
  have header := unused.andThen (storeBytes_overwrites icmpQuotedHdrOffset req.ipHdr)
  have written := header.andThen (storeBytes_overwrites icmpQuotedDataOffset
    (data.take (icmpQuotedToCopy req.ipHdr)))
  have same : (fun buffer => (icmpFramePayload (icmpFrameHeaders config buffer req) req).1) =
      fun buffer => (((icmpFrameHeaders config buffer req).store32 icmpPayloadOffset 0).storeBytes
        icmpQuotedHdrOffset req.ipHdr).storeBytes icmpQuotedDataOffset
          (data.take (icmpQuotedToCopy req.ipHdr)) := by
    funext buffer
    rw [icmpFramePayload, request.carries]
  rw [same]
  refine written.congr ?_
  rw [request.ipHdr, union_assoc, union_assoc]
  congr 1
  ext i
  simp only [icmpQuotedDataOffset, icmpQuotedHdrOffset, icmpPayloadOffset, icmpHdrOffset,
    ipv4HdrLenMin, mem_union, mem_Ico]
  omega

theorem icmpFramePayload_len (packet : Packet) :
    (icmpFramePayload packet req).2 = BitVec.ofNat 16 (ipv4HdrLenMin + icmpDestLen) := by
  rw [icmpFramePayload, request.carries]
  rcases request.type with type | type <;> rw [type] <;> rfl

theorem icmpFrame_len (buffer : Packet) :
    (icmpFrame config buffer req).len.toNat = icmpQuotedDataOffset + fwIcmpSrcDataLen := by
  show ((icmpFramePayload (icmpFrameHeaders config buffer req) req).2 + _).toNat = _
  rw [icmpFramePayload_len request]
  rfl

/-- The bytes of an error message before the checksums are written. -/
def uncheckedPlaces (req : IcmpReq interfaces) : Set Nat :=
  headerPlaces ∪ Ico icmpPayloadOffset (icmpQuotedDataOffset + quotedLen req) ∪
    Ico totLenOffset (totLenOffset + 2)

/-- A frame is written as far as the quoted data goes, where the checksums know what they are
over. -/
theorem icmpFrame_overwrites {known : Set Nat}
    (enough : checkedPlaces (BitVec.ofNat 16 (ipv4HdrLenMin + icmpDestLen)) ⊆
      known ∪ uncheckedPlaces req) :
    Overwrites known (Iio (icmpQuotedDataOffset + quotedLen req)) fun buffer =>
      (icmpFrame config buffer req).packet := by
  have same : (fun buffer => (icmpFrame config buffer req).packet) = fun buffer =>
      icmpFrameChecksums config ((icmpFramePayload (icmpFrameHeaders config buffer req)
        req).1.store16 totLenOffset (htons (BitVec.ofNat 16 (ipv4HdrLenMin + icmpDestLen))))
        (BitVec.ofNat 16 (ipv4HdrLenMin + icmpDestLen)) := by
    funext buffer
    rw [icmpFrame_packet, icmpFramePayload_len request]
  have unchecked := ((icmpFramePayload_overwrites config request).andThen
    (store16_overwrites totLenOffset
      (htons (BitVec.ofNat 16 (ipv4HdrLenMin + icmpDestLen))))).mono (empty_subset known)
  rw [same]
  refine (unchecked.comp (icmpFrameChecksums_overwrites config _) enough).congr ?_
  ext i
  simp only [headerPlaces, checkPlaces, icmpQuotedDataOffset, icmpQuotedHdrOffset,
    icmpPayloadOffset, icmpHdrOffset, icmpCheckOffset, icmpCommonHdrLen, totLenOffset,
    checkOffset, ipv4HdrOffset, ipv4HdrLenMin, mem_union, mem_Ico, mem_Iio]
  rw [mem_ofPred_eq]
  omega

end

theorem checkedPlaces_subset (all : quotedLen req = fwIcmpSrcDataLen) :
    checkedPlaces (BitVec.ofNat 16 (ipv4HdrLenMin + icmpDestLen)) ⊆ uncheckedPlaces req := by
  have len : (BitVec.ofNat 16 (ipv4HdrLenMin + icmpDestLen)).toNat = 56 := rfl
  rintro i ⟨inside, outside⟩
  rw [len] at inside
  unfold uncheckedPlaces
  rw [all]
  simp only [headerPlaces, checkPlaces, icmpQuotedDataOffset, icmpQuotedHdrOffset,
    icmpPayloadOffset, icmpHdrOffset, icmpCheckOffset, icmpCommonHdrLen, totLenOffset,
    checkOffset, ipv4HdrOffset, ipv4HdrLenMin, fwIcmpSrcDataLen, mem_union, mem_Ico]
    at inside outside ⊢
  rw [mem_ofPred_eq]
  omega

/-! ### Determined frames -/

/-- What two frames hand to the driver is the same. -/
structure SameFrame (first second : IcmpFrame interfaces) : Prop where
  outInterface : first.outInterface = second.outInterface
  len : first.len = second.len
  bytes : ∀ i < first.len.toNat, first.packet i = second.packet i

/-- The frame for an error request is determined by the request and the configuration exactly
where the request quotes all the data that the frame has room for. -/
theorem icmp_error_frame_determined_iff (request : ErrorRequest req data) :
    (∀ first second frame other, processIcmpRequest config (some first) req = some frame →
        processIcmpRequest config (some second) req = some other → SameFrame frame other) ↔
      QuotesAllData req.ipHdr := by
  have sent : ∀ buffer, processIcmpRequest config (some buffer) req =
      some (icmpFrame config buffer req) := by
    intro buffer
    refine if_neg fun unsupported => ?_
    rcases request.type with type | type
    · exact unsupported.1 type
    · exact unsupported.2.2 type
  rw [quotesAllData_iff]
  constructor
  · intro determined
    by_contra short
    have written : Overwrites univ _ fun buffer => (icmpFrame config buffer req).packet :=
      icmpFrame_overwrites config request ((subset_univ _).trans subset_union_left)
    have last : icmpQuotedDataOffset + quotedLen req < icmpQuotedDataOffset + fwIcmpSrcDataLen := by
      unfold quotedLen
      omega
    have same := (determined (fun _ => 0) (fun _ => 1) _ _ (sent _) (sent _)).bytes
      (icmpQuotedDataOffset + quotedLen req) (by rwa [icmpFrame_len config request])
    rw [written.kept _ _ (Nat.lt_irrefl _), written.kept _ _ (Nat.lt_irrefl _)] at same
    exact absurd same (by decide)
  · intro all first second frame other firstSent secondSent
    have quoted : quotedLen req = fwIcmpSrcDataLen := Nat.min_eq_right all
    have written : Overwrites ∅ _ fun buffer => (icmpFrame config buffer req).packet :=
      icmpFrame_overwrites config request ((checkedPlaces_subset quoted).trans subset_union_right)
    rw [sent, Option.some.injEq] at firstSent secondSent
    subst firstSent secondSent
    refine ⟨rfl, ?_, fun i below => ?_⟩
    · exact BitVec.eq_of_toNat_eq ((icmpFrame_len config request first).trans
        (icmpFrame_len config request second).symm)
    · refine (written.place_determined_iff i).mpr ?_ first second
      rw [icmpFrame_len config request] at below
      rw [quoted]
      exact below

/-! ### A short packet -/

def hardwareChecksums : FwIcmpModuleConfig 1 where
  interface _ := { macAddr := fun _ => 0, ip := 0 }
  networkHwHasChecksum := true

/-- A packet of 24 bytes, of which 20 are its header. -/
def shortPacket : Packet := fun i =>
  match i with
  | 14 => 0x45
  | 17 => 24
  | _ => 0

/-- The request for a message that the packet's time to live ran out. -/
def shortRequest : IcmpReq 1 where
  type := icmpTtlExceed
  code := icmpTimeExceededTtl
  outInterface := 0
  ethHdr := shortPacket.copy 0 ipv4HdrOffset
  ipHdr := shortPacket.copy ipv4HdrOffset ipv4HdrLenMin
  data := .dest (shortPacket.copyZeroPadded icmpHdrOffset 4 fwIcmpSrcDataLen)

theorem shortRequest_errorRequest :
    ErrorRequest shortRequest (shortPacket.copyZeroPadded icmpHdrOffset 4 fwIcmpSrcDataLen) where
  type := Or.inr rfl
  carries := rfl
  ethHdr := rfl
  ipHdr := rfl
  size := rfl

theorem shortRequest_frame_determined_iff :
    (∀ first second frame other,
        processIcmpRequest hardwareChecksums (some first) shortRequest = some frame →
        processIcmpRequest hardwareChecksums (some second) shortRequest = some other →
        SameFrame frame other) ↔ QuotesAllData shortRequest.ipHdr :=
  icmp_error_frame_determined_iff hardwareChecksums shortRequest_errorRequest

/-- The last four bytes of its frame are what the transmit buffer held. -/
theorem short_frame_not_determined :
    ¬ ∀ (config : FwIcmpModuleConfig 1) (req : IcmpReq 1) (data : List UInt8T),
      ErrorRequest req data → ∀ first second frame other,
        processIcmpRequest config (some first) req = some frame →
        processIcmpRequest config (some second) req = some other → SameFrame frame other := by
  intro claimed
  have same := claimed hardwareChecksums shortRequest _ shortRequest_errorRequest (fun _ => 0)
    (fun _ => 1) _ _ rfl rfl
  exact absurd (same.bytes 69 (by decide)) (by decide)

end LionsOS.Firewall
