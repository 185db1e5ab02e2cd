/-
This file proves that the receive virtualiser keeps every buffer in one place. An IO
address that is passed on as an offset is the same when it is translated back, so the
addresses that the driver was given at first are at all times spread over the queues,
the driver and the clients, each once. As every queue has an entry for each of them, no
assertion fails; and what clients free is either still in one of their queues or has
been returned to the driver.
-/

import LionsOS.Firewall.VirtRx
import LionsOS.Lib.Places

namespace LionsOS.Firewall

open StepRun VirtRxConfig Multiset

/-! ### The client that gets a packet -/

/-- The traffic of a client is what a packet is: ARP of an opcode, or IPv4 of a protocol. -/
def RxClient.IsFor (client : RxClient) (packet : Packet) : Prop :=
  client.ethtype = htons packet.ethtype ∧
    (client.ethtype = ethTypeArp ∧ client.subtype = htons packet.arpOpcode ∨
      client.ethtype = ethTypeIp ∧ client.subtype = packet.protocol.setWidth 16)

theorem RxClient.gets_iff_isFor {client : RxClient} {packet : Packet} :
    client.gets packet = true ↔ client.IsFor packet := by
  unfold gets IsFor
  by_cases same : client.ethtype = htons packet.ethtype
  · rw [if_neg (not_not_intro same), ← same, and_iff_right rfl]
    by_cases arp : client.ethtype = ethTypeArp
    · rw [if_pos arp, beq_iff_eq, and_iff_right arp]
      refine ⟨Or.inl, Or.rec id fun ip => ?_⟩
      exact absurd (arp.symm.trans ip.1) (by decide)
    · rw [if_neg arp, or_iff_right fun isArp => arp isArp.1]
      by_cases ip : client.ethtype = ethTypeIp
      · rw [if_pos ip, beq_iff_eq, and_iff_right ip]
      · rw [if_neg ip]
        exact iff_of_false Bool.false_ne_true fun isIp => ip isIp.1
  · rw [if_pos same]
    exact iff_of_false Bool.false_ne_true fun isFor => same isFor.1

namespace VirtRxConfig

variable {config : VirtRxConfig} {packet : Packet} {client : Fin config.numClients} {ioAddr : Nat}

/-- The first client that a packet is for, in the order of the configuration. -/
structure First (config : VirtRxConfig) (packet : Packet) (client : Fin config.numClients) :
    Prop where
  isFor : (config.traffic client).IsFor packet
  earlier : ∀ other < client, ¬ (config.traffic other).IsFor packet

theorem first_of_protocolMatch (matched : config.protocolMatch packet = some client) :
    config.First packet client := by
  obtain ⟨index, found, same⟩ := Option.bind_eq_some_iff.mp matched
  split_ifs at same with within
  cases same
  obtain ⟨inside, gets, earlier⟩ := List.findIdx?_eq_some_iff_getElem.mp found
  rw [List.getElem_ofFn] at gets
  refine ⟨RxClient.gets_iff_isFor.mp gets, fun other before isFor => ?_⟩
  have notBefore := earlier other before
  rw [List.getElem_ofFn] at notBefore
  exact notBefore (RxClient.gets_iff_isFor.mpr isFor)

theorem not_isFor_of_protocolMatch (unmatched : config.protocolMatch packet = none)
    (client : Fin config.numClients) : ¬ (config.traffic client).IsFor packet := by
  intro isFor
  have gets := RxClient.gets_iff_isFor.mpr isFor
  cases found : getProtocolMatch (List.ofFn config.traffic) packet with
  | none =>
    refine absurd gets (List.findIdx?_eq_none_iff.mp found _ ?_ ▸ Bool.false_ne_true)
    exact List.mem_ofFn.mpr ⟨client, rfl⟩
  | some index =>
    obtain ⟨inside, _, _⟩ := List.findIdx?_eq_some_iff_getElem.mp found
    rw [List.length_ofFn] at inside
    rw [protocolMatch, found, Option.bind_some, dif_pos inside] at unmatched
    cases unmatched

/-! ### Addresses and offsets -/

theorem toOffset_lt (ioAddr : Nat) : config.toOffset ioAddr < 2 ^ 64 :=
  BitVec.isLt _

theorem toIoAddr_lt (offset : Nat) : config.toIoAddr offset < 2 ^ 64 :=
  BitVec.isLt _

theorem toIoAddr_toOffset (small : ioAddr < 2 ^ 64) :
    config.toIoAddr (config.toOffset ioAddr) = ioAddr := by
  unfold toIoAddr toOffset
  rw [BitVec.ofNat_toNat, BitVec.setWidth_eq, BitVec.sub_add_cancel, BitVec.toNat_ofNat,
    Nat.mod_eq_of_lt small]

theorem toIoAddr_inj {first second : Nat} (smallFirst : first < 2 ^ 64)
    (smallSecond : second < 2 ^ 64) (same : config.toIoAddr first = config.toIoAddr second) :
    first = second := by
  have words := (BitVec.add_left_inj config.ioAddr).mp (BitVec.eq_of_toNat_eq same)
  have values := congrArg BitVec.toNat words
  rwa [BitVec.toNat_ofNat, BitVec.toNat_ofNat, Nat.mod_eq_of_lt smallFirst,
    Nat.mod_eq_of_lt smallSecond] at values

theorem offsetOf_lt {index : Nat} (inside : index < config.numBuffers.toNat) :
    offsetOf index < 2 ^ 64 := by
  unfold offsetOf netBufferSize
  omega

theorem length_ioAddrs : config.ioAddrs.length = config.numBuffers.toNat := by
  rw [ioAddrs, List.length_map, List.length_range]

theorem nodup_ioAddrs : config.ioAddrs.Nodup := by
  refine List.nodup_range.map_on fun first firstIn second secondIn same => ?_
  have offsets := toIoAddr_inj (offsetOf_lt (List.mem_range.mp firstIn))
    (offsetOf_lt (List.mem_range.mp secondIn)) same
  exact Nat.eq_of_mul_eq_mul_right (by decide) offsets

theorem lt_of_mem_ioAddrs (member : ioAddr ∈ config.ioAddrs) : ioAddr < 2 ^ 64 := by
  obtain ⟨index, _, rfl⟩ := List.mem_map.mp member
  exact toIoAddr_lt _

theorem asserted_of_mem_ioAddrs {offset capacity : Nat} (small : offset < 2 ^ 64)
    (member : config.toIoAddr offset ∈ config.ioAddrs)
    (room : config.numBuffers.toNat ≤ capacity) : VirtRxSystem.Asserted capacity offset := by
  obtain ⟨index, inRange, same⟩ := List.mem_map.mp member
  have inside := List.mem_range.mp inRange
  cases toIoAddr_inj (offsetOf_lt inside) small same
  refine ⟨Nat.mul_mod_left _ _, ?_⟩
  rw [offsetOf, Nat.mul_comm]
  exact Nat.mul_lt_mul_of_pos_left (inside.trans_le room) (by decide)

end VirtRxConfig

/-! ### What the queues hold -/

variable {config : VirtRxConfig} {system next : VirtRxSystem config} {queue : RxQueue config}
  {buffer : NetBuffDesc} {len : UInt16T}

/-- The IO address of a buffer in a queue. -/
def RxQueue.ioAddrIn (buffer : NetBuffDesc) : RxQueue config → Nat
  | .drvActive | .drvFree => buffer.ioOrOffset
  | _ => config.toIoAddr buffer.ioOrOffset

/-- The IO address of a buffer that a client has freed. -/
def RxQueue.freedIn (buffer : NetBuffDesc) : RxQueue config → Multiset Nat
  | .clientFree _ | .fwFree _ => {config.toIoAddr buffer.ioOrOffset}
  | _ => 0

namespace VirtRxSystem

/-- What the buffers of all queues count for together. -/
def gathered (measure : RxQueue config → NetBuffDesc → Multiset Nat)
    (system : VirtRxSystem config) : Multiset Nat :=
  Places.total fun queue => ((system.queues queue).entries.map (measure queue)).sum

/-- The IO addresses in the queues. -/
def inQueues (system : VirtRxSystem config) : Multiset Nat :=
  system.gathered fun queue buffer => {queue.ioAddrIn buffer}

/-- The IO addresses that were freed and are not with the driver yet. -/
def waiting (system : VirtRxSystem config) : Multiset Nat :=
  system.gathered fun queue buffer => queue.freedIn buffer

/-- The IO addresses of all places: the queues, the driver and the clients. -/
def everywhere (system : VirtRxSystem config) : Multiset Nat :=
  system.inQueues + system.driverHolds + system.clientsHold.map config.toIoAddr

/-- Only the queues are changed, and none of them in its capacity. -/
structure OnlyQueues (system next : VirtRxSystem config) : Prop where
  capacity : ∀ queue, (next.queues queue).capacity = (system.queues queue).capacity
  region : next.region = system.region
  driverHolds : next.driverHolds = system.driverHolds
  clientsHold : next.clientsHold = system.clientsHold
  freed : next.freed = system.freed
  returned : next.returned = system.returned
  failure : next.failure = system.failure

/-- The first buffer of a queue is taken out. -/
structure Dequeued (system : VirtRxSystem config) (queue : RxQueue config) (buffer : NetBuffDesc)
    (next : VirtRxSystem config) : Prop extends OnlyQueues system next where
  entries : (system.queues queue).entries = buffer :: (next.queues queue).entries
  others : ∀ other, other ≠ queue → next.queues other = system.queues other

/-- A buffer is put in a queue. -/
structure Enqueued (system : VirtRxSystem config) (queue : RxQueue config) (buffer : NetBuffDesc)
    (next : VirtRxSystem config) : Prop extends OnlyQueues system next where
  entries : (next.queues queue).entries = (system.queues queue).entries ++ [buffer]
  others : ∀ other, other ≠ queue → next.queues other = system.queues other

theorem setQueue_self (changed : FwQueue NetBuffDesc) :
    (system.setQueue queue changed).queues queue = changed :=
  Function.update_self _ _ _

theorem setQueue_of_ne {other : RxQueue config} (different : other ≠ queue)
    (changed : FwQueue NetBuffDesc) :
    (system.setQueue queue changed).queues other = system.queues other :=
  Function.update_of_ne different _ _

theorem onlyQueues_setQueue {changed : FwQueue NetBuffDesc}
    (same : changed.capacity = (system.queues queue).capacity) :
    OnlyQueues system (system.setQueue queue changed) := by
  refine ⟨fun other => ?_, rfl, rfl, rfl, rfl, rfl, rfl⟩
  by_cases here : other = queue
  · rw [here, setQueue_self, same]
  · rw [setQueue_of_ne here]

theorem dequeued_of_dequeue (taken : system.dequeue queue = some (buffer, next)) :
    Dequeued system queue buffer next := by
  obtain ⟨⟨first, rest⟩, dequeued, same⟩ := Option.map_eq_some_iff.mp taken
  cases same
  obtain ⟨entries, capacity⟩ := fwDequeue_eq_some.mp dequeued
  exact ⟨onlyQueues_setQueue capacity, by rw [setQueue_self, entries],
    fun other different => setQueue_of_ne different _⟩

theorem enqueued_of_offer (offered : system.offer queue buffer = some next) :
    Enqueued system queue buffer next := by
  obtain ⟨longer, enqueued, rfl⟩ := Option.map_eq_some_iff.mp offered
  obtain ⟨entries, capacity⟩ := fwEnqueue_eq_some.mp enqueued
  exact ⟨onlyQueues_setQueue capacity, by rw [setQueue_self, entries],
    fun other different => setQueue_of_ne different _⟩

theorem enqueue_of_offer (offered : system.offer queue buffer = some next) :
    system.enqueue queue buffer = next := by
  rw [enqueue, offered, Option.getD_some]

theorem Dequeued.gathered (taken : Dequeued system queue buffer next)
    (measure : RxQueue config → NetBuffDesc → Multiset Nat) :
    system.gathered measure = next.gathered measure + measure queue buffer := by
  refine Places.total_remove queue (fun other different => ?_) ?_
  · rw [taken.others other different]
  · rw [taken.entries, List.map_cons, List.sum_cons, add_comm]

theorem Enqueued.gathered (put : Enqueued system queue buffer next)
    (measure : RxQueue config → NetBuffDesc → Multiset Nat) :
    next.gathered measure = system.gathered measure + measure queue buffer := by
  refine Places.total_add queue (fun other different => ?_) ?_
  · rw [put.others other different]
  · rw [put.entries, List.map_append, List.sum_append, List.map_singleton, List.sum_singleton]

theorem card_sum_singleton {Entry : Type} (entries : List Entry) (address : Entry → Nat) :
    ((entries.map fun entry => ({address entry} : Multiset Nat)).sum).card = entries.length := by
  induction entries with
  | nil => rfl
  | cons entry entries inductionHypothesis =>
    rw [List.map_cons, List.sum_cons, card_add, inductionHypothesis,
      card_singleton, List.length_cons, Nat.add_comm]

theorem length_le_card_inQueues (system : VirtRxSystem config) (queue : RxQueue config) :
    (system.queues queue).entries.length ≤ system.inQueues.card := by
  rw [← card_sum_singleton (system.queues queue).entries fun buffer => queue.ioAddrIn buffer]
  exact card_le_card (Places.le_total (fun queue => ((system.queues queue).entries.map
    fun buffer => {queue.ioAddrIn buffer}).sum) queue)

theorem offer_isSome (room : config.numBuffers.toNat ≤ (system.queues queue).capacity)
    (fewer : system.inQueues.card < config.numBuffers.toNat) (buffer : NetBuffDesc) :
    ∃ next, system.offer queue buffer = some next := by
  have short := (length_le_card_inQueues system queue).trans_lt (fewer.trans_le room)
  refine Option.isSome_iff_exists.mp ?_
  rw [offer, fwEnqueue, dif_pos short]
  rfl

/-! ### What every step keeps -/

/-- No assertion has failed, the IO addresses of the region are spread over all places, and those
that clients have freed are with the driver again or on their way. -/
structure Kept (system : VirtRxSystem config) : Prop where
  failure : system.failure = none
  capacity : ∀ queue, (system.queues queue).capacity = queue.capacity
  everywhere : system.everywhere = config.ioAddrs
  smallQueues : ∀ queue, ∀ buffer ∈ (system.queues queue).entries, buffer.ioOrOffset < 2 ^ 64
  smallClients : ∀ offset ∈ system.clientsHold, offset < 2 ^ 64
  freed : system.freed.map config.toIoAddr = system.returned + system.waiting

theorem room (queue : RxQueue config) : config.numBuffers.toNat ≤ queue.capacity := by
  cases queue with
  | drvActive => exact le_rfl
  | drvFree => exact le_rfl
  | clientActive client | clientFree client => exact config.room client
  | fwFree client => exact config.freeRoom client

variable {middle : VirtRxSystem config} {into : RxQueue config} {moved : NetBuffDesc}

theorem Dequeued.small (taken : Dequeued system queue buffer next)
    (small : ∀ queue, ∀ buffer ∈ (system.queues queue).entries, buffer.ioOrOffset < 2 ^ 64) :
    ∀ queue, ∀ buffer ∈ (next.queues queue).entries, buffer.ioOrOffset < 2 ^ 64 := by
  intro other held member
  refine small other held ?_
  by_cases here : other = queue
  · rw [here] at member ⊢
    rw [taken.entries]
    exact List.mem_cons_of_mem _ member
  · rw [← taken.others other here]
    exact member

theorem Enqueued.small (put : Enqueued system queue buffer next)
    (small : ∀ queue, ∀ buffer ∈ (system.queues queue).entries, buffer.ioOrOffset < 2 ^ 64)
    (smallBuffer : buffer.ioOrOffset < 2 ^ 64) :
    ∀ queue, ∀ buffer ∈ (next.queues queue).entries, buffer.ioOrOffset < 2 ^ 64 := by
  intro other held member
  by_cases here : other = queue
  · rw [here, put.entries] at member
    rcases List.mem_append.mp member with before | new
    · exact small queue held before
    · cases List.mem_singleton.mp new
      exact smallBuffer
  · rw [put.others other here] at member
    exact small other held member

theorem Kept.mem_ioAddrs (kept : system.Kept) (taken : Dequeued system queue buffer next) :
    queue.ioAddrIn buffer ∈ config.ioAddrs := by
  have inQueues : system.inQueues = next.inQueues + {queue.ioAddrIn buffer} := taken.gathered _
  rw [← mem_coe, ← kept.everywhere, VirtRxSystem.everywhere, inQueues]
  simp

theorem Kept.offer_isSome (kept : system.Kept) (taken : Dequeued system queue buffer middle)
    (into : RxQueue config) (moved : NetBuffDesc) :
    ∃ next, middle.offer into moved = some next := by
  have inQueues : system.inQueues = middle.inQueues + {queue.ioAddrIn buffer} := taken.gathered _
  refine VirtRxSystem.offer_isSome ?_ ?_ moved
  · rw [taken.capacity, kept.capacity]
    exact room into
  · have all := congrArg card kept.everywhere
    rw [VirtRxSystem.everywhere, inQueues, coe_card, length_ioAddrs] at all
    simp only [card_add, card_singleton] at all
    omega

/-- A buffer that moves from one queue to another is the same buffer. -/
theorem Kept.move (kept : system.Kept) (taken : Dequeued system queue buffer middle)
    (put : Enqueued middle into moved next) (same : into.ioAddrIn moved = queue.ioAddrIn buffer)
    (small : moved.ioOrOffset < 2 ^ 64) {returned : Multiset Nat}
    (frees : queue.freedIn buffer = into.freedIn moved + returned) :
    ({ next with returned := next.returned + returned } : VirtRxSystem config).Kept where
  failure := (put.failure.trans taken.failure).trans kept.failure
  capacity other := ((put.capacity other).trans (taken.capacity other)).trans (kept.capacity other)
  everywhere := by
    have out : system.inQueues = middle.inQueues + {queue.ioAddrIn buffer} := taken.gathered _
    have back : next.inQueues = middle.inQueues + {into.ioAddrIn moved} := put.gathered _
    show next.inQueues + next.driverHolds + next.clientsHold.map config.toIoAddr = _
    rw [back, same, ← out, put.driverHolds, taken.driverHolds, put.clientsHold, taken.clientsHold]
    exact kept.everywhere
  smallQueues := put.small (taken.small kept.smallQueues) small
  smallClients := by
    rw [put.clientsHold, taken.clientsHold]
    exact kept.smallClients
  freed := by
    have out : system.waiting = middle.waiting + queue.freedIn buffer := taken.gathered _
    have back : next.waiting = middle.waiting + into.freedIn moved := put.gathered _
    show next.freed.map config.toIoAddr = next.returned + returned + next.waiting
    rw [back, put.freed, taken.freed, put.returned, taken.returned, kept.freed, out, frees]
    ac_rfl

/-! ### Turns of the virtualiser -/

/-- One buffer is taken out of a queue and put into another, and no other queue is changed. -/
structure Passed (system : VirtRxSystem config) (queue : RxQueue config) (buffer : NetBuffDesc)
    (into : RxQueue config) (moved : NetBuffDesc) (next : VirtRxSystem config) : Prop where
  out : (system.queues queue).entries = buffer :: (next.queues queue).entries
  arrived : (next.queues into).entries = (system.queues into).entries ++ [moved]
  others : ∀ other, other ≠ queue → other ≠ into → next.queues other = system.queues other

/-- The first buffer that the driver has filled goes to the first client that its packet is for, as
the offset of its address, or back to the driver if there is no such client. -/
def Handed (system next : VirtRxSystem config) : Prop :=
  ∃ buffer, let offset := config.toOffset buffer.ioOrOffset
    let packet := system.region.advance offset
    let len := if config.promiscuous then buffer.len - 4 else buffer.len
    config.toIoAddr offset = buffer.ioOrOffset ∧
      ((∃ client, config.First packet client ∧
          Passed system .drvActive buffer (.clientActive client) ⟨offset, len⟩ next) ∨
        (∀ client, ¬ (config.traffic client).IsFor packet) ∧
          Passed system .drvActive buffer .drvFree ⟨buffer.ioOrOffset, len⟩ next)

/-- The first buffer that a client has freed goes to the driver, as the address of its offset. -/
def Provided (queue : RxQueue config) (system next : VirtRxSystem config) : Prop :=
  ∃ buffer, let ioAddr := config.toIoAddr buffer.ioOrOffset
    ioAddr ∈ config.ioAddrs ∧ next.returned = system.returned + {ioAddr} ∧
      Passed system queue buffer .drvFree ⟨ioAddr, buffer.len⟩ next

theorem passed_of_parts (different : queue ≠ into) (taken : Dequeued system queue buffer middle)
    (put : Enqueued middle into moved next) : Passed system queue buffer into moved next where
  out := by rw [taken.entries, put.others queue different]
  arrived := by rw [put.entries, taken.others into different.symm]
  others other notFrom notInto := (put.others other notInto).trans (taken.others other notFrom)

theorem kept_rxReturn (kept : system.Kept) (step : system.rxReturn = some next) :
    next.Kept ∧ Handed system next := by
  obtain ⟨⟨buffer, middle⟩, dequeued, same⟩ := Option.map_eq_some_iff.mp step
  have taken := dequeued_of_dequeue dequeued
  have back : config.toIoAddr (config.toOffset buffer.ioOrOffset) = buffer.ioOrOffset :=
    toIoAddr_toOffset (lt_of_mem_ioAddrs (kept.mem_ioAddrs taken))
  have small := lt_of_mem_ioAddrs (kept.mem_ioAddrs taken)
  dsimp only at same
  rw [taken.region] at same
  cases matched : config.protocolMatch
      (system.region.advance (config.toOffset buffer.ioOrOffset)) with
  | some client =>
    rw [matched] at same
    obtain ⟨reached, offered⟩ := kept.offer_isSome taken (.clientActive client)
      ⟨config.toOffset buffer.ioOrOffset, if config.promiscuous then buffer.len - 4 else buffer.len⟩
    have put := enqueued_of_offer offered
    have moved := kept.move taken put back (toOffset_lt _) (zero_add (0 : Multiset Nat)).symm
    rw [add_zero] at moved
    cases (enqueue_of_offer offered).symm.trans same
    refine ⟨moved, buffer, back, .inl ⟨client, first_of_protocolMatch matched, ?_⟩⟩
    exact passed_of_parts (fun impossible => by cases impossible) taken put
  | none =>
    rw [matched, back] at same
    obtain ⟨reached, offered⟩ := kept.offer_isSome taken .drvFree
      ⟨buffer.ioOrOffset, if config.promiscuous then buffer.len - 4 else buffer.len⟩
    have put := enqueued_of_offer offered
    have moved := kept.move taken put rfl small (zero_add (0 : Multiset Nat)).symm
    rw [add_zero] at moved
    cases (enqueue_of_offer offered).symm.trans same
    refine ⟨moved, buffer, back, .inr ⟨not_isFor_of_protocolMatch matched, ?_⟩⟩
    exact passed_of_parts (fun impossible => by cases impossible) taken put

/-- A queue that clients free buffers to. -/
structure RxQueue.Frees (queue : RxQueue config) : Prop where
  ioAddrIn : ∀ buffer, queue.ioAddrIn buffer = config.toIoAddr buffer.ioOrOffset
  freedIn : ∀ buffer, queue.freedIn buffer = {config.toIoAddr buffer.ioOrOffset}
  different : queue ≠ .drvFree

theorem frees_clientFree (client : Fin config.numClients) :
    RxQueue.Frees (RxQueue.clientFree client : RxQueue config) :=
  ⟨fun _ => rfl, fun _ => rfl, fun impossible => by cases impossible⟩

theorem frees_fwFree (client : Fin config.numFreeClients) :
    RxQueue.Frees (RxQueue.fwFree client : RxQueue config) :=
  ⟨fun _ => rfl, fun _ => rfl, fun impossible => by cases impossible⟩

theorem kept_provide (frees : RxQueue.Frees queue) (kept : system.Kept)
    (step : system.provide queue = some next) : next.Kept ∧ Provided queue system next := by
  obtain ⟨⟨buffer, middle⟩, dequeued, same⟩ := Option.map_eq_some_iff.mp step
  have taken := dequeued_of_dequeue dequeued
  have member := kept.mem_ioAddrs taken
  rw [frees.ioAddrIn] at member
  have small : buffer.ioOrOffset < 2 ^ 64 := by
    refine kept.smallQueues queue buffer ?_
    rw [taken.entries]
    exact List.mem_cons_self
  dsimp only at same
  rw [if_pos (asserted_of_mem_ioAddrs small member (room queue))] at same
  obtain ⟨reached, offered⟩ := kept.offer_isSome taken .drvFree
    ⟨config.toIoAddr buffer.ioOrOffset, buffer.len⟩
  have put := enqueued_of_offer offered
  rw [offered] at same
  cases same
  refine ⟨?_, buffer, member, ?_, ?_⟩
  · refine kept.move taken put (frees.ioAddrIn buffer).symm (toIoAddr_lt _) ?_
    rw [frees.freedIn]
    exact (zero_add _).symm
  · rw [← taken.returned, ← put.returned]
  · have passed := passed_of_parts frees.different taken put
    exact ⟨passed.out, passed.arrived, passed.others⟩

/-! ### Steps of the others -/

theorem kept_driverTake (kept : system.Kept) (step : system.driverTake = some next) :
    next.Kept := by
  obtain ⟨⟨buffer, middle⟩, dequeued, same⟩ := Option.map_eq_some_iff.mp step
  have taken := dequeued_of_dequeue dequeued
  have out : system.inQueues = middle.inQueues + {buffer.ioOrOffset} := taken.gathered _
  have waits : system.waiting = middle.waiting + 0 := taken.gathered _
  cases same
  refine ⟨taken.failure.trans kept.failure,
    fun other => (taken.capacity other).trans (kept.capacity other), ?_,
    taken.small kept.smallQueues, ?_, ?_⟩
  · rw [← kept.everywhere, everywhere, everywhere, out]
    show middle.inQueues + (middle.driverHolds + _) + middle.clientsHold.map _ = _
    rw [taken.driverHolds, taken.clientsHold]
    ac_rfl
  · rw [taken.clientsHold]
    exact kept.smallClients
  · show middle.freed.map _ = middle.returned + middle.waiting
    rw [taken.freed, taken.returned, kept.freed, waits, add_zero]

theorem kept_driverReceive {ioAddr : Nat} {region : Packet} (kept : system.Kept)
    (step : system.driverReceive ioAddr len region = some next) : next.Kept := by
  obtain ⟨holds, returned⟩ := Option.ite_none_right_eq_some.mp step
  obtain ⟨middle, offered, same⟩ := Option.map_eq_some_iff.mp returned
  have put := enqueued_of_offer offered
  have back : middle.inQueues = system.inQueues + {ioAddr} := put.gathered _
  have waits : middle.waiting = system.waiting + 0 := put.gathered _
  cases same
  have held : system.driverHolds = system.driverHolds.erase ioAddr + {ioAddr} := by
    rw [add_comm, singleton_add, cons_erase holds]
  have member : ioAddr ∈ config.ioAddrs := by
    rw [← mem_coe, ← kept.everywhere]
    exact mem_add.mpr (.inl (mem_add.mpr (.inr holds)))
  refine ⟨put.failure.trans kept.failure,
    fun other => (put.capacity other).trans (kept.capacity other), ?_,
    put.small kept.smallQueues (lt_of_mem_ioAddrs member), ?_, ?_⟩
  · rw [← kept.everywhere, everywhere, everywhere]
    show middle.inQueues + middle.driverHolds.erase _ + middle.clientsHold.map _ = _
    rw [back, put.driverHolds, put.clientsHold]
    conv_rhs => rw [held]
    ac_rfl
  · rw [put.clientsHold]
    exact kept.smallClients
  · show middle.freed.map _ = middle.returned + middle.waiting
    rw [put.freed, put.returned, kept.freed, waits, add_zero]

theorem kept_takeActive {client : Fin config.numClients} (kept : system.Kept)
    (step : system.takeActive client = some next) : next.Kept := by
  obtain ⟨⟨buffer, middle⟩, dequeued, same⟩ := Option.map_eq_some_iff.mp step
  have taken := dequeued_of_dequeue dequeued
  have out : system.inQueues = middle.inQueues + {config.toIoAddr buffer.ioOrOffset} :=
    taken.gathered _
  have waits : system.waiting = middle.waiting + 0 := taken.gathered _
  cases same
  refine ⟨taken.failure.trans kept.failure,
    fun other => (taken.capacity other).trans (kept.capacity other), ?_,
    taken.small kept.smallQueues, ?_, ?_⟩
  · rw [← kept.everywhere, everywhere, everywhere, out]
    show middle.inQueues + middle.driverHolds + (middle.clientsHold + _).map _ = _
    rw [taken.driverHolds, taken.clientsHold, map_add]
    ac_rfl
  · show ∀ offset ∈ middle.clientsHold + _, _
    rw [taken.clientsHold]
    intro offset member
    rcases mem_add.mp member with before | new
    · exact kept.smallClients offset before
    · rw [mem_singleton.mp new]
      refine kept.smallQueues (.clientActive client) buffer ?_
      rw [taken.entries]
      exact List.mem_cons_self
  · show middle.freed.map _ = middle.returned + middle.waiting
    rw [taken.freed, taken.returned, kept.freed, waits, add_zero]

theorem kept_freeBuffer {offset : Nat} (frees : RxQueue.Frees queue) (kept : system.Kept)
    (step : system.freeBuffer queue offset len = some next) : next.Kept := by
  obtain ⟨holds, returned⟩ := Option.ite_none_right_eq_some.mp step
  obtain ⟨middle, offered, same⟩ := Option.map_eq_some_iff.mp returned
  have put := enqueued_of_offer offered
  have back : middle.inQueues = system.inQueues + {config.toIoAddr offset} :=
    (put.gathered _).trans (by rw [frees.ioAddrIn]; rfl)
  have waits : middle.waiting = system.waiting + {config.toIoAddr offset} :=
    (put.gathered _).trans (by rw [frees.freedIn]; rfl)
  cases same
  have held : system.clientsHold = system.clientsHold.erase offset + {offset} := by
    rw [add_comm, singleton_add, cons_erase holds]
  refine ⟨put.failure.trans kept.failure,
    fun other => (put.capacity other).trans (kept.capacity other), ?_,
    put.small kept.smallQueues (kept.smallClients offset holds), ?_, ?_⟩
  · rw [← kept.everywhere, everywhere, everywhere]
    show middle.inQueues + middle.driverHolds + (middle.clientsHold.erase _).map _ = _
    rw [back, put.driverHolds, put.clientsHold]
    conv_rhs => rw [held, map_add, map_singleton]
    ac_rfl
  · rw [put.clientsHold]
    exact fun other member => kept.smallClients other (mem_of_mem_erase member)
  · show (middle.freed + _).map _ = middle.returned + middle.waiting
    rw [put.freed, put.returned, map_add, map_singleton, kept.freed, waits, add_assoc]

/-! ### Runs -/

theorem perform_of_kept (kept : system.Kept) (event : VirtRxEvent config) :
    system.perform event = system.act event :=
  if_neg (by rw [kept.failure]; exact Bool.false_ne_true)

theorem kept_step {event : VirtRxEvent config} (kept : system.Kept)
    (step : Step system event next) : next.Kept := by
  rw [Step, perform_of_kept kept] at step
  cases event with
  | driverTake => exact kept_driverTake kept step
  | driverReceive ioAddr len region => exact kept_driverReceive kept step
  | rxReturn => exact (kept_rxReturn kept step).1
  | takeActive client => exact kept_takeActive kept step
  | write region =>
    cases step
    exact ⟨kept.failure, kept.capacity, kept.everywhere, kept.smallQueues, kept.smallClients,
      kept.freed⟩
  | freeNet client offset len => exact kept_freeBuffer (frees_clientFree client) kept step
  | freeFw client offset len => exact kept_freeBuffer (frees_fwFree client) kept step
  | provideNet client => exact (kept_provide (frees_clientFree client) kept step).1
  | provideFw client => exact (kept_provide (frees_fwFree client) kept step).1

theorem gathered_initial (measure : RxQueue config → NetBuffDesc → Multiset Nat) :
    (initial config).gathered measure =
      (config.ioAddrs.map fun ioOrOffset => measure .drvFree { ioOrOffset, len := 0 }).sum := by
  rw [gathered, Places.total, Finset.sum_eq_single RxQueue.drvFree]
  · show (List.map _ (List.map _ _)).sum = _
    rw [List.map_map]
    rfl
  · intro queue _ different
    cases queue with
    | drvFree => exact absurd rfl different
    | _ => rfl
  · exact fun absent => absurd (Finset.mem_univ _) absent

theorem sum_map_singleton (addresses : List Nat) :
    (addresses.map fun address => ({address} : Multiset Nat)).sum = addresses := by
  induction addresses with
  | nil => rfl
  | cons address addresses inductionHypothesis =>
    rw [List.map_cons, List.sum_cons, inductionHypothesis, singleton_add, cons_coe]

theorem kept_initial : (initial config).Kept where
  failure := rfl
  capacity queue := by cases queue <;> rfl
  everywhere := by
    have inQueues : (initial config).inQueues = config.ioAddrs :=
      (gathered_initial _).trans (sum_map_singleton _)
    rw [everywhere, inQueues]
    show _ + 0 + map _ 0 = _
    rw [map_zero, add_zero, add_zero]
  smallQueues queue buffer member := by
    cases queue with
    | drvFree =>
      obtain ⟨ioAddr, inRegion, rfl⟩ := List.mem_map.mp member
      exact lt_of_mem_ioAddrs inRegion
    | _ => cases member
  smallClients _ member := absurd member (notMem_zero _)
  freed := by
    have waiting : (initial config).waiting = 0 := by
      refine (gathered_initial _).trans (List.sum_eq_zero fun amount member => ?_)
      obtain ⟨_, _, rfl⟩ := List.mem_map.mp member
      rfl
    rw [waiting]
    rfl

theorem exists_dequeue (waits : (system.queues queue).entries ≠ []) :
    ∃ taken, system.dequeue queue = some taken := by
  refine Option.isSome_iff_exists.mp ?_
  rw [dequeue, Option.isSome_map, Option.isSome_iff_ne_none]
  exact fun empty => waits (fwDequeue_eq_none.mp empty)

theorem exists_handed (kept : system.Kept) (waits : (system.queues .drvActive).entries ≠ []) :
    ∃ next, Step system .rxReturn next ∧ Handed system next := by
  obtain ⟨taken, dequeued⟩ := exists_dequeue waits
  obtain ⟨next, step⟩ : ∃ next, system.rxReturn = some next :=
    ⟨_, by rw [rxReturn, dequeued, Option.map_some]⟩
  exact ⟨next, (perform_of_kept kept _).trans step, (kept_rxReturn kept step).2⟩

theorem exists_provided (frees : RxQueue.Frees queue) (kept : system.Kept)
    (waits : (system.queues queue).entries ≠ []) :
    ∃ next, system.provide queue = some next ∧ Provided queue system next := by
  obtain ⟨taken, dequeued⟩ := exists_dequeue waits
  obtain ⟨next, step⟩ : ∃ next, system.provide queue = some next :=
    ⟨_, by rw [provide, dequeued, Option.map_some]⟩
  exact ⟨next, step, (kept_provide frees kept step).2⟩

/-- However the driver receives and the clients pass buffers on and free them: no assertion fails,
each address of the region is in one place, and what clients have freed was returned to the driver
or is in one of their free queues, each as often. A buffer that the driver has filled is handed to
the first client that its packet is for, or back, and one that a client has freed is provided
again. -/
theorem received_buffers_return {events : List (VirtRxEvent config)}
    (run : Run Step (initial config) events system) :
    system.failure = none ∧ system.everywhere = config.ioAddrs ∧ system.everywhere.Nodup ∧
      system.freed.map config.toIoAddr = system.returned + system.waiting ∧
      ((system.queues .drvActive).entries ≠ [] →
        ∃ next, Step system .rxReturn next ∧ Handed system next) ∧
      (∀ client, (system.queues (.clientFree client)).entries ≠ [] →
        ∃ next, Step system (.provideNet client) next ∧ Provided (.clientFree client) system next) ∧
      ∀ client, (system.queues (.fwFree client)).entries ≠ [] →
        ∃ next, Step system (.provideFw client) next ∧ Provided (.fwFree client) system next := by
  have kept := run.invariant Kept kept_initial fun _ _ _ kept step => kept_step kept step
  refine ⟨kept.failure, kept.everywhere, ?_, kept.freed, exists_handed kept, ?_, ?_⟩
  · rw [kept.everywhere]
    exact coe_nodup.mpr nodup_ioAddrs
  · intro client waits
    obtain ⟨next, step, provided⟩ := exists_provided (frees_clientFree client) kept waits
    exact ⟨next, (perform_of_kept kept _).trans step, provided⟩
  · intro client waits
    obtain ⟨next, step, provided⟩ := exists_provided (frees_fwFree client) kept waits
    exact ⟨next, (perform_of_kept kept _).trans step, provided⟩

/-- One buffer, and one client, which gets ARP responses. -/
def arpConfig : VirtRxConfig where
  ioAddr := 4096
  numBuffers := 1
  numClients := 1
  traffic _ := { ethtype := ethTypeArp, subtype := arpEthOpcodeReply }
  clients _ := 1
  room _ := le_rfl
  numFreeClients := 0
  freeClients _ := 1
  freeRoom _ := le_rfl
  promiscuous := false

/-- The bytes of an ARP response that the virtualiser looks at. -/
def arpResponse : Packet
  | 12 => 0x08
  | 13 => 0x06
  | 21 => 0x02
  | _ => 0

/-- The buffer goes to the client and comes back. -/
def arpEvents : List (VirtRxEvent arpConfig) :=
  [.driverTake, .driverReceive 4096 60 arpResponse, .rxReturn, .takeActive ⟨0, Nat.one_pos⟩,
    .freeNet ⟨0, Nat.one_pos⟩ 0 60, .provideNet ⟨0, Nat.one_pos⟩]

theorem arp_buffer_returns : ∃ system, Run Step (initial arpConfig) arpEvents system ∧
    system.returned = {4096} ∧ system.failure = none := by
  obtain ⟨system, run, returned⟩ : ∃ system, Run Step (initial arpConfig) arpEvents system ∧
      system.returned = {4096} :=
    ⟨_, Run.of_foldlM (fun _ _ _ performed => performed) rfl, rfl⟩
  exact ⟨system, run, returned, (received_buffers_return run).1⟩

end VirtRxSystem

end LionsOS.Firewall
