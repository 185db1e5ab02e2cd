/-
This file embeds the ARP requester of `arp_requester.c` for one interface: what
it does with one request of a client, with one received packet, with one entry
at a retry tick, and the loops over them. Of the queue of transmit buffers only
how many are free matters. The clients an entry owes an answer are bits of one
byte.
-/

import LionsOS.Firewall.Arp
import LionsOS.Firewall.Queue
import Mathlib.Data.List.FinRange
import Mathlib.Data.List.GetD
import Mathlib.Tactic.SplitIfs

open Function

namespace LionsOS.Firewall

/-! ### Configuration and state -/

def fwMaxArpRequesterClients : Nat := 2
def arpMaxRetries : Nat := 5
def arpTicksPerFlush : Nat := 300

def ethTypeArp : UInt16T := 0x0806
def arpPktOffset : Nat := 14
def arpEthOpcodeReply : UInt16T := 2

structure FwArpRequesterConfig where
  numArpClients : Nat
  few : numArpClients ≤ fwMaxArpRequesterClients

structure ArpRequester (config : FwArpRequesterConfig) where
  arpTable : List FwArpEntry
  arpReqQueue : Fin config.numArpClients → FwQueue FwArpRequest
  arpRespQueue : Fin config.numArpClients → FwQueue FwArpRequest
  txFree : Nat
  transmitted : Bool
  notifyClient : Fin config.numArpClients → Bool
  ticksToFlush : Nat

namespace Packet

def arpOpcode (packet : Packet) : UInt16T := packet.load16 (arpPktOffset + 6)
def arpHwsrcAddr (packet : Packet) : MacAddr := packet.loadMac (arpPktOffset + 8)
def arpIpsrcAddr (packet : Packet) : UInt32T := packet.load32 (arpPktOffset + 14)

/-- Whether a received packet is an ARP reply. -/
def isArpReply (packet : Packet) : Bool :=
  packet.ethtype == htons ethTypeArp && packet.arpOpcode == htons arpEthOpcodeReply

end Packet

namespace ArpRequester

variable {config : FwArpRequesterConfig}

/-! ### Answering -/

/-- Enqueue a response to a client. The result of the enqueue is not looked at. -/
def respond (requester : ArpRequester config) (client : Fin config.numArpClients)
    (response : FwArpRequest) : ArpRequester config :=
  { requester with
    arpRespQueue := update requester.arpRespQueue client
      (fwEnqueueOrDrop (requester.arpRespQueue client) response)
    notifyClient := update requester.notifyClient client true }

/-- Respond to those of the given clients that an entry names. -/
def respondTo (entry : FwArpEntry) (requester : ArpRequester config)
    (clients : List (Fin config.numArpClients)) : ArpRequester config :=
  clients.foldl (fun requester (client : Fin config.numArpClients) =>
    if entry.hasClient client then requester.respond client (fwArpResponseFromEntry entry)
    else requester) requester

/-- Respond to every client an entry names. -/
def respondToClients (requester : ArpRequester config) (entry : FwArpEntry) : ArpRequester config :=
  respondTo entry requester (List.finRange config.numArpClients)

/-- Change an entry of the table. -/
def setEntry (requester : ArpRequester config) (index : Nat) (entry : FwArpEntry) :
    ArpRequester config :=
  { requester with arpTable := requester.arpTable.set index entry }

/-- The entry at an index. -/
def entryAt (requester : ArpRequester config) (index : Nat) : FwArpEntry :=
  requester.arpTable.getD index FwArpEntry.zeroed

/-! ### Requests of the clients -/

/-- What `process_requests` does with a request it has dequeued. -/
def handleRequest (requester : ArpRequester config) (client : Fin config.numArpClients)
    (request : FwArpRequest) : ArpRequester config :=
  match fwArpTableFindEntry requester.arpTable request.ip with
  | some index =>
    let entry := requester.entryAt index
    if entry.state ≠ .pending then requester.respond client (fwArpResponseFromEntry entry)
    else requester.setEntry index { entry with client := entry.client ||| bit client }
  | none =>
    let requester := { requester with txFree := requester.txFree - 1, transmitted := true }
    match fwArpTableAddEntry requester.arpTable .pending request.ip none client with
    | .error _ => requester
    | .ok arpTable => { requester with arpTable }

/-- One round of `process_requests` for a client. `none` when it has no request or no transmit
buffer is free. -/
def processRequest (requester : ArpRequester config) (client : Fin config.numArpClients) :
    Option (ArpRequester config) :=
  if requester.txFree = 0 then none
  else
    (fwDequeue (requester.arpReqQueue client)).map fun (request, queue) =>
      handleRequest { requester with arpReqQueue := update requester.arpReqQueue client queue }
        client request

/-! ### Packets from the network -/

/-- What an ARP reply for an address does. -/
def processReply (requester : ArpRequester config) (ip : UInt32T) (macAddr : MacAddr) :
    ArpRequester config :=
  match fwArpTableFindEntry requester.arpTable ip with
  | some index =>
    let entry := { requester.entryAt index with state := .reachable, macAddr }
    (requester.setEntry index entry).respondToClients entry
  | none =>
    match fwArpTableAddEntry requester.arpTable .reachable ip (some macAddr) 0 with
    | .error _ => requester
    | .ok arpTable => { requester with arpTable }

/-- What `process_responses` does with one received packet. -/
def processResponse (requester : ArpRequester config) (packet : Packet) : ArpRequester config :=
  if packet.isArpReply then requester.processReply packet.arpIpsrcAddr packet.arpHwsrcAddr
  else requester

/-! ### Retry ticks -/

/-- What `process_retries` does with one entry. -/
def retryEntry (requester : ArpRequester config) (index : Nat) : ArpRequester config :=
  let entry := requester.entryAt index
  if entry.state ≠ .pending then requester
  else if arpMaxRetries ≤ entry.numRetries then
    let entry := { entry with state := .unreachable }
    (requester.setEntry index entry).respondToClients entry
  else
    let requester :=
      if requester.txFree ≠ 0 then
        { requester with txFree := requester.txFree - 1, transmitted := true }
      else requester
    requester.setEntry index { entry with numRetries := entry.numRetries + 1 }

def processRetries (requester : ArpRequester config) : ArpRequester config :=
  (List.range requester.arpTable.length).foldl retryEntry requester

/-- Whether a flush keeps an entry. -/
def keptByFlush (entry : FwArpEntry) : Bool :=
  entry.state == .invalid || entry.state == .pending

/-- Flush all non pending cache entries. -/
def arpTableFlush (requester : ArpRequester config) : ArpRequester config :=
  { requester with
    arpTable := requester.arpTable.map fun entry =>
      if keptByFlush entry then entry else { entry with state := .invalid } }

/-- What the requester does when the timer ticks. -/
def tick (requester : ArpRequester config) : ArpRequester config :=
  let requester := { requester with ticksToFlush := requester.ticksToFlush - 1 }
  if requester.ticksToFlush ≠ 0 then requester.processRetries
  else { requester.arpTableFlush with ticksToFlush := arpTicksPerFlush }

/-! ### Events -/

end ArpRequester

variable {config : FwArpRequesterConfig}

inductive ArpEvent (config : FwArpRequesterConfig) where
  /-- A client enqueues a request. -/
  | request (client : Fin config.numArpClients) (request : FwArpRequest)
  /-- A client takes a response. -/
  | take (client : Fin config.numArpClients)
  /-- A transmitted buffer becomes free again. -/
  | returnTx
  | processRequest (client : Fin config.numArpClients)
  | processResponse (packet : Packet)
  /-- The timer ticks. -/
  | count
  | retryEntry (index : Nat)
  | flush

namespace ArpRequester

/-- What an event does, `none` when it cannot happen. -/
def act (requester : ArpRequester config) : ArpEvent config → Option (ArpRequester config)
  | .request client request =>
    (fwEnqueue (requester.arpReqQueue client) request).map fun queue =>
      { requester with arpReqQueue := update requester.arpReqQueue client queue }
  | .take client =>
    (fwDequeue (requester.arpRespQueue client)).map fun (_, queue) =>
      { requester with arpRespQueue := update requester.arpRespQueue client queue }
  | .returnTx => some { requester with txFree := requester.txFree + 1 }
  | .processRequest client => requester.processRequest client
  | .processResponse packet => some (requester.processResponse packet)
  | .count => some { requester with ticksToFlush := requester.ticksToFlush - 1 }
  | .retryEntry index => some (requester.retryEntry index)
  | .flush => some { requester.arpTableFlush with ticksToFlush := arpTicksPerFlush }

/-! ### What the operations do -/

variable (requester : ArpRequester config)

theorem client_lt_eight (client : Fin config.numArpClients) : (client : Nat) < 8 :=
  Nat.lt_of_lt_of_le client.isLt (Nat.le_trans config.few (by decide))

theorem respondTo_keeps (entry : FwArpEntry) (clients : List (Fin config.numArpClients)) :
    (respondTo entry requester clients).arpTable = requester.arpTable ∧
      (respondTo entry requester clients).arpReqQueue = requester.arpReqQueue := by
  unfold respondTo
  induction clients generalizing requester with
  | nil => exact ⟨rfl, rfl⟩
  | cons client rest inductionHypothesis =>
    rw [List.foldl_cons]
    obtain ⟨table, requests⟩ := inductionHypothesis (if entry.hasClient client then
      requester.respond client (fwArpResponseFromEntry entry) else requester)
    rw [table, requests]
    split_ifs
    · exact ⟨rfl, rfl⟩
    · exact ⟨rfl, rfl⟩

theorem respondTo_arpRespQueue (entry : FwArpEntry) {clients : List (Fin config.numArpClients)}
    (distinct : clients.Nodup) (client : Fin config.numArpClients) :
    (respondTo entry requester clients).arpRespQueue client =
      if client ∈ clients ∧ entry.hasClient client then
        fwEnqueueOrDrop (requester.arpRespQueue client) (fwArpResponseFromEntry entry)
      else requester.arpRespQueue client := by
  unfold respondTo
  induction clients generalizing requester with
  | nil => simp
  | cons first rest inductionHypothesis =>
    obtain ⟨fresh, distinctRest⟩ := List.nodup_cons.mp distinct
    rw [List.foldl_cons, inductionHypothesis _ distinctRest]
    by_cases here : client = first
    · subst here
      have notLater : ¬ (client ∈ rest ∧ entry.hasClient client) := fun both => fresh both.1
      rw [if_neg notLater]
      by_cases named : entry.hasClient client
      · rw [if_pos named, if_pos ⟨List.mem_cons_self, named⟩]
        exact update_self _ _ _
      · rw [if_neg named, if_neg fun both => named both.2]
    · have sameQueue : (if entry.hasClient first then
          requester.respond first (fwArpResponseFromEntry entry)
          else requester).arpRespQueue client = requester.arpRespQueue client := by
        split_ifs
        · exact update_of_ne here _ _
        · rfl
      simp only [sameQueue, List.mem_cons, here, false_or]

/-- Each client that an entry names is sent a response, unless its queue is full. -/
theorem respondToClients_arpRespQueue (entry : FwArpEntry) (client : Fin config.numArpClients) :
    (requester.respondToClients entry).arpRespQueue client =
      if entry.hasClient client then
        fwEnqueueOrDrop (requester.arpRespQueue client) (fwArpResponseFromEntry entry)
      else requester.arpRespQueue client := by
  rw [respondToClients, respondTo_arpRespQueue _ _ (List.nodup_finRange _)]
  simp only [List.mem_finRange, true_and]

theorem entryAt_eq {index : Nat} (inside : index < requester.arpTable.length) :
    requester.entryAt index = requester.arpTable[index] := by
  rw [entryAt, List.getD_eq_getElem _ _ inside]

/-- The ways in which a request is handled. -/
inductive RequestOutcome (client : Fin config.numArpClients) (request : FwArpRequest) :
    ArpRequester config → Prop
  | answered (index : Nat) (inside : index < requester.arpTable.length)
    (found : fwArpTableFindEntry requester.arpTable request.ip = some index)
    (sameIp : requester.arpTable[index].ip = request.ip)
    (settled : requester.arpTable[index].state ≠ .pending) :
    RequestOutcome client request
      (requester.respond client (fwArpResponseFromEntry requester.arpTable[index]))
  | joined (index : Nat) (inside : index < requester.arpTable.length)
    (found : fwArpTableFindEntry requester.arpTable request.ip = some index)
    (sameIp : requester.arpTable[index].ip = request.ip)
    (pending : requester.arpTable[index].state = .pending) :
    RequestOutcome client request (requester.setEntry index
      { requester.arpTable[index] with
        client := requester.arpTable[index].client ||| bit client })
  | asked (absent : fwArpTableFindEntry requester.arpTable request.ip = none) (index : Nat)
    (inside : index < requester.arpTable.length) (added : FwArpEntry)
    (invalid : requester.arpTable[index].state = .invalid) (pending : added.state = .pending)
    (sameIp : added.ip = request.ip) (named : added.client = bit client) :
    RequestOutcome client request
      ({ requester with txFree := requester.txFree - 1, transmitted := true }.setEntry index added)
  | forgotten (absent : fwArpTableFindEntry requester.arpTable request.ip = none)
    (full : ∀ entry ∈ requester.arpTable, entry.state ≠ .invalid) :
    RequestOutcome client request
      { requester with txFree := requester.txFree - 1, transmitted := true }

theorem handleRequest_outcome (client : Fin config.numArpClients) (request : FwArpRequest) :
    requester.RequestOutcome client request (requester.handleRequest client request) := by
  unfold handleRequest
  cases found : fwArpTableFindEntry requester.arpTable request.ip with
  | some index =>
    obtain ⟨inside, _, sameIp⟩ := fwArpTableFindEntry_eq_some found
    dsimp only
    rw [entryAt_eq requester inside]
    split_ifs with settled
    · exact RequestOutcome.answered index inside found sameIp settled
    · exact RequestOutcome.joined index inside found sameIp (not_not.mp settled)
  | none =>
    dsimp only
    have notReachable : FwArpEntryState.pending = .reachable → (none : Option MacAddr) ≠ none :=
      fun impossible => by cases impossible
    rcases fwArpTableAddEntry_cases client found notReachable with
      ⟨failed, full⟩ | ⟨index, added, inside, invalid, pending, sameIp, named, done⟩
    · rw [failed]
      exact RequestOutcome.forgotten found full
    · rw [done]
      exact RequestOutcome.asked found index inside added invalid pending sameIp named

/-- The ways in which a reply is handled. -/
inductive ReplyOutcome (ip : UInt32T) : ArpRequester config → Prop
  | updated (index : Nat) (inside : index < requester.arpTable.length)
    (found : fwArpTableFindEntry requester.arpTable ip = some index) (entry : FwArpEntry)
    (reachable : entry.state = .reachable) (sameIp : entry.ip = requester.arpTable[index].ip)
    (sameClient : entry.client = requester.arpTable[index].client) :
    ReplyOutcome ip ((requester.setEntry index entry).respondToClients entry)
  | learned (absent : fwArpTableFindEntry requester.arpTable ip = none) (index : Nat)
    (inside : index < requester.arpTable.length) (added : FwArpEntry)
    (invalid : requester.arpTable[index].state = .invalid) (reachable : added.state = .reachable) :
    ReplyOutcome ip (requester.setEntry index added)
  | ignored (absent : fwArpTableFindEntry requester.arpTable ip = none) : ReplyOutcome ip requester

theorem processReply_outcome (ip : UInt32T) (macAddr : MacAddr) :
    requester.ReplyOutcome ip (requester.processReply ip macAddr) := by
  unfold processReply
  cases found : fwArpTableFindEntry requester.arpTable ip with
  | some index =>
    obtain ⟨inside, _, _⟩ := fwArpTableFindEntry_eq_some found
    dsimp only
    rw [entryAt_eq requester inside]
    exact ReplyOutcome.updated index inside found _ rfl rfl rfl
  | none =>
    rcases fwArpTableAddEntry_cases 0 found fun _ => Option.some_ne_none macAddr with
      ⟨failed, _⟩ | ⟨index, added, inside, invalid, reachable, _, _, done⟩
    · rw [failed]
      exact ReplyOutcome.ignored found
    · rw [done]
      exact ReplyOutcome.learned found index inside added invalid reachable

/-- The ways in which a tick handles an entry. -/
inductive RetryOutcome (index : Nat) : ArpRequester config → Prop
  | skipped (settled : (requester.entryAt index).state ≠ .pending) : RetryOutcome index requester
  | retried (inside : index < requester.arpTable.length) (txFree : Nat) (transmitted : Bool)
    (entry : FwArpEntry) (pending : requester.arpTable[index].state = .pending)
    (left : requester.arpTable[index].numRetries < arpMaxRetries)
    (sameState : entry.state = .pending) (sameIp : entry.ip = requester.arpTable[index].ip)
    (sameClient : entry.client = requester.arpTable[index].client) :
    RetryOutcome index ({ requester with txFree, transmitted }.setEntry index entry)
  | abandoned (inside : index < requester.arpTable.length) (entry : FwArpEntry)
    (pending : requester.arpTable[index].state = .pending)
    (exhausted : arpMaxRetries ≤ requester.arpTable[index].numRetries)
    (unreachable : entry.state = .unreachable) (sameIp : entry.ip = requester.arpTable[index].ip)
    (sameClient : entry.client = requester.arpTable[index].client) :
    RetryOutcome index ((requester.setEntry index entry).respondToClients entry)

theorem retryEntry_outcome (index : Nat) :
    requester.RetryOutcome index (requester.retryEntry index) := by
  unfold retryEntry
  dsimp only
  split_ifs with settled exhausted txFree
  · exact RetryOutcome.skipped settled
  all_goals
    have inside : index < requester.arpTable.length := by
      refine Nat.lt_of_not_le fun outside => settled ?_
      rw [entryAt, List.getD_eq_default _ _ outside]
      decide
    rw [entryAt_eq requester inside] at *
  · exact RetryOutcome.abandoned inside _ (not_not.mp settled) exhausted rfl rfl rfl
  · exact RetryOutcome.retried inside _ _ _ (not_not.mp settled) (Nat.not_le.mp exhausted)
      (not_not.mp settled) rfl rfl
  · exact RetryOutcome.retried inside _ _ _ (not_not.mp settled) (Nat.not_le.mp exhausted)
      (not_not.mp settled) rfl rfl

end ArpRequester

end LionsOS.Firewall
