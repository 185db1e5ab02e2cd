/-
This file counts the answers of the ARP requester. A request that was processed
is answered, or recorded as a bit of a pending entry, or forgotten, so there
are never more responses and pending bits for an address than processed
requests, as long as no reply reaches an entry that is settled and still names a
client with no request left to answer. The bits of an entry are never cleared,
so such replies do get answered.
-/

import LionsOS.Firewall.ArpRequester
import LionsOS.Lib.Runs

open Function

namespace LionsOS.Firewall

open StepRun ArpRequester Option

variable {index : Nat} {entry : FwArpEntry}

/-! ### Counting by address -/

/-- How many of the messages are about an address. -/
def countFor (ip : UInt32T) (messages : List FwArpRequest) : Nat :=
  messages.countP fun message => message.ip == ip

theorem countFor_append (ip : UInt32T) (first second : List FwArpRequest) :
    countFor ip (first ++ second) = countFor ip first + countFor ip second :=
  List.countP_append

theorem countFor_singleton (ip : UInt32T) (message : FwArpRequest) :
    countFor ip [message] = (message.ip == ip).toNat := by
  rw [countFor, List.countP_singleton]
  cases message.ip == ip <;> rfl

theorem countFor_enqueueOrDrop (ip : UInt32T) (queue : FwQueue FwArpRequest)
    (message : FwArpRequest) :
    countFor ip (fwEnqueueOrDrop queue message).entries =
      countFor ip queue.entries + (!fwQueueFull queue && message.ip == ip).toNat := by
  unfold fwEnqueueOrDrop
  cases full : fwQueueFull queue with
  | true =>
    have none : fwEnqueue queue message = none := fwEnqueue_eq_none.mpr (beq_iff_eq.mp full)
    rw [none]
    rfl
  | false =>
    have room := fwQueueFull_eq_false.mp full
    obtain ⟨next, enqueued⟩ : ∃ next, fwEnqueue queue message = some next :=
      ne_none_iff_exists'.mp fun none =>
        absurd (fwEnqueue_eq_none.mp none) (Nat.ne_of_lt room)
    rw [enqueued, getD_some, (fwEnqueue_eq_some.mp enqueued).1, countFor_append]
    rfl

theorem toNat_eq_ite (condition : Bool) : condition.toNat = if condition then 1 else 0 := by
  cases condition <;> rfl

theorem countP_set_add {Entry : Type} (counts : Entry → Bool) {entries : List Entry}
    (inside : index < entries.length) (entry : Entry) :
    (entries.set index entry).countP counts + (counts entries[index]).toNat =
      entries.countP counts + (counts entry).toNat := by
  have before := List.boole_getElem_le_countP (p := counts) inside
  rw [List.countP_set inside, toNat_eq_ite, toNat_eq_ite, Nat.add_right_comm,
    Nat.sub_add_cancel before]

/-! ### What the table promises -/

/-- Whether an entry promises a client a response for an address. -/
def FwArpEntry.owes (entry : FwArpEntry) (client : Nat) (ip : UInt32T) : Bool :=
  entry.state == .pending && entry.ip == ip && entry.hasClient client

open FwArpEntry

variable {config : FwArpRequesterConfig}

namespace ArpRequester

variable (requester : ArpRequester config) (client : Fin config.numArpClients) (ip : UInt32T)

/-- How many responses for an address the table promises a client. -/
def promised : Nat :=
  requester.arpTable.countP fun entry => entry.owes client ip

/-- The responses for an address that wait for a client, and those promised. -/
def answers : Nat :=
  countFor ip (requester.arpRespQueue client).entries + requester.promised client ip

theorem setEntry_promised (inside : index < requester.arpTable.length) (entry : FwArpEntry) :
    (requester.setEntry index entry).promised client ip +
        (requester.arpTable[index].owes client ip).toNat =
      requester.promised client ip + (entry.owes client ip).toNat :=
  countP_set_add (fun other : FwArpEntry => other.owes client ip) inside entry

/-- Settling an entry turns its promises into responses, as far as there is room. -/
theorem settle_answers (inside : index < requester.arpTable.length)
    (settled : entry.state ≠ .pending) (sameIp : entry.ip = requester.arpTable[index].ip)
    (sameClient : entry.client = requester.arpTable[index].client) :
    ((requester.setEntry index entry).respondToClients entry).answers client ip +
        (requester.arpTable[index].owes client ip).toNat =
      requester.answers client ip + (requester.arpTable[index].hasClient client &&
        !fwQueueFull (requester.arpRespQueue client) &&
        requester.arpTable[index].ip == ip).toNat := by
  have promised := requester.setEntry_promised client ip inside entry
  have nothingOwed : entry.owes client ip = false := by simp [FwArpEntry.owes, settled]
  have sameHas : entry.hasClient client = requester.arpTable[index].hasClient client := by
    rw [FwArpEntry.hasClient, FwArpEntry.hasClient, sameClient]
  rw [nothingOwed] at promised
  have table := (respondTo_keeps (requester.setEntry index entry) entry
    (List.finRange config.numArpClients)).1
  have samePromised : ((requester.setEntry index entry).respondToClients entry).promised client ip =
      (requester.setEntry index entry).promised client ip := by
    rw [ArpRequester.promised, respondToClients, table, ArpRequester.promised]
  have queue := respondToClients_arpRespQueue (requester.setEntry index entry) entry client
  rw [answers, samePromised, queue, sameHas]
  cases named : requester.arpTable[index].hasClient client with
  | false =>
    rw [Nat.add_assoc, promised]
    rfl
  | true =>
    have responseIp : (fwArpResponseFromEntry entry).ip = requester.arpTable[index].ip := sameIp
    rw [if_pos rfl, countFor_enqueueOrDrop, responseIp, Nat.add_assoc, promised]
    exact Nat.add_right_comm _ _ _

theorem respond_answers (sender : Fin config.numArpClients) (response : FwArpRequest) :
    (requester.respond sender response).answers client ip ≤
      requester.answers client ip + (decide (sender = client) && response.ip == ip).toNat := by
  rw [answers, answers, Nat.add_right_comm]
  refine Nat.add_le_add_right ?_ _
  by_cases here : sender = client
  · subst here
    have queue : (requester.respond sender response).arpRespQueue sender =
        fwEnqueueOrDrop (requester.arpRespQueue sender) response := update_self _ _ _
    rw [queue, countFor_enqueueOrDrop]
    refine Nat.add_le_add_left (Bool.toNat_le_toNat ?_) _
    rw [decide_eq_true rfl]
    exact Bool.and_le_right _ _
  · have queue : (requester.respond sender response).arpRespQueue client =
        requester.arpRespQueue client := update_of_ne (Ne.symm here) _ _
    rw [queue]
    exact Nat.le_add_right _ _

theorem join_owes (sender : Fin config.numArpClients) (pending : entry.state = .pending) :
    (({ entry with client := entry.client ||| bit sender } : FwArpEntry).owes client ip).toNat ≤
      (entry.owes client ip).toNat + (decide (sender = client) && entry.ip == ip).toNat := by
  have joins : ({ entry with client := entry.client ||| bit sender } : FwArpEntry).owes client ip =
      (entry.owes client ip || (decide (sender = client) && entry.ip == ip)) := by
    rw [owes, hasClient_join _ (client_lt_eight sender) (client_lt_eight client), owes]
    simp only [pending, Fin.ext_iff]
    cases entry.hasClient client <;> simp
    exact Bool.and_comm _ _
  rw [joins]
  cases entry.owes client ip <;> simp

theorem handleRequest_answers (sender : Fin config.numArpClients) (request : FwArpRequest) :
    (requester.handleRequest sender request).answers client ip ≤
      requester.answers client ip + (decide (sender = client) && request.ip == ip).toNat := by
  have outcome := requester.handleRequest_outcome sender request
  generalize requester.handleRequest sender request = handled at outcome
  cases outcome with
  | answered index inside found sameIp settled =>
    have response := requester.respond_answers client ip sender
      (fwArpResponseFromEntry requester.arpTable[index])
    have responseIp : (fwArpResponseFromEntry requester.arpTable[index]).ip = request.ip := sameIp
    rwa [responseIp] at response
  | joined index inside found sameIp pending =>
    have promised := requester.setEntry_promised client ip inside
      { requester.arpTable[index] with
        client := requester.arpTable[index].client ||| bit sender }
    have joins : (({ requester.arpTable[index] with
        client := requester.arpTable[index].client ||| bit sender } : FwArpEntry).owes client
          ip).toNat ≤ (requester.arpTable[index].owes client ip).toNat +
        (decide (sender = client) && requester.arpTable[index].ip == ip).toNat :=
      join_owes client ip sender pending
    have sameQueue : (requester.setEntry index { requester.arpTable[index] with
        client := requester.arpTable[index].client ||| bit sender }).arpRespQueue =
        requester.arpRespQueue := rfl
    unfold answers
    rw [sameQueue, ← sameIp]
    omega
  | asked absent index inside added invalid pending sameIp named =>
    have promised := setEntry_promised { requester with
      txFree := requester.txFree - 1, transmitted := true } client ip inside added
    have owed : added.owes client ip = (decide (sender = client) && request.ip == ip) := by
      have has := hasClient_bit added (client_lt_eight sender) (client_lt_eight client)
      rw [← named] at has
      rw [owes, has, pending, sameIp]
      simp [Fin.ext_iff, Bool.and_comm]
    have nothing : requester.arpTable[index].owes client ip = false := by
      simp [owes, invalid]
    rw [owed] at promised
    simp only [nothing, Bool.toNat_false, Nat.add_zero] at promised
    rw [answers, promised, answers, Nat.add_assoc]
    exact le_rfl
  | forgotten absent full => exact Nat.le_add_right _ _

theorem flush_promised :
    requester.arpTableFlush.promised client ip = requester.promised client ip := by
  unfold promised arpTableFlush
  rw [List.countP_map]
  refine List.countP_congr fun entry _ => ?_
  show owes (if keptByFlush entry then entry
    else { entry with state := .invalid }) client ip = true ↔ _
  split_ifs with kept
  · exact Iff.rfl
  · have settled : entry.state ≠ .pending := by
      rintro pending
      simp [keptByFlush, pending] at kept
    simp [owes, settled]

end ArpRequester

/-! ### The requester among its clients -/

/-- The requester, with the requests it has processed for each client and the responses each
client has taken. -/
structure ArpSystem (config : FwArpRequesterConfig) where
  requester : ArpRequester config
  processed : Fin config.numArpClients → List FwArpRequest
  taken : Fin config.numArpClients → List FwArpRequest

open ArpSystem

namespace ArpSystem

/-- The requests processed after an event: a processed one is the oldest of its queue. -/
def processedAfter (system : ArpSystem config) :
    ArpEvent config → Fin config.numArpClients → List FwArpRequest
  | .processRequest client => update system.processed client (system.processed client ++
      (system.requester.arpReqQueue client).entries.head?.toList)
  | _ => system.processed

/-- The responses taken after an event. -/
def takenAfter (system : ArpSystem config) :
    ArpEvent config → Fin config.numArpClients → List FwArpRequest
  | .take client => update system.taken client (system.taken client ++
      (system.requester.arpRespQueue client).entries.head?.toList)
  | _ => system.taken

/-- What an event does, `none` when it cannot happen. -/
def perform (system : ArpSystem config) (event : ArpEvent config) : Option (ArpSystem config) :=
  (system.requester.act event).map fun requester =>
    { requester, processed := system.processedAfter event, taken := system.takenAfter event }

end ArpSystem

def ArpStep (system : ArpSystem config) (event : ArpEvent config) (next : ArpSystem config) :
    Prop :=
  system.perform event = some next

theorem processRetries_run (system : ArpSystem config) (indices : List Nat) :
    Run ArpStep system (indices.map ArpEvent.retryEntry)
      { system with requester := indices.foldl retryEntry system.requester } := by
  induction indices generalizing system with
  | nil => exact Run.nil
  | cons index rest inductionHypothesis =>
    have first : Run ArpStep system [.retryEntry index]
        { system with requester := system.requester.retryEntry index } := Run.single rfl
    exact first.trans (inductionHypothesis _)

/-- A tick is a run. -/
theorem tick_run (system : ArpSystem config) :
    ∃ events, Run ArpStep system events { system with requester := system.requester.tick } := by
  have counted : Run ArpStep system [.count] { system with
      requester := { system.requester with ticksToFlush := system.requester.ticksToFlush - 1 } } :=
    Run.single rfl
  unfold tick
  dsimp only
  split_ifs
  · exact ⟨_, counted.trans (processRetries_run _ _)⟩
  · exact ⟨[.count, .flush], counted.snoc (show ArpStep _ .flush _ from rfl)⟩

namespace ArpSystem

variable {client : Fin config.numArpClients}

/-! ### One step -/

/-- The requests a client has enqueued so far. -/
def requestsMade (system : ArpSystem config) (client : Fin config.numArpClients) :
    List FwArpRequest :=
  system.processed client ++ (system.requester.arpReqQueue client).entries

/-- The responses that were enqueued to a client so far. -/
def responsesMade (system : ArpSystem config) (client : Fin config.numArpClients) :
    List FwArpRequest :=
  system.taken client ++ (system.requester.arpRespQueue client).entries

/-- Processed requests cover the responses made and promised. -/
def Covered (system : ArpSystem config) : Prop :=
  ∀ client ip, countFor ip (system.responsesMade client) + system.requester.promised client ip ≤
    countFor ip (system.processed client)

/-- A reply only reaches a settled entry if each client that the entry names, and that has room for
a response, has a processed request that no response or promise answers. -/
def OwesAnswers (system : ArpSystem config) : ArpEvent config → Prop
  | .processResponse packet => packet.isArpReply → ∀ index,
      fwArpTableFindEntry system.requester.arpTable packet.arpIpsrcAddr = some index →
      (system.requester.entryAt index).state ≠ .pending → ∀ client : Fin config.numArpClients,
      (system.requester.entryAt index).hasClient client →
      fwQueueFull (system.requester.arpRespQueue client) = false →
        countFor packet.arpIpsrcAddr (system.responsesMade client) +
            system.requester.promised client packet.arpIpsrcAddr <
          countFor packet.arpIpsrcAddr (system.processed client)
  | _ => True

theorem covered_iff (system : ArpSystem config) :
    system.Covered ↔ ∀ client ip, countFor ip (system.taken client) +
      system.requester.answers client ip ≤ countFor ip (system.processed client) := by
  refine forall_congr' fun client => forall_congr' fun ip => ?_
  rw [responsesMade, countFor_append, Nat.add_assoc]
  rfl

variable {system next : ArpSystem config} {event : ArpEvent config}

theorem processRequest_covered (covered : system.Covered)
    (step : ArpStep system (.processRequest client) next) : next.Covered := by
  obtain ⟨handled, processed, rfl⟩ := map_eq_some_iff.mp step
  unfold act processRequest at processed
  split_ifs at processed
  obtain ⟨⟨request, queue⟩, dequeued, rfl⟩ := map_eq_some_iff.mp processed
  have head : (system.requester.arpReqQueue client).entries.head?.toList = [request] := by
    rw [(fwDequeue_eq_some.mp dequeued).1]
    rfl
  rw [covered_iff] at covered ⊢
  intro other ip
  have bound := handleRequest_answers { system.requester with
    arpReqQueue := update system.requester.arpReqQueue client queue } other ip client request
  have counted : countFor ip (update system.processed client
      (system.processed client ++ [request]) other) =
      countFor ip (system.processed other) +
        (decide (client = other) && request.ip == ip).toNat := by
    by_cases here : other = client
    · subst here
      rw [update_self, countFor_append, countFor_singleton, decide_eq_true rfl, Bool.true_and]
    · rw [update_of_ne here, decide_eq_false (Ne.symm here)]
      rfl
  have before := covered other ip
  show countFor ip (system.taken other) + _ ≤ countFor ip (update system.processed client
    (system.processed client ++ (system.requester.arpReqQueue client).entries.head?.toList) other)
  rw [head, counted]
  exact le_trans (Nat.add_le_add_left bound _)
    (by rw [← Nat.add_assoc]; exact Nat.add_le_add_right before _)

theorem take_covered (covered : system.Covered) (step : ArpStep system (.take client) next) :
    next.Covered := by
  obtain ⟨requester, taken, rfl⟩ := map_eq_some_iff.mp step
  obtain ⟨⟨response, queue⟩, dequeued, rfl⟩ := map_eq_some_iff.mp taken
  have head : (system.requester.arpRespQueue client).entries.head?.toList = [response] := by
    rw [(fwDequeue_eq_some.mp dequeued).1]
    rfl
  intro other ip
  have sameMade : (system.taken client ++ [response]) ++ queue.entries =
      system.responsesMade client := by
    rw [responsesMade, (fwDequeue_eq_some.mp dequeued).1, List.append_assoc]
    rfl
  have before := covered other ip
  by_cases here : other = client
  · subst here
    rw [← sameMade] at before
    simp only [responsesMade, takenAfter, update_self, head]
    exact before
  · simp only [responsesMade, takenAfter, update_of_ne here]
    exact before

theorem responsesMade_add_promised (client : Fin config.numArpClients) (ip : UInt32T) :
    countFor ip (system.responsesMade client) + system.requester.promised client ip =
      countFor ip (system.taken client) + system.requester.answers client ip := by
  rw [responsesMade, countFor_append, Nat.add_assoc]
  rfl

/-- A reply for a settled entry answers each client that the entry names and that has room. -/
theorem settled_answers (inside : index < system.requester.arpTable.length)
    (settled : system.requester.arpTable[index].state ≠ .pending)
    (notPending : entry.state ≠ .pending) (sameIp : entry.ip = system.requester.arpTable[index].ip)
    (sameClient : entry.client = system.requester.arpTable[index].client)
    (client : Fin config.numArpClients) (ip : UInt32T) :
    ((system.requester.setEntry index entry).respondToClients entry).answers client ip =
      system.requester.answers client ip +
        (system.requester.arpTable[index].hasClient client &&
          !fwQueueFull (system.requester.arpRespQueue client) &&
          system.requester.arpTable[index].ip == ip).toNat := by
  have settles := system.requester.settle_answers client ip inside notPending sameIp sameClient
  have nothingOwed : system.requester.arpTable[index].owes client ip = false := by
    simp [owes, settled]
  rwa [nothingOwed] at settles

section

variable (covered : system.Covered)
include covered

/-- A reply for a settled entry keeps the responses covered exactly when each client that the entry
names and that has room is owed a response. -/
theorem settled_covered_iff (inside : index < system.requester.arpTable.length)
    (settled : system.requester.arpTable[index].state ≠ .pending)
    (reachable : entry.state = .reachable) (sameIp : entry.ip = system.requester.arpTable[index].ip)
    (sameClient : entry.client = system.requester.arpTable[index].client) :
    ({ system with requester := (system.requester.setEntry index entry).respondToClients entry } :
        ArpSystem config).Covered ↔
      ∀ client : Fin config.numArpClients, system.requester.arpTable[index].hasClient client →
        fwQueueFull (system.requester.arpRespQueue client) = false →
          countFor system.requester.arpTable[index].ip (system.responsesMade client) +
              system.requester.promised client system.requester.arpTable[index].ip <
            countFor system.requester.arpTable[index].ip (system.processed client) := by
  have notPending : entry.state ≠ .pending := by
    rw [reachable]
    exact fun same => by cases same
  have answers := settled_answers inside settled notPending sameIp sameClient
  rw [covered_iff] at covered ⊢
  constructor
  · intro coveredNext client named room
    have bound := coveredNext client system.requester.arpTable[index].ip
    rw [answers, named, room, beq_self_eq_true] at bound
    rw [responsesMade_add_promised]
    exact bound
  · intro owed client ip
    rw [answers]
    cases responded : system.requester.arpTable[index].hasClient client &&
        !fwQueueFull (system.requester.arpRespQueue client) &&
        system.requester.arpTable[index].ip == ip with
    | false => exact covered client ip
    | true =>
      simp only [Bool.and_eq_true, Bool.not_eq_true', beq_iff_eq] at responded
      obtain ⟨⟨named, room⟩, rfl⟩ := responded
      have bound := owed client named room
      rw [responsesMade_add_promised] at bound
      exact bound

/-- A reply for a pending entry keeps the responses covered. -/
theorem pending_covered (inside : index < system.requester.arpTable.length)
    (pending : system.requester.arpTable[index].state = .pending) (settled : entry.state ≠ .pending)
    (sameIp : entry.ip = system.requester.arpTable[index].ip)
    (sameClient : entry.client = system.requester.arpTable[index].client) :
    ({ system with requester := (system.requester.setEntry index entry).respondToClients entry } :
        ArpSystem config).Covered := by
  rw [covered_iff] at covered ⊢
  intro client ip
  refine le_trans (Nat.add_le_add_left ?_ _) (covered client ip)
  have answers := system.requester.settle_answers client ip inside settled sameIp sameClient
  have owed : (system.requester.arpTable[index].hasClient client &&
      !fwQueueFull (system.requester.arpRespQueue client) &&
      system.requester.arpTable[index].ip == ip).toNat ≤
      (system.requester.arpTable[index].owes client ip).toNat := by
    refine Bool.toNat_le_toNat ?_
    rw [owes, pending]
    cases system.requester.arpTable[index].hasClient client <;> simp
    exact Bool.and_le_right _ _
  dsimp only
  omega

theorem retryEntry_covered (index : Nat) :
    ({ system with requester := system.requester.retryEntry index } : ArpSystem config).Covered := by
  have outcome := system.requester.retryEntry_outcome index
  generalize system.requester.retryEntry index = retried at outcome
  cases outcome with
  | skipped settled => exact covered
  | retried inside txFree transmitted entry pending left sameState sameIp sameClient =>
    rw [covered_iff] at covered ⊢
    intro client ip
    have promised := setEntry_promised { system.requester with txFree, transmitted }
      client ip inside entry
    have sameOwed : entry.owes client ip = system.requester.arpTable[index].owes client ip := by
      rw [owes, owes, sameState, pending, sameIp, hasClient, hasClient, sameClient]
    rw [sameOwed] at promised
    refine le_trans (Nat.add_le_add_left ?_ _) (covered client ip)
    exact Nat.add_le_add_left (Nat.add_right_cancel promised).le _
  | abandoned inside entry pending exhausted unreachable sameIp sameClient =>
    refine pending_covered covered inside pending ?_ sameIp sameClient
    rw [unreachable]
    exact fun same => by cases same

theorem processResponse_covered_iff (packet : Packet) :
    ({ system with requester := system.requester.processResponse packet } :
        ArpSystem config).Covered ↔
      system.OwesAnswers (.processResponse packet) := by
  unfold processResponse OwesAnswers
  by_cases reply : packet.isArpReply
  swap
  · rw [if_neg reply]
    exact iff_of_true covered fun isReply => absurd isReply reply
  rw [if_pos reply]
  have outcome := system.requester.processReply_outcome packet.arpIpsrcAddr packet.arpHwsrcAddr
  generalize system.requester.processReply packet.arpIpsrcAddr packet.arpHwsrcAddr = replied
    at outcome
  cases outcome with
  | updated index inside found entry reachable sameIp sameClient =>
    obtain ⟨_, _, ip⟩ := fwArpTableFindEntry_eq_some found
    by_cases pending : system.requester.arpTable[index].state = .pending
    · refine iff_of_true (pending_covered covered inside pending ?_ sameIp sameClient)
        fun _ other same settled => ?_
      · rw [reachable]
        exact fun same => by cases same
      · rw [found, some.injEq] at same
        subst same
        rw [entryAt_eq _ inside] at settled
        exact absurd pending settled
    · rw [settled_covered_iff covered inside pending reachable sameIp sameClient, ip]
      constructor
      · intro owed _ other same _
        rw [found, some.injEq] at same
        subst same
        rw [entryAt_eq _ inside]
        exact owed
      · intro owed
        have owed := owed reply index found
        rw [entryAt_eq _ inside] at owed
        exact owed pending
  | learned absent index inside added invalid reachable =>
    refine iff_of_true ?_ fun _ other same => ?_
    · rw [covered_iff] at covered ⊢
      intro client ip
      have promised := system.requester.setEntry_promised client ip inside added
      have before : system.requester.arpTable[index].owes client ip = false := by
        simp [owes, invalid]
      have after : added.owes client ip = false := by simp [owes, reachable]
      rw [before, after] at promised
      refine le_trans (Nat.add_le_add_left ?_ _) (covered client ip)
      exact Nat.add_le_add_left promised.le _
    · rw [absent] at same
      cases same
  | ignored absent =>
    refine iff_of_true covered fun _ other same => ?_
    rw [absent] at same
    cases same

theorem step_covered_iff (step : ArpStep system event next) :
    next.Covered ↔ system.OwesAnswers event := by
  cases event with
  | processResponse packet =>
    cases step
    exact processResponse_covered_iff covered packet
  | request client request =>
    obtain ⟨requester, enqueued, rfl⟩ := map_eq_some_iff.mp step
    obtain ⟨queue, _, rfl⟩ := map_eq_some_iff.mp enqueued
    exact iff_of_true covered trivial
  | take client => exact iff_of_true (take_covered covered step) trivial
  | processRequest client => exact iff_of_true (processRequest_covered covered step) trivial
  | retryEntry index =>
    cases step
    exact iff_of_true (retryEntry_covered covered index) trivial
  | flush =>
    cases step
    refine iff_of_true (fun client ip => ?_) trivial
    have promised := system.requester.flush_promised client ip
    exact le_trans (Nat.add_le_add_left promised.le _) (covered client ip)
  | returnTx | count =>
    cases step
    exact iff_of_true covered trivial

end

/-! ### Whole runs -/

/-- The queues are empty and the cache is zeroed. -/
structure Initial (system : ArpSystem config) : Prop where
  arpTable : ∀ entry ∈ system.requester.arpTable, entry.state = .invalid
  arpReqQueue : ∀ client, (system.requester.arpReqQueue client).entries = []
  arpRespQueue : ∀ client, (system.requester.arpRespQueue client).entries = []
  processed : ∀ client, system.processed client = []
  taken : ∀ client, system.taken client = []

theorem Initial.covered (initial : system.Initial) : system.Covered := by
  intro client ip
  have promised : system.requester.promised client ip = 0 := by
    refine List.countP_eq_zero.mpr fun entry member => ?_
    simp [owes, initial.arpTable entry member]
  rw [responsesMade, initial.taken, initial.arpRespQueue, promised]
  exact Nat.zero_le _

theorem Covered.responses_le (covered : system.Covered) (client : Fin config.numArpClients)
    (ip : UInt32T) :
    countFor ip (system.responsesMade client) ≤ countFor ip (system.requestsMade client) := by
  have processed : countFor ip (system.processed client) ≤
      countFor ip (system.requestsMade client) := by
    rw [requestsMade, countFor_append]
    exact Nat.le_add_right _ _
  exact le_trans (le_trans (Nat.le_add_right _ _) (covered client ip)) processed

end ArpSystem

/-- As long as every reply for a settled entry reaches only clients that are owed a response, no
client has more responses for an address than requests; and these are exactly the runs in which
processed requests always cover the responses made and promised. -/
theorem responses_never_exceed_requests {start : ArpSystem config} (initial : start.Initial) :
    (∀ events system, Run (Guarded ArpSystem.OwesAnswers ArpStep) start events system → ∀ client ip,
        countFor ip (system.responsesMade client) ≤ countFor ip (system.requestsMade client)) ∧
    ∀ events system, Run (Within ArpSystem.Covered ArpStep) start events system ↔
      Run (Guarded ArpSystem.OwesAnswers ArpStep) start events system := by
  have runs : ∀ events system, Run (Within ArpSystem.Covered ArpStep) start events system ↔
      Run (Guarded ArpSystem.OwesAnswers ArpStep) start events system := fun _ _ =>
    run_within_iff_guarded (fun _ => True) trivial initial.covered (fun _ _ _ _ _ => trivial)
      fun _ _ _ _ covered step => step_covered_iff covered step
  refine ⟨fun events system run client ip => ?_, runs⟩
  exact (((runs events system).mpr run).within_end initial.covered).responses_le client ip

/-! ### Gratuitous replies -/

def oneClient : FwArpRequesterConfig := { numArpClients := 1, few := by decide }

def onlyClient : Fin oneClient.numArpClients := ⟨0, by decide⟩

/-- A requester that has done nothing, with room for one entry everywhere. -/
def ArpSystem.idle : ArpSystem oneClient where
  requester :=
    { arpTable := [zeroed]
      arpReqQueue := fun _ => FwQueue.empty 1
      arpRespQueue := fun _ => FwQueue.empty 1
      txFree := 1
      transmitted := false
      notifyClient := fun _ => false
      ticksToFlush := arpTicksPerFlush }
  processed := fun _ => []
  taken := fun _ => []

theorem ArpSystem.idle_initial : idle.Initial where
  arpTable entry member := by rw [List.mem_singleton.mp member]; rfl
  arpReqQueue _ := rfl
  arpRespQueue _ := rfl
  processed _ := rfl
  taken _ := rfl

/-- An ARP reply from 10.0.0.2. -/
def replyPacket : Packet := fun i =>
  if i = 12 then 0x08 else if i = 13 then 0x06 else if i = 21 then 2 else
    if i = 28 then 10 else if i = 31 then 2 else 0

/-- Two replies nobody asked for get the client a response it never requested: the first creates an
entry that names client 0, the second answers it. -/
theorem gratuitous_replies_are_answered :
    idle.Initial ∧ ∃ system, Run ArpStep idle
        [.processResponse replyPacket, .processResponse replyPacket] system ∧
      countFor 0x0200000a (system.requestsMade onlyClient) = 0 ∧
      countFor 0x0200000a (system.responsesMade onlyClient) = 1 := by
  refine ⟨idle_initial, _, Run.of_foldlM (fun _ _ _ performed => performed) rfl, ?_, ?_⟩
  · decide
  · decide

def sampleRequest : FwArpRequest :=
  { ip := 0x0200000a, macAddr := fun _ => 0, state := .invalid }

/-- A request that is answered once. -/
theorem responses_never_exceed_requests_answered :
    ∃ system, Run (Guarded ArpSystem.OwesAnswers ArpStep) idle
        [.request onlyClient sampleRequest, .processRequest onlyClient,
          .processResponse replyPacket] system ∧
      countFor 0x0200000a (system.responsesMade onlyClient) = 1 ∧
      countFor 0x0200000a (system.responsesMade onlyClient) ≤
        countFor 0x0200000a (system.requestsMade onlyClient) := by
  obtain ⟨asked, processed, system, step₁, step₂, step₃, found, pending, answered⟩ :
      ∃ asked processed system, ArpStep idle (.request onlyClient sampleRequest) asked ∧
        ArpStep asked (.processRequest onlyClient) processed ∧
        ArpStep processed (.processResponse replyPacket) system ∧
        fwArpTableFindEntry processed.requester.arpTable replyPacket.arpIpsrcAddr = some 0 ∧
        (processed.requester.entryAt 0).state = .pending ∧
        countFor 0x0200000a (system.responsesMade onlyClient) = 1 :=
    ⟨_, _, _, rfl, rfl, rfl, by decide, by decide, by decide⟩
  have owes : processed.OwesAnswers (.processResponse replyPacket) := by
    intro _ index same settled
    rw [found, some.injEq] at same
    exact absurd pending (same ▸ settled)
  have run₁ : Run (Guarded ArpSystem.OwesAnswers ArpStep) idle
      [.request onlyClient sampleRequest] asked := Run.single ⟨trivial, step₁⟩
  have run₂ : Run (Guarded ArpSystem.OwesAnswers ArpStep) idle
      [.request onlyClient sampleRequest, .processRequest onlyClient] processed :=
    run₁.snoc ⟨trivial, step₂⟩
  have run := run₂.snoc ⟨owes, step₃⟩
  exact ⟨system, run, answered,
    (responses_never_exceed_requests idle_initial).1 _ system run onlyClient _⟩

end LionsOS.Firewall
