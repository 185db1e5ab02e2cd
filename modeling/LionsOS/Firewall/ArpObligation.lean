/-
This file follows what the requester still has to tell a client about an
address: a request in the client's queue, a pending entry that names the client,
or a response in its queue. Each event passes this on from one place to the
next, with three exceptions, in which one of them is dropped: a response that
finds the client's queue full, whether on a request, a reply or the last retry,
and a request that finds the table full.
-/

import LionsOS.Firewall.ArpAnswers

open Function

namespace LionsOS.Firewall

open FwArpEntry

variable {config : FwArpRequesterConfig} {sender : Fin config.numArpClients} {index : Nat}

namespace ArpRequester

variable (requester : ArpRequester config) (client : Fin config.numArpClients) (ip : UInt32T)

/-! ### What is left to tell -/

/-- The requests, promises and responses there are for a client about an address. -/
def tokens : Nat :=
  countFor ip (requester.arpReqQueue client).entries + requester.answers client ip

/-- The request of an address cannot be answered or recorded. -/
def Unanswerable : Prop :=
  match fwArpTableFindEntry requester.arpTable ip with
  | some index => (requester.entryAt index).state ≠ .pending ∧
      fwQueueFull (requester.arpRespQueue client) = true
  | none => ∀ entry ∈ requester.arpTable, entry.state ≠ .invalid

/-- The event drops what it should tell the client about an address. -/
def Drops : ArpEvent config → Prop
  | .processRequest sender => sender = client ∧ ∃ request,
      (requester.arpReqQueue client).entries.head? = some request ∧ request.ip = ip ∧
        requester.Unanswerable client ip
  | .processResponse packet => packet.isArpReply ∧ packet.arpIpsrcAddr = ip ∧
      fwQueueFull (requester.arpRespQueue client) = true ∧ ∃ index,
        fwArpTableFindEntry requester.arpTable ip = some index ∧
        (requester.entryAt index).owes client ip = true
  | .retryEntry index => (requester.entryAt index).owes client ip = true ∧
      arpMaxRetries ≤ (requester.entryAt index).numRetries ∧
      fwQueueFull (requester.arpRespQueue client) = true
  | _ => False

/-! ### Requests -/

theorem handleRequest_arpReqQueue (sender : Fin config.numArpClients) (request : FwArpRequest) :
    (requester.handleRequest sender request).arpReqQueue = requester.arpReqQueue := by
  have outcome := requester.handleRequest_outcome sender request
  generalize requester.handleRequest sender request = handled at outcome
  cases outcome <;> rfl

/-- Joining a pending entry leaves the promises to other clients alone, and makes one to the
client. -/
theorem joined_promised (inside : index < requester.arpTable.length)
    (pending : requester.arpTable[index].state = .pending) (sender : Fin config.numArpClients) :
    (sender ≠ client → (requester.setEntry index { requester.arpTable[index] with
        client := requester.arpTable[index].client ||| bit sender }).promised client ip =
      requester.promised client ip) ∧
    (requester.arpTable[index].ip ≠ ip → (requester.setEntry index { requester.arpTable[index] with
        client := requester.arpTable[index].client ||| bit sender }).promised client ip =
      requester.promised client ip) ∧
    (sender = client → requester.arpTable[index].ip = ip →
      0 < (requester.setEntry index { requester.arpTable[index] with
        client := requester.arpTable[index].client ||| bit sender }).promised client ip) := by
  have promised := requester.setEntry_promised client ip inside
    { requester.arpTable[index] with client := requester.arpTable[index].client ||| bit sender }
  have owes : ({ requester.arpTable[index] with
      client := requester.arpTable[index].client ||| bit sender } : FwArpEntry).owes client ip =
      (requester.arpTable[index].ip == ip &&
        (requester.arpTable[index].hasClient client || decide (sender = client))) := by
    rw [FwArpEntry.owes, hasClient_join _ (client_lt_eight sender) (client_lt_eight client)]
    simp [pending, Fin.ext_iff]
  have before : requester.arpTable[index].owes client ip =
      (requester.arpTable[index].ip == ip && requester.arpTable[index].hasClient client) := by
    simp [FwArpEntry.owes, pending]
  refine ⟨fun other => ?_, fun other => ?_, fun same sameIp => ?_⟩
  · rw [owes, before, decide_eq_false other, Bool.or_false] at promised
    exact Nat.add_right_cancel promised
  · rw [owes, before, beq_eq_false_iff_ne.mpr other] at promised
    exact promised
  · have owed : ({ requester.arpTable[index] with
        client := requester.arpTable[index].client ||| bit sender } : FwArpEntry).owes client ip =
        true := by
      rw [owes, sameIp, beq_self_eq_true, decide_eq_true same, Bool.or_true, Bool.and_true]
    refine List.countP_pos_iff.mpr ⟨_, ?_, owed⟩
    exact List.mem_set inside _

theorem handleRequest_other (other : sender ≠ client) (request : FwArpRequest) :
    (requester.handleRequest sender request).answers client ip = requester.answers client ip := by
  have outcome := requester.handleRequest_outcome sender request
  generalize requester.handleRequest sender request = handled at outcome
  cases outcome with
  | answered index inside found sameIp settled =>
    have queue : (requester.respond sender (fwArpResponseFromEntry
        requester.arpTable[index])).arpRespQueue client = requester.arpRespQueue client :=
      update_of_ne (Ne.symm other) _ _
    rw [answers, queue]
    rfl
  | joined index inside found sameIp pending =>
    rw [answers, (requester.joined_promised client ip inside pending sender).1 other]
    rfl
  | asked absent index inside added invalid pending sameIp named =>
    have promised := setEntry_promised { requester with
      txFree := requester.txFree - 1, transmitted := true } client ip inside added
    have owed : added.owes client ip = false := by
      have has := hasClient_bit added (client_lt_eight sender) (client_lt_eight client)
      rw [← named] at has
      have differ : ¬ (sender : Nat) = client := fun same => other (Fin.ext same)
      rw [owes, has, decide_eq_false differ, Bool.and_false]
    have nothing : requester.arpTable[index].owes client ip = false := by
      simp [owes, invalid]
    rw [owed] at promised
    simp only [nothing, Bool.toNat_false, Nat.add_zero] at promised
    rw [answers, promised]
    rfl
  | forgotten absent full => rfl

/-- A request is answered or recorded, unless it is unanswerable; answers about other addresses
stay. -/
theorem handleRequest_own (request : FwArpRequest) :
    (request.ip ≠ ip →
      (requester.handleRequest client request).answers client ip = requester.answers client ip) ∧
    (request.ip = ip →
      (requester.Unanswerable client ip →
        (requester.handleRequest client request).answers client ip = requester.answers client ip) ∧
      (¬ requester.Unanswerable client ip →
        0 < (requester.handleRequest client request).answers client ip)) := by
  have outcome := requester.handleRequest_outcome client request
  generalize requester.handleRequest client request = handled at outcome
  cases outcome with
  | answered index inside found sameIp settled =>
    have queue : (requester.respond client (fwArpResponseFromEntry
        requester.arpTable[index])).arpRespQueue client =
        fwEnqueueOrDrop (requester.arpRespQueue client)
          (fwArpResponseFromEntry requester.arpTable[index]) := update_self _ _ _
    have responseIp : (fwArpResponseFromEntry requester.arpTable[index]).ip = request.ip := sameIp
    have answers : (requester.respond client (fwArpResponseFromEntry
        requester.arpTable[index])).answers client ip = requester.answers client ip +
          (!fwQueueFull (requester.arpRespQueue client) && request.ip == ip).toNat := by
      rw [ArpRequester.answers, queue, countFor_enqueueOrDrop, responseIp, Nat.add_right_comm]
      rfl
    refine ⟨fun other => ?_, fun same => ?_⟩
    · rw [answers, beq_eq_false_iff_ne.mpr other, Bool.and_false]
      rfl
    · subst same
      rw [answers, beq_self_eq_true]
      unfold Unanswerable
      rw [found]
      dsimp only
      rw [entryAt_eq requester inside]
      refine ⟨fun both => by rw [both.2]; rfl, fun answerable => ?_⟩
      have room : fwQueueFull (requester.arpRespQueue client) = false :=
        Bool.not_eq_true _ ▸ fun full => answerable ⟨settled, full⟩
      rw [room]
      exact Nat.succ_pos _
  | joined index inside found sameIp pending =>
    obtain ⟨_, elsewhere, here⟩ := requester.joined_promised client ip inside pending client
    refine ⟨fun other => ?_, fun same => ⟨fun unanswerable => ?_, fun _ => ?_⟩⟩
    · rw [answers, elsewhere (sameIp ▸ other)]
      rfl
    · subst same
      unfold Unanswerable at unanswerable
      rw [found] at unanswerable
      exact absurd pending (entryAt_eq requester inside ▸ unanswerable.1)
    · exact Nat.add_pos_right _ (here rfl (sameIp.trans same))
  | asked absent index inside added invalid pending sameIp named =>
    have promised := setEntry_promised { requester with
      txFree := requester.txFree - 1, transmitted := true } client ip inside added
    have owed : added.owes client ip = (request.ip == ip) := by
      have has := hasClient_bit added (client_lt_eight client) (client_lt_eight client)
      rw [← named] at has
      rw [owes, has, pending, sameIp]
      simp
    have nothing : requester.arpTable[index].owes client ip = false := by
      simp [owes, invalid]
    rw [owed] at promised
    simp only [nothing, Bool.toNat_false, Nat.add_zero] at promised
    refine ⟨fun other => ?_, fun same => ⟨fun unanswerable => ?_, fun _ => ?_⟩⟩
    · rw [answers, promised, beq_eq_false_iff_ne.mpr other]
      rfl
    · subst same
      unfold Unanswerable at unanswerable
      rw [absent] at unanswerable
      exact absurd invalid (unanswerable _ (List.getElem_mem inside))
    · rw [answers, promised, same, beq_self_eq_true]
      exact Nat.add_pos_right _ (Nat.succ_pos _)
  | forgotten absent full =>
    refine ⟨fun _ => rfl, fun same => ⟨fun _ => rfl, fun answerable => absurd ?_ answerable⟩⟩
    subst same
    unfold Unanswerable
    rw [absent]
    exact full

/-! ### Every event -/

/-- What an event does to what is left to tell: a drop costs one, and otherwise what is left is not
lost. -/
structure PassesOn (event : ArpEvent config) (next : ArpRequester config) : Prop where
  drops : requester.Drops client ip event →
    next.tokens client ip + 1 = requester.tokens client ip
  keeps : ¬ requester.Drops client ip event → 0 < requester.tokens client ip →
    0 < next.tokens client ip

open PassesOn

variable {requester client ip} {event : ArpEvent config} {next : ArpRequester config}

theorem PassesOn.of_le (harmless : ¬ requester.Drops client ip event)
    (kept : requester.tokens client ip ≤ next.tokens client ip) :
    requester.PassesOn client ip event next where
  drops drop := absurd drop harmless
  keeps _ positive := Nat.lt_of_lt_of_le positive kept

theorem processRequest_passesOn (acted : requester.act (.processRequest sender) = some next) :
    requester.PassesOn client ip (.processRequest sender) next := by
  unfold act processRequest at acted
  split_ifs at acted
  obtain ⟨⟨request, queue⟩, dequeued, rfl⟩ := Option.map_eq_some_iff.mp acted
  have entries := (fwDequeue_eq_some.mp dequeued).1
  show requester.PassesOn client ip (.processRequest sender) (handleRequest { requester with
    arpReqQueue := update requester.arpReqQueue sender queue } sender request)
  generalize prepared : ({ requester with
    arpReqQueue := update requester.arpReqQueue sender queue } : ArpRequester config) = dequeuedOf
  have sameAnswers : dequeuedOf.answers client ip = requester.answers client ip := by
    rw [← prepared]
    rfl
  by_cases own : sender = client
  · subst own
    have queueEntries : (dequeuedOf.arpReqQueue sender).entries = queue.entries := by
      rw [← prepared]
      exact congrArg FwQueue.entries (update_self _ _ _)
    have counted : countFor ip (requester.arpReqQueue sender).entries =
        countFor ip queue.entries + (request.ip == ip).toNat := by
      rw [entries, ← countFor_singleton ip request, Nat.add_comm, ← countFor_append]
      rfl
    have sameDrops : requester.Drops sender ip (.processRequest sender) ↔
        request.ip = ip ∧ dequeuedOf.Unanswerable sender ip := by
      have sameUnanswerable : dequeuedOf.Unanswerable sender ip =
          requester.Unanswerable sender ip := by
        rw [← prepared]
        rfl
      rw [sameUnanswerable]
      unfold Drops
      rw [entries]
      simp
    obtain ⟨elsewhere, here⟩ := dequeuedOf.handleRequest_own sender ip request
    refine ⟨fun drops => ?_, fun harmless positive => ?_⟩
    · obtain ⟨same, unanswerable⟩ := sameDrops.mp drops
      rw [tokens, handleRequest_arpReqQueue, queueEntries, (here same).1 unanswerable, sameAnswers,
        tokens, counted, same, beq_self_eq_true]
      exact Nat.add_right_comm _ _ _
    · rw [tokens, handleRequest_arpReqQueue, queueEntries]
      by_cases same : request.ip = ip
      · exact Nat.add_pos_right _ ((here same).2 fun unanswerable =>
          harmless (sameDrops.mpr ⟨same, unanswerable⟩))
      · rw [tokens, counted, beq_eq_false_iff_ne.mpr same] at positive
        rw [elsewhere same, sameAnswers]
        exact positive
  · have sameQueue : dequeuedOf.arpReqQueue client = requester.arpReqQueue client := by
      rw [← prepared]
      exact update_of_ne (Ne.symm own) _ _
    refine of_le (fun drops => own drops.1) (Nat.le_of_eq ?_)
    rw [tokens, tokens, handleRequest_arpReqQueue, sameQueue,
      handleRequest_other dequeuedOf client ip own, sameAnswers]

/-- Settling a pending entry drops a promise exactly when the client's queue is full. -/
theorem settle_tokens (client : Fin config.numArpClients) (ip : UInt32T)
    (inside : index < requester.arpTable.length) {entry : FwArpEntry}
    (settled : entry.state ≠ .pending) (sameIp : entry.ip = requester.arpTable[index].ip)
    (sameClient : entry.client = requester.arpTable[index].client) :
    let next := (requester.setEntry index entry).respondToClients entry
    (requester.arpTable[index].owes client ip = true ∧
      fwQueueFull (requester.arpRespQueue client) = true →
        next.tokens client ip + 1 = requester.tokens client ip) ∧
    (¬ (requester.arpTable[index].owes client ip = true ∧
      fwQueueFull (requester.arpRespQueue client) = true) →
        requester.tokens client ip ≤ next.tokens client ip) := by
  intro next
  have answers := requester.settle_answers client ip inside settled sameIp sameClient
  have queue : next.arpReqQueue = requester.arpReqQueue :=
    (respondTo_keeps (requester.setEntry index entry) entry (List.finRange config.numArpClients)).2
  have owes : requester.arpTable[index].owes client ip = true →
      (requester.arpTable[index].hasClient client && !fwQueueFull (requester.arpRespQueue client) &&
        requester.arpTable[index].ip == ip) = !fwQueueFull (requester.arpRespQueue client) := by
    intro owed
    simp only [owes, Bool.and_eq_true, beq_iff_eq] at owed
    rw [owed.2, owed.1.2, beq_self_eq_true, Bool.and_true, Bool.true_and]
  unfold tokens
  rw [queue]
  refine ⟨fun both => ?_, fun either => ?_⟩
  · rw [owes both.1, both.1, both.2] at answers
    simp only [Bool.toNat_true, Bool.not_true, Bool.toNat_false, Nat.add_zero] at answers
    rw [← answers, Nat.add_assoc]
  · refine Nat.add_le_add_left ?_ _
    cases owed : requester.arpTable[index].owes client ip with
    | false =>
      rw [owed] at answers
      exact Nat.le_of_add_right_le answers.ge
    | true =>
      have room : fwQueueFull (requester.arpRespQueue client) = false :=
        Bool.not_eq_true _ ▸ fun full => either ⟨owed, full⟩
      rw [owes owed, owed, room] at answers
      exact (Nat.add_right_cancel answers).ge

theorem processResponse_passesOn (packet : Packet) :
    requester.PassesOn client ip (.processResponse packet) (requester.processResponse packet) := by
  unfold processResponse
  by_cases reply : packet.isArpReply
  swap
  · rw [if_neg reply]
    exact of_le (fun drops => reply drops.1) le_rfl
  rw [if_pos reply]
  have outcome := requester.processReply_outcome packet.arpIpsrcAddr packet.arpHwsrcAddr
  generalize requester.processReply packet.arpIpsrcAddr packet.arpHwsrcAddr = replied at outcome
  cases outcome with
  | updated index inside found entry reachable sameIp sameClient =>
    have settled : entry.state ≠ .pending := by
      rw [reachable]
      exact fun same => by cases same
    obtain ⟨dropped, kept⟩ := settle_tokens client ip inside settled sameIp sameClient
    have ipAt := (fwArpTableFindEntry_eq_some found).2.2
    have sameDrops : requester.Drops client ip (.processResponse packet) ↔
        requester.arpTable[index].owes client ip = true ∧
          fwQueueFull (requester.arpRespQueue client) = true := by
      constructor
      · rintro ⟨_, rfl, full, other, same, owed⟩
        rw [found, Option.some.injEq] at same
        subst same
        rw [entryAt_eq requester inside] at owed
        exact ⟨owed, full⟩
      · rintro ⟨owed, full⟩
        have sameAddress : packet.arpIpsrcAddr = ip := by
          simp only [owes, Bool.and_eq_true, beq_iff_eq] at owed
          exact ipAt.symm.trans owed.1.2
        refine ⟨reply, sameAddress, full, index, sameAddress ▸ found, ?_⟩
        rw [entryAt_eq requester inside]
        exact owed
    rw [← sameDrops] at dropped kept
    exact ⟨dropped, fun harmless positive => Nat.lt_of_lt_of_le positive (kept harmless)⟩
  | learned absent index inside added invalid reachable =>
    have harmless : ¬ requester.Drops client ip (.processResponse packet) := by
      rintro ⟨_, rfl, _, other, same, _⟩
      rw [absent] at same
      cases same
    have promised := requester.setEntry_promised client ip inside added
    have before : requester.arpTable[index].owes client ip = false := by
      simp [owes, invalid]
    have after : added.owes client ip = false := by simp [owes, reachable]
    rw [before, after] at promised
    refine of_le harmless (Nat.le_of_eq ?_)
    rw [tokens, tokens, answers, answers, Nat.add_right_cancel promised]
    rfl
  | ignored absent =>
    refine of_le ?_ le_rfl
    rintro ⟨_, rfl, _, other, same, _⟩
    rw [absent] at same
    cases same

theorem retryEntry_passesOn (index : Nat) :
    requester.PassesOn client ip (.retryEntry index) (requester.retryEntry index) := by
  have outcome := requester.retryEntry_outcome index
  generalize requester.retryEntry index = retried at outcome
  cases outcome with
  | skipped settled =>
    refine of_le (fun drops => settled ?_) le_rfl
    have owed := drops.1
    simp only [owes, Bool.and_eq_true, beq_iff_eq] at owed
    exact owed.1.1
  | retried inside txFree transmitted entry pending left sameState sameIp sameClient =>
    have promised := setEntry_promised { requester with txFree, transmitted } client ip inside entry
    have sameOwed : entry.owes client ip = requester.arpTable[index].owes client ip := by
      rw [owes, owes, sameState, pending, sameIp, hasClient, hasClient, sameClient]
    rw [sameOwed] at promised
    refine of_le (fun drops => ?_) (Nat.le_of_eq ?_)
    · rw [Drops, entryAt_eq requester inside] at drops
      exact absurd drops.2.1 (Nat.not_le.mpr left)
    · rw [tokens, tokens, answers, answers, Nat.add_right_cancel promised]
      rfl
  | abandoned inside entry pending exhausted unreachable sameIp sameClient =>
    have settled : entry.state ≠ .pending := by
      rw [unreachable]
      exact fun same => by cases same
    obtain ⟨dropped, kept⟩ := settle_tokens client ip inside settled sameIp sameClient
    have sameDrops : requester.Drops client ip (.retryEntry index) ↔
        requester.arpTable[index].owes client ip = true ∧
          fwQueueFull (requester.arpRespQueue client) = true := by
      rw [Drops, entryAt_eq requester inside]
      exact ⟨fun drops => ⟨drops.1, drops.2.2⟩, fun both => ⟨both.1, exhausted, both.2⟩⟩
    rw [← sameDrops] at dropped kept
    exact ⟨dropped, fun harmless positive => Nat.lt_of_lt_of_le positive (kept harmless)⟩

theorem act_passesOn (acted : requester.act event = some next) (notTaken : event ≠ .take client) :
    requester.PassesOn client ip event next := by
  cases event with
  | request sender request =>
    obtain ⟨queue, enqueued, rfl⟩ := Option.map_eq_some_iff.mp acted
    refine of_le (fun drops => drops) (Nat.add_le_add_right ?_ _)
    by_cases own : sender = client
    · subst own
      dsimp only
      rw [update_self, (fwEnqueue_eq_some.mp enqueued).1, countFor_append]
      exact Nat.le_add_right _ _
    · dsimp only
      rw [update_of_ne (Ne.symm own)]
  | take other =>
    obtain ⟨⟨response, queue⟩, dequeued, rfl⟩ := Option.map_eq_some_iff.mp acted
    have different : client ≠ other := fun same => notTaken (by rw [same])
    refine of_le (fun drops => drops) (Nat.le_of_eq ?_)
    unfold tokens answers
    dsimp only
    rw [update_of_ne different]
    rfl
  | processRequest sender => exact processRequest_passesOn acted
  | processResponse packet =>
    cases acted
    exact processResponse_passesOn packet
  | retryEntry index =>
    cases acted
    exact retryEntry_passesOn index
  | flush =>
    cases acted
    have promised := flush_promised requester client ip
    refine of_le (fun drops => drops) (Nat.le_of_eq ?_)
    rw [tokens, answers, ← promised]
    rfl
  | returnTx | count =>
    cases acted
    exact of_le (fun drops => drops) le_rfl

end ArpRequester

end LionsOS.Firewall
