/-
This file is about the ARP cache over the runs of the requester. An address has
at most one valid entry, so the first one that is found is the one there is. An
entry that is added is put into an invalid slot, and only where the address has
none. A retry tick takes every pending entry one retry further, and only a reply
settles a pending entry otherwise.
-/

import LionsOS.Firewall.ArpAnswers

namespace LionsOS.Firewall

open StepRun List

variable {retries : Nat} {index : Nat}

/-! ### Occupied entries -/

/-- The entry at an index is valid and about the address. -/
def Occupied (table : List FwArpEntry) (index : Nat) (ip : UInt32T) : Prop :=
  ∃ inside : index < table.length, table[index].state ≠ .invalid ∧ table[index].ip = ip

/-- The entry at an index waits for a reply, and has been retried at least so often. -/
def PendingFor (table : List FwArpEntry) (index : Nat) (ip : UInt32T) (retries : Nat) : Prop :=
  ∃ inside : index < table.length, table[index].state = .pending ∧ table[index].ip = ip ∧
    retries ≤ table[index].numRetries

def OnePerIp (table : List FwArpEntry) : Prop :=
  ∀ first second ip, Occupied table first ip → Occupied table second ip → first = second

variable {table next : List FwArpEntry} {other : Nat} {ip : UInt32T} {entry : FwArpEntry}

theorem occupied_set_self : Occupied (table.set index entry) index ip ↔
    index < table.length ∧ entry.state ≠ .invalid ∧ entry.ip = ip := by
  simp only [Occupied, length_set, getElem_set_self, exists_prop]

theorem occupied_set_of_ne (different : other ≠ index) :
    Occupied (table.set index entry) other ip ↔ Occupied table other ip := by
  simp only [Occupied, length_set, getElem_set_ne different.symm]

theorem pendingFor_set_self : PendingFor (table.set index entry) index ip retries ↔
    index < table.length ∧ entry.state = .pending ∧ entry.ip = ip ∧ retries ≤ entry.numRetries := by
  simp only [PendingFor, length_set, getElem_set_self, exists_prop]

theorem pendingFor_set_of_ne (different : other ≠ index) :
    PendingFor (table.set index entry) other ip retries ↔ PendingFor table other ip retries := by
  simp only [PendingFor, length_set, getElem_set_ne different.symm]

theorem OnePerIp.of_kept (unique : OnePerIp table)
    (kept : ∀ index ip, Occupied next index ip → Occupied table index ip) : OnePerIp next :=
  fun first second ip atFirst atSecond =>
    unique first second ip (kept first ip atFirst) (kept second ip atSecond)

/-! ### Finding and adding -/

theorem OnePerIp.find (unique : OnePerIp table) (occupied : Occupied table index ip) :
    fwArpTableFindEntry table ip = some index := by
  cases found : fwArpTableFindEntry table ip with
  | some first =>
    rw [unique first index ip (fwArpTableFindEntry_eq_some found) occupied]
  | none =>
    obtain ⟨inside, valid, same⟩ := occupied
    have missed := findIdx?_eq_none_iff.mp found _ (getElem_mem inside)
    simp [FwArpEntry.isFor, valid, same] at missed

theorem find_eq_none (absent : fwArpTableFindEntry table ip = none) (index : Nat) :
    ¬ Occupied table index ip := by
  rintro ⟨inside, valid, same⟩
  have missed := findIdx?_eq_none_iff.mp absent _ (getElem_mem inside)
  simp [FwArpEntry.isFor, valid, same] at missed

theorem OnePerIp.set_of_absent (unique : OnePerIp table)
    (absent : fwArpTableFindEntry table ip = none) (sameIp : entry.ip = ip) :
    OnePerIp (table.set index entry) := by
  have elsewhere : ∀ {place address}, place ≠ index →
      Occupied (table.set index entry) place address → Occupied table place address :=
    fun different => (occupied_set_of_ne different).mp
  have nowhere : ∀ {place}, place ≠ index → ¬ Occupied (table.set index entry) place ip :=
    fun different occupied => find_eq_none absent _ (elsewhere different occupied)
  intro first second address atFirst atSecond
  by_cases here : first = index
  · subst here
    obtain ⟨_, _, rfl⟩ := occupied_set_self.mp atFirst
    by_contra different
    exact nowhere (Ne.symm different) (sameIp ▸ atSecond)
  by_cases there : second = index
  · subst there
    obtain ⟨_, _, rfl⟩ := occupied_set_self.mp atSecond
    exact absurd (sameIp ▸ atFirst) (nowhere here)
  · exact unique first second address (elsewhere here atFirst) (elsewhere there atSecond)

/-- The table is reported full for the addresses that have no entry, once no slot is invalid. -/
theorem fwArpTableAddEntry_eq_full {state : FwArpEntryState} {macAddr : Option MacAddr}
    (client : Nat) :
    fwArpTableAddEntry table state ip macAddr client = .error .full ↔
      ¬ (state = .reachable ∧ macAddr = none) ∧ (∀ index, ¬ Occupied table index ip) ∧
        ∀ entry ∈ table, entry.state ≠ .invalid := by
  by_cases rejected : state = .reachable ∧ macAddr = none
  · rw [fwArpTableAddEntry, if_pos rejected]
    exact iff_of_false (by simp) fun full => full.1 rejected
  cases found : fwArpTableFindEntry table ip with
  | some index =>
    rw [fwArpTableAddEntry, if_neg rejected, found]
    exact iff_of_false (by simp) fun full =>
      full.2.1 index (fwArpTableFindEntry_eq_some found)
  | none =>
    have given : state = .reachable → macAddr ≠ none := fun reachable none =>
      rejected ⟨reachable, none⟩
    rcases fwArpTableAddEntry_cases client found given with
      ⟨failed, full⟩ | ⟨index, added, inside, invalid, _, _, _, done⟩
    · exact iff_of_true failed ⟨rejected, find_eq_none found, full⟩
    · rw [done]
      exact iff_of_false (by simp) fun full =>
        full.2.2 _ (getElem_mem inside) invalid

/-! ### Calls -/

variable {config : FwArpRequesterConfig}

/-- What a retry tick does to an entry. -/
def FwArpEntry.retried (entry : FwArpEntry) : FwArpEntry :=
  if entry.state ≠ .pending then entry
  else if arpMaxRetries ≤ entry.numRetries then { entry with state := .unreachable }
  else { entry with numRetries := entry.numRetries + 1 }

open FwArpEntry

/-- What a flush does to an entry. -/
def FwArpEntry.flushed (entry : FwArpEntry) : FwArpEntry :=
  if ArpRequester.keptByFlush entry then entry else { entry with state := .invalid }

/-- What happens to a requester. A tick of the timer retries, or flushes if it is the last. -/
inductive ArpCall (config : FwArpRequesterConfig) where
  | request (client : Fin config.numArpClients) (request : FwArpRequest)
  | take (client : Fin config.numArpClients)
  | returnTx
  | processRequest (client : Fin config.numArpClients)
  | processResponse (packet : Packet)
  | retries
  | flush

variable {call : ArpCall config}

namespace ArpCall

/-- A reply about an address. -/
def isReplyFor (ip : UInt32T) : ArpCall config → Bool
  | .processResponse packet => packet.isArpReply && packet.arpIpsrcAddr == ip
  | _ => false

def isRetries : ArpCall config → Bool
  | .retries => true
  | _ => false

def isTick : ArpCall config → Bool
  | .retries | .flush => true
  | _ => false

end ArpCall

namespace ArpRequester

variable (requester : ArpRequester config)

/-- `none` when it can not happen. -/
def perform : ArpCall config → Option (ArpRequester config)
  | .request client request => requester.act (.request client request)
  | .take client => requester.act (.take client)
  | .returnTx => requester.act .returnTx
  | .processRequest client => requester.processRequest client
  | .processResponse packet => some (requester.processResponse packet)
  | .retries => if requester.ticksToFlush - 1 ≠ 0 then some requester.tick else none
  | .flush => if requester.ticksToFlush - 1 = 0 then some requester.tick else none

theorem retryEntry_arpTable (inside : index < requester.arpTable.length) :
    (requester.retryEntry index).arpTable =
      requester.arpTable.set index requester.arpTable[index].retried := by
  unfold retryEntry retried
  dsimp only
  rw [entryAt_eq requester inside]
  split_ifs
  · exact (set_getElem_self inside).symm
  · exact (respondTo_keeps _ _ _).1
  · rfl
  · rfl

/-- The loop over the entries retries each of them once. -/
theorem foldl_retryEntry_arpTable {count : Nat} (within : count ≤ requester.arpTable.length)
    (index : Nat) :
    ((List.range count).foldl retryEntry requester).arpTable[index]? =
      if index < count then requester.arpTable[index]?.map retried
      else requester.arpTable[index]? := by
  induction count generalizing index with
  | zero => rfl
  | succ count inductionHypothesis =>
    have earlier := inductionHypothesis (Nat.le_of_succ_le within)
    have here := earlier count
    rw [if_neg (Nat.lt_irrefl count), List.getElem?_eq_getElem within] at here
    obtain ⟨inside, same⟩ := List.getElem?_eq_some_iff.mp here
    rw [List.range_succ, List.foldl_append, List.foldl_cons, List.foldl_nil,
      retryEntry_arpTable _ inside, List.getElem?_set, same, earlier index]
    by_cases isLast : count = index
    · subst isLast
      rw [if_pos rfl, if_pos inside, if_pos (Nat.lt_succ_self count),
        List.getElem?_eq_getElem within]
      rfl
    · rw [if_neg isLast]
      exact if_congr (by omega) rfl rfl

theorem processRetries_arpTable :
    requester.processRetries.arpTable = requester.arpTable.map retried := by
  refine ext_getElem? fun index => ?_
  rw [processRetries, foldl_retryEntry_arpTable requester (Nat.le_refl _), getElem?_map]
  split_ifs with inside
  · rfl
  · rw [getElem?_eq_none (Nat.not_lt.mp inside)]
    rfl

end ArpRequester

/-- What the calls do to the table. -/
inductive TableChange (table : List FwArpEntry) : ArpCall config → List FwArpEntry → Prop
  | same {call : ArpCall config} (quiet : call.isTick = false) : TableChange table call table
  | joined {call : ArpCall config} (quiet : call.isTick = false) (index : Nat)
    (inside : index < table.length) (client : UInt8T) :
    TableChange table call (table.set index { table[index] with client })
  | added {call : ArpCall config} (quiet : call.isTick = false) (ip : UInt32T)
    (absent : fwArpTableFindEntry table ip = none) (index : Nat) (inside : index < table.length)
    (invalid : table[index].state = .invalid) (entry : FwArpEntry) (sameIp : entry.ip = ip) :
    TableChange table call (table.set index entry)
  | replied (packet : Packet) (reply : packet.isArpReply = true) (index : Nat)
    (inside : index < table.length) (valid : table[index].state ≠ .invalid)
    (sameIp : table[index].ip = packet.arpIpsrcAddr) (macAddr : MacAddr) :
    TableChange table (.processResponse packet)
      (table.set index { table[index] with state := .reachable, macAddr })
  | retries : TableChange table .retries (table.map retried)
  | flush : TableChange table .flush (table.map flushed)

namespace ArpRequester

variable {requester after : ArpRequester config}

theorem processRequest_change {client : Fin config.numArpClients}
    (done : requester.processRequest client = some after) :
    TableChange requester.arpTable (.processRequest client) after.arpTable := by
  unfold processRequest at done
  split_ifs at done with none
  obtain ⟨⟨request, queue⟩, _, rfl⟩ := Option.map_eq_some_iff.mp done
  have outcome := handleRequest_outcome { requester with
    arpReqQueue := Function.update requester.arpReqQueue client queue } client request
  dsimp only
  generalize handleRequest { requester with
    arpReqQueue := Function.update requester.arpReqQueue client queue } client request =
    handled at outcome
  cases outcome with
  | answered index inside found sameIp settled => exact TableChange.same rfl
  | joined index inside found sameIp pending => exact TableChange.joined rfl index inside _
  | asked absent index inside added invalid pending sameIp named =>
    exact TableChange.added rfl _ absent index inside invalid added sameIp
  | forgotten absent full => exact TableChange.same rfl

theorem processResponse_change (packet : Packet) :
    TableChange requester.arpTable (.processResponse packet : ArpCall config)
      (requester.processResponse packet).arpTable := by
  unfold processResponse
  split_ifs with reply
  case neg => exact TableChange.same rfl
  case pos =>
    unfold processReply
    cases found : fwArpTableFindEntry requester.arpTable packet.arpIpsrcAddr with
    | some index =>
      obtain ⟨inside, valid, sameIp⟩ := fwArpTableFindEntry_eq_some found
      dsimp only
      rw [respondToClients, (respondTo_keeps _ _ _).1, entryAt_eq requester inside]
      exact TableChange.replied packet reply index inside valid sameIp packet.arpHwsrcAddr
    | none =>
      rcases fwArpTableAddEntry_cases 0 found fun _ => Option.some_ne_none packet.arpHwsrcAddr with
        ⟨failed, _⟩ | ⟨index, added, inside, invalid, _, sameIp, _, done⟩
      · rw [failed]
        exact TableChange.same rfl
      · rw [done]
        exact TableChange.added rfl _ found index inside invalid added sameIp

theorem perform_change (done : requester.perform call = some after) :
    TableChange requester.arpTable call after.arpTable := by
  cases call with
  | request client request =>
    obtain ⟨queue, _, rfl⟩ := Option.map_eq_some_iff.mp done
    exact TableChange.same rfl
  | take client =>
    obtain ⟨⟨response, queue⟩, _, rfl⟩ := Option.map_eq_some_iff.mp done
    exact TableChange.same rfl
  | returnTx =>
    cases done
    exact TableChange.same rfl
  | processRequest client => exact processRequest_change done
  | processResponse packet =>
    cases done
    exact processResponse_change packet
  | retries =>
    unfold perform at done
    split_ifs at done with more
    cases done
    unfold tick
    rw [if_pos more, processRetries_arpTable]
    exact TableChange.retries
  | flush =>
    unfold perform at done
    split_ifs at done with last
    cases done
    unfold tick
    rw [if_neg last]
    exact TableChange.flush

end ArpRequester

/-! ### What the calls keep -/

theorem occupied_map {change : FwArpEntry → FwArpEntry} :
    Occupied (table.map change) index ip ↔ ∃ inside : index < table.length,
      (change table[index]).state ≠ .invalid ∧ (change table[index]).ip = ip := by
  simp only [Occupied, length_map, getElem_map]

theorem FwArpEntry.retried_valid (entry : FwArpEntry) :
    (entry.retried.state ≠ .invalid → entry.state ≠ .invalid) ∧ entry.retried.ip = entry.ip := by
  unfold retried
  split_ifs with settled
  · exact ⟨id, rfl⟩
  all_goals
    have pending : entry.state = .pending := not_not.mp settled
    exact ⟨fun _ => by simp [pending], rfl⟩

theorem FwArpEntry.flushed_valid (entry : FwArpEntry) :
    entry.flushed.state ≠ .invalid ↔ entry.state = .pending := by
  unfold flushed ArpRequester.keptByFlush
  cases state : entry.state <;> simp [state]

theorem FwArpEntry.flushed_ip (entry : FwArpEntry) : entry.flushed.ip = entry.ip := by
  unfold flushed
  split_ifs <;> rfl

theorem FwArpEntry.flushed_of_pending (pending : entry.state = .pending) :
    entry.flushed = entry := by
  have kept : ArpRequester.keptByFlush entry = true := by simp [ArpRequester.keptByFlush, pending]
  exact if_pos kept

theorem TableChange.onePerIp (change : TableChange table call next) (unique : OnePerIp table) :
    OnePerIp next := by
  cases change with
  | same => exact unique
  | joined _ index inside client =>
    refine unique.of_kept fun place ip occupied => ?_
    by_cases here : place = index
    · subst here
      obtain ⟨_, valid, same⟩ := occupied_set_self.mp occupied
      exact ⟨inside, valid, same⟩
    · exact (occupied_set_of_ne here).mp occupied
  | added _ _ absent _ _ _ _ sameIp => exact unique.set_of_absent absent sameIp
  | replied packet _ index inside valid _ macAddr =>
    refine unique.of_kept fun place ip occupied => ?_
    by_cases here : place = index
    · subst here
      obtain ⟨_, _, same⟩ := occupied_set_self.mp occupied
      exact ⟨inside, valid, same⟩
    · exact (occupied_set_of_ne here).mp occupied
  | retries =>
    refine unique.of_kept fun place ip occupied => ?_
    obtain ⟨inside, valid, same⟩ := occupied_map.mp occupied
    obtain ⟨wasValid, sameIp⟩ := table[place].retried_valid
    exact ⟨inside, wasValid valid, sameIp ▸ same⟩
  | flush =>
    refine unique.of_kept fun place ip occupied => ?_
    obtain ⟨inside, valid, same⟩ := occupied_map.mp occupied
    have pending := table[place].flushed_valid.mp valid
    exact ⟨inside, by simp [pending], table[place].flushed_ip ▸ same⟩

/-- The entry at an index has given the address up. -/
def UnreachableAt (table : List FwArpEntry) (index : Nat) (ip : UInt32T) : Prop :=
  ∃ inside : index < table.length, table[index].state = .unreachable ∧ table[index].ip = ip

theorem PendingFor.retried (pending : PendingFor table index ip retries) :
    UnreachableAt (table.map FwArpEntry.retried) index ip ∨ retries < arpMaxRetries ∧
      PendingFor (table.map FwArpEntry.retried) index ip (retries + 1) := by
  obtain ⟨inside, waits, same, count⟩ := pending
  by_cases exhausted : arpMaxRetries ≤ table[index].numRetries
  · have given : table[index].retried = { table[index] with state := .unreachable } := by
      rw [FwArpEntry.retried, if_neg (not_not_intro waits), if_pos exhausted]
    refine Or.inl ⟨by rwa [length_map], ?_⟩
    rw [getElem_map, given]
    exact ⟨rfl, same⟩
  · have again : table[index].retried =
        { table[index] with numRetries := table[index].numRetries + 1 } := by
      rw [FwArpEntry.retried, if_neg (not_not_intro waits), if_neg exhausted]
    refine Or.inr ⟨Nat.lt_of_le_of_lt count (Nat.not_le.mp exhausted),
      by rwa [length_map], ?_⟩
    rw [getElem_map, again]
    exact ⟨waits, same, Nat.succ_le_succ count⟩

theorem PendingFor.flushed (pending : PendingFor table index ip retries) :
    PendingFor (table.map flushed) index ip retries := by
  obtain ⟨inside, waits, same, count⟩ := pending
  refine ⟨by rwa [length_map], ?_⟩
  rw [getElem_map, flushed_of_pending waits]
  exact ⟨waits, same, count⟩

theorem ArpCall.isRetries_of_not_tick (quiet : call.isTick = false) : call.isRetries = false := by
  cases call <;> simp_all [ArpCall.isTick, ArpCall.isRetries]

/-- Without a reply a pending entry stays pending, and a retry tick takes it one retry further or
gives it up. -/
theorem TableChange.pendingFor (change : TableChange table call next)
    (silent : call.isReplyFor ip = false) (pending : PendingFor table index ip retries) :
    if call.isRetries then
      UnreachableAt next index ip ∨ retries < arpMaxRetries ∧ PendingFor next index ip (retries + 1)
    else PendingFor next index ip retries := by
  obtain ⟨inside, waits, same, count⟩ := id pending
  cases change with
  | same quiet =>
    rw [ArpCall.isRetries_of_not_tick quiet]
    exact pending
  | joined quiet changed _ client =>
    rw [ArpCall.isRetries_of_not_tick quiet]
    by_cases here : index = changed
    · subst here
      exact pendingFor_set_self.mpr ⟨inside, waits, same, count⟩
    · exact (pendingFor_set_of_ne here).mpr pending
  | added quiet address _ changed _ invalid entry _ =>
    rw [ArpCall.isRetries_of_not_tick quiet]
    refine (pendingFor_set_of_ne ?_).mpr pending
    rintro rfl
    rw [waits] at invalid
    cases invalid
  | replied packet reply changed _ _ sameIp macAddr =>
    refine (pendingFor_set_of_ne ?_).mpr pending
    rintro rfl
    rw [same] at sameIp
    simp [ArpCall.isReplyFor, reply, sameIp] at silent
  | retries => exact pending.retried
  | flush => exact pending.flushed

/-! ### Runs -/

def ArpCallStep (requester : ArpRequester config) (call : ArpCall config)
    (after : ArpRequester config) : Prop :=
  requester.perform call = some after

def retryTicks (calls : List (ArpCall config)) : Nat :=
  calls.countP ArpCall.isRetries

/-- A pending entry without a reply waits, with no more retry ticks than it has retries, or it was
given up on the way. -/
theorem pending_or_unreachable {requester after : ArpRequester config}
    (pending : PendingFor requester.arpTable index ip 0) {calls : List (ArpCall config)}
    (run : Run ArpCallStep requester calls after)
    (silent : ∀ call ∈ calls, call.isReplyFor ip = false) :
    (retryTicks calls ≤ arpMaxRetries ∧ PendingFor after.arpTable index ip (retryTicks calls)) ∨
      ∃ first rest between, calls = first ++ rest ∧ retryTicks first ≤ arpMaxRetries + 1 ∧
        Run ArpCallStep requester first between ∧ Run ArpCallStep between rest after ∧
        UnreachableAt between.arpTable index ip := by
  induction run with
  | nil => exact Or.inl ⟨Nat.zero_le _, pending⟩
  | @snoc calls between call after before last inductionHypothesis =>
    have silentBefore : ∀ call ∈ calls, call.isReplyFor ip = false :=
      fun call member => silent call (mem_append_left _ member)
    rcases inductionHypothesis silentBefore with
      ⟨few, waits⟩ | ⟨first, rest, middle, rfl, few, reached, onwards, unreachable⟩
    · have silentLast := silent call (mem_append_right _ (mem_singleton_self call))
      have kept := (ArpRequester.perform_change last).pendingFor silentLast waits
      have counted : retryTicks (calls ++ [call]) =
          retryTicks calls + if call.isRetries then 1 else 0 := by
        rw [retryTicks, countP_append, countP_singleton]
        rfl
      rw [counted]
      split_ifs at kept ⊢ with retries
      · rcases kept with unreachable | ⟨more, waits⟩
        · refine Or.inr ⟨calls ++ [call], [], after, (append_nil _).symm, ?_,
            before.snoc last, Run.nil, unreachable⟩
          rw [counted, if_pos retries]
          exact Nat.succ_le_succ few
        · exact Or.inl ⟨more, waits⟩
      · exact Or.inl ⟨few, kept⟩
    · exact Or.inr ⟨first, rest ++ [call], middle, append_assoc _ _ _, few, reached,
        onwards.snoc last, unreachable⟩

/-- A requester with an empty cache. -/
structure ArpRequester.Initial (requester : ArpRequester config) : Prop where
  empty : ∀ entry ∈ requester.arpTable, entry.state = .invalid
  ticksToFlush : requester.ticksToFlush = arpTicksPerFlush

/-- What the cache promises. -/
structure CacheSound (requester : ArpRequester config) : Prop where
  unique : OnePerIp requester.arpTable
  find : ∀ index ip, Occupied requester.arpTable index ip →
    fwArpTableFindEntry requester.arpTable ip = some index
  full : ∀ state ip macAddr client,
    fwArpTableAddEntry requester.arpTable state ip macAddr client = .error .full ↔
      ¬ (state = .reachable ∧ macAddr = none) ∧
        (∀ index, ¬ Occupied requester.arpTable index ip) ∧
        ∀ entry ∈ requester.arpTable, entry.state ≠ .invalid
  /-- Without a reply, a pending entry is given up after so many retry ticks. -/
  given_up : ∀ index ip calls later, PendingFor requester.arpTable index ip 0 →
    Run ArpCallStep requester calls later → (∀ call ∈ calls, call.isReplyFor ip = false) →
    arpMaxRetries + 1 ≤ retryTicks calls →
    ∃ first rest between, calls = first ++ rest ∧ retryTicks first ≤ arpMaxRetries + 1 ∧
      Run ArpCallStep requester first between ∧ Run ArpCallStep between rest later ∧
      UnreachableAt between.arpTable index ip
  /-- A flush leaves the pending entries as they are, and no others. -/
  flush : ∀ after, requester.perform .flush = some after → ∀ index ip,
    (Occupied after.arpTable index ip ↔ PendingFor requester.arpTable index ip 0) ∧
      (PendingFor requester.arpTable index ip 0 →
        after.arpTable[index]? = requester.arpTable[index]?)

theorem OnePerIp.cacheSound {requester : ArpRequester config}
    (unique : OnePerIp requester.arpTable) : CacheSound requester where
  unique := unique
  find _ _ occupied := unique.find occupied
  full _ _ _ client := fwArpTableAddEntry_eq_full client
  given_up index ip calls later pending run silent enough := by
    rcases pending_or_unreachable pending run silent with ⟨few, _⟩ | given
    · exact absurd few (Nat.not_le.mpr enough)
    · exact given
  flush after done index ip := by
    have change := ArpRequester.perform_change done
    generalize after.arpTable = flushed at change
    cases change with
    | same quiet => cases quiet
    | joined quiet => cases quiet
    | added quiet => cases quiet
    | flush =>
      refine ⟨?_, fun ⟨inside, pending, _⟩ => ?_⟩
      · rw [occupied_map]
        constructor
        · rintro ⟨inside, valid, same⟩
          rw [flushed_ip] at same
          exact ⟨inside, requester.arpTable[index].flushed_valid.mp valid, same, Nat.zero_le _⟩
        · rintro ⟨inside, pending, same, _⟩
          rw [← flushed_ip] at same
          exact ⟨inside, requester.arpTable[index].flushed_valid.mpr pending, same⟩
      · rw [getElem?_map, getElem?_eq_getElem inside, Option.map_some, flushed_of_pending pending]

/-- In every run of the requester the cache is sound. -/
theorem arp_cache_sound {start requester : ArpRequester config} (initial : start.Initial)
    {calls : List (ArpCall config)} (run : Run ArpCallStep start calls requester) :
    CacheSound requester := by
  refine OnePerIp.cacheSound (run.invariant (fun requester => OnePerIp requester.arpTable) ?_ ?_)
  · rintro first second ip ⟨inside, valid, _⟩ _
    exact absurd (initial.empty _ (getElem_mem inside)) valid
  · intro requester call after unique done
    exact (ArpRequester.perform_change done).onePerIp unique

/-- The cache after the first request of a client. -/
theorem arp_cache_sound_of_request :
    ArpSystem.idle.requester.Initial ∧ ∃ requester, Run ArpCallStep ArpSystem.idle.requester
        [.request onlyClient sampleRequest, .processRequest onlyClient] requester ∧
      PendingFor requester.arpTable 0 0x0200000a 0 ∧ CacheSound requester := by
  have initial : ArpSystem.idle.requester.Initial := ⟨ArpSystem.idle_initial.arpTable, rfl⟩
  have run : Run ArpCallStep ArpSystem.idle.requester
      [.request onlyClient sampleRequest, .processRequest onlyClient] _ :=
    Run.of_foldlM (fun _ _ _ performed => performed) rfl
  exact ⟨initial, _, run, ⟨by decide, by decide⟩, arp_cache_sound initial run⟩

end LionsOS.Firewall
