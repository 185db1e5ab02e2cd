/-
This file embeds the ARP table of `arp.h`, which the router reads and the ARP
requester writes. A pointer to an entry is its index.
-/

import LionsOS.Firewall.Packet

namespace LionsOS.Firewall

inductive FwArpError where
  | full
  | invalid
  deriving DecidableEq

inductive FwArpEntryState where
  | invalid
  | pending
  | unreachable
  | reachable
  deriving DecidableEq

structure FwArpEntry where
  state : FwArpEntryState
  ip : UInt32T
  macAddr : MacAddr
  client : UInt8T
  numRetries : Nat

open FwArpEntry

/-- An entry in zeroed memory. -/
def FwArpEntry.zeroed : FwArpEntry :=
  { state := .invalid, ip := 0, macAddr := fun _ => 0, client := 0, numRetries := 0 }

structure FwArpRequest where
  ip : UInt32T
  macAddr : MacAddr
  state : FwArpEntryState

/-- The bit of a client in an entry's client bitmap. -/
def bit (client : Nat) : UInt8T := (1 : UInt8T) <<< client

/-- Whether the client's bit is set. -/
def FwArpEntry.hasClient (entry : FwArpEntry) (client : Nat) : Bool :=
  (bit client &&& entry.client) != 0

/-- Whether an entry is valid and about this address. -/
def FwArpEntry.isFor (entry : FwArpEntry) (ip : UInt32T) : Bool :=
  entry.state != .invalid && entry.ip == ip

/-- Find the first valid entry of an address. -/
def fwArpTableFindEntry (table : List FwArpEntry) (ip : UInt32T) : Option Nat :=
  table.findIdx? fun entry => entry.isFor ip

/-- The response an entry gives rise to. -/
def fwArpResponseFromEntry (entry : FwArpEntry) : FwArpRequest :=
  { ip := entry.ip
    macAddr := if entry.state = .reachable then entry.macAddr else fun _ => 0
    state := entry.state }

/-- Fill a slot of the table, the entry of this address if there is one and else the first
invalid entry. -/
def fwArpTableAddEntry (table : List FwArpEntry) (state : FwArpEntryState) (ip : UInt32T)
    (macAddr : Option MacAddr) (client : Nat) : Except FwArpError (List FwArpEntry) :=
  if state = .reachable ∧ macAddr = none then .error .invalid
  else
    let slot := (fwArpTableFindEntry table ip).orElse fun _ =>
      table.findIdx? fun entry => entry.state == .invalid
    match slot with
    | none => .error .full
    | some index =>
      let old := table.getD index zeroed
      .ok (table.set index
        { state, ip
          macAddr := if state = .reachable then macAddr.getD old.macAddr else old.macAddr
          client := bit client
          numRetries := 0 })

/-! ### The clients of an entry -/

theorem FwArpEntry.hasClient_eq (entry : FwArpEntry) {client : Nat} (small : client < 8) :
    entry.hasClient client = entry.client.getLsbD client := by
  have finite : ∀ number : Fin 8, ∀ bits : UInt8T,
      ((bit number &&& bits) != 0) = bits.getLsbD number := by
    intro number bits
    have single : bit number &&& bits = bits &&& BitVec.twoPow 8 number := by
      rw [BitVec.and_comm]
      rfl
    rw [single, BitVec.and_twoPow]
    by_cases set : bits.getLsbD number
    · have nonzero : ∀ number : Fin 8, (BitVec.twoPow 8 number != 0) = true := by decide
      rw [set]
      exact nonzero number
    · rw [if_neg set]
      simpa using set
  exact finite ⟨client, small⟩ entry.client

theorem hasClient_join (entry : FwArpEntry) {client other : Nat} (small : client < 8)
    (otherSmall : other < 8) :
    ({ entry with client := entry.client ||| bit client } : FwArpEntry).hasClient other =
      (entry.hasClient other || decide (client = other)) := by
  have bits : ∀ first second : Fin 8, (bit first).getLsbD second = decide (first = second) := by
    decide
  rw [hasClient_eq _ otherSmall, hasClient_eq _ otherSmall,
    BitVec.getLsbD_or, bits ⟨client, small⟩ ⟨other, otherSmall⟩]
  simp

theorem hasClient_bit (entry : FwArpEntry) {client other : Nat} (small : client < 8)
    (otherSmall : other < 8) :
    ({ entry with client := bit client } : FwArpEntry).hasClient other =
      decide (client = other) := by
  have bits : ∀ first second : Fin 8, (bit first).getLsbD second = decide (first = second) := by
    decide
  rw [hasClient_eq _ otherSmall, bits ⟨client, small⟩ ⟨other, otherSmall⟩]
  simp

/-! ### Finding and adding -/

theorem fwArpTableFindEntry_eq_some {table : List FwArpEntry} {ip : UInt32T} {index : Nat}
    (found : fwArpTableFindEntry table ip = some index) :
    ∃ inside : index < table.length, table[index].state ≠ .invalid ∧ table[index].ip = ip := by
  obtain ⟨inside, isFor, _⟩ := List.findIdx?_eq_some_iff_getElem.mp found
  simp only [FwArpEntry.isFor, Bool.and_eq_true, bne_iff_ne, beq_iff_eq] at isFor
  exact ⟨inside, isFor⟩

/-- Adding an address that has no entry fills the first invalid slot, or fails for lack of one. -/
theorem fwArpTableAddEntry_cases {table : List FwArpEntry} {state : FwArpEntryState}
    {ip : UInt32T} {macAddr : Option MacAddr} (client : Nat)
    (absent : fwArpTableFindEntry table ip = none)
    (given : state = .reachable → macAddr ≠ none) :
    (fwArpTableAddEntry table state ip macAddr client = .error .full ∧
      ∀ entry ∈ table, entry.state ≠ .invalid) ∨
    ∃ index added, ∃ inside : index < table.length, table[index].state = .invalid ∧
      added.state = state ∧ added.ip = ip ∧ added.client = bit client ∧
      fwArpTableAddEntry table state ip macAddr client = .ok (table.set index added) := by
  have allowed : ¬ (state = .reachable ∧ macAddr = none) := fun both => given both.1 both.2
  unfold fwArpTableAddEntry
  rw [if_neg allowed, absent]
  cases slot : table.findIdx? fun entry => entry.state == .invalid with
  | none =>
    refine Or.inl ⟨rfl, fun entry member invalid => ?_⟩
    have notInvalid := List.findIdx?_eq_none_iff.mp slot entry member
    simp [invalid] at notInvalid
  | some index =>
    obtain ⟨inside, invalid, _⟩ := List.findIdx?_eq_some_iff_getElem.mp slot
    let added : FwArpEntry :=
      { state, ip
        macAddr := if state = .reachable then
          macAddr.getD (table.getD index zeroed).macAddr
          else (table.getD index zeroed).macAddr
        client := bit client
        numRetries := 0 }
    exact Or.inr ⟨index, added, inside, by simpa using invalid, rfl, rfl, rfl, rfl⟩

end LionsOS.Firewall
