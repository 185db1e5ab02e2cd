/-
This file embeds the transfers of `machine_i2c.c`. A transfer claims the address of a
device and releases it behind the dispatch, but an error that is raised in the dispatch
leaves both functions at once. For a read behind a write the length is reduced when it
has been checked, also where it is zero.
-/

import LionsOS.Lib.Bytes
import LionsOS.Words

namespace LionsOS.Micropython

open Bytes

/-! ### What the transfers use -/

/-- The bits of the flags that MicroPython gives to a transfer. -/
structure TransferFlags where
  stop : UInt32T
  read : UInt32T
  write1 : UInt32T

/-- The flags of a command. -/
structure I2cFlags where
  stop : Bool
  read : Bool
  wrrd : Bool

inductive I2cErr where
  | ok
  | queue
  | malformedTransaction
  | malformedHeader
  | unpermittedAddr
  | timeout
  | nack
  | noread
  | badseq
  | other
  deriving DecidableEq

structure I2cReply (Bus : Type) where
  err : I2cErr
  returnedAddr : UInt16T
  data : Nat → UInt8T
  bus : Bus

/-- The virtualiser of the bus and the library of its clients. A reply is waited for, and comes with
what the data region holds then. -/
structure I2cLib (Bus : Type) where
  busClaim : UInt16T → Bus → Bool × Bus
  busRelease : UInt16T → Bus → Bool × Bus
  nbDispatch : UInt16T → (Nat → UInt8T) → UInt16T → I2cFlags → Bus → I2cErr × Bus
  nbReturn : (Nat → UInt8T) → Bus → I2cReply Bus

structure RuntimeError where
  text : String
  args : List UInt64T

inductive MpErrno where
  | efault
  | eio
  | eacces
  | etimedout

/-- How a call ends. An error leaves all calls that are under way. -/
inductive Exit (Value : Type) where
  | raises (error : RuntimeError)
  | returns (value : Value)
  | asserts

/-- A number of bytes that is copied or asked for: a length, or one less. -/
structure Amount where
  length : UInt64T
  shortened : Bool

def Amount.value (amount : Amount) : UInt64T :=
  if amount.shortened then amount.length - 1 else amount.length

structure I2cClient (Bus : Type) where
  bus : Bus
  data : Nat → UInt8T
  /-- The addresses that were claimed and not released. -/
  claimed : List UInt16T
  /-- What the transfer has copied and asked for. -/
  amounts : List Amount

/-! ### Transfers -/

section Functions

variable {Bus : Type} (lib : I2cLib Bus) (port : UInt64T)

/-- The bytes that are transferred are in the memory that `buf` points to. -/
def mpI2cDispatch (addr : UInt16T) (buf : Nat → UInt8T) (len : UInt64T) (flagMask : I2cFlags)
    (client : I2cClient Bus) : Exit (I2cErr × (Nat → UInt8T)) × I2cClient Bus :=
  if 0x80 ≤ addr then (.raises ⟨"I2C only supports 7-bit addresses.", [port]⟩, client)
  else if 0xffff < len then (.raises ⟨"Length is too long. Max = UINT16_MAX", [port]⟩, client)
  else
    let data := copy client.data ⟨0, len.toNat⟩ buf 0
    -- For a read behind a write, the address that is written is not read back.
    let amount : Amount := ⟨len, flagMask.wrrd⟩
    let start := if flagMask.wrrd then 1 else 0
    let sent := lib.nbDispatch addr data (amount.value.setWidth 16) flagMask client.bus
    let dispatched := { client with
      bus := sent.2
      data
      amounts := client.amounts ++ [⟨len, false⟩, amount] }
    if sent.1 ≠ .ok then (.raises ⟨"i2c_read: failed to read!", [port]⟩, dispatched)
    else
      let reply := lib.nbReturn dispatched.data dispatched.bus
      let answered := { dispatched with bus := reply.bus, data := reply.data }
      if reply.returnedAddr ≠ addr then (.asserts, answered)
      else if flagMask.read ∧ reply.err = .ok then
        (.returns (reply.err, copy buf ⟨start, amount.value.toNat⟩ answered.data 0),
          { answered with amounts := answered.amounts ++ [amount] })
      else (.returns (reply.err, buf), answered)

/-- What is left of the flags when one is taken out, if it is there. -/
def takeFlag (flags flag : UInt32T) : Bool × UInt32T :=
  if flags &&& flag ≠ 0 then (true, flags &&& ~~~flag) else (false, flags)

/-- The flags of the command, and those that are not supported. -/
def parseFlags (known : TransferFlags) (flags : UInt32T) : I2cFlags × UInt32T :=
  let stop := takeFlag flags known.stop
  let read := takeFlag stop.2 known.read
  let write1 := takeFlag read.2 known.write1
  ({ stop := stop.1, read := read.1, wrrd := write1.1 }, write1.2)

/-- What the caller gets for an error of the bus. -/
def I2cErr.errno : I2cErr → MpErrno
  | .queue => .efault
  | .unpermittedAddr => .eacces
  | .timeout | .nack => .etimedout
  | _ => .eio

/-- The part of `machine_i2c_transfer_single` behind the dispatch. -/
def releaseDispatched (addr : UInt16T) (len : UInt64T)
    (dispatched : Exit (I2cErr × (Nat → UInt8T)) × I2cClient Bus) :
    Exit (Except MpErrno UInt32T × (Nat → UInt8T)) × I2cClient Bus :=
  match dispatched with
  | (.raises error, client) => (.raises error, client)
  | (.asserts, client) => (.asserts, client)
  | (.returns (err, transferred), client) =>
    let release := lib.busRelease addr client.bus
    if release.1 = false then (.asserts, { client with bus := release.2 })
    else
      (.returns (if err = .ok then .ok (len.setWidth 32) else .error err.errno, transferred),
        { client with bus := release.2, claimed := client.claimed.erase addr })

def machineI2cTransferSingle (known : TransferFlags) (addr : UInt16T) (len : UInt64T)
    (buf : Nat → UInt8T) (flags : UInt32T) (client : I2cClient Bus) :
    Exit (Except MpErrno UInt32T × (Nat → UInt8T)) × I2cClient Bus :=
  let parsed := parseFlags known flags
  if parsed.2 ≠ 0 then
    (.raises ⟨"I2C(%d): unsupported flags 0x%x", [port, parsed.2.setWidth 64]⟩, client)
  else
    let claim := lib.busClaim addr client.bus
    if claim.1 = false then
      (.raises ⟨"I2C(%d): Could not claim bus address %d", [port, addr.setWidth 64]⟩,
        { client with bus := claim.2 })
    else
      releaseDispatched lib addr len (mpI2cDispatch lib port addr buf len parsed.1
        { client with bus := claim.2, claimed := addr :: client.claimed })

end Functions

/-! ### What is claimed of a transfer -/

section Claims

variable {Bus : Type}

/-- The length was zero when it was reduced. -/
def Amount.Wrapped (amount : Amount) : Prop :=
  amount.shortened = true ∧ amount.length = 0

/-- If control leaves the transfer, it holds no address that it has claimed, and it has not copied
or asked for a length of zero that was reduced. -/
def TransferClean {Value : Type} (client : I2cClient Bus)
    (result : Exit Value × I2cClient Bus) : Prop :=
  (result.1 ≠ .asserts → result.2.claimed = client.claimed) ∧
    ∀ amount ∈ result.2.amounts, ¬ amount.Wrapped

/-- The transfer ends before it has claimed the address, or nothing is raised behind that: the
address has seven bits, the length sixteen, and the command is accepted. The length is not zero for
a read behind a write. -/
def TransferAccepted (lib : I2cLib Bus) (known : TransferFlags) (addr : UInt16T) (len : UInt64T)
    (buf : Nat → UInt8T) (flags : UInt32T) (client : I2cClient Bus) : Prop :=
  let parsed := parseFlags known flags
  let claim := lib.busClaim addr client.bus
  parsed.2 ≠ 0 ∨ claim.1 = false ∨ addr < 0x80 ∧ len ≤ 0xffff ∧ (parsed.1.wrrd = true → len ≠ 0) ∧
      (lib.nbDispatch addr (copy client.data ⟨0, len.toNat⟩ buf 0)
        ((Amount.mk len parsed.1.wrrd).value.setWidth 16) parsed.1 claim.2).1 = .ok

/-- The transfer of a client that has not copied anything yet. -/
def I2cClient.start (client : I2cClient Bus) : I2cClient Bus :=
  { client with amounts := [] }

end Claims

section Transfers

variable {Bus : Type} {lib : I2cLib Bus} {port : UInt64T} {known : TransferFlags}
  {addr : UInt16T} {len : UInt64T} {buf : Nat → UInt8T} {flags : UInt32T} {flagMask : I2cFlags}
  {client : I2cClient Bus}

/-- The command of a dispatch is accepted. -/
def DispatchAccepted (lib : I2cLib Bus) (addr : UInt16T) (buf : Nat → UInt8T) (len : UInt64T)
    (flagMask : I2cFlags) (client : I2cClient Bus) : Prop :=
  addr < 0x80 ∧ len ≤ 0xffff ∧ (lib.nbDispatch addr (copy client.data ⟨0, len.toNat⟩ buf 0)
    ((Amount.mk len flagMask.wrrd).value.setWidth 16) flagMask client.bus).1 = .ok

theorem mpI2cDispatch_claimed :
    (mpI2cDispatch lib port addr buf len flagMask client).2.claimed = client.claimed := by
  unfold mpI2cDispatch
  dsimp only
  split_ifs <;> rfl

theorem mpI2cDispatch_raises_iff :
    (∃ error, (mpI2cDispatch lib port addr buf len flagMask client).1 = .raises error) ↔
      ¬ DispatchAccepted lib addr buf len flagMask client := by
  unfold mpI2cDispatch DispatchAccepted
  dsimp only
  by_cases wide : 0x80 ≤ addr
  · rw [if_pos wide]
    exact iff_of_true ⟨_, rfl⟩ fun accepted => BitVec.not_lt.mpr wide accepted.1
  rw [if_neg wide]
  by_cases long : 0xffff < len
  · rw [if_pos long]
    exact iff_of_true ⟨_, rfl⟩ fun accepted => BitVec.not_le.mpr long accepted.2.1
  split_ifs with refused mismatched reads
  · exact iff_of_true ⟨_, rfl⟩ fun accepted => refused accepted.2.2
  all_goals
    refine iff_of_false (fun ⟨_, impossible⟩ => by cases impossible) (not_not_intro ?_)
    exact ⟨BitVec.not_le.mp wide, BitVec.not_lt.mp long, not_not.mp refused⟩

theorem mpI2cDispatch_amounts (unused : client.amounts = []) :
    ((∃ amount ∈ (mpI2cDispatch lib port addr buf len flagMask client).2.amounts,
      amount.Wrapped) ↔ addr < 0x80 ∧ flagMask.wrrd = true ∧ len = 0) := by
  unfold mpI2cDispatch
  dsimp only
  by_cases wide : 0x80 ≤ addr
  · rw [if_pos wide, unused]
    refine iff_of_false ?_ fun narrow => BitVec.not_lt.mpr wide narrow.1
    rintro ⟨_, impossible, _⟩
    cases impossible
  rw [if_neg wide]
  by_cases long : 0xffff < len
  · rw [if_pos long, unused]
    refine iff_of_false ?_ fun short => ?_
    · rintro ⟨_, impossible, _⟩
      cases impossible
    · rw [short.2.2] at long
      exact absurd long (by decide)
  rw [unused, and_iff_right (BitVec.not_le.mp wide)]
  split_ifs <;> simp [Amount.Wrapped]

/-- Behind a dispatch that has claimed the address, it is only kept where an error is raised. -/
theorem releaseDispatched_clean_iff {dispatched : Exit (I2cErr × (Nat → UInt8T)) × I2cClient Bus}
    (held : dispatched.2.claimed = addr :: client.claimed) :
    TransferClean client (releaseDispatched lib addr len dispatched) ↔
      (¬ ∃ error, dispatched.1 = .raises error) ∧
        ¬ ∃ amount ∈ dispatched.2.amounts, amount.Wrapped := by
  obtain ⟨exit, next⟩ := dispatched
  have amounts : (releaseDispatched lib addr len (exit, next)).2.amounts = next.amounts := by
    unfold releaseDispatched
    rcases exit with error | value | _
    · rfl
    · dsimp only
      split_ifs <;> rfl
    · rfl
  rw [TransferClean, amounts]
  refine and_congr ?_ (by simp only [not_exists, not_and])
  rcases exit with error | value | _
  · refine iff_of_false (fun released => ?_) (not_not_intro ⟨_, rfl⟩)
    have same := held.symm.trans (released fun impossible => by cases impossible)
    exact absurd (congrArg List.length same) (Nat.succ_ne_self _)
  · refine iff_of_true (fun leaves => ?_) fun ⟨_, impossible⟩ => by cases impossible
    unfold releaseDispatched at leaves ⊢
    dsimp only at leaves ⊢
    by_cases kept : (lib.busRelease addr next.bus).1 = false
    · rw [if_pos kept] at leaves
      exact absurd rfl leaves
    · rw [if_neg kept]
      rw [show next.claimed = _ from held, List.erase_cons_head]
  · exact iff_of_true (fun leaves => absurd rfl leaves) fun ⟨_, impossible⟩ => by cases impossible

/-- Whatever the address, the length and the flags are, and however its steps come out, a transfer
ends cleanly exactly if it is accepted. -/
theorem transferClean_iff :
    TransferClean client (machineI2cTransferSingle lib port known addr len buf flags client.start) ↔
      TransferAccepted lib known addr len buf flags client := by
  unfold machineI2cTransferSingle TransferAccepted
  by_cases unsupported : (parseFlags known flags).2 ≠ 0
  · rw [if_pos unsupported]
    refine iff_of_true ⟨fun _ => rfl, fun _ impossible => ?_⟩ (.inl unsupported)
    cases impossible
  rw [if_neg unsupported, or_iff_right unsupported]
  by_cases refused : (lib.busClaim addr client.bus).1 = false
  · rw [show client.start.bus = client.bus from rfl, if_pos refused]
    refine iff_of_true ⟨fun _ => rfl, fun _ impossible => ?_⟩ (.inl refused)
    cases impossible
  rw [show client.start.bus = client.bus from rfl, if_neg refused, or_iff_right refused,
    releaseDispatched_clean_iff mpI2cDispatch_claimed, mpI2cDispatch_raises_iff, not_not,
    mpI2cDispatch_amounts rfl]
  constructor
  · rintro ⟨⟨narrow, short, sent⟩, notEmpty⟩
    exact ⟨narrow, short, fun wrrd empty => notEmpty ⟨narrow, wrrd, empty⟩, sent⟩
  · rintro ⟨narrow, short, notEmpty, sent⟩
    exact ⟨⟨narrow, short, sent⟩, fun empty => notEmpty empty.2.1 empty.2.2⟩

end Transfers

/-- A bus that grants and accepts all. -/
def idleBus : I2cLib Unit where
  busClaim _ bus := (true, bus)
  busRelease _ bus := (true, bus)
  nbDispatch _ _ _ _ bus := (.ok, bus)
  nbReturn data bus := { err := .ok, returnedAddr := 0, data, bus }

/-- An address of eight bits is claimed and kept. -/
theorem wide_address_stays_claimed : ¬ TransferClean ⟨(), fun _ => 0, [], []⟩
    (machineI2cTransferSingle idleBus 1 ⟨2, 1, 4⟩ 0x80 1 (fun _ => 0) 2
      ⟨(), fun _ => 0, [], []⟩) := by
  intro clean
  exact absurd (clean.1 fun impossible => by cases impossible) (List.cons_ne_nil _ _)

end LionsOS.Micropython
