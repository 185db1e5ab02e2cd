/-
This file is about what the pending calls of the NFS server hold of its table.
Every one that has begun an operation is counted by the busy count of its slot, and
every open and close has a slot allocated for it; nothing else is busy or
allocated. Handlers and callbacks keep it so, as long as a new descriptor can name
the generation of its slot.
-/

import LionsOS.Nfs.Server
import LionsOS.Nfs.TableEffects

open Function

namespace LionsOS.Nfs

open LionsOS.Fs NfsCall List

namespace NfsSystem

variable {slot : Fin maxOpenFiles} {after : OftableSlot} {answer : NfsReply} {handle : UInt64T}
  {kind : OfKind}

/-! ### What pending calls hold -/

/-- The descriptor that the continuation of a pending call keeps. -/
def descriptorOf (pool : Fin maxConcurrentOps → Continuation) (pending : Pending) : UInt64T :=
  (pool pending.cont).data 0

/-- How many pending calls of a kind hold each slot. -/
def heldOn (holds : NfsCall → Bool) (pool : Fin maxConcurrentOps → Continuation)
    (pending : List Pending) (slot : Fin maxOpenFiles) : Nat :=
  pending.countP fun call => holds call.call && decide (slotOf (descriptorOf pool call) = slot)

/-- The slots are busy and allocated for the pending calls, and for nothing else. -/
structure Balanced (table : OfTable) (pool : Fin maxConcurrentOps → Continuation)
    (pending : List Pending) : Prop where
  counted : table.Counted (heldOn operates pool pending)
  reserved : ∀ slot, heldOn reserves pool pending slot =
    if (table slot).state = .allocated then 1 else 0
  notPassed : ∀ call ∈ pending, call.call.operates = true ∨ call.call.reserves = true →
    (table (slotOf (descriptorOf pool call))).generation ≤
      fdGeneration (descriptorOf pool call)
  closing : ∀ call ∈ pending, ∀ file, call.call = .close file →
    descriptorOf pool call = paramWord call.params 0 ∧
      (pool call.cont).data 1 = file

variable {table next : OfTable} {pool other : Fin maxConcurrentOps → Continuation}
  {pending : List Pending} {call : Pending} {holds : NfsCall → Bool}

theorem heldOn_congr (same : ∀ call ∈ pending, other call.cont = pool call.cont) :
    heldOn holds other pending = heldOn holds pool pending := by
  funext slot
  refine countP_congr fun call member => ?_
  rw [descriptorOf, descriptorOf, same call member]

/-- One more pending call. -/
theorem heldOn_cons (pool : Fin maxConcurrentOps → Continuation) (pending : List Pending)
    (call : Pending) :
    heldOn holds pool (call :: pending) = withOperation (heldOn holds pool pending)
        (if holds call.call then some (descriptorOf pool call) else none) := by
  funext slot
  rw [heldOn, countP_cons]
  by_cases held : holds call.call
  · rw [if_pos held, withOperation, oneMore, held]
    rcases eq_or_ne slot (slotOf (descriptorOf pool call)) with rfl | different
    · rw [update_self, decide_eq_true rfl]
      rfl
    · rw [update_of_ne different, decide_eq_false (Ne.symm different)]
      rfl
  · rw [eq_false_of_ne_true held]
    rfl

theorem heldOn_perm {other : List Pending} (perm : pending.Perm other) :
    heldOn holds pool pending = heldOn holds pool other := by
  funext slot
  exact perm.countP_eq _

theorem heldOn_pos (member : call ∈ pending) (held : holds call.call = true) :
    0 < heldOn holds pool pending (slotOf (descriptorOf pool call)) := by
  refine countP_pos_iff.mpr ⟨call, member, ?_⟩
  rw [held, decide_eq_true rfl]
  rfl

/-- A pending call that holds a slot holds none that nobody does. -/
theorem slot_ne_of_nobody (noneOperating : heldOn operates pool pending slot = 0)
    (noneReserving : heldOn reserves pool pending slot = 0) (member : call ∈ pending)
    (holding : call.call.operates = true ∨ call.call.reserves = true) :
    slotOf (descriptorOf pool call) ≠ slot := by
  rintro rfl
  rcases holding with operates | reserves
  · exact (heldOn_pos member operates).ne' noneOperating
  · exact (heldOn_pos member reserves).ne' noneReserving

/-- The allocated slots of a table in which one slot changes. -/
theorem reserved_update {held : Fin maxOpenFiles → Nat}
    (here : held slot = if after.state = .allocated then 1 else 0)
    (others : ∀ other, other ≠ slot →
      held other = if (table other).state = .allocated then 1 else 0) (other : Fin maxOpenFiles) :
    held other = if (update table slot after other).state = .allocated then 1 else 0 := by
  rcases eq_or_ne other slot with rfl | different
  · rw [update_self]
    exact here
  · rw [update_of_ne different]
    exact others other different

/-- A descriptor in a table in which one slot changes. -/
theorem notPassed_update {fd : UInt64T}
    (here : slotOf fd = slot → after.generation ≤ fdGeneration fd)
    (elsewhere : slotOf fd ≠ slot → (table (slotOf fd)).generation ≤ fdGeneration fd) :
    (update table slot after (slotOf fd)).generation ≤ fdGeneration fd := by
  rcases eq_or_ne (slotOf fd) slot with same | different
  · rw [same, update_self]
    exact here same
  · rw [update_of_ne different]
    exact elsewhere different

namespace Balanced

variable {server : NfsServer}

section

variable (balanced : Balanced table pool pending)
include balanced

theorem nobody (idle : ∀ kind, (table slot).state ≠ .busy kind)
    (notAllocated : (table slot).state ≠ .allocated) :
    heldOn operates pool pending slot = 0 ∧ heldOn reserves pool pending slot = 0 :=
  ⟨(balanced.counted slot).eq_zero idle, (balanced.reserved slot).trans (if_neg notAllocated)⟩

theorem allocated (member : call ∈ pending) (reserves : call.call.reserves = true) :
    (table (slotOf (descriptorOf pool call))).state = .allocated := by
  refine not_not.mp fun other => ?_
  have some : 0 < heldOn NfsCall.reserves pool pending _ := heldOn_pos member reserves
  rw [balanced.reserved, if_neg other] at some
  exact Nat.lt_irrefl 0 some

theorem congr (kept : ∀ call ∈ pending, other call.cont = pool call.cont) :
    Balanced table other pending where
  counted := by
    rw [heldOn_congr kept]
    exact balanced.counted
  reserved := by
    rw [heldOn_congr kept]
    exact balanced.reserved
  notPassed call member holding := by
    rw [descriptorOf, kept call member]
    exact balanced.notPassed call member holding
  closing call member := by
    rw [descriptorOf, kept call member]
    exact balanced.closing call member

theorem perm {other : List Pending} (perm : pending.Perm other) : Balanced table pool other where
  counted := by
    rw [← heldOn_perm perm]
    exact balanced.counted
  reserved := by
    rw [← heldOn_perm perm]
    exact balanced.reserved
  notPassed call member := balanced.notPassed call (perm.mem_iff.mpr member)
  closing call member := balanced.closing call (perm.mem_iff.mpr member)

/-! ### Changes of the table -/

/-- A slot that nobody holds may change in every way but to be busy or allocated. -/
theorem replace (idle : ∀ kind, (table slot).state ≠ .busy kind)
    (notAllocated : (table slot).state ≠ .allocated) (idleAfter : ∀ kind, after.state ≠ .busy kind)
    (notAllocatedAfter : after.state ≠ .allocated) (same : after.busyCount = (table slot).busyCount) :
    Balanced (update table slot after) pool pending := by
  obtain ⟨noneOperating, noneReserving⟩ := balanced.nobody idle notAllocated
  refine ⟨?_, fun other => ?_, fun call member holding => ?_, balanced.closing⟩
  · exact balanced.counted.update ((balanced.counted slot).of_idle idle idleAfter same)
  · refine reserved_update ?_ (fun other _ => balanced.reserved other) other
    rw [noneReserving, if_neg notAllocatedAfter]
  · have different := slot_ne_of_nobody noneOperating noneReserving member holding
    exact notPassed_update (fun same => absurd same different) fun _ =>
      balanced.notPassed call member holding

theorem cons (operates : call.call.operates = false) (reserves : call.call.reserves = false) :
    Balanced table pool (call :: pending) where
  counted := by
    rw [heldOn_cons, operates]
    exact balanced.counted
  reserved := by
    rw [heldOn_cons, reserves]
    exact balanced.reserved
  notPassed := by
    refine forall_mem_cons.mpr ⟨fun holding => ?_, balanced.notPassed⟩
    rw [operates, reserves] at holding
    simp at holding
  closing := by
    refine forall_mem_cons.mpr ⟨fun file same => ?_, balanced.closing⟩
    rw [same] at reserves
    cases reserves

/-- An operation is begun for a call. -/
theorem begin (room : ∀ slot, heldOn operates pool pending slot + 1 < 2 ^ 64)
    (operates : call.call.operates = true) (reserves : call.call.reserves = false)
    (begun : fdBeginOp kind table (descriptorOf pool call) = some (handle, next)) :
    Balanced next pool (call :: pending) where
  counted := by
    rw [heldOn_cons, operates]
    exact balanced.counted.beginOp room begun
  reserved := by
    obtain ⟨_, after, begins, rfl⟩ := fdBeginOp_eq_some begun
    obtain ⟨_, _, _, busy, opened⟩ := FdUse.ofBeginOp_cases begins
    have notAllocated : (table (slotOf (descriptorOf pool call))).state ≠ .allocated := by
      rcases opened with ⟨opened, _⟩ | ⟨opened, _⟩
      · simp [opened]
      · simp [opened]
    intro slot
    rw [heldOn_cons, reserves]
    refine reserved_update ?_ (fun other _ => balanced.reserved other) slot
    refine (balanced.reserved _).trans ?_
    rw [busy, if_neg notAllocated]
    rfl
  notPassed := by
    obtain ⟨notPassed, after, begins, rfl⟩ := fdBeginOp_eq_some begun
    obtain ⟨_, _, sameGeneration, _⟩ := FdUse.ofBeginOp_cases begins
    refine forall_mem_cons.mpr ⟨fun _ => ?_, fun other member holding => ?_⟩
    · rw [update_self, sameGeneration]
      exact notPassed
    · have before := balanced.notPassed other member holding
      refine notPassed_update (fun here => ?_) fun _ => before
      rw [sameGeneration, ← here]
      exact before
  closing := by
    refine forall_mem_cons.mpr ⟨fun file same => ?_, balanced.closing⟩
    rw [same] at reserves
    cases reserves

end

/-- A slot that nobody holds is allocated for a call. -/
theorem reserve (balanced : Balanced table pool pending) {after : OftableSlot}
    (operates : call.call.operates = false) (reserves : call.call.reserves = true)
    (idle : ∀ kind, (table (slotOf (descriptorOf pool call))).state ≠ .busy kind)
    (notAllocated : (table (slotOf (descriptorOf pool call))).state ≠ .allocated)
    (allocated : after.state = .allocated)
    (same : after.busyCount = (table (slotOf (descriptorOf pool call))).busyCount)
    (notPassed : after.generation ≤ fdGeneration (descriptorOf pool call))
    (closing : ∀ file, call.call = .close file → descriptorOf pool call =
      paramWord call.params 0 ∧ (pool call.cont).data 1 = file) :
    Balanced (update table (slotOf (descriptorOf pool call)) after) pool (call :: pending) := by
  obtain ⟨noneOperating, noneReserving⟩ := balanced.nobody idle notAllocated
  refine ⟨?_, fun slot => ?_, ?_, forall_mem_cons.mpr ⟨closing, balanced.closing⟩⟩
  · rw [heldOn_cons, operates]
    refine balanced.counted.update ((balanced.counted _).of_idle idle (fun kind busy => ?_) same)
    rw [allocated] at busy
    cases busy
  · rw [heldOn_cons, reserves]
    refine reserved_update ?_ (fun other different => ?_) slot
    · rw [if_pos rfl, withOperation, oneMore, update_self, allocated, noneReserving]
      rfl
    · rw [if_pos rfl, withOperation, oneMore, update_of_ne different]
      exact balanced.reserved other
  · refine forall_mem_cons.mpr ⟨fun _ => ?_, fun other member holding => ?_⟩
    · rw [update_self]
      exact notPassed
    · have different := slot_ne_of_nobody noneOperating noneReserving member holding
      exact notPassed_update (fun same => absurd same different) fun _ =>
        balanced.notPassed other member holding

/-! ### The end of a call -/

theorem tail (balanced : Balanced table pool (call :: pending))
    (operates : call.call.operates = false) (reserves : call.call.reserves = false) :
    Balanced table pool pending where
  counted := by
    have counted := balanced.counted
    rw [heldOn_cons, operates] at counted
    exact counted
  reserved := by
    have reserved := balanced.reserved
    rw [heldOn_cons, reserves] at reserved
    exact reserved
  notPassed other member := balanced.notPassed other (mem_cons_of_mem _ member)
  closing other member := balanced.closing other (mem_cons_of_mem _ member)

theorem endOp_isSome (balanced : Balanced table pool (call :: pending))
    (operates : call.call.operates = true) :
    ∃ next, fdEndOp table (descriptorOf pool call) = some next := by
  have counted := balanced.counted (slotOf (descriptorOf pool call))
  have notPassed := balanced.notPassed call mem_cons_self (.inl operates)
  rw [heldOn_cons, operates, if_pos rfl, withOperation, oneMore, update_self] at counted
  obtain ⟨after, ended⟩ := counted.endOp_isSome
  rw [fdEndOp, onSlot, fdToOf_eq, if_neg (BitVec.not_lt.mpr notPassed), Option.bind_some, ended]
  exact ⟨_, rfl⟩

/-- The operation of a call is ended. -/
theorem finish (balanced : Balanced table pool (call :: pending))
    (operates : call.call.operates = true) (reserves : call.call.reserves = false)
    (ended : fdEndOp table (descriptorOf pool call) = some next) :
    Balanced next pool pending where
  counted := by
    have counted := balanced.counted
    rw [heldOn_cons, operates] at counted
    exact counted.endOp ended
  reserved := by
    have reserved := balanced.reserved
    rw [heldOn_cons, reserves] at reserved
    obtain ⟨_, after, ends, rfl⟩ := onSlot_eq_some ended
    obtain ⟨kind, busy, _, _, _, state⟩ := FdUse.ofEndOp_cases ends
    have notAllocated : after.state ≠ .allocated := by
      rw [state]
      split
      · simp
      · simp
    refine reserved_update ?_ fun other _ => reserved other
    refine (reserved _).trans ?_
    rw [busy, if_neg notAllocated]
    rfl
  notPassed other member holding := by
    obtain ⟨_, after, ends, rfl⟩ := onSlot_eq_some ended
    obtain ⟨kind, _, _, sameGeneration, _⟩ := FdUse.ofEndOp_cases ends
    have before := balanced.notPassed other (mem_cons_of_mem _ member) holding
    refine notPassed_update (fun here => ?_) fun _ => before
    rw [sameGeneration, ← here]
    exact before
  closing other member := balanced.closing other (mem_cons_of_mem _ member)

section

variable (balanced : Balanced table pool (call :: pending))
include balanced

section

variable (operates : call.call.operates = false) (reserves : call.call.reserves = true)
include operates reserves

/-- The slot of an open or a close is set or freed. -/
theorem release (idle : ∀ kind, after.state ≠ .busy kind) (notAllocated : after.state ≠ .allocated)
    (same : after.busyCount = (table (slotOf (descriptorOf pool call))).busyCount) :
    Balanced (update table (slotOf (descriptorOf pool call)) after) pool pending := by
  have allocated := balanced.allocated mem_cons_self reserves
  have idleBefore : ∀ kind, (table (slotOf (descriptorOf pool call))).state ≠ .busy kind := by
    simp [allocated]
  have counted := balanced.counted
  have reserved := balanced.reserved
  rw [heldOn_cons, operates] at counted
  rw [heldOn_cons, reserves] at reserved
  have noneOperating := (counted _).eq_zero idleBefore
  have noneReserving := reserved (slotOf (descriptorOf pool call))
  rw [if_pos allocated, if_pos rfl, withOperation, oneMore, update_self] at noneReserving
  refine ⟨counted.update ((counted _).of_idle idleBefore idle same), fun slot => ?_,
    fun other member holding => ?_, fun other member =>
      balanced.closing other (mem_cons_of_mem _ member)⟩
  · refine reserved_update ?_ (fun other different => ?_) slot
    · rw [if_neg notAllocated]
      exact Nat.succ.inj noneReserving
    · have before := reserved other
      rw [if_pos rfl, withOperation, oneMore, update_of_ne different] at before
      exact before
  · have different := slot_ne_of_nobody noneOperating (Nat.succ.inj noneReserving) member holding
    exact notPassed_update (fun same => absurd same different) fun _ =>
      balanced.notPassed other (mem_cons_of_mem _ member) holding

/-- What is left of an open or a close once its slot is set or freed. -/
theorem release_set
    (set : (onSlot (OftableSlot.ofSet kind handle) table (descriptorOf pool call)).getD table =
      next) : Balanced next pool pending ∧ next (slotOf (descriptorOf pool call)) =
        { table (slotOf (descriptorOf pool call)) with state := .opened kind, handle } := by
  rw [fdSet_of_allocated (balanced.allocated mem_cons_self reserves) (balanced.notPassed call
    mem_cons_self (.inr reserves))] at set
  subst set
  refine ⟨balanced.release operates reserves ?_ ?_ rfl, update_self _ _ _⟩
  · simp
  · simp

theorem release_free (freed : (fdFree table (descriptorOf pool call)).getD table = next) :
    Balanced next pool pending ∧ (next (slotOf (descriptorOf pool call))).state = .free := by
  rw [fdFree_of_allocated (balanced.allocated mem_cons_self reserves)
    (balanced.notPassed call mem_cons_self (.inr reserves)), Option.getD_some] at freed
  subst freed
  refine ⟨balanced.release operates reserves ?_ ?_ rfl, ?_⟩
  · simp
  · simp
  · rw [update_self]

end

end

theorem callback (balanced : Balanced server.table server.continuationPool (call :: pending))
    (done : callbackTable server call.cont answer call.call = some next) :
    Balanced next server.continuationPool pending := by
  obtain ⟨type, params, id, nfsCall, cont⟩ := call
  cases nfsCall with
  | mount | rename | unlink | mkdir | stat | rmdir =>
    cases done
    exact balanced.tail rfl rfl
  | fstat | fsync | ftruncate | pread | pwrite => exact balanced.finish rfl rfl done
  | open2 path flags | opendir path =>
    have done := Option.some.inj done
    split at done
    · exact (balanced.release_set rfl rfl done).1
    · exact (balanced.release_free rfl rfl done).1
  | close file =>
    have done := Option.some.inj done
    split at done
    · exact (balanced.release_free rfl rfl done).1
    · exact (balanced.release_set rfl rfl done).1

/-- The descriptor for an open that fails is freed. -/
theorem openFailed {server : NfsServer} {answer : NfsReply}
    (balanced : Balanced server.table server.continuationPool (call :: pending))
    (opens : (∃ path flags, call.call = .open2 path flags) ∨ ∃ path, call.call = .opendir path)
    (failed : answer.status ≠ 0)
    (done : callbackTable server call.cont answer call.call = some next) :
    (server.table (slotOf (descriptorOf server.continuationPool call))).state = .allocated ∧
      (next (slotOf (descriptorOf server.continuationPool call))).state = .free := by
  obtain ⟨type, params, id, nfsCall, cont⟩ := call
  rcases opens with ⟨path, flags, same⟩ | ⟨path, same⟩
  · subst same
    have done := Option.some.inj done
    rw [if_neg failed] at done
    exact ⟨balanced.allocated mem_cons_self rfl, (balanced.release_free rfl rfl done).2⟩
  · subst same
    have done := Option.some.inj done
    rw [if_neg failed] at done
    exact ⟨balanced.allocated mem_cons_self rfl, (balanced.release_free rfl rfl done).2⟩

/-- The file of a close that fails is open again. -/
theorem closeFailed {file : UInt64T}
    (balanced : Balanced server.table server.continuationPool (call :: pending))
    (closes : call.call = .close file) (failed : answer.status ≠ 0)
    (done : callbackTable server call.cont answer call.call = some next) :
    (next (slotOf (paramWord call.params 0))).state = .opened .file ∧
      (next (slotOf (paramWord call.params 0))).handle = file := by
  obtain ⟨fd, handle⟩ := balanced.closing call mem_cons_self file closes
  obtain ⟨type, params, id, nfsCall, cont⟩ := call
  subst closes
  have done := Option.some.inj done
  rw [if_neg failed] at done
  obtain ⟨_, set⟩ := balanced.release_set rfl rfl done
  rw [fd] at set
  rw [set]
  exact ⟨rfl, handle⟩

theorem callbackTable_isSome
    (balanced : Balanced server.table server.continuationPool (call :: pending)) (answer : NfsReply) :
    ∃ next, callbackTable server call.cont answer call.call = some next := by
  obtain ⟨type, params, id, nfsCall, cont⟩ := call
  cases nfsCall with
  | fstat | fsync | ftruncate | pread | pwrite => exact balanced.endOp_isSome rfl
  | _ => exact ⟨_, rfl⟩

end Balanced

/-! ### Handlers -/

/-- A handler keeps the balance, given that its new descriptor can name a generation. -/
theorem Balanced.handler {type : CmdType} {params : CmdParams} {outcome : Outcome}
    (balanced : Balanced table pool pending)
    (room : ∀ slot, heldOn operates pool pending slot + 1 < 2 ^ 64)
    (effect : HandlerEffect table type params outcome)
    (kept : ∀ call ∈ pending, outcome.server.continuationPool call.cont = pool call.cont)
    (fresh : opensSomething type = true → ∀ fd allocated, fdAlloc table = some (fd, allocated) →
      (allocated (slotOf fd)).generation.toNat < 2 ^ 64 / maxOpenFiles)
    (live : ∀ failure, outcome.progress ≠ .failed failure) :
    (∀ call cont, outcome.progress = .submitted call cont → ∀ id,
        Balanced outcome.server.table outcome.server.continuationPool
          ({ type, params, id, call, cont } :: pending)) ∧
      ((∀ call cont, outcome.progress ≠ .submitted call cont) →
        Balanced outcome.server.table outcome.server.continuationPool pending) := by
  have balanced := balanced.congr kept
  rw [← heldOn_congr kept] at room
  cases effect with
  | failed ended => exact absurd ended (live _)
  | silent ended same | replied ended same =>
    refine ⟨fun call cont submitted => ?_, fun _ => same ▸ balanced⟩
    rw [submitted] at ended
    cases ended
  | refused ended opens alloc freed =>
    refine ⟨fun call cont submitted => ?_, fun _ => ?_⟩
    · rw [submitted] at ended
      cases ended
    · obtain ⟨free, rfl, generation⟩ := fdAlloc_current alloc (fresh opens _ _ alloc)
      rw [freed, fdFree_of_allocated (by rw [update_self])
        (by rw [update_self, generation]; exact BitVec.le_refl _), Option.getD_some,
        update_idem, update_self]
      refine balanced.replace ?_ ?_ ?_ ?_ rfl
      · simp [free]
      · simp [free]
      · simp
      · simp
  | dirClosed ended success opened closed =>
    refine ⟨fun call cont submitted => ?_, fun _ => ?_⟩
    · rw [submitted] at ended
      cases ended
    · rw [closed]
      refine balanced.replace ?_ ?_ ?_ ?_ rfl
      · simp [opened]
      · simp [opened]
      · simp [closedSlot]
      · simp [closedSlot]
  | submitted ended operates reserves same =>
    refine ⟨fun call cont submitted id => ?_, fun none => absurd ended (none _ _)⟩
    rw [submitted] at ended
    cases ended
    rw [same]
    exact balanced.cons operates reserves
  | operating ended operates reserves begun data =>
    refine ⟨fun call cont submitted id => ?_, fun none => absurd ended (none _ _)⟩
    rw [submitted] at ended
    cases ended
    subst data
    exact balanced.begin room operates reserves begun
  | opening ended operates reserves notClose opens alloc data =>
    refine ⟨fun call cont submitted id => ?_, fun none => absurd ended (none _ _)⟩
    rw [submitted] at ended
    cases ended
    subst data
    obtain ⟨free, update, generation⟩ := fdAlloc_current alloc (fresh opens _ _ alloc)
    rw [update]
    refine @reserve _ _ _ { type, params, id, call := _, cont := _ } balanced _ operates reserves
      ?_ ?_ rfl rfl (generation ▸ BitVec.le_refl _) fun file close => absurd close (notClose file)
    · simp [descriptorOf, free]
    · simp [descriptorOf, free]
  | closing ended notPassed opened unset data file =>
    refine ⟨fun call cont submitted id => ?_, fun none => absurd ended (none _ _)⟩
    rw [submitted] at ended
    cases ended
    rw [unset, ← data]
    rw [← data] at opened notPassed
    refine @reserve _ _ _ { type, params, id, call := _, cont := _ } balanced _ rfl rfl ?_ ?_ rfl
      rfl notPassed fun close same => ⟨data, ?_⟩
    · simp [descriptorOf, opened]
    · simp [descriptorOf, opened]
    · cases same
      rw [data]
      exact file

end NfsSystem

end LionsOS.Nfs
