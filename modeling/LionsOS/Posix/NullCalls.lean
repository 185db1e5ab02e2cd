/-
This file is about calls through pointers of entries that are null. An active entry has
not all of its pointers if it is one of the console, or if an `openat` has taken it and
still waits; an entry that a call comes back to, or copies, may also be free by then.
Nothing else leads to such a call, however the calls are interleaved.
-/

import LionsOS.Lib.Fallible
import LionsOS.Posix.SharedTable

open Function

namespace LionsOS.Posix

open StepRun FdTable

/-! ### The invariant -/

/-- What an entry can be. -/
inductive EntryState (number : Nat) (active : Bool) (functions : FdFunctions) (reserved : Bool) :
    Prop
  | input (low : number = 0) (isActive : active = true) (empty : functions = .none)
    (unreserved : reserved = false)
  | output (low : number = 1 ∨ number = 2) (isActive : active = true)
    (console : functions = .console) (unreserved : reserved = false)
  | free (high : 2 < number) (inactive : active = false) (empty : functions = .none)
    (unreserved : reserved = false)
  | opening (high : 2 < number) (isActive : active = true) (empty : functions = .none)
    (isReserved : reserved = true)
  | installed (high : 2 < number) (isActive : active = true)
    (complete : functions = .sock ∨ functions = .file) (unreserved : reserved = false)

/-- A call that waits has not to do with the console, but for its reading and writing. -/
def BlockedCall.Placed {maxFds : Nat} : BlockedCall maxFds → Prop
  | .openat fd | .close fd => 2 < fd.val
  | .dup3 oldfd newfd => 2 < newfd.val ∧ oldfd ≠ newfd
  | .vector _ _ _ _ => True

namespace SharedTable

variable {maxFds : Nat} {shared next : SharedTable maxFds} {fd other : Fin maxFds}
  {operation : Operation} {Result : Type} {rest : FdFunctions → Except TableFault Result}

variable {number : Int} {opened : Option UInt64T} {newfd oldfd : Fin maxFds}
  {call : BlockedCall maxFds}

def EntryOk (shared : SharedTable maxFds) (fd : Fin maxFds) : Prop :=
  EntryState fd.val (shared.fds.fdActive fd) (shared.fds.fdTable fd).functions (shared.reserved fd)

structure Sound (shared : SharedTable maxFds) : Prop where
  entries : ∀ fd, shared.EntryOk fd
  blocked : ∀ call ∈ shared.blocked, call.Placed

theorem initial_sound : (initial : SharedTable maxFds).Sound := by
  refine ⟨fun fd => ?_, fun _ member => absurd member List.not_mem_nil⟩
  have functions : ((FdTable.initial : FdTable maxFds).fdTable fd).functions =
      if fd.val = 1 ∨ fd.val = 2 then .console else .none := by
    unfold FdTable.initial
    dsimp only
    split <;> rfl
  by_cases high : 2 < fd.val
  · refine .free high (decide_eq_false (Nat.not_le.mpr high)) ?_ rfl
    exact functions.trans (if_neg (by omega))
  · have active : (FdTable.initial : FdTable maxFds).fdActive fd = true :=
      decide_eq_true (Nat.not_lt.mp high)
    by_cases input : fd.val = 0
    · exact .input input active (functions.trans (if_neg (by omega))) rfl
    · have output : fd.val = 1 ∨ fd.val = 2 := by omega
      exact .output output active (functions.trans (if_pos output)) rfl

/-! ### Which pointers there are -/

/-- The descriptor is active and no `openat` still has to enter a file there, and of the console only
output is written to. -/
def Provides (shared : SharedTable maxFds) (fd : Fin maxFds) (operation : Operation) : Prop :=
  shared.fds.fdActive fd = true ∧ shared.reserved fd = false ∧
    (fd.val ≤ 2 → fd.val ≠ 0 ∧ operation = .write)

theorem Sound.installs_iff (sound : shared.Sound) :
    (shared.fds.fdTable fd).functions.installs operation = true ↔ shared.Provides fd operation := by
  unfold Provides
  cases sound.entries fd with
  | input low _ empty =>
    rw [empty]
    exact iff_of_false nofun fun provides => (provides.2.2 (by omega)).1 low
  | output low active console unreserved =>
    rw [console, active, unreserved]
    constructor
    · exact fun write => ⟨rfl, rfl, fun _ => ⟨by omega, of_decide_eq_true write⟩⟩
    · exact fun provides => decide_eq_true (provides.2.2 (by omega)).2
  | free _ inactive empty =>
    rw [empty, inactive]
    exact iff_of_false nofun fun provides => nomatch provides.1
  | opening _ _ empty reserved =>
    rw [empty, reserved]
    exact iff_of_false nofun fun provides => nomatch provides.2.1
  | installed high active complete unreserved =>
    rw [active, unreserved]
    refine iff_of_true ?_ ⟨rfl, rfl, fun low => absurd high (Nat.not_lt.mpr low)⟩
    rcases complete with complete | complete <;> rw [complete] <;> rfl

/-- A call ends in a call through a null pointer. -/
def IsNull {Result : Type} (result : Except TableFault Result) : Prop :=
  result = .error .nullCall

theorem isNull_ok (value : Result) : ¬ IsNull (.ok value : Except TableFault Result) :=
  nofun

theorem isNull_assertion : ¬ IsNull (.error .assertion : Except TableFault Result) :=
  nofun

section

variable (sound : shared.Sound)
include sound

theorem Sound.call_null_iff :
    IsNull (shared.call fd operation) ↔ ¬ shared.Provides fd operation := by
  rw [← sound.installs_iff]
  unfold IsNull call
  split
  · rename_i installed
    exact iff_of_false nofun (not_not_intro installed)
  · rename_i missing
    exact iff_of_true rfl missing

theorem Sound.call_map_null_iff (change : FdFunctions → Result) :
    IsNull ((shared.call fd operation).map change) ↔ ¬ shared.Provides fd operation := by
  rw [← sound.call_null_iff]
  exact Fallible.map_eq_error

theorem Sound.call_of_provides (provides : shared.Provides fd operation) :
    shared.call fd operation = .ok (shared.fds.fdTable fd).functions :=
  if_pos (sound.installs_iff.mpr provides)

theorem Sound.complete_of_provides (provides : shared.Provides fd operation)
    (other : operation ≠ .write) : 2 < fd.val ∧
      ((shared.fds.fdTable fd).functions = .sock ∨ (shared.fds.fdTable fd).functions = .file) := by
  have installed := sound.installs_iff.mpr provides
  cases sound.entries fd with
  | installed high _ complete => exact ⟨high, complete⟩
  | output _ _ console =>
    rw [console] at installed
    exact (other (of_decide_eq_true installed)).elim
  | input _ _ empty | free _ _ empty | opening _ _ empty =>
    rw [empty] at installed
    cases installed

theorem Sound.calls_null_iff :
    IsNull (shared.call fd operation >>= rest) ↔
      (shared.Provides fd operation → IsNull (rest (shared.fds.fdTable fd).functions)) := by
  by_cases provides : shared.Provides fd operation
  · rw [sound.call_of_provides provides, forall_prop_of_true provides]
    rfl
  · have null : shared.call fd operation = .error .nullCall := sound.call_null_iff.mpr provides
    rw [null]
    exact iff_of_true rfl fun other => (provides other).elim

/-! ### Changes of one entry -/

theorem Sound.of_same (fds : next.fds = shared.fds) (reserved : next.reserved = shared.reserved)
    (blocked : ∀ call ∈ next.blocked, call.Placed) : next.Sound := by
  refine ⟨fun fd => ?_, blocked⟩
  unfold EntryOk
  rw [fds, reserved]
  exact sound.entries fd

/-- One entry changes, and the others stay as they are. -/
theorem Sound.change (own : next.EntryOk fd)
    (others : ∀ other, other ≠ fd → next.fds.fdActive other = shared.fds.fdActive other ∧
      next.fds.fdTable other = shared.fds.fdTable other ∧
      next.reserved other = shared.reserved other) (blocked : next.blocked = shared.blocked) :
    next.Sound := by
  refine ⟨fun other => ?_, blocked ▸ sound.blocked⟩
  by_cases same : other = fd
  · exact same ▸ own
  · obtain ⟨active, entry, reserved⟩ := others other same
    unfold EntryOk
    rw [active, entry, reserved]
    exact sound.entries other

end

theorem Sound.block (sound : shared.Sound) {call : BlockedCall maxFds} (placed : call.Placed) :
    (shared.block call).Sound := by
  refine sound.of_same rfl rfl fun other member => ?_
  rcases List.mem_append.mp member with member | member
  · exact sound.blocked other member
  · exact List.mem_singleton.mp member ▸ placed

theorem Sound.unblock (sound : shared.Sound) (position : Nat) :
    Sound { shared with blocked := shared.blocked.eraseIdx position } :=
  sound.of_same rfl rfl fun call member => sound.blocked call (List.mem_of_mem_eraseIdx member)

theorem Sound.of_inactive (sound : shared.Sound) (inactive : shared.fds.fdActive fd = false) :
    2 < fd.val ∧ (shared.fds.fdTable fd).functions = .none ∧ shared.reserved fd = false := by
  cases sound.entries fd with
  | free high _ empty unreserved => exact ⟨high, empty, unreserved⟩
  | input _ active | output _ active | opening _ active | installed _ active =>
    cases inactive.symm.trans active

theorem Sound.release (sound : shared.Sound) (high : 2 < fd.val) : (shared.release fd).Sound := by
  refine sound.change (.free high ?_ ?_ (update_self _ _ _)) (fun other different => ?_) rfl
  · show (shared.fds.posixFdDeallocate fd).fdActive fd = false
    rw [fdActive_posixFdDeallocate, update_self]
  · show ((shared.fds.posixFdDeallocate fd).fdTable fd).functions = .none
    unfold posixFdDeallocate
    split
    · exact congrArg FdEntry.functions (fdTable_setEntry_self _)
    · rename_i inactive
      exact (sound.of_inactive (Bool.eq_false_iff.mpr inactive)).2.1
  · refine ⟨?_, fdTable_posixFdDeallocate_of_ne different, update_of_ne different _ _⟩
    show (shared.fds.posixFdDeallocate fd).fdActive other = shared.fds.fdActive other
    rw [fdActive_posixFdDeallocate, update_of_ne different]

theorem Sound.fileClosed (sound : shared.Sound) (high : 2 < fd.val) :
    (shared.fileClosed fd).Sound :=
  (sound.release high).of_same rfl rfl sound.blocked

theorem fdActive_release (fd : Fin maxFds) : (shared.release fd).fds.fdActive fd = false := by
  show (shared.fds.posixFdDeallocate fd).fdActive fd = false
  rw [fdActive_posixFdDeallocate, update_self]

theorem provides_release_iff (different : other ≠ fd) :
    (shared.release fd).Provides other operation ↔ shared.Provides other operation := by
  have active : (shared.release fd).fds.fdActive other = shared.fds.fdActive other := by
    show (shared.fds.posixFdDeallocate fd).fdActive other = shared.fds.fdActive other
    rw [fdActive_posixFdDeallocate, update_of_ne different]
  have reserved : (shared.release fd).reserved other = shared.reserved other :=
    update_of_ne different _ _
  unfold Provides
  rw [active, reserved]

/-- A free descriptor becomes active, with an empty entry for an `openat`, or a complete one. -/
theorem Sound.take (sound : shared.Sound) {fds : FdTable maxFds} {reserved : Bool}
    (inactive : shared.fds.fdActive fd = false)
    (active : fds.fdActive = update shared.fds.fdActive fd true)
    (others : ∀ other, other ≠ fd → fds.fdTable other = shared.fds.fdTable other)
    (kind : (fds.fdTable fd).functions = .none ∧ reserved = true ∨
      ((fds.fdTable fd).functions = .sock ∨ (fds.fdTable fd).functions = .file) ∧
        reserved = false) :
    Sound { shared with fds, reserved := update shared.reserved fd reserved } := by
  have high := (sound.of_inactive inactive).1
  have isActive : fds.fdActive fd = true := by
    rw [active, update_self]
  have marked : update shared.reserved fd reserved fd = reserved :=
    update_self _ _ _
  refine sound.change ?_ (fun other different => ⟨?_, others other different,
    update_of_ne different _ _⟩) rfl
  · rcases kind with ⟨empty, isReserved⟩ | ⟨complete, unreserved⟩
    · exact .opening high isActive empty (marked.trans isReserved)
    · exact .installed high isActive complete (marked.trans unreserved)
  · rw [active, update_of_ne different]

section

variable (sound : shared.Sound)
include sound

/-- What was not reserved need not be marked. -/
theorem Sound.take_complete {fds : FdTable maxFds} (inactive : shared.fds.fdActive fd = false)
    (active : fds.fdActive = update shared.fds.fdActive fd true)
    (others : ∀ other, other ≠ fd → fds.fdTable other = shared.fds.fdTable other)
    (complete : (fds.fdTable fd).functions = .sock ∨ (fds.fdTable fd).functions = .file) :
    Sound { shared with fds } := by
  have taken := @Sound.take maxFds shared fd sound fds false inactive active others
    (.inr ⟨complete, rfl⟩)
  rwa [← (sound.of_inactive inactive).2.2, update_eq_self] at taken

/-! ### Reading and writing -/

theorem sysTransfer_null_iff (number : Int) (buf count : Nat) :
    IsNull (shared.sysTransfer operation number buf count) ↔
      ¬ (count ≠ 0 → buf ≠ 0 → ∀ fd, shared.fds.posixFdEntry number = some fd →
        shared.Provides fd operation) := by
  unfold sysTransfer
  split
  · rename_i refused
    refine iff_of_false nofun (not_not_intro fun some_bytes some_buffer => ?_)
    exact (refused.elim some_bytes some_buffer).elim
  · rename_i accepted
    rw [not_or] at accepted
    rw [forall_prop_of_true accepted.1, forall_prop_of_true accepted.2]
    cases shared.fds.posixFdEntry number with
    | none => exact iff_of_false nofun (not_not_intro nofun)
    | some fd =>
      simp only [Option.some.injEq, forall_eq']
      exact sound.call_map_null_iff _

theorem sysTransfer_sound {buf count : Nat}
    (performed : shared.sysTransfer operation number buf count = .ok next) : next.Sound := by
  unfold sysTransfer at performed
  split at performed
  · cases performed
    exact sound
  · split at performed
    · cases performed
      exact sound
    · obtain ⟨_, _, rfl⟩ := Fallible.map_eq_ok performed
      exact sound

/-- The loop over the buffers comes to a call. -/
def CallsBuffer : List IoVec → Prop
  | [] => False
  | vector :: rest => if vector.iovLen = 0 then CallsBuffer rest else vector.iovBase ≠ 0

theorem nextVector_null_iff (vectors : List IoVec) :
    IsNull (shared.nextVector operation fd vectors) ↔
      ¬ (CallsBuffer vectors → shared.Provides fd operation) := by
  induction vectors with
  | nil => exact iff_of_false nofun (not_not_intro fun calls => calls.elim)
  | cons vector rest inductionHypothesis =>
    unfold nextVector CallsBuffer
    split
    · exact inductionHypothesis
    · split
      · rename_i null
        exact iff_of_false nofun (not_not_intro fun calls => (calls null).elim)
      · rename_i some_buffer
        rw [forall_prop_of_true some_buffer]
        exact sound.call_map_null_iff _

theorem nextVector_sound {vectors : List IoVec}
    (performed : shared.nextVector operation fd vectors = .ok next) : next.Sound := by
  induction vectors with
  | nil =>
    cases performed
    exact sound
  | cons vector rest inductionHypothesis =>
    unfold nextVector at performed
    split at performed
    · exact inductionHypothesis performed
    · split at performed
      · cases performed
        exact sound
      · obtain ⟨_, _, rfl⟩ := Fallible.map_eq_ok performed
        exact sound.block trivial

theorem sysVector_null_iff (number : Int) (iov : Option (Nat → IoVec)) (iovcnt : Int) :
    IsNull (shared.sysVector operation number iov iovcnt) ↔
      ¬ (CallsBuffer (vectorsOf operation iov iovcnt) → ∀ fd,
        shared.fds.posixFdEntry number = some fd → shared.Provides fd operation) := by
  unfold sysVector
  cases shared.fds.posixFdEntry number with
  | none => exact iff_of_false nofun (not_not_intro fun _ => nofun)
  | some fd =>
    simp only [Option.some.injEq, forall_eq']
    exact nextVector_null_iff sound _

end

/-! ### Opening -/

theorem sysOpenat_not_null : ¬ IsNull shared.sysOpenat := by
  unfold sysOpenat
  split
  · exact isNull_ok _
  · split
    · exact isNull_ok _
    · exact isNull_assertion

theorem sysOpenat_sound (sound : shared.Sound) (performed : shared.sysOpenat = .ok next) :
    next.Sound := by
  unfold sysOpenat at performed
  split at performed
  · cases performed
    exact sound
  · rename_i fd fds allocated
    split at performed
    · cases performed
      obtain ⟨inactive, active, entries⟩ := posixFdAllocate_eq_some allocated
      obtain ⟨high, empty, _⟩ := sound.of_inactive inactive
      refine (sound.take inactive active (fun other _ => by rw [entries]) (.inl ⟨?_, rfl⟩)).block
        high
      rw [entries]
      exact empty
    · cases performed

theorem fileOpened_not_null (fd : Fin maxFds) (opened : Option UInt64T) :
    ¬ IsNull (shared.fileOpened fd opened) := by
  unfold fileOpened
  split
  · exact isNull_ok _
  · split
    · exact isNull_ok _
    · exact isNull_assertion

theorem fileOpened_sound (sound : shared.Sound) (high : 2 < fd.val)
    (performed : shared.fileOpened fd opened = .ok next) : next.Sound := by
  unfold fileOpened at performed
  split at performed
  · cases performed
    exact sound.release high
  · split at performed
    · rename_i active
      cases performed
      refine sound.change (.installed high active (.inr ?_) (update_self _ _ _))
        (fun other different => ⟨rfl, update_of_ne different _ _, update_of_ne different _ _⟩) rfl
      exact congrArg FdEntry.functions (fdTable_setEntry_self _)
    · cases performed

theorem enterSocket_sound (sound : shared.Sound) (created : Bool) :
    (shared.enterSocket created).Sound := by
  unfold enterSocket
  split
  · exact sound
  · rename_i fd fds allocated
    obtain ⟨inactive, active, entries⟩ := posixFdAllocate_eq_some allocated
    have entered : Sound { shared with fds := fds.setEntry fd .socket } := by
      refine sound.take_complete inactive active (fun other different => ?_) (.inl ?_)
      · refine (update_of_ne different _ _).trans ?_
        rw [entries]
      · exact congrArg FdEntry.functions (fdTable_setEntry_self _)
    split
    · exact entered
    · exact entered.release (sound.of_inactive inactive).1

/-! ### Closing and duplicating -/

theorem sysClose_null_iff (sound : shared.Sound) (number : Int) :
    IsNull (shared.sysClose number) ↔ ¬ ∀ fd, shared.fds.posixFdEntry number = some fd →
      shared.Provides fd .close := by
  unfold sysClose
  cases shared.fds.posixFdEntry number with
  | none => exact iff_of_false nofun (not_not_intro nofun)
  | some fd =>
    simp only [Option.some.injEq, forall_eq']
    refine sound.calls_null_iff.trans (imp_congr_right fun _ => iff_of_false ?_ id)
    split
    · exact isNull_ok _
    · exact isNull_ok _

theorem call_bind_eq_ok {result : Result}
    (performed : (shared.call fd operation >>= rest) = .ok result) :
    (shared.fds.fdTable fd).functions.installs operation = true ∧
      rest (shared.fds.fdTable fd).functions = .ok result := by
  unfold call at performed
  split at performed
  · rename_i installed
    exact ⟨installed, performed⟩
  · cases performed

theorem sysClose_sound (sound : shared.Sound) (performed : shared.sysClose number = .ok next) :
    next.Sound := by
  unfold sysClose at performed
  split at performed
  · cases performed
    exact sound
  · obtain ⟨installed, performed⟩ := call_bind_eq_ok performed
    obtain ⟨high, _⟩ := sound.complete_of_provides (sound.installs_iff.mp installed) nofun
    split at performed
    · cases performed
      exact sound.release high
    · cases performed
      exact sound.block high

theorem dup3End_eq (free : shared.fds.fdActive newfd = false) (different : oldfd ≠ newfd) :
    shared.dup3End oldfd newfd =
      (({ shared with fds := shared.fds.copyEntry oldfd newfd } : SharedTable maxFds).call newfd
        .dup3).map fun functions =>
          if functions = .file then
            { shared with
              fds := shared.fds.copyEntry oldfd newfd
              fsServerFdMap := update shared.fsServerFdMap newfd (shared.fsServerFdMap oldfd) }
          else { shared with fds := shared.fds.copyEntry oldfd newfd } := by
  have allocated := posixFdEntryAllocate_of_free free
  unfold dup3End
  rw [allocated]
  dsimp only
  rw [setEntry_eq_copyEntry different allocated]
  cases ({ shared with fds := shared.fds.copyEntry oldfd newfd } : SharedTable maxFds).call newfd
    .dup3 with
  | error fault => rfl
  | ok functions => cases functions <;> rfl

theorem call_copied :
    ({ shared with fds := shared.fds.copyEntry oldfd newfd } : SharedTable maxFds).call newfd
      operation = shared.call oldfd operation := by
  unfold call
  rw [copyEntry_self.2]

section

variable (sound : shared.Sound) (free : shared.fds.fdActive newfd = false)
  (different : oldfd ≠ newfd)
include sound free different

theorem dup3End_null_iff : IsNull (shared.dup3End oldfd newfd) ↔ ¬ shared.Provides oldfd .dup3 := by
  rw [dup3End_eq free different, call_copied]
  exact sound.call_map_null_iff _

theorem dup3End_sound (performed : shared.dup3End oldfd newfd = .ok next) : next.Sound := by
  rw [dup3End_eq free different, call_copied] at performed
  obtain ⟨functions, called, rfl⟩ := Fallible.map_eq_ok performed
  have provides : shared.Provides oldfd .dup3 := by
    by_contra missing
    cases (sound.call_null_iff.mpr missing).symm.trans called
  have copied : Sound { shared with fds := shared.fds.copyEntry oldfd newfd } := by
    refine sound.take_complete free rfl (fun other different => update_of_ne different _ _) ?_
    rw [copyEntry_self.2]
    exact (sound.complete_of_provides provides nofun).2
  split
  · exact copied.of_same rfl rfl sound.blocked
  · exact copied

end

/-- The pointers that a `dup3` calls at once: that for closing the new descriptor if it is active,
and then, unless a file is closed first, that of the old one. -/
def DupProvides (shared : SharedTable maxFds) (oldfd newfd : Fin maxFds) : Prop :=
  (shared.fds.fdActive newfd = true → shared.Provides newfd .close) ∧
    ((shared.fds.fdTable newfd).functions ≠ .file → shared.Provides oldfd .dup3)

theorem sysDup3_cases {oldfd newfd : Int} {validFlags : Bool} :
    (shared.sysDup3 oldfd newfd validFlags = .ok shared ∧
      ¬ ∃ old new : Fin maxFds, validFlags = true ∧ shared.fds.posixFdEntry oldfd = some old ∧
        (new.val : Int) = newfd ∧ old ≠ new) ∨
    ∃ old new : Fin maxFds, validFlags = true ∧ shared.fds.posixFdEntry oldfd = some old ∧
      (new.val : Int) = newfd ∧ old ≠ new ∧
      shared.sysDup3 oldfd newfd validFlags =
        if shared.fds.fdActive new then
          shared.call new .close >>= fun functions =>
            if functions = .sock then (shared.release new).dup3End old new
            else .ok (shared.block (.dup3 old new))
        else shared.dup3End old new := by
  unfold sysDup3
  split
  · rename_i inside
    split
    · rename_i invalid
      exact .inl ⟨rfl, by rintro ⟨_, _, valid, _⟩; cases invalid.symm.trans valid⟩
    · rename_i valid
      split
      · rename_i missing
        exact .inl ⟨rfl, by rintro ⟨_, _, _, found, _⟩; cases missing.symm.trans found⟩
      · rename_i old found
        dsimp only
        split
        · rename_i same
          refine .inl ⟨rfl, ?_⟩
          rintro ⟨own, target, _, again, number, different⟩
          cases found.symm.trans again
          refine different (same.trans (Fin.ext ?_))
          exact Int.ofNat_inj.mp ((Int.toNat_of_nonneg inside.1).trans number.symm)
        · rename_i different
          refine .inr ⟨old, ⟨newfd.toNat, inside.2⟩, Bool.not_eq_false _ ▸ valid, found,
            Int.toNat_of_nonneg inside.1, different, ?_⟩
          split
          · cases called : shared.call ⟨newfd.toNat, inside.2⟩ .close with
            | error fault => rfl
            | ok functions => cases functions <;> rfl
          · rfl
  · refine .inl ⟨rfl, ?_⟩
    rintro ⟨_, target, _, _, number, _⟩
    omega

section

variable (sound : shared.Sound)
include sound

theorem sysDup3_null_iff (oldfd newfd : Int) (validFlags : Bool) :
    IsNull (shared.sysDup3 oldfd newfd validFlags) ↔
      ¬ ∀ old new : Fin maxFds, validFlags = true → shared.fds.posixFdEntry oldfd = some old →
        (new.val : Int) = newfd → old ≠ new → shared.DupProvides old new := by
  rcases @sysDup3_cases maxFds shared oldfd newfd validFlags with
    ⟨same, none⟩ | ⟨old, new, valid, found, number, different, same⟩
  · rw [same]
    refine iff_of_false nofun (not_not_intro fun old new valid found number different => ?_)
    exact (none ⟨old, new, valid, found, number, different⟩).elim
  · have only : (∀ old new : Fin maxFds, validFlags = true →
        shared.fds.posixFdEntry oldfd = some old → (new.val : Int) = newfd → old ≠ new →
        shared.DupProvides old new) ↔ shared.DupProvides old new := by
      refine ⟨fun all => all old new valid found number different, ?_⟩
      intro provides own target _ again same _
      cases found.symm.trans again
      cases Fin.ext (Int.ofNat_inj.mp (number.trans same.symm))
      exact provides
    rw [only, same]
    unfold DupProvides
    split
    · rename_i active
      rw [sound.calls_null_iff, forall_prop_of_true active]
      by_cases provides : shared.Provides new .close
      · rw [forall_prop_of_true provides, and_iff_right provides]
        obtain ⟨high, kind⟩ := sound.complete_of_provides provides nofun
        rcases kind with socket | file
        · rw [if_pos socket, socket, forall_prop_of_true (show FdFunctions.sock ≠ .file from nofun),
            dup3End_null_iff (sound.release high) (fdActive_release new) different,
            provides_release_iff different]
        · rw [file]
          exact iff_of_false nofun (not_not_intro fun other => (other rfl).elim)
      · exact iff_of_true (fun other => (provides other).elim) fun other => provides other.1
    · rename_i inactive
      have free := Bool.eq_false_iff.mpr inactive
      rw [dup3End_null_iff sound free different, (sound.of_inactive free).2.1,
        forall_prop_of_true (show FdFunctions.none ≠ .file from nofun), and_iff_right]
      exact fun active => (inactive active).elim

theorem sysDup3_sound {oldfd newfd : Int} {validFlags : Bool}
    (performed : shared.sysDup3 oldfd newfd validFlags = .ok next) : next.Sound := by
  rcases @sysDup3_cases maxFds shared oldfd newfd validFlags with
    ⟨same, _⟩ | ⟨old, new, _, _, _, different, same⟩
  · cases same.symm.trans performed
    exact sound
  · rw [same] at performed
    split at performed
    · obtain ⟨installed, performed⟩ := call_bind_eq_ok performed
      obtain ⟨high, _⟩ := sound.complete_of_provides (sound.installs_iff.mp installed) nofun
      split at performed
      · exact dup3End_sound (sound.release high) (fdActive_release new) different performed
      · cases performed
        exact sound.block ⟨high, different⟩
    · rename_i inactive
      exact dup3End_sound sound (Bool.eq_false_iff.mpr inactive) different performed

theorem sysFstat_null_iff (number : Int) (statbuf : Nat) :
    IsNull (shared.sysFstat number statbuf) ↔
      ¬ (statbuf ≠ 0 → ∀ fd, shared.fds.posixFdEntry number = some fd →
        shared.Provides fd .fstat) := by
  unfold sysFstat
  split
  · rename_i refused
    exact iff_of_false nofun (not_not_intro fun some_buffer => (some_buffer refused).elim)
  · rename_i accepted
    rw [forall_prop_of_true accepted]
    cases shared.fds.posixFdEntry number with
    | none => exact iff_of_false nofun (not_not_intro nofun)
    | some fd =>
      simp only [Option.some.injEq, forall_eq']
      exact sound.call_map_null_iff _

theorem sysFstat_sound {statbuf : Nat} (performed : shared.sysFstat number statbuf = .ok next) :
    next.Sound := by
  unfold sysFstat at performed
  split at performed
  · cases performed
    exact sound
  · split at performed
    · cases performed
      exact sound
    · obtain ⟨_, _, rfl⟩ := Fallible.map_eq_ok performed
      exact sound

/-! ### Calls that go on -/

/-- A call that goes on finds the pointers that it needs: a `dup3` that of the old descriptor, and a
call for several buffers that of its descriptor if there is another buffer. -/
def BlockedProvides (shared : SharedTable maxFds) (moved : UInt64T) : BlockedCall maxFds → Prop
  | .openat _ | .close _ => True
  | .dup3 oldfd _ => shared.Provides oldfd .dup3
  | .vector operation fd iovLen rest => moved.slt 0 = false → ¬ moved < iovLen → CallsBuffer rest →
    shared.Provides fd operation

theorem goOn_null_iff (placed : call.Placed) (opened : Option UInt64T) (moved : UInt64T) :
    IsNull (shared.goOn opened moved call) ↔ ¬ shared.BlockedProvides moved call := by
  cases call with
  | openat fd => exact iff_of_false (fileOpened_not_null fd opened) (not_not_intro trivial)
  | close fd => exact iff_of_false nofun (not_not_intro trivial)
  | dup3 oldfd newfd =>
    refine (dup3End_null_iff (sound.fileClosed placed.1) (fdActive_release newfd)
      placed.2).trans (not_congr ?_)
    exact provides_release_iff placed.2
  | vector operation fd iovLen rest =>
    unfold goOn BlockedProvides
    dsimp only
    split
    · rename_i ends
      refine iff_of_false nofun (not_not_intro fun nonneg whole => ?_)
      rcases ends with negative | short
      · cases nonneg.symm.trans negative
      · exact (whole short).elim
    · rename_i further
      rw [not_or] at further
      rw [forall_prop_of_true (Bool.eq_false_iff.mpr further.1), forall_prop_of_true further.2]
      exact nextVector_null_iff sound rest

theorem goOn_sound (placed : call.Placed) {moved : UInt64T}
    (performed : shared.goOn opened moved call = .ok next) : next.Sound := by
  cases call with
  | openat fd => exact fileOpened_sound sound placed performed
  | close fd =>
    cases performed
    exact sound.fileClosed placed
  | dup3 oldfd newfd =>
    exact dup3End_sound (sound.fileClosed placed.1) (fdActive_release newfd) placed.2 performed
  | vector operation fd iovLen rest =>
    unfold goOn at performed
    dsimp only at performed
    split at performed
    · cases performed
      exact sound
    · exact nextVector_sound sound performed

/-! ### Every call -/

/-- Each pointer on the way of the call is there. -/
def MeetsEntries (shared : SharedTable maxFds) : TableCall → Prop
  | .write number buf count => count ≠ 0 → buf ≠ 0 → ∀ fd,
    shared.fds.posixFdEntry number = some fd → shared.Provides fd .write
  | .read number buf count => count ≠ 0 → buf ≠ 0 → ∀ fd,
    shared.fds.posixFdEntry number = some fd → shared.Provides fd .read
  | .writev number iov iovcnt => CallsBuffer (vectorsOf .write iov iovcnt) → ∀ fd,
    shared.fds.posixFdEntry number = some fd → shared.Provides fd .write
  | .readv number iov iovcnt => CallsBuffer (vectorsOf .read iov iovcnt) → ∀ fd,
    shared.fds.posixFdEntry number = some fd → shared.Provides fd .read
  | .close number => ∀ fd, shared.fds.posixFdEntry number = some fd → shared.Provides fd .close
  | .dup3 oldfd newfd validFlags => ∀ old new : Fin maxFds, validFlags = true →
    shared.fds.posixFdEntry oldfd = some old → (new.val : Int) = newfd → old ≠ new →
      shared.DupProvides old new
  | .fstat number statbuf => statbuf ≠ 0 → ∀ fd,
    shared.fds.posixFdEntry number = some fd → shared.Provides fd .fstat
  | .openat | .socket _ | .accepted => True
  | .resume position _ moved => ∀ call, shared.blocked[position]? = some call →
    shared.BlockedProvides moved call

theorem perform_null_iff (call : TableCall) :
    IsNull (shared.perform call) ↔ ¬ shared.MeetsEntries call := by
  cases call with
  | write number buf count
  | read number buf count => exact sysTransfer_null_iff sound number buf count
  | writev number iov iovcnt
  | readv number iov iovcnt => exact sysVector_null_iff sound number iov iovcnt
  | close number => exact sysClose_null_iff sound number
  | dup3 oldfd newfd validFlags => exact sysDup3_null_iff sound oldfd newfd validFlags
  | fstat number statbuf => exact sysFstat_null_iff sound number statbuf
  | openat => exact iff_of_false sysOpenat_not_null (not_not_intro trivial)
  | socket created | accepted => exact iff_of_false nofun (not_not_intro trivial)
  | resume position opened moved =>
    unfold perform MeetsEntries
    dsimp only
    cases waiting : shared.blocked[position]? with
    | none => exact iff_of_false nofun (not_not_intro nofun)
    | some call =>
      have placed := sound.blocked call (List.mem_of_getElem? waiting)
      simp only [Option.some.injEq, forall_eq']
      exact goOn_null_iff (sound.unblock position) placed opened moved

theorem perform_sound {call : TableCall} (performed : shared.perform call = .ok next) :
    next.Sound := by
  cases call with
  | write number buf count | read number buf count => exact sysTransfer_sound sound performed
  | writev number iov iovcnt | readv number iov iovcnt =>
    unfold perform sysVector at performed
    dsimp only at performed
    split at performed
    · cases performed
      exact sound
    · exact nextVector_sound sound performed
  | close number => exact sysClose_sound sound performed
  | dup3 oldfd newfd validFlags => exact sysDup3_sound sound performed
  | fstat number statbuf => exact sysFstat_sound sound performed
  | openat => exact sysOpenat_sound sound performed
  | socket created =>
    cases performed
    exact enterSocket_sound sound created
  | accepted =>
    cases performed
    exact enterSocket_sound sound true
  | resume position opened moved =>
    unfold perform at performed
    dsimp only at performed
    split at performed
    · cases performed
      exact sound
    · rename_i call waiting
      exact goOn_sound (sound.unblock position)
        (sound.blocked call (List.mem_of_getElem? waiting)) performed

theorem step_sound {call : TableCall} (step : TableStep shared call next) : next.Sound := by
  obtain ⟨_, rfl⟩ := step
  cases performed : shared.perform call with
  | error fault => exact sound.of_same rfl rfl sound.blocked
  | ok next =>
    have after := perform_sound sound performed
    exact after.of_same rfl rfl after.blocked

end

theorem fault_after_iff {result : Except TableFault (SharedTable maxFds)} {fault : TableFault} :
    (shared.after result).fault = some fault ↔ result = .error fault := by
  cases result with
  | ok next => exact iff_of_false nofun nofun
  | error other =>
    exact ⟨fun same => congrArg _ (Option.some.inj same), fun same => congrArg _
      (Except.error.inj same)⟩

/-- No pointer was called that is null. -/
def NoNullCall (shared : SharedTable maxFds) : Prop :=
  shared.fault ≠ some .nullCall

theorem step_noNullCall_iff {call : TableCall} (sound : shared.Sound)
    (step : TableStep shared call next) : next.NoNullCall ↔ shared.MeetsEntries call := by
  obtain ⟨_, rfl⟩ := step
  unfold NoNullCall
  rw [← not_iff_not, not_not, fault_after_iff]
  exact perform_null_iff sound call

end SharedTable

open SharedTable

/-- However the calls of cothreads are interleaved, no pointer is called that is null, exactly as
long as of the console only output is written to, no descriptor is used between the time when an
`openat` takes it and enters its file, and no call goes on with a descriptor that was closed, or
taken so, while it waited. -/
theorem no_null_call_iff {maxFds : Nat} {shared : SharedTable maxFds} {calls : List TableCall} :
    Run (Within NoNullCall TableStep) initial calls shared ↔
      Run (Guarded MeetsEntries TableStep) initial calls shared := by
  refine run_within_iff_guarded Sound initial_sound ?_ ?_ ?_
  · rintro ⟨⟩
  · exact fun _ _ _ sound step => step_sound sound step
  · exact fun _ _ _ sound _ step => step_noNullCall_iff sound step

/-- A file is being opened, and another cothread reads the descriptor that its `openat` has taken;
also, standard output has nothing that `fstat` could call. -/
theorem null_pointer_called :
    (∃ shared : SharedTable 128, Run TableStep initial [.openat, .read 3 1 1] shared ∧
      ¬ shared.NoNullCall) ∧
    ∃ shared : SharedTable 128, Run TableStep initial [.fstat 1 1] shared ∧ ¬ shared.NoNullCall :=
  ⟨⟨_, (Run.single ⟨rfl, rfl⟩).snoc ⟨rfl, rfl⟩, not_not_intro rfl⟩,
    ⟨_, Run.single ⟨rfl, rfl⟩, not_not_intro rfl⟩⟩

end LionsOS.Posix
