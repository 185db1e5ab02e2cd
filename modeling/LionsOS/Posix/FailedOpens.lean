/-
This file is about calls of `openat` that fail. Each exit gives back the buffer and the
descriptor, if they have been taken, so that the tables are what they were; and before
the file is opened the server was asked for information only. The one exit behind it is
that of a truncation that the server denies: the file stays open there.
-/

import LionsOS.Posix.FilePositions

namespace LionsOS.Posix

open StepRun FileClient List
open Fs (fsStatusSuccess)

/-! ### Files that are open -/

/-- The descriptors that the server has open after a command; those of directories are marked. -/
def Exchange.heldAfter (held : List (Bool × UInt64T)) (exchange : Exchange) :
    List (Bool × UInt64T) :=
  if exchange.completion.status = fsStatusSuccess then
    match exchange.command with
    | .fileOpen .. => (false, exchange.completion.data) :: held
    | .dirOpen .. => (true, exchange.completion.data) :: held
    | .fileClose fd => held.erase (false, fd)
    | .dirClose fd => held.erase (true, fd)
    | _ => held
  else held

/-- The descriptors that the server has opened and not closed. -/
def heldOpen (exchanges : List Exchange) : List (Bool × UInt64T) :=
  exchanges.foldl Exchange.heldAfter []

def FsCommand.Opens (directory : Bool) : FsCommand → Prop
  | .fileOpen .. => directory = false
  | .dirOpen .. => directory = true
  | _ => False

section

variable {exchanges : List Exchange} (stats : ∀ exchange ∈ exchanges, exchange.command.IsStat)
include stats

theorem foldl_heldAfter_of_stats (held : List (Bool × UInt64T)) :
    exchanges.foldl Exchange.heldAfter held = held := by
  induction exchanges with
  | nil => rfl
  | cons exchange rest inductionHypothesis =>
    obtain ⟨stat, later⟩ := forall_mem_cons.mp stats
    have kept : exchange.heldAfter held = held := by
      unfold Exchange.heldAfter
      obtain ⟨command, completion⟩ := exchange
      cases command with
      | stat => split_ifs <;> rfl
      | _ => exact stat.elim
    rw [foldl_cons, kept]
    exact inductionHypothesis later

theorem heldOpen_of_stats : heldOpen exchanges = [] :=
  foldl_heldAfter_of_stats stats []

end

theorem heldOpen_snoc (exchanges : List Exchange) (exchange : Exchange) :
    heldOpen (exchanges ++ [exchange]) = exchange.heldAfter (heldOpen exchanges) := by
  unfold heldOpen
  rw [foldl_append, foldl_cons, foldl_nil]

/-- What the server was asked is in its record. -/
theorem FileEnv.Asked.exchanges {Server : Type} {env : FileEnv Server}
    {Allowed : FsCommand → Prop} {first second : Server × List Exchange}
    (asked : env.recording.Asked Allowed first second) :
    ∃ exchanges, second.2 = first.2 ++ exchanges ∧
      ∀ exchange ∈ exchanges, Allowed exchange.command := by
  induction asked with
  | nothing => exact ⟨[], (append_nil _).symm, forall_mem_nil _⟩
  | @command earlier command share _ allowed inductionHypothesis =>
    obtain ⟨exchanges, same, all⟩ := inductionHypothesis
    refine ⟨exchanges ++ [⟨command, (env.answer command share earlier.1).completion⟩], ?_, ?_⟩
    · rw [← append_assoc, ← same]
      rfl
    · exact forall_mem_append.mpr ⟨all, forall_mem_singleton.mpr allowed⟩

/-! ### The exits -/

section Exits

variable {Server : Type} {maxFds : Nat} {env : FileEnv Server}
  {client start next : FileClient Server maxFds} {locals : Locals} {flags : OpenFlags}
  {fd : Fin maxFds} {fds : FdTable maxFds} {fullPath : List UInt8T} {i : Nat}

/-- What a call has come to before its file is truncated. -/
def Opening.From (env : FileEnv Server) (client : FileClient Server maxFds) (locals : Locals)
    (flags : OpenFlags) : Opening Server maxFds → Prop
  | .refused _ next =>
    SameTables client next ∧ env.Asked FsCommand.IsStat client.server next.server
  | .asked fd _ completion next => ∃ fds asking,
    client.fds.posixFdAllocate = some (fd, fds) ∧ SameTables { client with fds } next ∧
      env.Asked FsCommand.IsStat client.server asking ∧
      (next.server = asking ∧ env.available asking = false ∧ completion = locals.completion ∨
        ∃ command share, command.Opens flags.directory ∧
          let answered := env.answer command share asking
          next.server = answered.server ∧ completion = answered.completion)

section

variable (env : FileEnv Server) (client : FileClient Server maxFds) (locals : Locals)
  (flags : OpenFlags) (fullPath : List UInt8T)

theorem checkExists_tables :
    ∃ present next, client.checkExists env locals flags fullPath = some (present, next) ∧
      SameTables client next ∧ env.Asked FsCommand.IsStat client.server next.server := by
  unfold checkExists
  split_ifs
  · obtain ⟨result, stat, next, looked, tables, asked⟩ :=
      fstatInt_tables env client (locals.fstatInt 0) fullPath (locals.statbuf 0)
    rw [looked]
    exact ⟨_, next, rfl, tables, asked⟩
  · exact ⟨false, client, rfl, .refl _, .nothing⟩

theorem checkDirectory_tables :
    ∃ directory next, client.checkDirectory env locals flags fullPath = some (directory, next) ∧
      SameTables client next ∧ env.Asked FsCommand.IsStat client.server next.server := by
  unfold checkDirectory
  split_ifs
  · obtain ⟨result, stat, next, looked, tables, asked⟩ :=
      fstatInt_tables env client (locals.fstatInt 1) fullPath (locals.statbuf 1)
    rw [looked]
    exact ⟨_, next, rfl, tables, asked⟩
  · exact ⟨false, client, rfl, .refl _, .nothing⟩

end

/-- A call that has taken a buffer and a descriptor gives both back. -/
theorem giveUp_from (cleared : client.fds.FreeCleared)
    (allocated : client.fds.posixFdAllocate = some (fd, fds)) (small : i < Fs.numBuffers)
    (unused : client.buffers.used i = false)
    (tables : SameTables (holding { client with fds } i) start)
    (asked : env.Asked FsCommand.IsStat client.server start.server) (error : FileErrno) :
    ∃ opening, start.giveUp fd (i * Fs.fsBufferSize) error = some opening ∧
      opening.From env client locals flags := by
  have restored : SameTables (client.holding i) (start.posixFdDeallocate fd) := by
    refine ⟨?_, tables.fsServerFdMap, tables.fdPath, tables.used⟩
    dsimp only [posixFdDeallocate]
    rw [tables.fds]
    exact cleared.posixFdDeallocate_allocated allocated
  unfold giveUp
  rw [restored.fsBufferFree small]
  exact ⟨_, rfl, restored.freed unused, asked⟩

/-- The middle of a call, with a buffer and a descriptor that it has taken. -/
theorem openChecked_from (env : FileEnv Server) (locals : Locals) (flags : OpenFlags)
    (fullPath : List UInt8T) (cleared : client.fds.FreeCleared)
    (allocated : client.fds.posixFdAllocate = some (fd, fds)) (small : i < Fs.numBuffers)
    (unused : client.buffers.used i = false)
    (tables : SameTables (holding { client with fds } i) start)
    (server : start.server = client.server) :
    ∃ opening, start.openChecked env locals flags fullPath fd (i * Fs.fsBufferSize) = some opening ∧
      opening.From env client locals flags := by
  unfold openChecked
  obtain ⟨present, looked, exists_, lookedTables, lookedAsked⟩ :=
    checkExists_tables env start locals flags fullPath
  rw [exists_, Option.bind_some]
  rw [server] at lookedAsked
  have lookedTables := tables.trans lookedTables
  cases present with
  | true => exact giveUp_from cleared allocated small unused lookedTables lookedAsked .eexist
  | false =>
    obtain ⟨directory, checked, isDirectory, checkedTables, checkedAsked⟩ :=
      checkDirectory_tables env looked locals flags fullPath
    have checkedTables := lookedTables.trans checkedTables
    have checkedAsked := lookedAsked.trans checkedAsked
    dsimp only
    rw [isDirectory, Option.bind_some]
    cases directory with
    | true => exact giveUp_from cleared allocated small unused checkedTables checkedAsked .eisdir
    | false =>
      obtain ⟨command, same, opens⟩ : ∃ command : FsCommand,
          (if flags.directory then
            FsCommand.dirOpen (bufferAt (i * Fs.fsBufferSize) fullPath.length)
          else .fileOpen (bufferAt (i * Fs.fsBufferSize) fullPath.length)
            (fsFlags flags)) = command ∧ command.Opens flags.directory := by
        refine ⟨_, rfl, ?_⟩
        cases directory : flags.directory with
        | true | false => exact rfl
      rw [same]
      have tables : SameTables (holding { client with fds } i)
          (checked.fsCommandBlocking env locals.completion command).client :=
        checkedTables.trans (fsCommandBlocking_tables _ _ _ _)
      rw [tables.fsBufferFree small]
      refine ⟨_, rfl, fds, checked.server, allocated, tables.freed unused, checkedAsked, ?_⟩
      cases available : env.available checked.server with
      | false =>
        rw [fsCommandBlocking_of_unavailable available]
        exact .inl ⟨rfl, rfl, rfl⟩
      | true =>
        rw [fsCommandBlocking_of_available available]
        exact .inr ⟨command, checked.buffers.share, opens, rfl, rfl⟩

theorem askToOpen_from (cleared : client.fds.FreeCleared) {dirfd : Int}
    {path : Option (List UInt8T)} {opening : Opening Server maxFds}
    (asked : client.askToOpen env locals dirfd path flags = some opening) :
    opening.From env client locals flags := by
  unfold askToOpen at asked
  have unchanged {result : Int} : Opening.From env client locals flags (.refused result client) :=
    ⟨.refl _, .nothing⟩
  split at asked
  · cases asked
    exact unchanged
  · rename_i fullPath _
    split_ifs at asked
    · cases asked
      exact unchanged
    · cases asked
      exact unchanged
    · cases asked
      exact unchanged
    · split at asked
      · cases asked
        exact unchanged
      · rename_i buffer held taken
        obtain ⟨i, small, unused, rfl, rfl⟩ := fsBufferAllocate_eq_some taken
        split at asked
        · rw [(SameTables.refl (client.holding i)).fsBufferFree small] at asked
          cases asked
          exact ⟨(SameTables.refl _).freed unused, .nothing⟩
        · rename_i fd fds allocated
          split_ifs at asked
          have filled : SameTables (holding { client with fds } i)
              ({ client.holding i with fds }.fillPath (i * Fs.fsBufferSize) fullPath) :=
            ⟨rfl, rfl, rfl, rfl⟩
          obtain ⟨opening', same, opened⟩ :=
            openChecked_from env locals flags fullPath cleared allocated small unused filled rfl
          cases asked.symm.trans same
          exact opened

/-! ### Truncation -/

/-- The file that the call has opened is to be truncated, and the server denies that. -/
def TruncationRefused (env : FileEnv Server) (client : FileClient Server maxFds) (locals : Locals)
    (dirfd : Int) (path : Option (List UInt8T)) (flags : OpenFlags) : Prop :=
  ∃ fd fullPath completion opened,
    client.askToOpen env locals dirfd path flags = some (.asked fd fullPath completion opened) ∧
      completion.status = fsStatusSuccess ∧ flags.directory = false ∧ flags.trunc = true ∧
      env.available opened.server = true ∧
      (env.answer (.fileTruncate completion.data 0) opened.buffers.share
        opened.server).completion.status ≠ fsStatusSuccess

/-- A call leaves nothing behind: the tables are what they were, and the server has no file or
directory open for it. -/
structure Undone (client next : FileClient Server maxFds) (exchanges : List Exchange) : Prop where
  tables : SameTables client next
  held : heldOpen exchanges = []

/-- The server has answered to the truncation, or it was not asked. -/
theorem truncateOpened_cases (env : FileEnv Server) (client : FileClient Server maxFds)
    (flags : OpenFlags) (completion : Completion) :
    (¬ (flags.directory = false ∧ flags.trunc = true ∧ env.available client.server = true) ∧
      ∃ err, client.truncateOpened env flags completion = { err, completion, client }) ∨
    (flags.directory = false ∧ flags.trunc = true ∧ env.available client.server = true) ∧ ∃ next,
        let answered :=
          env.answer (.fileTruncate completion.data 0) client.buffers.share client.server
        client.truncateOpened env flags completion =
          { err := false, completion := answered.completion, client := next } ∧
            next.server = answered.server := by
  unfold truncateOpened
  split_ifs with tried
  · cases available : env.available client.server with
    | false =>
      refine .inl ⟨fun all => (by cases all.2.2), true, ?_⟩
      exact fsCommandBlocking_of_unavailable available _ _
    | true =>
      have issued := fsCommandBlocking_of_available available completion
        (.fileTruncate completion.data 0)
      exact .inr ⟨⟨tried.1, tried.2, rfl⟩, _, issued, rfl⟩
  · exact .inl ⟨fun all => tried ⟨all.1, all.2.1⟩, false, rfl⟩

end Exits

section Records

variable {Server : Type} {maxFds : Nat} {env : FileEnv Server}
  {client next : FileClient (Server × List Exchange) maxFds} {locals : Locals} {flags : OpenFlags}
  {fd : Fin maxFds} {fullPath : List UInt8T} {completion : Completion}

/-- What the server has open when a call has asked it to open a file. -/
theorem Opening.From.record
    (opened : (Opening.asked fd fullPath completion next).From env.recording client locals flags) :
    ∃ exchanges, next.server.2 = client.server.2 ++ exchanges ∧
      (completion.status ≠ fsStatusSuccess → heldOpen exchanges = []) ∧
      (completion.status = fsStatusSuccess → env.recording.available next.server = true →
        heldOpen exchanges = [(flags.directory, completion.data)]) := by
  obtain ⟨fds, asking, _, _, asked, issued⟩ := opened
  obtain ⟨earlier, record, stats⟩ := asked.exchanges
  rcases issued with ⟨server, unavailable, _⟩ | ⟨command, share, opens, server, same⟩
  · refine ⟨earlier, by rw [server, record], fun _ => heldOpen_of_stats stats, ?_⟩
    intro _ available
    rw [server, unavailable] at available
    cases available
  · refine ⟨earlier ++ [⟨command, completion⟩], ?_, ?_, ?_⟩
    · rw [server, same, ← append_assoc, ← record]
      rfl
    · intro failed
      rw [heldOpen_snoc, heldOpen_of_stats stats]
      exact if_neg failed
    · intro success _
      rw [heldOpen_snoc, heldOpen_of_stats stats]
      refine (if_pos success).trans ?_
      cases command with
      | fileOpen =>
        rw [show flags.directory = false from opens]
      | dirOpen =>
        rw [show flags.directory = true from opens]
      | _ => exact opens.elim

theorem Opening.From.deallocated (cleared : client.fds.FreeCleared)
    (opened : (Opening.asked fd fullPath completion next).From env.recording client locals flags) :
    SameTables client (next.posixFdDeallocate fd) := by
  obtain ⟨fds, _, allocated, tables, _⟩ := opened
  refine ⟨?_, tables.fsServerFdMap, tables.fdPath, tables.used⟩
  dsimp only [posixFdDeallocate]
  rw [tables.fds]
  exact cleared.posixFdDeallocate_allocated allocated

end Records

/-! ### Free descriptors -/

section Free

variable {Server : Type} {maxFds : Nat} {env : FileEnv Server}
  {client next : FileClient Server maxFds} {locals : Locals} {result : Int}

theorem openat_freeCleared (cleared : client.fds.FreeCleared) {dirfd : Int}
    {path : Option (List UInt8T)} {flags : OpenFlags}
    (called : client.sysOpenat env locals dirfd path flags = some (result, next)) :
    next.fds.FreeCleared := by
  obtain ⟨opening, asked, finished⟩ := Option.bind_eq_some_iff.mp called
  have opened := askToOpen_from cleared asked
  cases opening with
  | refused result' next' =>
    cases finished
    rw [opened.1.fds]
    exact cleared
  | asked fd fullPath completion opened' =>
    obtain ⟨fds, _, allocated, tables, _⟩ := opened
    have kept : opened'.fds.FreeCleared := by
      rw [tables.fds]
      exact cleared.posixFdAllocate allocated
    dsimp only at finished
    unfold finishOpen at finished
    split at finished
    · cases finished
      exact kept.posixFdDeallocate fd
    · have same := (truncateOpened_tables env opened' flags completion).fds
      rw [← same] at kept
      dsimp only at finished
      split at finished
      · cases finished
        exact kept.posixFdDeallocate fd
      · obtain ⟨entry, found, entered⟩ := Option.map_eq_some_iff.mp finished
        cases entered
        exact kept.setEntry (FdTable.posixFdEntry_eq_some found).2 _

theorem close_freeCleared (cleared : client.fds.FreeCleared) {fd : Int}
    (called : client.sysClose env locals fd = some (result, next)) : next.fds.FreeCleared := by
  unfold sysClose at called
  split_ifs at called
  · cases called
    exact cleared
  · split at called
    · cases called
      exact cleared
    · rename_i entry found
      split_ifs at called
      have closed := Option.some.inj called
      unfold fileClose at closed
      rw [found] at closed
      cases closed
      have kept := fsCommandBlocking_tables env client locals.completion
        (if (client.fds.fdTable entry).directory then .dirClose (client.serverFd entry)
          else .fileClose (client.serverFd entry))
      rw [← kept.fds] at cleared
      exact cleared.posixFdDeallocate entry

theorem transfer_freeCleared (cleared : client.fds.FreeCleared) {direction : Direction}
    {buf len : Nat} {fd : Int}
    (called : direction.call env client locals buf len fd = some (result, next)) :
    next.fds.FreeCleared := by
  have round (client : FileClient Server maxFds) (fd : Fin maxFds) (buffer : Nat)
      (completion : Completion) (total : UInt64T) (buf size : Nat) :
      SameTables client (direction.chunk env client fd buffer completion total buf size).after := by
    cases direction with
    | read => exact readChunk_tables env client fd buffer completion total buf size
    | write => exact writeChunk_tables env client fd buffer completion total buf size
  rw [Direction.call_eq] at called
  rcases fileTransfer_fds round called with same | ⟨entry, position, active, same⟩
  · rw [same]
    exact cleared
  · rw [same]
    exact cleared.setEntry active _

theorem lseek_freeCleared (env : FileEnv Server) (locals : Locals)
    (cleared : client.fds.FreeCleared) (fd : Int) (offset : UInt64T) (whence : Int) :
    (client.sysLseek env locals fd offset whence).2.fds.FreeCleared := by
  unfold sysLseek
  by_cases special : fd = servicesFd maxFds ∨ fd = etcFd maxFds
  · rw [if_pos special]
    exact cleared
  rw [if_neg special]
  cases found : client.fds.posixFdEntry fd with
  | none => exact cleared
  | some entry =>
    have active := (FdTable.posixFdEntry_eq_some found).2
    have asked := (fsCommandBlocking_tables env client locals.completion
      (.fileSize (client.serverFd entry))).fds
    have unmoved : (client.fsCommandBlocking env locals.completion
        (.fileSize (client.serverFd entry))).client.fds.FreeCleared := by
      rw [asked]
      exact cleared
    have moved {other : FileClient Server maxFds} (same : other.fds = client.fds)
        (newFp : UInt64T) : (other.moveTo entry newFp).2.fds.FreeCleared := by
      dsimp only [moveTo, setFilePtr]
      rw [same]
      exact cleared.setEntry active _
    dsimp only
    split_ifs
    · exact cleared
    · exact moved rfl _
    · exact cleared
    · exact cleared
    · exact moved rfl _
    · exact unmoved
    · exact unmoved
    · exact unmoved
    · exact moved asked _
    · exact cleared

theorem perform_freeCleared (cleared : client.fds.FreeCleared) {call : FileCall}
    (called : client.perform env locals call = some (result, next)) : next.fds.FreeCleared := by
  have same_tables (tables : SameTables client next) : next.fds.FreeCleared := by
    rw [tables.fds]
    exact cleared
  cases call with
  | openat dirfd path flags => exact openat_freeCleared cleared called
  | close fd => exact close_freeCleared cleared called
  | read fd buf count =>
    rcases sysRead_cases called with rfl | called
    · exact cleared
    · exact transfer_freeCleared cleared called
  | write fd buf count =>
    rcases sysWrite_cases called with rfl | called
    · exact cleared
    · exact transfer_freeCleared cleared called
  | lseek fd offset whence =>
    have sought := lseek_freeCleared env locals cleared fd offset whence
    rwa [Option.some.inj called] at sought
  | fstat fd statbuf => exact same_tables (sysFstat_tables called)
  | fstatat dirfd path statbuf => exact same_tables (sysFstatat_tables called)
  | mkdirat dirfd path => exact same_tables (sysMkdirat_tables called)
  | unlinkat dirfd path removedir => exact same_tables (sysUnlinkat_tables called)

/-- The calls of a program, one after the other. -/
def CallStep (env : FileEnv Server) (client : FileClient Server maxFds) (call : Call)
    (next : FileClient Server maxFds) : Prop :=
  ∃ result, client.perform env call.locals call.call = some (result, next)

/-- Free descriptors are cleared in all that the calls lead to. -/
theorem freeCleared_of_run {memory : Nat → UInt8T} {server : Server} {calls : List Call}
    (run : Run (CallStep env) (initial memory server) calls client) :
    client.fds.FreeCleared := by
  refine run.invariant (fun client => client.fds.FreeCleared) FdTable.freeCleared_initial ?_
  rintro client call next cleared ⟨result, called⟩
  exact perform_freeCleared cleared called

end Free

/-- A call of `openat` that returns an error leaves nothing behind, unless the server denies the
truncation of the file that it has opened. -/
theorem openat_undone_iff {Server : Type} {maxFds : Nat} {env : FileEnv Server}
    {client next : FileClient (Server × List Exchange) maxFds} {locals : Locals} {dirfd : Int}
    {path : Option (List UInt8T)} {flags : OpenFlags} {result : Int}
    (cleared : client.fds.FreeCleared)
    (called : client.sysOpenat env.recording locals dirfd path flags = some (result, next)) :
    ∃ exchanges, next.server.2 = client.server.2 ++ exchanges ∧
      ((result < 0 → Undone client next exchanges) ↔
        ¬ TruncationRefused env.recording client locals dirfd path flags) := by
  obtain ⟨opening, asked, finished⟩ := Option.bind_eq_some_iff.mp called
  have opened := askToOpen_from cleared asked
  cases opening with
  | refused result' next' =>
    cases finished
    obtain ⟨tables, asking⟩ := opened
    obtain ⟨exchanges, record, stats⟩ := asking.exchanges
    refine ⟨exchanges, record, iff_of_true (fun _ => ⟨tables, heldOpen_of_stats stats⟩) ?_⟩
    rintro ⟨_, _, _, _, asked', _⟩
    cases asked.symm.trans asked'
  | asked fd fullPath completion opened' =>
    obtain ⟨exchanges, record, failed_held, success_held⟩ := opened.record
    have refused_iff : TruncationRefused env.recording client locals dirfd path flags ↔
        completion.status = fsStatusSuccess ∧ flags.directory = false ∧ flags.trunc = true ∧
          env.recording.available opened'.server = true ∧
          (env.recording.answer (.fileTruncate completion.data 0) opened'.buffers.share
            opened'.server).completion.status ≠ fsStatusSuccess := by
      refine ⟨?_, fun refused => ⟨fd, fullPath, completion, opened', asked, refused⟩⟩
      rintro ⟨_, _, _, _, asked', refused⟩
      cases asked.symm.trans asked'
      exact refused
    rw [refused_iff]
    dsimp only at finished
    unfold finishOpen at finished
    by_cases failed : completion.status ≠ fsStatusSuccess
    · rw [if_pos failed] at finished
      cases finished
      refine ⟨exchanges, record, iff_of_true (fun _ => ?_) fun refused => failed refused.1⟩
      exact ⟨opened.deallocated cleared, failed_held failed⟩
    · rw [if_neg failed] at finished
      have success := not_not.mp failed
      have entered {truncated : FileClient (Server × List Exchange) maxFds}
          (mapped : (truncated.fds.posixFdEntry fd).map (fun entry =>
            ((fd.val : Int), truncated.enterFile entry flags fullPath completion.data)) =
              some (result, next)) : ¬ result < 0 ∧ next.server = truncated.server := by
        obtain ⟨entry, _, same⟩ := Option.map_eq_some_iff.mp mapped
        cases same
        exact ⟨Int.not_lt.mpr (Int.natCast_nonneg _), rfl⟩
      rcases truncateOpened_cases env.recording opened' flags completion with
        ⟨untried, err, same⟩ | ⟨tried, truncated, same, server⟩
      · rw [same] at finished
        rw [if_neg (fun both => failed both.2)] at finished
        obtain ⟨positive, server⟩ := entered finished
        refine ⟨exchanges, by rw [server, record], iff_of_true (fun neg => absurd neg positive) ?_⟩
        rintro ⟨_, directory, trunc, available, _⟩
        exact untried ⟨directory, trunc, available⟩
      · rw [same] at finished
        have truncatedRecord : truncated.server.2 = client.server.2 ++ (exchanges ++
            [⟨.fileTruncate completion.data 0, (env.answer (.fileTruncate completion.data 0)
              opened'.buffers.share opened'.server.1).completion⟩]) := by
          rw [server, ← append_assoc, ← record]
          rfl
        obtain ⟨directory, trunc, available⟩ := tried
        by_cases refused : (env.answer (.fileTruncate completion.data 0) opened'.buffers.share
            opened'.server.1).completion.status ≠ fsStatusSuccess
        · rw [if_pos ⟨directory, refused⟩] at finished
          cases finished
          refine ⟨_, truncatedRecord, iff_of_false (fun undone => ?_)
            (not_not.mpr ⟨success, directory, trunc, available, refused⟩)⟩
          have held := (undone (FileEnv.statusLong_neg (env.protocol _ _ _) refused)).held
          rw [heldOpen_snoc, success_held success available] at held
          exact absurd held (by rw [Exchange.heldAfter, if_neg refused]; exact cons_ne_nil _ _)
        · rw [if_neg (fun both => refused both.2)] at finished
          obtain ⟨positive, server⟩ := entered finished
          refine ⟨_, by rw [server, truncatedRecord],
            iff_of_true (fun neg => absurd neg positive) ?_⟩
          exact fun all => refused all.2.2.2.2

/-! ### A file that cannot be truncated -/

/-- The server opens every file, and truncates none. -/
def readOnlyFiles : FileEnv Unit where
  available _ := true
  answer command share _ :=
    match command with
    | .fileTruncate .. => { completion := ⟨9, 0⟩, share, server := () }
    | _ => { completion := ⟨fsStatusSuccess, 7⟩, share, server := () }
  behindErrnos _ := 0
  protocol command _ _ := by cases command <;> exact of_decide_eq_true rfl

def truncFlags : OpenFlags where
  directory := false
  wronly := false
  rdwr := false
  creat := false
  excl := false
  trunc := true
  nonblock := false

def freshClient : FileClient (Unit × List Exchange) 128 :=
  .initial (fun _ => 0) ((), [])

/-- A call that opens the file `/a` to empty it. -/
def openTruncated : Option (Int × FileClient (Unit × List Exchange) 128) :=
  freshClient.sysOpenat readOnlyFiles.recording zeroedLocals atFdcwd (some [0x2f, 0x61]) truncFlags

theorem openTruncated_eq :
    ∃ next, openTruncated = some (-1, next) ∧ heldOpen next.server.2 = [(false, 7)] := by
  have opened : openTruncated.map (fun opened => (opened.1, heldOpen opened.2.server.2)) =
      some (-1, [(false, 7)]) := by decide +kernel
  obtain ⟨⟨result, next⟩, called, same⟩ := Option.map_eq_some_iff.mp opened
  cases (Prod.mk.inj same).1
  exact ⟨next, called, (Prod.mk.inj same).2⟩

/-- The file is opened to be emptied, which the server denies. -/
theorem openTruncated_undone_iff : ∃ next exchanges, openTruncated = some (-1, next) ∧
    next.server.2 = freshClient.server.2 ++ exchanges ∧
    (((-1 : Int) < 0 → Undone freshClient next exchanges) ↔
      ¬ TruncationRefused readOnlyFiles.recording freshClient zeroedLocals atFdcwd
        (some [0x2f, 0x61]) truncFlags) := by
  obtain ⟨next, called, _⟩ := openTruncated_eq
  obtain ⟨exchanges, record, undone_iff⟩ := openat_undone_iff FdTable.freeCleared_initial called
  exact ⟨next, exchanges, called, record, undone_iff⟩

/-- The call returns an error, and the server still has the file open. -/
theorem openTruncated_left_open : ∃ next exchanges, openTruncated = some (-1, next) ∧
    next.server.2 = freshClient.server.2 ++ exchanges ∧
    ¬ ((-1 : Int) < 0 → Undone freshClient next exchanges) := by
  obtain ⟨next, called, held⟩ := openTruncated_eq
  refine ⟨next, next.server.2, called, rfl, fun undone => ?_⟩
  have none := (undone (by decide)).held
  rw [held] at none
  cases none

end LionsOS.Posix
