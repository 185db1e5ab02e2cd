/-
This file is about what the calls of `file.c` leave alone. A call that takes buffers gives
back the same ones, whatever the server answers; only opening, closing and seeking touch
the tables of descriptors, and a query asks the server for nothing but information.
-/

import LionsOS.Posix.FileCalls

open Function

namespace LionsOS.Posix

open Fs (fsStatusSuccess)

section Tables

variable {Server : Type} {maxFds : Nat} {path : List UInt8T} {Allowed : FsCommand → Prop}
  {statbuf : Bool}

/-- The tables of descriptors, and of buffers in use, are the same. -/
structure SameTables (client next : FileClient Server maxFds) : Prop where
  fds : next.fds = client.fds
  fsServerFdMap : next.fsServerFdMap = client.fsServerFdMap
  fdPath : next.fdPath = client.fdPath
  used : next.buffers.used = client.buffers.used

variable {client middle next : FileClient Server maxFds} {env : FileEnv Server} {i j : Nat}

theorem SameTables.refl (client : FileClient Server maxFds) : SameTables client client :=
  ⟨rfl, rfl, rfl, rfl⟩

theorem SameTables.trans (first : SameTables client middle) (second : SameTables middle next) :
    SameTables client next where
  fds := second.fds.trans first.fds
  fsServerFdMap := second.fsServerFdMap.trans first.fsServerFdMap
  fdPath := second.fdPath.trans first.fdPath
  used := second.used.trans first.used

theorem holding_used_self : (client.holding i).buffers.used i = true :=
  update_self _ _ _

theorem holding_used_of_ne (different : j ≠ i) :
    (client.holding i).buffers.used j = client.buffers.used j :=
  update_of_ne different _ _

theorem SameTables.freed (unused : client.buffers.used i = false)
    (same : SameTables (client.holding i) next) : SameTables client (next.freed i) := by
  refine ⟨same.fds, same.fsServerFdMap, same.fdPath, ?_⟩
  dsimp only [FileClient.freed]
  rw [same.used]
  dsimp only [FileClient.holding]
  rw [update_idem, ← unused, update_eq_self]

theorem SameTables.fsBufferFree (small : i < Fs.numBuffers)
    (same : SameTables (client.holding i) next) :
    next.fsBufferFree (i * Fs.fsBufferSize) = some (next.freed i) :=
  FileClient.fsBufferFree_of_used small ((congrFun same.used i).trans holding_used_self)

theorem SameTables.freed_first (unused : client.buffers.used i = false) (different : i ≠ j)
    (same : SameTables ((client.holding i).holding j) next) :
    SameTables (client.holding j) (next.freed i) := by
  refine ⟨same.fds, same.fsServerFdMap, same.fdPath, ?_⟩
  dsimp only [FileClient.freed]
  rw [same.used]
  dsimp only [FileClient.holding]
  rw [update_comm different, update_idem, ← unused]
  rw [← update_of_ne different true client.buffers.used, update_eq_self]

/-! ### Commands -/

/-- What the server was asked, one command after the other, and what has become of it. -/
inductive FileEnv.Asked (env : FileEnv Server) (Allowed : FsCommand → Prop) (server : Server) :
    Server → Prop
  | nothing : Asked env Allowed server server
  | command {earlier : Server} {command : FsCommand} {share : Nat → UInt8T}
      (before : Asked env Allowed server earlier) (allowed : Allowed command) :
      Asked env Allowed server (env.answer command share earlier).server

theorem FileEnv.Asked.trans {first second third : Server} (earlier : env.Asked Allowed first second)
    (later : env.Asked Allowed second third) : env.Asked Allowed first third := by
  induction later with
  | nothing => exact earlier
  | command _ allowed inductionHypothesis => exact inductionHypothesis.command allowed

theorem fsCommandBlocking_tables (env : FileEnv Server) (client : FileClient Server maxFds)
    (completion : Completion) (command : FsCommand) :
    SameTables client (client.fsCommandBlocking env completion command).client := by
  unfold FileClient.fsCommandBlocking
  split_ifs <;> exact ⟨rfl, rfl, rfl, rfl⟩

theorem fsCommandBlocking_asked (client : FileClient Server maxFds) {command : FsCommand}
    (completion : Completion) (allowed : Allowed command) :
    env.Asked Allowed client.server
      (client.fsCommandBlocking env completion command).client.server := by
  unfold FileClient.fsCommandBlocking
  split_ifs
  · exact FileEnv.Asked.nothing.command allowed
  · exact .nothing

/-! ### Information -/

def FsCommand.IsStat : FsCommand → Prop
  | .stat .. => True
  | _ => False

/-- The query of `fstat_int`, with two buffers taken. -/
def FileClient.askStat (env : FileEnv Server) (client : FileClient Server maxFds)
    (completion : Completion) (path : List UInt8T) (i j : Nat) : FileClient.Issued Server maxFds :=
  (((client.holding i).holding j).fillPath (i * Fs.fsBufferSize) path).fsCommandBlocking env
    completion (.stat (bufferAt (i * Fs.fsBufferSize) path.length)
      (bufferAt (j * Fs.fsBufferSize) Fs.fsBufferSize))

open FileClient

/-- The two buffers that `fstat_int` takes are those that are free first. -/
structure TwoBuffers (client : FileClient Server maxFds) (i j : Nat) : Prop where
  first : client.fsBufferAllocate = some (i * Fs.fsBufferSize, client.holding i)
  second : (client.holding i).fsBufferAllocate =
    some (j * Fs.fsBufferSize, (client.holding i).holding j)
  firstSmall : i < Fs.numBuffers
  secondSmall : j < Fs.numBuffers
  firstUnused : client.buffers.used i = false
  secondUnused : client.buffers.used j = false
  different : i ≠ j

theorem askStat_tables (env : FileEnv Server) (client : FileClient Server maxFds) (i j : Nat)
    (completion : Completion) (path : List UInt8T) :
    SameTables ((client.holding i).holding j) (client.askStat env completion path i j).client := by
  have filled : SameTables ((client.holding i).holding j)
      (((client.holding i).holding j).fillPath (i * Fs.fsBufferSize) path) :=
    ⟨rfl, rfl, rfl, rfl⟩
  exact filled.trans (fsCommandBlocking_tables _ _ _ _)

theorem TwoBuffers.freed (two : TwoBuffers client i j) (env : FileEnv Server) (completion : Completion)
    (path : List UInt8T) :
    SameTables client (((client.askStat env completion path i j).client.freed i).freed j) :=
  ((askStat_tables env client i j completion path).freed_first two.firstUnused two.different).freed
    two.secondUnused

/-- What `fstat_int` comes to, with two buffers that are free. -/
theorem TwoBuffers.fstatInt (two : TwoBuffers client i j) (completion : Completion)
    (notRoot : path ≠ rootPath) (statbuf : Stat) :
    client.fstatInt env completion path statbuf =
      let issued := client.askStat env completion path i j
      if issued.completion.status ≠ fsStatusSuccess then
        some (env.statusInt issued.completion.status, statbuf, (issued.client.freed i).freed j)
      else
        some (0, Stat.read (issued.client.freed i).buffers.share (j * Fs.fsBufferSize),
          (issued.client.freed i).freed j) := by
  have tables := askStat_tables env client i j completion path
  unfold FileClient.fstatInt
  rw [if_neg notRoot, two.first]
  dsimp only
  rw [two.second]
  dsimp only
  rw [← FileClient.askStat]
  have held : (client.askStat env completion path i j).client.buffers.used i = true := by
    rw [tables.used, holding_used_of_ne two.different]
    exact holding_used_self
  rw [FileClient.fsBufferFree_of_used two.firstSmall held, Option.bind_some,
    (tables.freed_first two.firstUnused two.different).fsBufferFree two.secondSmall]
  rfl

/-- One buffer is free only. -/
structure OneBuffer (client : FileClient Server maxFds) (i : Nat) : Prop where
  first : client.fsBufferAllocate = some (i * Fs.fsBufferSize, client.holding i)
  second : (client.holding i).fsBufferAllocate = none
  small : i < Fs.numBuffers
  unused : client.buffers.used i = false

/-- What `fstat_int` comes to, with one buffer that is free. -/
theorem OneBuffer.fstatInt (one : OneBuffer client i) (env : FileEnv Server)
    (completion : Completion) (notRoot : path ≠ rootPath) (statbuf : Stat) :
    client.fstatInt env completion path statbuf =
      some (FileErrno.enomem.result, statbuf, (client.holding i).freed i) := by
  unfold FileClient.fstatInt
  rw [if_neg notRoot, one.first]
  dsimp only
  rw [one.second]
  rw [(SameTables.refl (client.holding i)).fsBufferFree one.small]
  rfl

/-- What `fstat_int` comes to when no buffer is free. -/
theorem fstatInt_of_none (none : client.fsBufferAllocate = none) (env : FileEnv Server)
    (completion : Completion) (notRoot : path ≠ rootPath) (statbuf : Stat) :
    client.fstatInt env completion path statbuf =
      some (FileErrno.enomem.result, statbuf, client) := by
  unfold fstatInt
  rw [if_neg notRoot, none]

/-- Two buffers are free for `fstat_int`, or fewer. -/
theorem buffers_cases (client : FileClient Server maxFds) :
    (∃ i j, TwoBuffers client i j) ∨ (∃ i, OneBuffer client i) ∨ client.fsBufferAllocate = none := by
  cases first : client.fsBufferAllocate with
  | none => exact .inr (.inr rfl)
  | some taken =>
    obtain ⟨buffer, held⟩ := taken
    obtain ⟨i, small, unused, rfl, rfl⟩ := fsBufferAllocate_eq_some first
    cases second : (client.holding i).fsBufferAllocate with
    | none => exact .inr (.inl ⟨i, first, second, small, unused⟩)
    | some taken =>
      obtain ⟨buffer, held⟩ := taken
      obtain ⟨j, small', unused', rfl, rfl⟩ := fsBufferAllocate_eq_some second
      have different : i ≠ j := by
        rintro rfl
        rw [holding_used_self] at unused'
        cases unused'
      rw [holding_used_of_ne different.symm] at unused'
      exact .inl ⟨i, j, first, second, small, small', unused, unused', different⟩

/-- A call for information leaves the tables alone. -/
theorem fstatInt_tables (env : FileEnv Server) (client : FileClient Server maxFds)
    (completion : Completion) (path : List UInt8T) (statbuf : Stat) :
    ∃ result stat next, client.fstatInt env completion path statbuf = some (result, stat, next) ∧
      SameTables client next ∧ env.Asked FsCommand.IsStat client.server next.server := by
  by_cases root : path = rootPath
  · refine ⟨0, .root, client, ?_, .refl _, .nothing⟩
    unfold fstatInt
    rw [if_pos root]
  rcases buffers_cases client with ⟨i, j, two⟩ | ⟨i, one⟩ | none
  · have asked : env.Asked FsCommand.IsStat client.server
        (client.askStat env completion path i j).client.server := by
      exact fsCommandBlocking_asked (((client.holding i).holding j).fillPath _ path) _ trivial
    rw [two.fstatInt completion root statbuf]
    dsimp only
    split_ifs
    · exact ⟨_, _, _, rfl, two.freed env completion path, asked⟩
    · exact ⟨_, _, _, rfl, two.freed env completion path, asked⟩
  · exact ⟨_, _, _, one.fstatInt env completion root statbuf,
      (SameTables.refl (client.holding i)).freed one.unused, .nothing⟩
  · exact ⟨_, _, _, fstatInt_of_none none env completion root statbuf, .refl _, .nothing⟩

theorem fstatTo_tables (env : FileEnv Server) (client : FileClient Server maxFds) (locals : Locals)
    (path : List UInt8T) :
    ∃ result next, client.fstatTo env locals path = some (result, next) ∧
      SameTables client next ∧ env.Asked FsCommand.IsStat client.server next.server := by
  obtain ⟨result, stat, next, looked, tables, asked⟩ :=
    fstatInt_tables env client (locals.fstatInt 0) path client.statbuf
  unfold fstatTo
  rw [looked]
  exact ⟨result, { next with statbuf := stat }, rfl, tables.trans ⟨rfl, rfl, rfl, rfl⟩, asked⟩

section Walk

variable (env client) (completions : Nat → Completion) (statbuf : Stat) {parentPath : List UInt8T}

theorem parentsRefuse_of_none (noSlash : lastSlash parentPath = none) :
    parentsRefuse env completions statbuf parentPath client = some (false, client) := by
  rw [parentsRefuse]
  split
  · rfl
  · rfl
  · rename_i found
    cases noSlash.symm.trans found

theorem parentsRefuse_of_root (first : lastSlash parentPath = some 0) :
    parentsRefuse env completions statbuf parentPath client = some (false, client) := by
  rw [parentsRefuse]
  split
  · rfl
  · rfl
  · rename_i found
    cases first.symm.trans found

/-- A parent is looked at, and the one before it where that is not there. -/
theorem parentsRefuse_of_slash {before : Nat} (slash : lastSlash parentPath = some (before + 1)) :
    parentsRefuse env completions statbuf parentPath client =
      (client.fstatInt env (completions 0) (parentPath.take (before + 1)) statbuf).bind
        fun (result, stat, next) =>
          if result = 0 then some (!stat.isDir, next)
          else
            parentsRefuse env (fun later => completions (later + 1)) stat
              (parentPath.take (before + 1)) next := by
  rw [parentsRefuse]
  split
  · rename_i found
    cases slash.symm.trans found
  · rename_i found
    cases slash.symm.trans found
  · rename_i found
    cases slash.symm.trans found
    rfl

end Walk

/-- A walk over the parents of a path: there is none, the next is the root, or one is cut off. -/
theorem walk_cases {Holds : List UInt8T → Prop} (none : ∀ path, lastSlash path = none → Holds path)
    (root : ∀ path, lastSlash path = some 0 → Holds path)
    (slash : ∀ path before, lastSlash path = some (before + 1) →
      Holds (path.take (before + 1)) → Holds path) (path : List UInt8T) : Holds path := by
  induction length : path.length using Nat.strong_induction_on generalizing path with
  | _ length inductionHypothesis =>
    cases found : lastSlash path with
    | none => exact none path found
    | some last =>
      cases last with
      | zero => exact root path found
      | succ before =>
        exact slash path before found
          (inductionHypothesis _ (length ▸ length_parent_lt found) _ rfl)

section

variable (env : FileEnv Server) (client : FileClient Server maxFds)

/-- The walk to the nearest parent leaves the tables alone. -/
theorem parentsRefuse_tables (completions : Nat → Completion) (statbuf : Stat)
    (parentPath : List UInt8T) :
    ∃ refuse next, parentsRefuse env completions statbuf parentPath client = some (refuse, next) ∧
      SameTables client next ∧ env.Asked FsCommand.IsStat client.server next.server := by
  induction parentPath using walk_cases generalizing completions statbuf client with
  | none path noSlash =>
    exact ⟨false, client, parentsRefuse_of_none client env completions statbuf noSlash, .refl _,
      .nothing⟩
  | root path first =>
    exact ⟨false, client, parentsRefuse_of_root client env completions statbuf first, .refl _,
      .nothing⟩
  | slash path before found inductionHypothesis =>
    obtain ⟨result, stat, looked, looking, tables, asked⟩ := fstatInt_tables env client
      (completions 0) (path.take (before + 1)) statbuf
    rw [parentsRefuse_of_slash client env completions statbuf found, looking, Option.bind_some]
    dsimp only
    split_ifs
    · exact ⟨_, looked, rfl, tables, asked⟩
    · obtain ⟨refuse, next, walked, later, askedLater⟩ :=
        inductionHypothesis looked (fun later => completions (later + 1)) stat
      exact ⟨refuse, next, walked, tables.trans later, asked.trans askedLater⟩

theorem checkUnlink_tables (locals : Locals) (fullPath : List UInt8T) :
    ∃ refused next, client.checkUnlink env locals fullPath = some (refused, next) ∧
      SameTables client next ∧ env.Asked FsCommand.IsStat client.server next.server := by
  obtain ⟨result, stat, looked, looking, tables, asked⟩ :=
    fstatInt_tables env client (locals.fstatInt 0) fullPath (locals.statbuf 0)
  unfold checkUnlink
  rw [looking, Option.bind_some]
  dsimp only
  split_ifs
  · exact ⟨_, looked, rfl, tables, asked⟩
  · obtain ⟨refuse, next, walked, later, askedLater⟩ := parentsRefuse_tables env looked
      (fun later => locals.fstatInt (later + 1)) stat fullPath
    rw [walked]
    exact ⟨_, next, rfl, tables.trans later, asked.trans askedLater⟩
  · exact ⟨_, looked, rfl, tables, asked⟩

theorem pathCommand_tables (locals : Locals) (fullPath : List UInt8T)
    (command : Fs.FsBuffer → FsCommand) :
    ∃ result next, client.pathCommand env locals fullPath command = some (result, next) ∧
      SameTables client next := by
  unfold pathCommand
  split_ifs
  · exact ⟨_, client, rfl, .refl _⟩
  · cases taken : client.fsBufferAllocate with
    | none => exact ⟨_, client, rfl, .refl _⟩
    | some held =>
      obtain ⟨buffer, held⟩ := held
      obtain ⟨i, small, unused, rfl, rfl⟩ := fsBufferAllocate_eq_some taken
      have filled : SameTables (client.holding i)
          ((client.holding i).fillPath (i * Fs.fsBufferSize) fullPath) :=
        ⟨rfl, rfl, rfl, rfl⟩
      have tables := filled.trans (fsCommandBlocking_tables env _ locals.completion
        (command (bufferAt (i * Fs.fsBufferSize) fullPath.length)))
      dsimp only
      rw [tables.fsBufferFree small]
      split_ifs
      · exact ⟨_, _, rfl, tables.freed unused⟩
      · exact ⟨_, _, rfl, tables.freed unused⟩

end

/-! ### Calls that leave the tables alone -/

section Calls

variable {locals : Locals} {dirfd fd result : Int} {path : Option (List UInt8T)}

theorem sysFstat_tables (called : client.sysFstat env locals fd statbuf = some (result, next)) :
    SameTables client next := by
  unfold sysFstat at called
  split_ifs at called
  · cases called
    exact .refl _
  · cases called
    exact ⟨rfl, rfl, rfl, rfl⟩
  · cases called
    exact ⟨rfl, rfl, rfl, rfl⟩
  · split at called
    · cases called
      exact .refl _
    · rename_i entry _
      split_ifs at called
      obtain ⟨_, _, looked, tables, _⟩ := fstatTo_tables env client locals (client.fdPath entry)
      cases looked.symm.trans called
      exact tables

theorem sysFstatat_tables
    (called : client.sysFstatat env locals dirfd path statbuf = some (result, next)) :
    SameTables client next := by
  unfold sysFstatat at called
  split_ifs at called
  · cases called
    exact .refl _
  · split at called
    · cases called
      exact .refl _
    · rename_i fullPath _
      split_ifs at called
      · cases called
        exact ⟨rfl, rfl, rfl, rfl⟩
      · cases called
        exact ⟨rfl, rfl, rfl, rfl⟩
      · obtain ⟨_, _, looked, tables, _⟩ := fstatTo_tables env client locals fullPath
        cases looked.symm.trans called
        exact tables

theorem sysMkdirat_tables (called : client.sysMkdirat env locals dirfd path = some (result, next)) :
    SameTables client next := by
  unfold sysMkdirat at called
  split at called
  · cases called
    exact .refl _
  · rename_i fullPath _
    obtain ⟨_, _, made, tables⟩ := pathCommand_tables env client locals fullPath .dirCreate
    cases made.symm.trans called
    exact tables

theorem sysUnlinkat_tables {removedir : Bool}
    (called : client.sysUnlinkat env locals dirfd path removedir = some (result, next)) :
    SameTables client next := by
  unfold sysUnlinkat at called
  split at called
  · cases called
    exact .refl _
  · rename_i fullPath _
    split_ifs at called
    · cases called
      exact .refl _
    · obtain ⟨_, _, removed, tables⟩ := pathCommand_tables env client locals fullPath .dirRemove
      cases removed.symm.trans called
      exact tables
    · obtain ⟨refused, checked, checking, tables, _⟩ :=
        checkUnlink_tables env client locals fullPath
      rw [checking] at called
      cases refused with
      | some error =>
        cases called
        exact tables
      | none =>
        obtain ⟨_, _, removed, later⟩ := pathCommand_tables env checked locals fullPath .fileRemove
        cases removed.symm.trans called
        exact tables.trans later

end Calls

theorem truncateOpened_tables (env : FileEnv Server) (client : FileClient Server maxFds)
    (flags : OpenFlags) (completion : Completion) :
    SameTables client (client.truncateOpened env flags completion).client := by
  unfold truncateOpened
  split_ifs
  · exact fsCommandBlocking_tables env client _ _
  · exact .refl _

/-! ### Transfers -/

/-- The client that a transfer leaves. -/
def Transfer.after : Transfer Server maxFds → FileClient Server maxFds
  | .failed _ next => next
  | .moved _ next => next

section

variable (env : FileEnv Server) (client : FileClient Server maxFds) (fd : Fin maxFds) (buffer : Nat)
  (completion : Completion)

theorem writeChunk_tables (written : UInt64T) (buf toWrite : Nat) :
    SameTables client (client.writeChunk env fd buffer completion written buf toWrite).after := by
  have filled : SameTables client (client.fillBuffer buffer toWrite client.memory buf) :=
    ⟨rfl, rfl, rfl, rfl⟩
  have tables := filled.trans (fsCommandBlocking_tables env _ completion
    (.fileWrite (client.serverFd fd) (client.filePtr fd + written) (bufferAt buffer toWrite)))
  unfold writeChunk
  dsimp only
  split_ifs <;> exact tables

theorem readChunk_tables (totalRead : UInt64T) (buf toRead : Nat) :
    SameTables client (client.readChunk env fd buffer completion totalRead buf toRead).after := by
  have tables := fsCommandBlocking_tables env client completion
    (.fileRead (client.serverFd fd) (client.filePtr fd + totalRead) (bufferAt buffer toRead))
  unfold readChunk
  dsimp only
  split_ifs
  · exact tables
  · exact tables
  · exact tables.trans ⟨rfl, rfl, rfl, rfl⟩

end

/-- What holds of nothing and of every round, and of rounds one after the other, holds of the loop,
if it does not depend on what was moved in total. -/
theorem chunkLoop_rule {chunk : FileClient Server maxFds → Completion → UInt64T → Nat → Nat →
      Transfer Server maxFds} {Holds : FileClient Server maxFds → Transfer Server maxFds → Prop}
    (nothing : ∀ client total, Holds client (.moved total client))
    (round : ∀ client completion total buf size,
      Holds client (chunk client completion total buf size))
    (anyTotal : ∀ {client next count} total, Holds client (.moved count next) →
      Holds client (.moved total next))
    (andThen : ∀ {client next count transfer}, Holds client (.moved count next) →
      Holds next transfer → Holds client transfer)
    (client : FileClient Server maxFds) (rounds : Nat → Completion) (total : UInt64T)
    (buf len : Nat) : Holds client (chunkLoop chunk rounds total buf len client) := by
  induction len using Nat.strong_induction_on generalizing client rounds total buf with
  | _ len inductionHypothesis =>
    rw [chunkLoop]
    split_ifs with none
    · exact nothing client total
    · have first := round client (rounds 0) total buf (min len Fs.fsBufferSize)
      dsimp only
      cases moved : chunk client (rounds 0) total buf (min len Fs.fsBufferSize) with
      | failed result next =>
        rw [moved] at first
        exact first
      | moved count next =>
        rw [moved] at first
        dsimp only
        split_ifs
        · exact anyTotal _ first
        · have less : len - min len Fs.fsBufferSize < len := by
            unfold Fs.fsBufferSize
            omega
          exact andThen first (inductionHypothesis _ less _ _ _ _)

/-- The loop leaves the tables alone if its rounds do. -/
theorem chunkLoop_tables {chunk : FileClient Server maxFds → Completion → UInt64T → Nat → Nat →
      Transfer Server maxFds}
    (round : ∀ client completion total buf size,
      SameTables client (chunk client completion total buf size).after)
    (client : FileClient Server maxFds) (rounds : Nat → Completion) (total : UInt64T)
    (buf len : Nat) :
    SameTables client (chunkLoop chunk rounds total buf len client).after :=
  @chunkLoop_rule Server maxFds chunk (fun client transfer => SameTables client transfer.after)
    (fun client _ => .refl client) round (fun _ same => same) (fun first rest => first.trans rest)
    client rounds total buf len

/-- A transfer changes one entry of the tables at most, which is active. -/
theorem fileTransfer_fds {chunk : FileClient Server maxFds → Fin maxFds → Nat → Completion →
      UInt64T → Nat → Nat → Transfer Server maxFds}
    (round : ∀ client fd buffer completion total buf size,
      SameTables client (chunk client fd buffer completion total buf size).after)
    {rounds : Nat → Completion} {buf len : Nat} {fd result : Int}
    (called : client.fileTransfer chunk rounds buf len fd = some (result, next)) :
    next.fds = client.fds ∨ ∃ entry position, client.fds.fdActive entry = true ∧
      next.fds = client.fds.setEntry entry
        { client.fds.fdTable entry with filePtr := position } := by
  unfold fileTransfer at called
  split_ifs at called
  · cases called
    exact .inl rfl
  · cases called
    exact .inl rfl
  · split at called
    · cases called
      exact .inl rfl
    · rename_i entry found
      split at called
      · cases called
        exact .inl rfl
      · rename_i buffer held taken
        obtain ⟨i, small, unused, rfl, rfl⟩ := fsBufferAllocate_eq_some taken
        have tables := chunkLoop_tables (fun client => round client entry (i * Fs.fsBufferSize))
          (client.holding i) rounds 0 buf len
        split at called
        · rename_i result' ended looped
          rw [looped, Transfer.after] at tables
          rw [tables.fsBufferFree small] at called
          cases called
          exact .inl tables.fds
        · rename_i total ended looped
          rw [looped, Transfer.after] at tables
          rw [tables.fsBufferFree small] at called
          cases called
          refine .inr ⟨entry, (ended.filePtr entry + total).toNat,
            (FdTable.posixFdEntry_eq_some found).2, ?_⟩
          have same : ended.fds = client.fds := tables.fds
          rw [← same]
          rfl

end Tables

end LionsOS.Posix
