/-
This file compares how the FAT server and the NFS server list a directory. A client
reads the entries of a directory one after the other, until a completion tells it
that there are no more. On the NFS server the status of that completion is that of
the end of a directory; on the FAT server it is the status of any error.
-/

import LionsOS.Fat.DirectoryPositions
import LionsOS.Nfs.Server

open Function

namespace LionsOS.Fs

variable {names : List (List UInt8T)} {fd handle : UInt64T} {params : CmdParams} {buf : FsBuffer}

/-! ### Descriptors in use -/

/-- Operations of a kind can be begun through a descriptor, and act on a handle. -/
def RefersTo (kind : OfKind) (table : OfTable) (fd handle : UInt64T) : Prop :=
  (table (slotOf fd)).generation ≤ fdGeneration fd ∧
    ∃ next, (table (slotOf fd)).ofBeginOp kind = some (handle, next)

section Descriptors

variable {kind : OfKind} {table begun : OfTable}

theorem RefersTo.congr (refers : RefersTo kind table fd handle)
    (same : begun (slotOf fd) = table (slotOf fd)) : RefersTo kind begun fd handle := by
  rw [RefersTo, same]
  exact refers

theorem RefersTo.beginOp (refers : RefersTo kind table fd handle) :
    ∃ begun, fdBeginOp kind table fd = some (handle, begun) := by
  obtain ⟨notPassed, next, begins⟩ := refers
  rw [fdBeginOp, fdToOf_eq, if_neg (BitVec.not_lt.mpr notPassed), Option.bind_some, begins]
  exact ⟨_, rfl⟩

theorem ofEndOp_of_ofBeginOp {slot next : OftableSlot}
    (begins : slot.ofBeginOp kind = some (handle, next)) :
    ∃ ended, next.ofEndOp = some ended ∧ ended.generation = slot.generation ∧
      ∃ again, ended.ofBeginOp kind = some (handle, again) := by
  obtain ⟨rfl, sameHandle, sameGeneration, busy, _⟩ := FdUse.ofBeginOp_cases begins
  unfold OftableSlot.ofEndOp
  rw [busy]
  refine ⟨_, rfl, sameGeneration, ?_⟩
  by_cases last : next.busyCount - 1 = 0
  · simp only [OftableSlot.ofBeginOp, last, if_true, sameHandle]
    exact ⟨_, rfl⟩
  · simp only [OftableSlot.ofBeginOp, last, if_false, sameHandle]
    exact ⟨_, rfl⟩

theorem RefersTo.endOp {others : OfTable} (begins : fdBeginOp kind table fd = some (handle, begun))
    (same : others (slotOf fd) = begun (slotOf fd)) :
    ∃ ended, fdEndOp others fd = some ended ∧ RefersTo kind ended fd handle := by
  obtain ⟨notPassed, next, beginsSlot, rfl⟩ := fdBeginOp_eq_some begins
  rw [update_self] at same
  obtain ⟨ended, ends, sameGeneration, again⟩ := ofEndOp_of_ofBeginOp beginsSlot
  have current : (others (slotOf fd)).generation ≤ fdGeneration fd := by
    rw [same, (FdUse.ofBeginOp_cases beginsSlot).2.2.1]
    exact notPassed
  refine ⟨update others (slotOf fd) ended, ?_, ?_, ?_⟩
  · rw [fdEndOp, onSlot, fdToOf_eq, if_neg (BitVec.not_lt.mpr current), Option.bind_some, same,
      ends]
    rfl
  · rw [update_self, sameGeneration]
    exact notPassed
  · rw [update_self]
    exact again

end Descriptors

/-! ### What a client gets -/

/-- What a client gets of a DIR_READ: the status, and as many bytes of its buffer as the completion
says. -/
structure EntryRead where
  status : UInt64T
  pathLen : UInt64T
  name : List UInt8T

variable {reads entries : List (Option EntryRead)} {read : Option EntryRead}

/-- An entry of this name has been read, or there was no more. -/
def EntryRead.Reports (read : EntryRead) : Option (List UInt8T) → Prop
  | some name => read.status = fsStatusSuccess ∧ read.pathLen = BitVec.ofNat 64 name.length ∧
      read.name = name
  | none => read.status = fsStatusEndOfDirectory

/-- So many reads have listed a directory of these names: each has completed, the first ones with an
entry each and the others with its end. -/
def ListedAs (names : List (List UInt8T)) (reads : List (Option EntryRead)) : Prop :=
  ∀ (index : Nat) (read : Option EntryRead), reads[index]? = some read →
    ∃ completed : EntryRead, read = some completed ∧ completed.Reports names[index]?

/-- What is read of an entry, where there is one and else with a status for the end. -/
def entryRead (atEnd : UInt64T) : Option (List UInt8T) → EntryRead
  | some name => { status := fsStatusSuccess, pathLen := BitVec.ofNat 64 name.length, name }
  | none => { status := atEnd, pathLen := 0, name := [] }

/-- A buffer of the share that is large enough for a name. -/
def TakesName (clientShareSize : UInt64T) (buf : FsBuffer) : Prop :=
  fsGetClientBuffer clientShareSize buf = some buf.offset ∧ fsMaxNameLength ≤ buf.size.toNat

theorem listedAs_of_entryRead
    (read : ∀ (index : Nat) read, reads[index]? = some read →
      read = some (entryRead fsStatusEndOfDirectory names[index]?)) : ListedAs names reads := by
  intro index found here
  refine ⟨_, read index found here, ?_⟩
  cases names[index]? with
  | some name => exact ⟨rfl, rfl, rfl⟩
  | none => rfl

theorem listedAs_iff_of_entryRead {atEnd : UInt64T} (other : atEnd ≠ fsStatusEndOfDirectory)
    (read : ∀ (index : Nat) read, reads[index]? = some read →
      read = some (entryRead atEnd names[index]?)) :
    ListedAs names reads ↔ reads.length ≤ names.length := by
  constructor
  · intro listed
    by_contra more
    have inside := Nat.lt_of_not_le more
    obtain ⟨completed, same, reports⟩ := listed _ _ (List.getElem?_eq_getElem inside)
    have ends := read _ _ (List.getElem?_eq_getElem inside)
    rw [same, List.getElem?_eq_none_iff.mpr (Nat.le_refl _)] at ends
    rw [List.getElem?_eq_none_iff.mpr (Nat.le_refl _), Option.some.inj ends] at reports
    exact other reports
  · intro few index found here
    obtain ⟨inside, _⟩ := List.getElem?_eq_some_iff.mp here
    refine ⟨_, read index found here, ?_⟩
    rw [List.getElem?_eq_getElem (Nat.lt_of_lt_of_le inside few)]
    exact ⟨rfl, rfl, rfl⟩

/-! ### The FAT server -/

section Fat

open Fat GappedTable

variable {fatfs : FatFs} {directories : Directories fatfs}

variable {after files : FatFiles fatfs} {dir : Fin maxOpenFiles}

/-- What a handler that has finished completes with, where the result that it may not have stored
was left over. -/
def fatEntryRead (segment : Segment fatfs) (buf : FsBuffer) (left : UInt64T) : Option EntryRead :=
  segment.completion.map fun (status, result) =>
    { status
      pathLen := result.getD left
      name := bytesAt segment.files.share ⟨buf.offset.toNat, (result.getD left).toNat⟩ }

/-- Others leave a descriptor and the directory that it refers to as they are. -/
structure Spared (directories : Directories fatfs) (fd : UInt64T) (dir : Fin maxOpenFiles)
    (files after : FatFiles fatfs) : Prop where
  slot : after.table (slotOf fd) = files.table (slotOf fd)
  table : directories.table after.volume dir = directories.table files.volume dir
  cursor : directories.cursor after.volume dir = directories.cursor files.volume dir

/-- A client reads entries through a descriptor one after the other, and no call of FatFs fails. -/
inductive FatReads (directories : Directories fatfs) (fd : UInt64T) (dir : Fin maxOpenFiles) :
    FatFiles fatfs → List (Option EntryRead) → FatFiles fatfs → Prop
  | nil (files : FatFiles fatfs) : FatReads directories fd dir files [] files
  | cons {files before after : FatFiles fatfs} {params : CmdParams} {answers : List Answer}
      {last : Segment fatfs} {left : UInt64T} {later : List (Option EntryRead)}
      (others : Spared directories fd dir files before) (through : paramWord params 0 = fd)
      (takes : TakesName fatFsDataRegionSize (paramBuffer params 1))
      (handles : Handles (Spared directories fd dir) (operationFunctions .dirRead params before)
        answers last)
      (ended : ∀ call stage, last.progress ≠ .inCall call stage)
      (succeed : ∀ answer ∈ answers, answer.reply.result = .ok)
      (rest : FatReads directories fd dir last.files later after) :
      FatReads directories fd dir files (fatEntryRead last (paramBuffer params 1) left :: later)
        after

/-- A directory is open, at a cursor of which these entries are still to be read. -/
structure OpenAt (directories : Directories fatfs) (files : FatFiles fatfs) (fd : UInt64T)
    (dir : Fin maxOpenFiles) (names : List (List UInt8T)) : Prop where
  refers : ∃ handle, objectOf handle = dir ∧ RefersTo .dir files.table fd handle
  cursor : ∃ here, directories.cursor files.volume dir = some here ∧
    here.unread (directories.table files.volume dir) = names

theorem OpenAt.congr (openAt : OpenAt directories files fd dir names)
    (spared : Spared directories fd dir files after) : OpenAt directories after fd dir names := by
  obtain ⟨⟨handle, same, refers⟩, here, known, unread⟩ := openAt
  refine ⟨⟨handle, same, refers.congr spared.slot⟩, here, ?_, ?_⟩
  · rw [spared.cursor]
    exact known
  · rw [spared.table]
    exact unread

/-- What a segment in which DIR_READ finishes comes to. -/
theorem fatEntryRead_finish {table : OfTable} {name : List UInt8T} {status left : UInt64T}
    {accesses : List Bytes.Range} (short : name.length ≤ fsMaxNameLength) :
    fatEntryRead
      { finish { files.writeShare buf.offset.toNat name with table } status
          (some (BitVec.ofNat 64 name.length)) with accesses } buf left =
      some { status, pathLen := BitVec.ofNat 64 name.length, name } := by
  have few : name.length < 2 ^ 64 := Nat.lt_of_le_of_lt short (by decide)
  have length : (BitVec.ofNat 64 name.length).toNat = name.length := by
    rw [BitVec.toNat_ofNat, Nat.mod_eq_of_lt few]
  simp only [fatEntryRead, Segment.completion, finish, FatFiles.writeShare, Option.map_some,
    Option.getD_some, length, bytesAt_copy]

/-- What DIR_READ does with the name that FatFs has found, which is empty at the end. -/
theorem fat_readingDir {begun table : OfTable} {reply : FatFsReply}
    (begins : fdBeginOp .dir table fd = some (handle, begun))
    (same : files.table (slotOf fd) = begun (slotOf fd)) (succeeded : reply.result = .ok)
    (fits : reply.info.fname.length ≤ buf.size.toNat) :
    ∃ ended, RefersTo .dir ended fd handle ∧
      resume files reply (.readingDir fd buf.offset buf.size) =
        { finish { files.writeShare buf.offset.toNat reply.info.fname with table := ended }
            (if reply.info.fname = [] then fsStatusError else fsStatusSuccess)
            (some (BitVec.ofNat 64 reply.info.fname.length)) with
          accesses := [⟨buf.offset.toNat, reply.info.fname.length⟩] } := by
  obtain ⟨ended, ends, refers⟩ := RefersTo.endOp begins same
  have done : fdEndOp (files.writeShare buf.offset.toNat reply.info.fname).table fd = some ended :=
    ends
  refine ⟨ended, refers, ?_⟩
  simp only [resume, Fat.endOp, done]
  exact if_pos ⟨succeeded, fits⟩

/-- DIR_READ reads the next entry, or finds that there is none. -/
theorem fat_dirRead {left : UInt64T} {answers : List Answer} {last : Segment fatfs}
    (openAt : OpenAt directories files fd dir names) (through : paramWord params 0 = fd)
    (takes : TakesName fatFsDataRegionSize (paramBuffer params 1))
    (named : ∀ name ∈ names, name ≠ [] ∧ name.length ≤ fsMaxNameLength)
    (handles : Handles (Spared directories fd dir) (operationFunctions .dirRead params files)
      answers last) (ended : ∀ call stage, last.progress ≠ .inCall call stage)
    (succeed : ∀ answer ∈ answers, answer.reply.result = .ok) :
    fatEntryRead last (paramBuffer params 1) left = some (entryRead fsStatusError names.head?) ∧
      OpenAt directories last.files fd dir names.tail := by
  obtain ⟨⟨handle, rfl, refers⟩, here, known, unread⟩ := openAt
  obtain ⟨begun, begins⟩ := refers.beginOp
  simp only [operationFunctions, handleDirRead, through, takes.1, Fat.withOp, begins] at handles
  cases handles with
  | stays => exact absurd rfl (ended _ _)
  | @calls _ _ _ _ reply before after volume share _ waits others acts othersAgain rest =>
    cases waits
    have succeeded := succeed _ List.mem_cons_self
    obtain ⟨name, next⟩ := directories.reads acts succeeded (others.cursor.trans known)
    have found : reply.info.fname = names.head?.getD [] := by
      rw [name, others.table, next_fst]
      exact congrArg (fun names => (List.head? names).getD []) unread
    have short : reply.info.fname.length ≤ fsMaxNameLength := by
      rw [found]
      cases names with
      | nil => exact Nat.zero_le _
      | cons first others => exact (named first List.mem_cons_self).2
    obtain ⟨table, refers, resumed⟩ := fat_readingDir begins
      (othersAgain.slot.trans others.slot) succeeded (short.trans takes.2)
    rw [resumed] at rest
    obtain ⟨_, rfl⟩ := rest.of_finished rfl
    refine ⟨?_, ⟨handle, rfl, refers⟩, _, othersAgain.cursor.trans next, ?_⟩
    · rw [fatEntryRead_finish short, found]
      cases names with
      | nil => rfl
      | cons first others =>
        rw [List.head?_cons, Option.getD_some, if_neg (named first List.mem_cons_self).1]
        rfl
    · have sameTable : directories.table after.volume (objectOf handle) =
          directories.table files.volume (objectOf handle) :=
        othersAgain.table.trans ((congrFun (directories.keeps acts).1 _).trans others.table)
      have left := unread_next (directories.table files.volume (objectOf handle)) here
      rw [unread] at left
      rw [others.table]
      exact (congrArg (fun table => Cursor.unread table _) sameTable).trans left

/-- A client that goes on to read gets the entries in order, and errors after the last one. -/
theorem fat_reads (reads : FatReads directories fd dir files entries after)
    (openAt : OpenAt directories files fd dir names)
    (named : ∀ name ∈ names, name ≠ [] ∧ name.length ≤ fsMaxNameLength) (index : Nat)
    (found : entries[index]? = some read) :
    read = some (entryRead fsStatusError names[index]?) := by
  induction reads generalizing names index with
  | nil => cases found
  | cons others through takes handles ended succeed _ inductionHypothesis =>
    obtain ⟨first, later⟩ :=
      fat_dirRead (openAt.congr others) through takes named handles ended succeed
    cases index with
    | zero =>
      rw [← List.head?_eq_getElem?, ← first]
      exact (Option.some.inj found).symm
    | succ index =>
      rw [← List.getElem?_tail]
      exact inductionHypothesis later (fun name member => named name (List.mem_of_mem_tail member))
        index found

end Fat

/-! ### The NFS server -/

section Nfs

open Nfs

/-- What a handler that has replied completes with. -/
def nfsEntryRead (outcome : Outcome) (buf : FsBuffer) : Option EntryRead :=
  match outcome.progress with
  | .replied cmpl => some
    { status := cmpl.status
      pathLen := cmpl.data
      name := bytesAt outcome.server.share ⟨buf.offset.toNat, cmpl.data.toNat⟩ }
  | _ => none

/-- A client reads entries through a descriptor one after the other, and libnfs finds these names in
turn. A command is taken only while there is room for its completion. -/
inductive NfsReads (fd : UInt64T) :
    List (List UInt8T) → NfsServer → List (Option EntryRead) → NfsServer → Prop
  | nil (names : List (List UInt8T)) (server : NfsServer) : NfsReads fd names server [] server
  | cons {names : List (List UInt8T)} {server before after : NfsServer} {answer : NfsAnswer}
      {id : UInt64T} {params : CmdParams} {later : List (Option EntryRead)}
      (others : before.table (slotOf fd) = server.table (slotOf fd))
      (room : (fsQueueLengthProducer before.fsCompletionQueue).toNat ≠ fsQueueCapacity)
      (through : paramWord params 0 = fd)
      (takes : TakesName clientShareSize (paramBuffer params 1))
      (finds : answer.dirent = names.head?)
      (rest : NfsReads fd names.tail (cmdHandler before answer id params .dirRead).server later
        after) :
      NfsReads fd names server
        (nfsEntryRead (cmdHandler before answer id params .dirRead) (paramBuffer params 1) :: later)
        after

theorem nfs_dirRead {server : NfsServer} {answer : NfsAnswer} {id : UInt64T}
    (refers : RefersTo .dir server.table fd handle)
    (room : (fsQueueLengthProducer server.fsCompletionQueue).toNat ≠ fsQueueCapacity)
    (through : paramWord params 0 = fd) (takes : TakesName clientShareSize (paramBuffer params 1))
    (short : ∀ name, answer.dirent = some name → name.length ≤ fsMaxNameLength) :
    nfsEntryRead (cmdHandler server answer id params .dirRead) (paramBuffer params 1) =
        some (entryRead fsStatusEndOfDirectory answer.dirent) ∧
      RefersTo .dir (cmdHandler server answer id params .dirRead).server.table fd handle := by
  obtain ⟨begun, begins⟩ := refers.beginOp
  obtain ⟨ended, ends, again⟩ := RefersTo.endOp begins rfl
  simp only [cmdHandler, handleDirRead, withBuffer, takes.1, if_neg (Nat.not_lt.mpr takes.2),
    through, Nfs.withOp, begins]
  cases found : answer.dirent with
  | none =>
    simp only [Nfs.endOp, ends, reply, if_neg room]
    exact ⟨rfl, again⟩
  | some name =>
    have few : name.length < 2 ^ 64 := Nat.lt_of_le_of_lt (short name found) (by decide)
    simp only [if_neg (Nat.not_lt.mpr (short name found)), Nfs.endOp, ends, reply, if_neg room]
    refine ⟨?_, again⟩
    simp only [nfsEntryRead, BitVec.toNat_ofNat, Nat.mod_eq_of_lt few, bytesAt_copy]
    rfl

/-- A client that goes on to read gets the entries in order, and the end after the last one. -/
theorem nfs_reads {server after : NfsServer} (reads : NfsReads fd names server entries after)
    (refers : RefersTo .dir server.table fd handle)
    (short : ∀ name ∈ names, name.length ≤ fsMaxNameLength) (index : Nat)
    (found : entries[index]? = some read) :
    read = some (entryRead fsStatusEndOfDirectory names[index]?) := by
  induction reads generalizing index with
  | nil => cases found
  | cons others room through takes finds _ inductionHypothesis =>
    obtain ⟨first, later⟩ := @nfs_dirRead _ _ _ _ _ _ (refers.congr others) room through takes
      fun name head => short name (List.mem_of_mem_head? (finds ▸ head))
    cases index with
    | zero =>
      rw [← List.head?_eq_getElem?, ← finds, ← first]
      exact (Option.some.inj found).symm
    | succ index =>
      rw [← List.getElem?_tail]
      exact inductionHypothesis later (fun name member => short name (List.mem_of_mem_tail member))
        index found

end Nfs

/-! ### Both servers -/

open Fat Nfs in
/-- A directory is listed as it should be on both servers, and its end is told, exactly as long as
the client reads no more than the entries that the directory of the FAT server has. -/
theorem listed_on_both_iff {fatfs : FatFs} {directories : Directories fatfs}
    {files filesAfter : FatFiles fatfs} {server serverAfter : NfsServer}
    {fatFd nfsFd fatHandle nfsHandle : UInt64T} {names : List (List UInt8T)}
    {fatEntries nfsEntries : List (Option EntryRead)}
    (fatFresh : directories.AtStart files fatFd)
    (fatOpen : RefersTo .dir files.table fatFd fatHandle)
    (nfsOpen : RefersTo .dir server.table nfsFd nfsHandle)
    (nfsShort : ∀ name ∈ names, name.length ≤ fsMaxNameLength)
    (fatReads : FatReads directories fatFd (Directories.dirOf files fatFd) files fatEntries
      filesAfter)
    (nfsReads : NfsReads nfsFd names server nfsEntries serverAfter) :
    (ListedAs (directories.names files fatFd) fatEntries ∧ ListedAs names nfsEntries) ↔
      fatEntries.length ≤ (directories.names files fatFd).length := by
  have openAt : OpenAt directories files fatFd (Directories.dirOf files fatFd)
      (directories.names files fatFd) := by
    refine ⟨⟨fatHandle, ?_, fatOpen⟩, .start, fatFresh, rfl⟩
    obtain ⟨begun, begins⟩ := fatOpen.beginOp
    rw [handle_of_fdBeginOp begins]
    rfl
  have listed := listedAs_of_entryRead fun index read => nfs_reads nfsReads nfsOpen nfsShort index
  rw [and_iff_left listed]
  exact listedAs_iff_of_entryRead (by decide) fun index read =>
    fat_reads fatReads openAt (directories.named _ _) index

/-! ### Listings of three entries -/

section Three

open Fat Nfs

/-- A read there, as it is computed, and what is read after it. -/
theorem fatReads_three {files after : FatFiles threeFatFs} {status : UInt64T}
    {result : Option UInt64T} {later : List (Option EntryRead)}
    (completes : completionThree files readEntry = some (status, result))
    (rest : FatReads threeDirectories 0 (slotOf 0) (leftBy files readEntry) later after) :
    FatReads threeDirectories 0 (slotOf 0) files
      (some
        { status
          pathLen := result.getD 0
          name := bytesAt (leftBy files readEntry).share ⟨0, (result.getD 0).toNat⟩ } :: later)
      after := by
  obtain ⟨answers, ⟨last, handles, finished, left⟩, succeed⟩ := handledAlone_three completes
  have entry : fatEntryRead last (paramBuffer readEntry.2 1) 0 = some
      { status
        pathLen := result.getD 0
        name := bytesAt (leftBy files readEntry).share ⟨0, (result.getD 0).toNat⟩ } := by
    simp only [fatEntryRead, Segment.completion, finished, left]
    rfl
  have among : Handles (Spared threeDirectories 0 (slotOf 0)) (operationFunctions readEntry.1
      readEntry.2 files) answers last := by
    refine handles.mono fun files after same => ?_
    rw [same]
    exact ⟨rfl, rfl, rfl⟩
  rw [← entry]
  refine .cons ⟨rfl, rfl, rfl⟩ rfl ⟨rfl, by decide⟩ among (fun call stage waits => ?_) succeed ?_
  · rw [finished] at waits
    cases waits
  · rw [left]
    exact rest

/-- An NFS server with one directory open. -/
def nfsDirServer : NfsServer :=
  { NfsSystem.started.server with table := dirServer.table }

def finding (dirent : Option (List UInt8T)) : NfsAnswer where
  context := true
  submitted := true
  dirent := dirent
  location := 0

/-- A read on the NFS server, and what is read after it. -/
theorem nfsReads_cons {server after : NfsServer} {later : List (Option EntryRead)}
    (room : (fsQueueLengthProducer server.fsCompletionQueue).toNat ≠ fsQueueCapacity)
    (rest : NfsReads 0 names.tail
      (cmdHandler server (finding names.head?) 0 readEntry.2 .dirRead).server later after) :
    NfsReads 0 names server
      (nfsEntryRead (cmdHandler server (finding names.head?) 0 readEntry.2 .dirRead)
        (paramBuffer readEntry.2 1) :: later) after :=
  .cons rfl room rfl ⟨rfl, by decide⟩ rfl rest

/-- Three reads list three entries on the FAT server, and two and the end on the NFS server. -/
theorem three_reads_list : ∃ filesAfter serverAfter fatEntries nfsEntries,
    FatReads threeDirectories 0 (slotOf 0) dirServer fatEntries filesAfter ∧
      NfsReads 0 [[97], [98, 99]] nfsDirServer nfsEntries serverAfter ∧
      fatEntries.length = 3 ∧ nfsEntries.length = 3 ∧
      ListedAs [[97], [98, 99], [100]] fatEntries ∧ ListedAs [[97], [98, 99]] nfsEntries := by
  have fat := @fatReads_three dirServer _ fsStatusSuccess (some 1) _ rfl
    (@fatReads_three (leftBy dirServer readEntry) _ fsStatusSuccess (some 2) _ rfl
      (@fatReads_three (leftBy (leftBy dirServer readEntry) readEntry) _ fsStatusSuccess (some 1) _
        rfl (.nil _)))
  have nfs := @nfsReads_cons [[97], [98, 99]] nfsDirServer _ _ (by decide)
    (nfsReads_cons (by decide) (nfsReads_cons (by decide) (.nil _ _)))
  obtain ⟨fatListed, nfsListed⟩ := (listed_on_both_iff (rfl : threeDirectories.AtStart dirServer 0)
    ⟨by decide, _, rfl⟩ ⟨by decide, _, rfl⟩ (by decide) fat nfs).mpr (by decide)
  exact ⟨_, _, _, _, fat, nfs, rfl, rfl, fatListed, nfsListed⟩

/-- The fourth read of three entries fails on the FAT server. -/
theorem fourth_read_fails : ∃ filesAfter fatEntries, threeDirectories.AtStart dirServer 0 ∧
      threeDirectories.names dirServer 0 = [[97], [98, 99], [100]] ∧
      FatReads threeDirectories 0 (slotOf 0) dirServer fatEntries filesAfter ∧
      (∃ read, fatEntries[3]? = some (some read) ∧ read.status = fsStatusError) ∧
      ¬ListedAs [[97], [98, 99], [100]] fatEntries := by
  have fat := @fatReads_three dirServer _ fsStatusSuccess (some 1) _ rfl
    (@fatReads_three (leftBy dirServer readEntry) _ fsStatusSuccess (some 2) _ rfl
      (@fatReads_three (leftBy (leftBy dirServer readEntry) readEntry) _ fsStatusSuccess (some 1) _
        rfl (@fatReads_three (leftBy (leftBy (leftBy dirServer readEntry) readEntry) readEntry) _
          fsStatusError (some 0) _ rfl (.nil _))))
  refine ⟨_, _, rfl, rfl, fat, ⟨_, rfl, rfl⟩, fun listed => ?_⟩
  obtain ⟨completed, same, reports⟩ := listed 3 _ rfl
  cases same
  have ends : fsStatusError = fsStatusEndOfDirectory := reports
  exact absurd ends (by decide)

end Three

end LionsOS.Fs
