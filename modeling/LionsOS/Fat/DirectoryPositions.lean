/-
This file is about where an open directory is. FatFs keeps a cursor in the table of
a directory, whose slots may hold part of a long name or nothing. DIR_TELL reports
the offset of its slot in bytes, and DIR_SEEK takes a location for a number of
entries to read; so a seek comes back to where the tell was only if no entry had
been read then or none was left.
-/

import LionsOS.Fat.Effects
import LionsOS.Fat.Handling
import LionsOS.Fs.SlotCounts
import LionsOS.Lib.GappedTable

open Function

namespace LionsOS.Fat

open LionsOS.Fs GappedTable

variable {fatfs : FatFs} {dir : Fin maxOpenFiles} {reply : FatFsReply} {kind : OfKind}

variable {here : Cursor} {handle : UInt64T} {next table : OfTable}
  {rest : Fin maxOpenFiles → FatFiles fatfs → Segment fatfs}

/-! ### Directories -/

/-- `SZDIRE` -/
def szdire : Nat := 32

/-- `FF_MIN_SS` -/
def ffMinSs : Nat := 512

/-- `MAX_DIR_EX` -/
def maxDirEx : Nat := 0x10000000

/-- `FF_LFN_BUF` -/
def ffLfnBuf : Nat := 255

/-- The tables of directories, with a cursor in each that is open, and what opening, reading and
rewinding does to them. Of one that a failed call has left somewhere no cursor is known. -/
structure Directories (fatfs : FatFs) where
  table : fatfs.Volume → Fin maxOpenFiles → List (Slot (List UInt8T))
  cursor : fatfs.Volume → Fin maxOpenFiles → Option Cursor
  /-- A table is of a sector at least. -/
  large : ∀ volume dir, ffMinSs ≤ szdire * (table volume dir).length
  small : ∀ volume dir, szdire * (table volume dir).length ≤ maxDirEx
  named : ∀ volume dir, ∀ name ∈ entries (table volume dir), name ≠ [] ∧ name.length ≤ ffLfnBuf
  tells : ∀ {volume dir here}, cursor volume dir = some here →
    fatfs.fTelldir volume dir = BitVec.ofNat 32 (szdire * here.slot)
  opens : ∀ {dir path volume share reply volume' share'},
    fatfs.Acts (.fOpendir dir path) volume share reply volume' share' → reply.result = .ok →
      cursor volume' dir = some .start
  rewinds : ∀ {dir volume share reply volume' share'},
    fatfs.Acts (.fReaddir dir true) volume share reply volume' share' → reply.result = .ok →
      cursor volume' dir = some .start
  reads : ∀ {dir volume share reply volume' share' here},
    fatfs.Acts (.fReaddir dir false) volume share reply volume' share' → reply.result = .ok →
      cursor volume dir = some here →
        reply.info.fname = (here.next (table volume dir)).1.getD [] ∧
          cursor volume' dir = some (here.next (table volume dir)).2
  keeps : ∀ {dir rewind volume share reply volume' share'},
    fatfs.Acts (.fReaddir dir rewind) volume share reply volume' share' →
      table volume' = table volume ∧
        ∀ other, other ≠ dir → cursor volume' other = cursor volume other

open Directories

namespace Directories

variable (directories : Directories fatfs)

/-- An open directory is where a cursor gets by reading. -/
def Placed (volume : fatfs.Volume) (dir : Fin maxOpenFiles) : Prop :=
  ∃ here, directories.cursor volume dir = some here ∧ Reached (directories.table volume dir) here

/-- The object that a descriptor refers to. -/
def dirOf (files : FatFiles fatfs) (fd : UInt64T) : Fin maxOpenFiles :=
  objectOf (files.table (slotOf fd)).handle

/-- The names of the entries of a directory. -/
def names (files : FatFiles fatfs) (fd : UInt64T) : List (List UInt8T) :=
  entries (directories.table files.volume (dirOf files fd))

/-- The names of the entries that are still to be read. -/
def unread (files : FatFiles fatfs) (fd : UInt64T) : List (List UInt8T) :=
  (directories.cursor files.volume (dirOf files fd)).elim [] fun here =>
    here.unread (directories.table files.volume (dirOf files fd))

/-- The directory of a descriptor has been opened or rewound, and nothing of it read since. -/
def AtStart (files : FatFiles fatfs) (fd : UInt64T) : Prop :=
  directories.cursor files.volume (dirOf files fd) = some .start

variable {directories} {volume volume' : fatfs.Volume} {share share' : Nat → UInt8T}
  {other : Fin maxOpenFiles} {rewind : Bool} {files : FatFiles fatfs} {fd : UInt64T}

theorem length_pos (volume : fatfs.Volume) (dir : Fin maxOpenFiles) :
    2 ≤ (directories.table volume dir).length := by
  have large := directories.large volume dir
  simp only [ffMinSs, szdire] at large
  omega

theorem Placed.of_start (start : directories.cursor volume dir = some .start) :
    directories.Placed volume dir :=
  ⟨.start, start, reached_start (Nat.lt_of_lt_of_le Nat.zero_lt_two (length_pos volume dir))⟩

theorem Placed.acts (placed : directories.Placed volume dir)
    (acts : fatfs.Acts (.fReaddir other rewind) volume share reply volume' share')
    (succeeded : reply.result = .ok) : directories.Placed volume' dir := by
  obtain ⟨sameTable, others⟩ := directories.keeps acts
  rcases eq_or_ne dir other with rfl | different
  · cases rewind with
    | true => exact .of_start (directories.rewinds acts succeeded)
    | false =>
      obtain ⟨here, known, reached⟩ := placed
      obtain ⟨_, next⟩ := directories.reads acts succeeded known
      exact ⟨_, next, by rw [sameTable]; exact reached.next⟩
  · obtain ⟨here, known, reached⟩ := placed
    exact ⟨here, (others dir different).trans known, by rw [sameTable]; exact reached⟩

theorem unread_eq (known : directories.cursor files.volume (dirOf files fd) = some here) :
    directories.unread files fd =
      here.unread (directories.table files.volume (dirOf files fd)) := by
  rw [unread, known]
  rfl

end Directories

/-! ### Commands that walk through directories -/

/-- The commands that change no more than where directories are. -/
def walksDirectory : CmdType → Bool
  | .dirRead | .dirSeek | .dirTell | .dirRewind => true
  | _ => false

/-- The stages of these commands. -/
def HandlerStage.walks : HandlerStage → Bool
  | .readingDir _ _ _ | .rewinding _ | .seekingDir _ _ _ _ => true
  | _ => false

/-- Commands are handled one after the other, each on its own, and no call of FatFs fails. -/
inductive HandledSoundly : FatFiles fatfs → List CompletedCommand → FatFiles fatfs → Prop
  | nil (files : FatFiles fatfs) : HandledSoundly files [] files
  | cons {files middle after : FatFiles fatfs} {command : CompletedCommand}
      {later : List CompletedCommand} {answers : List Answer}
      (handled : HandledAlone command.type command.params files answers command.status
        command.result middle)
      (succeed : ∀ answer ∈ answers, answer.reply.result = .ok)
      (rest : HandledSoundly middle later after) : HandledSoundly files (command :: later) after

/-- Two tables in which each slot has the same handle. -/
def SameHandles (before after : OfTable) : Prop :=
  ∀ slot, (after slot).handle = (before slot).handle

/-- A segment of a command that walks through directories, which began with some files. -/
structure Walks (files : FatFiles fatfs) (segment : Segment fatfs) : Prop where
  handles : SameHandles files.table segment.files.table
  calls : ∀ call stage, segment.progress = .inCall call stage →
    stage.walks = true ∧ ∃ dir rewind, call = .fReaddir dir rewind

section Segments

variable {files after : FatFiles fatfs} {fd : UInt64T}

theorem sameHandles_beginOp (begun : fdBeginOp kind table fd = some (handle, next)) :
    SameHandles table next := by
  intro slot
  obtain ⟨_, after, begins, rfl⟩ := fdBeginOp_eq_some begun
  rcases eq_or_ne slot (slotOf fd) with rfl | different
  · rw [update_self]
    exact (FdUse.ofBeginOp_cases begins).2.1
  · rw [update_of_ne different]

theorem sameHandles_endOp (ended : fdEndOp table fd = some next) : SameHandles table next := by
  intro slot
  obtain ⟨_, after, ends, rfl⟩ := onSlot_eq_some ended
  rcases eq_or_ne slot (slotOf fd) with rfl | different
  · obtain ⟨_, _, same, _⟩ := FdUse.ofEndOp_cases ends
    rw [update_self]
    exact same
  · rw [update_of_ne different]

theorem walks_finish (same : SameHandles files.table after.table) (status : UInt64T)
    (result : Option UInt64T) : Walks files (finish after status result) where
  handles := same
  calls call stage waits := by cases waits

theorem walks_inCall (same : SameHandles files.table after.table) {rewind : Bool}
    {stage : HandlerStage} (walks : stage.walks = true) :
    Walks files (inCall after (.fReaddir dir rewind) stage) where
  handles := same
  calls call stage waits := by
    cases waits
    exact ⟨walks, dir, rewind, rfl⟩

theorem walks_endOp (same : SameHandles files.table after.table) {status : UInt64T}
    {result : Option UInt64T} :
    Walks files (endOp after fd fun ended => finish ended status result) := by
  refine endOp_rule ⟨same, fun call stage waits => by cases waits⟩ fun table ended => ?_
  exact walks_finish (fun slot => (sameHandles_endOp ended slot).trans (same slot)) _ _

theorem walks_withOp
    (goesOn : ∀ dir begun, SameHandles files.table begun.table → Walks files (rest dir begun)) :
    Walks files (withOp kind files fd rest) := by
  refine withOp_rule (walks_finish (fun _ => rfl) _ _) fun handle table begun => ?_
  exact goesOn _ _ (sameHandles_beginOp begun)

theorem walks_operationFunctions {type : CmdType} (walks : walksDirectory type = true)
    (params : CmdParams) (files : FatFiles fatfs) :
    Walks files (operationFunctions type params files) := by
  cases type with
  | dirRead =>
    simp only [operationFunctions, handleDirRead]
    split
    · exact walks_finish (fun _ => rfl) _ _
    · exact walks_withOp fun dir begun same => walks_inCall same rfl
  | dirTell =>
    simp only [operationFunctions, handleDirTell]
    exact walks_withOp fun dir begun same => walks_endOp same
  | dirSeek | dirRewind =>
    simp only [operationFunctions, handleDirSeek, handleDirRewind]
    exact walks_withOp fun dir begun same => walks_inCall same rfl
  | _ => cases walks

theorem walks_resume (same : SameHandles files.table after.table) (reply : FatFsReply)
    {stage : HandlerStage} (walks : stage.walks = true) :
    Walks files (resume after reply stage) := by
  cases stage with
  | readingDir fd name size =>
    simp only [resume]
    split
    · obtain ⟨handles, calls⟩ := @walks_endOp _ files (after.writeShare name.toNat reply.info.fname)
        fd same (if reply.info.fname = [] then fsStatusError else fsStatusSuccess)
        (some (BitVec.ofNat 64 reply.info.fname.length))
      exact ⟨handles, calls⟩
    · exact walks_endOp same
  | rewinding fd => exact walks_endOp same
  | seekingDir fd dir loc passed =>
    simp only [resume]
    split
    · exact walks_inCall same rfl
    · exact walks_endOp same
  | _ => cases walks

/-- What holds of the volume and goes on to hold with each allowed call holds at the end of a
command that walks through directories. -/
theorem walk_rule {Holds : fatfs.Volume → Prop} {Allowed : FResult → Prop}
    {segment last : Segment fatfs} {answers : List Answer}
    (handles : Handles Eq segment answers last) (walks : Walks files segment)
    (first : Holds segment.files.volume)
    (step : ∀ dir rewind volume share reply volume' share', Holds volume → Allowed reply.result →
      fatfs.Acts (.fReaddir dir rewind) volume share reply volume' share' → Holds volume')
    (allowed : ∀ answer ∈ answers, Allowed answer.reply.result) :
    Walks files last ∧ Holds last.files.volume := by
  refine @Handles.rule _ _ _ _ _ (fun segment => Walks files segment ∧ Holds segment.files.volume)
    (fun answer => Allowed answer.reply.result) handles ?_ ⟨walks, first⟩ allowed
  rintro segment call stage reply before _ volume share ⟨walks, holds⟩ waits allowed rfl acts rfl
  obtain ⟨walksStage, dir, rewind, rfl⟩ := walks.calls call stage waits
  refine ⟨@walks_resume _ files { segment.files with volume, share } walks.handles reply _
    walksStage, ?_⟩
  rw [(hasResumeEffect_resume _ reply stage).volume_eq]
  exact step _ _ _ _ _ _ _ holds allowed acts

end Segments

/-! ### What is left as it was -/

/-- What a command that walks through directories leaves as it was: the tables of the directories
and the handles of the descriptors. -/
structure Walked (directories : Directories fatfs) (files after : FatFiles fatfs) : Prop where
  table : directories.table after.volume = directories.table files.volume
  handles : SameHandles files.table after.table

section Walked

variable {directories : Directories fatfs} {files after : FatFiles fatfs}

theorem Walked.refl (files : FatFiles fatfs) : Walked directories files files :=
  ⟨rfl, fun _ => rfl⟩

theorem Walked.trans {later : FatFiles fatfs} (first : Walked directories files after)
    (second : Walked directories after later) : Walked directories files later :=
  ⟨second.table.trans first.table, fun slot => (second.handles slot).trans (first.handles slot)⟩

theorem Walked.dirOf_eq (walked : Walked directories files after) (fd : UInt64T) :
    dirOf after fd = dirOf files fd := by
  rw [dirOf, walked.handles]
  rfl

theorem Walked.names_eq (walked : Walked directories files after) (fd : UInt64T) :
    directories.names after fd = directories.names files fd := by
  rw [names, walked.dirOf_eq, walked.table]
  rfl

variable {type : CmdType} {params : CmdParams} {answers : List Answer} {status : UInt64T}
  {result : Option UInt64T} {commands : List CompletedCommand}

theorem walked_of_handled (walks : walksDirectory type = true)
    (handled : HandledAlone type params files answers status result after) :
    Walked directories files after := by
  obtain ⟨last, handles, finished, rfl⟩ := handled
  obtain ⟨walked, table⟩ := @walk_rule _ _
    (fun volume => directories.table volume = directories.table files.volume) (fun _ => True) _ _ _
    handles (walks_operationFunctions walks params files)
    (by rw [(hasFirstEffect_operationFunctions type params files).volume_eq])
    (fun _ _ _ _ _ _ _ same _ acts => (directories.keeps acts).1.trans same) fun _ _ => trivial
  exact ⟨table, walked.handles⟩

theorem walked_of_inTurn (walks : ∀ command ∈ commands, walksDirectory command.type = true)
    (handled : HandledInTurn files commands after) : Walked directories files after := by
  induction handled with
  | nil files => exact .refl files
  | cons handled _ inductionHypothesis =>
    exact (walked_of_handled (walks _ List.mem_cons_self) handled).trans
      (inductionHypothesis fun command member => walks command (List.mem_cons_of_mem _ member))

/-- Where no call of FatFs fails, a directory goes on to be where a cursor gets by reading. -/
theorem placed_of_handled (walks : walksDirectory type = true)
    (handled : HandledAlone type params files answers status result after)
    (succeed : ∀ answer ∈ answers, answer.reply.result = .ok)
    (placed : directories.Placed files.volume dir) : directories.Placed after.volume dir := by
  obtain ⟨last, handles, finished, rfl⟩ := handled
  refine (@walk_rule _ _ (fun volume => directories.Placed volume dir) (· = .ok) _ _ _ handles
    (walks_operationFunctions walks params files) ?_ ?_ succeed).2
  · rwa [(hasFirstEffect_operationFunctions type params files).volume_eq]
  · intro other rewind volume share reply volume' share' placed succeeded acts
    exact placed.acts acts succeeded

theorem HandledSoundly.inTurn (handled : HandledSoundly files commands after) :
    HandledInTurn files commands after := by
  induction handled with
  | nil files => exact .nil files
  | cons handled _ _ inductionHypothesis => exact .cons handled inductionHypothesis

theorem placed_of_soundly (walks : ∀ command ∈ commands, walksDirectory command.type = true)
    (handled : HandledSoundly files commands after) (placed : directories.Placed files.volume dir) :
    directories.Placed after.volume dir := by
  induction handled with
  | nil files => exact placed
  | cons handled succeed _ inductionHypothesis =>
    exact inductionHypothesis (fun command member => walks command (List.mem_cons_of_mem _ member))
      (placed_of_handled (walks _ List.mem_cons_self) handled succeed placed)

end Walked

/-! ### Opening and rewinding -/

section Opening

variable {directories : Directories fatfs} {files after : FatFiles fatfs} {params : CmdParams}
  {answers : List Answer} {result : Option UInt64T} {fd : UInt64T} {last : Segment fatfs}

variable {begun : OfTable}

theorem begun_of_withOp (handles : Handles Eq (withOp .dir files fd rest) answers last)
    (finished : last.progress = .finished fsStatusSuccess result) :
    ∃ table, Handles Eq (rest (dirOf files fd) { files with table }) answers last := by
  unfold withOp at handles
  split at handles
  · obtain ⟨_, rfl⟩ := handles.of_finished rfl
    cases finished
  · rename_i handle table begun
    rw [handle_of_fdBeginOp begun] at handles
    exact ⟨table, handles⟩

/-- A new descriptor that can be used refers to the handle that it was made for. -/
theorem handle_of_newFd {given : UInt64T} (allocates : fdAlloc table = some (fd, next))
    (valid : fdBeginOp .dir ((fdSetDir next fd given).getD next) fd = some (handle, begun)) :
    ((fdSetDir next fd given).getD next (slotOf fd)).handle = given := by
  obtain ⟨slot, _, rfl, fdIs⟩ := fdAlloc_eq_some allocates
  have here : slotOf fd = slot := by
    rw [fdIs]
    exact slotOf_ofToFd _ _
  obtain ⟨_, _, begins, _⟩ := fdBeginOp_eq_some valid
  cases sets : fdSetDir _ fd given with
  | none =>
    rw [sets, Option.getD_none, here, update_self] at begins
    cases begins
  | some changed =>
    obtain ⟨_, opened, set, rfl⟩ := onSlot_eq_some sets
    rw [Option.getD_some, update_self]
    rw [here, update_self] at set
    cases set
    rfl

/-- An open that succeeds with a descriptor that can be used has had FatFs open the object. -/
theorem opened_of_openingDir
    (handles : Handles Eq (resume files reply (.openingDir dir)) answers last)
    (finished : last.progress = .finished fsStatusSuccess (some fd))
    (valid : fdBeginOp .dir last.files.table fd = some (handle, begun)) :
    reply.result = .ok ∧ dirOf last.files fd = dir ∧ last.files.volume = files.volume := by
  simp only [resume] at handles
  split at handles
  · rename_i succeeded
    unfold setNewFd at handles
    split at handles
    · obtain ⟨_, rfl⟩ := handles.of_failed rfl
      cases finished
    · rename_i allocates
      obtain ⟨_, rfl⟩ := handles.of_finished rfl
      cases finished
      have opened := handle_of_newFd allocates valid
      refine ⟨succeeded, ?_, rfl⟩
      exact (congrArg objectOf opened).trans (objectOf_handleOf dir)
  · unfold asserting at handles
    split at handles
    · obtain ⟨_, rfl⟩ := handles.of_failed rfl
      cases finished
    · obtain ⟨_, rfl⟩ := handles.of_finished rfl
      simp only [finish, Progress.finished.injEq] at finished
      split at finished
      · exact absurd finished.1 (by decide)
      · exact absurd finished.1 (by decide)

theorem atStart_of_dirOpen
    (handled : HandledAlone .dirOpen params files answers fsStatusSuccess (some fd) after)
    (valid : fdBeginOp .dir after.table fd = some (handle, begun)) :
    directories.AtStart after fd := by
  obtain ⟨last, handles, finished, rfl⟩ := handled
  simp only [operationFunctions, handleDirOpen, withPath] at handles
  split at handles
  · obtain ⟨_, rfl⟩ := handles.of_finished rfl
    cases finished
  · split at handles
    · obtain ⟨_, rfl⟩ := handles.of_finished rfl
      cases finished
    · obtain ⟨reply, _, _, volume, share, rest, rfl, rfl, acts, rfl, handles⟩ :=
        handles.of_inCall rfl finished
      obtain ⟨succeeded, opened, left⟩ := opened_of_openingDir handles finished valid
      rw [Directories.AtStart, opened, left]
      exact directories.opens acts succeeded

theorem atStart_of_dirRewind
    (handled : HandledAlone .dirRewind params files answers fsStatusSuccess result after) :
    directories.AtStart after (paramWord params 0) := by
  have kept := @walked_of_handled _ directories _ _ _ _ _ _ _ rfl handled
  rw [Directories.AtStart, kept.dirOf_eq]
  obtain ⟨last, handles, finished, rfl⟩ := handled
  simp only [operationFunctions, handleDirRewind] at handles
  obtain ⟨table, handles⟩ := begun_of_withOp handles finished
  obtain ⟨reply, _, _, volume, share, rest, rfl, rfl, acts, rfl, handles⟩ :=
    handles.of_inCall rfl finished
  have succeeded := statusOf_eq_success_iff.mp (handles.completion_of_endOp finished).2.1.symm
  rw [handles.volume_of_endOp finished]
  exact directories.rewinds acts succeeded

end Opening

/-! ### Telling and seeking -/

section Seek

variable {directories : Directories fatfs} {files after : FatFiles fatfs} {params : CmdParams}
  {answers : List Answer} {result : Option UInt64T} {segment last : Segment fatfs}

/-- The location that is told is the offset of the slot of the cursor. -/
theorem told_location {location : UInt64T}
    (handled : HandledAlone .dirTell params files answers fsStatusSuccess (some location) after)
    (known : directories.cursor files.volume (dirOf files (paramWord params 0)) =
      some here) (within : szdire * here.slot < maxDirEx) :
    location.toInt.toNat = szdire * here.slot := by
  obtain ⟨last, handles, finished, rfl⟩ := handled
  simp only [operationFunctions, handleDirTell] at handles
  obtain ⟨table, handles⟩ := begun_of_withOp handles finished
  obtain ⟨_, _, told⟩ := handles.completion_of_endOp finished
  rw [directories.tells known] at told
  simp only [maxDirEx] at within
  have value : location.toNat = szdire * here.slot := by
    rw [Option.some.inj told, BitVec.toNat_setWidth, BitVec.toNat_ofNat]
    omega
  rw [BitVec.toInt_eq_toNat_of_lt (by omega), value, Int.toNat_natCast]

/-- From the rewind on, a seek that succeeds has read as many entries as its location says. -/
theorem cursor_of_seeking {fd : UInt64T} {loc passed : Int} {table : List (Slot (List UInt8T))}
    (handles : Handles Eq segment answers last)
    (finished : last.progress = .finished fsStatusSuccess result)
    (waits : segment.progress = .inCall (.fReaddir dir false) (.seekingDir fd dir loc passed))
    (same : directories.table segment.files.volume dir = table)
    (known : directories.cursor segment.files.volume dir = some here) (more : passed ≤ loc) :
    directories.cursor last.files.volume dir =
      some (here.skip table ((loc - passed).toNat + 1)) := by
  obtain ⟨count, left⟩ : ∃ count, (loc - passed).toNat = count := ⟨_, rfl⟩
  induction count generalizing segment answers passed here with
  | zero =>
    obtain ⟨reply, _, _, volume, share, rest, rfl, rfl, acts, rfl, handles⟩ :=
      handles.of_inCall waits finished
    simp only [resume] at handles
    rw [if_neg (by omega)] at handles
    have succeeded := statusOf_eq_success_iff.mp (handles.completion_of_endOp finished).2.1.symm
    rw [handles.volume_of_endOp finished, left, ← same]
    exact (directories.reads acts succeeded known).2
  | succ count inductionHypothesis =>
    obtain ⟨reply, _, _, volume, share, rest, rfl, rfl, acts, rfl, handles⟩ :=
      handles.of_inCall waits finished
    simp only [resume] at handles
    split at handles
    · rename_i goesOn
      have next := (directories.reads acts goesOn.2 known).2
      rw [same] at next
      have kept := (congrFun (directories.keeps acts).1 dir).trans same
      have fewer : (loc - passed).toNat = (loc - (passed + 1)).toNat + 1 := by omega
      rw [fewer]
      exact inductionHypothesis handles rfl kept next (by omega) (by omega)
    · rename_i stops
      have succeeded := statusOf_eq_success_iff.mp (handles.completion_of_endOp finished).2.1.symm
      exact absurd ⟨by omega, succeeded⟩ stops

/-- A seek that succeeds ends where as many reads from the start do as its location says. -/
theorem cursor_of_seek
    (handled : HandledAlone .dirSeek params files answers fsStatusSuccess result after) :
    directories.cursor after.volume (dirOf files (paramWord params 0)) = some
      (Cursor.start.skip (directories.table files.volume (dirOf files (paramWord params 0)))
        (paramWord params 1).toInt.toNat) := by
  obtain ⟨last, handles, finished, rfl⟩ := handled
  simp only [operationFunctions, handleDirSeek] at handles
  obtain ⟨table, handles⟩ := begun_of_withOp handles finished
  obtain ⟨reply, _, _, volume, share, rest, rfl, rfl, acts, rfl, handles⟩ :=
    handles.of_inCall rfl finished
  simp only [resume] at handles
  split at handles
  · rename_i goesOn
    have count : (paramWord params 1).toInt.toNat =
        ((paramWord params 1).toInt - (0 + 1)).toNat + 1 := by omega
    rw [count]
    exact cursor_of_seeking handles finished rfl (congrFun (directories.keeps acts).1 _)
      (directories.rewinds acts goesOn.2) (by omega)
  · rename_i stops
    have succeeded := statusOf_eq_success_iff.mp (handles.completion_of_endOp finished).2.1.symm
    have none : (paramWord params 1).toInt.toNat = 0 := by
      have still : ¬(0 < (paramWord params 1).toInt) := fun some => stops ⟨some, succeeded⟩
      omega
    rw [handles.volume_of_endOp finished, none]
    exact directories.rewinds acts succeeded

theorem unread_of_seek
    (handled : HandledAlone .dirSeek params files answers fsStatusSuccess result after) :
    directories.unread after (paramWord params 0) =
      (directories.names files (paramWord params 0)).drop (paramWord params 1).toInt.toNat := by
  have kept := @walked_of_handled _ directories _ _ _ _ _ _ _ rfl handled
  have ends := @cursor_of_seek _ directories _ _ _ _ _ handled
  rw [← kept.dirOf_eq] at ends
  rw [unread_eq ends, kept.table, unread_skip, kept.dirOf_eq]
  rfl

end Seek

/-! ### Coming back -/

/-- After DIR_SEEK to the location that DIR_TELL has told earlier, the entries that are still to be
read are those that were then, exactly if none had been read then or none was left. -/
theorem seek_restores_iff {directories : Directories fatfs}
    {opened there told later sought : FatFiles fatfs} {fd location : UInt64T}
    {result : Option UInt64T} {tellParams seekParams : CmdParams}
    {before meanwhile : List CompletedCommand} {tellAnswers seekAnswers : List Answer}
    (atStart : directories.AtStart opened fd) (history : HandledSoundly opened before there)
    (walks : ∀ command ∈ before, walksDirectory command.type = true)
    (tell : HandledAlone .dirTell tellParams there tellAnswers fsStatusSuccess (some location) told)
    (toldFd : paramWord tellParams 0 = fd) (others : HandledInTurn told meanwhile later)
    (walksAgain : ∀ command ∈ meanwhile, walksDirectory command.type = true)
    (seek : HandledAlone .dirSeek seekParams later seekAnswers fsStatusSuccess result sought)
    (soughtFd : paramWord seekParams 0 = fd) (soughtLocation : paramWord seekParams 1 = location) :
    directories.unread sought fd = directories.unread there fd ↔
      directories.unread there fd = directories.names there fd ∨
        directories.unread there fd = [] := by
  subst toldFd soughtLocation
  have untilTell := @walked_of_inTurn _ directories _ _ _ walks history.inTurn
  have untilSeek := (@walked_of_handled _ directories _ _ _ _ _ _ _ rfl tell).trans
    (walked_of_inTurn walksAgain others)
  have start : directories.cursor opened.volume
      (dirOf there (paramWord tellParams 0)) = some .start := by
    rw [untilTell.dirOf_eq]
    exact atStart
  obtain ⟨here, known, reached⟩ := placed_of_soundly walks history (.of_start start)
  have small := directories.small there.volume (dirOf there (paramWord tellParams 0))
  have within : szdire * here.slot < maxDirEx :=
    Nat.lt_of_lt_of_le (Nat.mul_lt_mul_of_pos_left reached.within (by decide)) small
  have ends := @unread_of_seek _ directories _ _ _ _ _ seek
  rw [soughtFd, untilSeek.names_eq, told_location tell known within] at ends
  rw [ends, unread_eq known]
  exact reached.drop_eq_iff (by decide) (length_pos _ _)

/-! ### A volume with one table -/

/-- The slots of a directory with three entries, of which the second has a long name. -/
def threeEntries : List (Slot (List UInt8T)) :=
  [.entry [97], .gap, .entry [98, 99], .entry [100]] ++ List.replicate 12 .unused

/-- A reply of success, with a name. -/
def named (fname : List UInt8T) : FatFsReply where
  result := .ok
  count := 0
  info := { fsize := 0, ftime := 0, fattrib := 0, fname }

/-- What a call does where all directories have that table: the cursors of the open ones move. -/
def walkThree (call : FatFsCall) (cursors : Fin maxOpenFiles → Cursor) (share : Nat → UInt8T) :
    FatFsReply × (Fin maxOpenFiles → Cursor) × (Nat → UInt8T) :=
  match call with
  | .fOpendir dir _ | .fReaddir dir true => (named [], update cursors dir .start, share)
  | .fReaddir dir false =>
    let found := (cursors dir).next threeEntries
    (named (found.1.getD []), update cursors dir found.2, share)
  | _ => (named [], cursors, share)

def threeFatFs : FatFs where
  Volume := Fin maxOpenFiles → Cursor
  fSize _ _ := 0
  fTelldir cursors dir := BitVec.ofNat 32 (szdire * (cursors dir).slot)
  ssize _ := 512
  Acts call cursors share reply cursors' share' :=
    walkThree call cursors share = (reply, cursors', share')

def threeDirectories : Directories threeFatFs where
  table _ _ := threeEntries
  cursor cursors dir := some (cursors dir)
  large _ _ := by decide
  small _ _ := by decide
  named _ _ := by decide
  tells := by
    rintro cursors dir here ⟨⟩
    rfl
  opens := by
    rintro dir path cursors share reply _ _ ⟨⟩ succeeded
    exact congrArg some (update_self _ _ _)
  rewinds := by
    rintro dir cursors share reply _ _ ⟨⟩ succeeded
    exact congrArg some (update_self _ _ _)
  reads := by
    rintro dir cursors share reply _ _ here ⟨⟩ succeeded ⟨⟩
    exact ⟨rfl, congrArg some (update_self _ _ _)⟩
  keeps := by
    rintro dir rewind cursors share reply _ _ acts
    refine ⟨rfl, fun other different => ?_⟩
    cases rewind <;> (cases acts; exact congrArg some (update_of_ne different _ _))

/-- A server with one directory open. -/
def dirServer : FatFiles threeFatFs where
  fsInitialised := true
  fileUsed := fun _ => false
  dirUsed := fun dir => decide (dir = slotOf 0)
  table := fun slot =>
    { state := if slot = slotOf 0 then .opened .dir else .free
      handle := 0
      busyCount := 0
      generation := 0 }
  volume := fun _ => .start
  share := fun _ => 0

/-- To read an entry to the start of the share. -/
def readEntry : CmdType × CmdParams :=
  (.dirRead, paramsOf [0, 0, 255])

def tellThere : CmdType × CmdParams :=
  (.dirTell, paramsOf [0])

def seekTo (location : UInt64T) : CmdType × CmdParams :=
  (.dirSeek, paramsOf [0, location])

theorem walkThree_succeeds {call : FatFsCall} {cursors cursors' : Fin maxOpenFiles → Cursor}
    {share share' : Nat → UInt8T} (acts : walkThree call cursors share = (reply, cursors', share')) :
    reply.result = .ok := by
  unfold walkThree at acts
  split at acts <;> (cases acts; rfl)

/-- Follow a command there to its end. -/
def followThree (files : FatFiles threeFatFs) (command : CmdType × CmdParams) :
    Option (List Answer × Segment threeFatFs) :=
  follow walkThree 40 (operationFunctions command.1 command.2 files)

/-- What a command completes with. -/
def completionThree (files : FatFiles threeFatFs) (command : CmdType × CmdParams) :
    Option (UInt64T × Option UInt64T) :=
  (followThree files command).bind fun followed => followed.2.completion

/-- What a command leaves. -/
def leftBy (files : FatFiles threeFatFs) (command : CmdType × CmdParams) : FatFiles threeFatFs :=
  (followThree files command).elim files fun followed => followed.2.files

theorem handledAlone_three {files : FatFiles threeFatFs} {command : CmdType × CmdParams}
    {status : UInt64T} {result : Option UInt64T}
    (completes : completionThree files command = some (status, result)) :
    ∃ answers, HandledAlone command.1 command.2 files answers status result (leftBy files command) ∧
      ∀ answer ∈ answers, answer.reply.result = .ok := by
  obtain ⟨⟨answers, last⟩, followed, finished⟩ := Option.bind_eq_some_iff.mp completes
  have handles := handles_of_follow (fun _ _ _ _ _ _ same => same) followed
  have left : leftBy files command = last.files := by
    rw [leftBy, followed]
    rfl
  rw [left]
  exact ⟨answers, handledAlone_of_follow (fun _ _ _ _ _ _ same => same) followed finished,
    handles.all_of_acts fun acts => walkThree_succeeds acts⟩

/-- A directory told before anything of it was read is sought again after an entry was. -/
theorem restored_at_start :
    threeDirectories.unread (leftBy (leftBy (leftBy dirServer tellThere) readEntry) (seekTo 0)) 0 =
      [[97], [98, 99], [100]] := by
  obtain ⟨_, tell, _⟩ := @handledAlone_three dirServer tellThere fsStatusSuccess (some 0) rfl
  obtain ⟨_, read, _⟩ :=
    @handledAlone_three (leftBy dirServer tellThere) readEntry fsStatusSuccess (some 1) rfl
  obtain ⟨_, seek, _⟩ :=
    @handledAlone_three (leftBy (leftBy dirServer tellThere) readEntry) (seekTo 0) fsStatusSuccess
      none rfl
  have meanwhile : HandledInTurn (leftBy dirServer tellThere)
      [⟨.dirRead, readEntry.2, fsStatusSuccess, some 1⟩]
      (leftBy (leftBy dirServer tellThere) readEntry) := .cons read (.nil _)
  have start : threeDirectories.AtStart dirServer 0 := rfl
  exact (seek_restores_iff start (.nil _) (by simp) tell rfl meanwhile (by simp [walksDirectory])
    seek rfl rfl).mpr (Or.inl rfl)

/-- A directory told after its first entry was read is sought at its end. -/
theorem second_entry_lost : ∃ there told sought read location tellAnswers answers,
    threeDirectories.AtStart dirServer 0 ∧ HandledSoundly dirServer [read] there ∧
      read.type = .dirRead ∧
      HandledAlone .dirTell (paramsOf [0]) there tellAnswers fsStatusSuccess (some location) told ∧
      HandledAlone .dirSeek (paramsOf [0, location]) told answers fsStatusSuccess none sought ∧
      threeDirectories.unread there 0 = [[98, 99], [100]] ∧
      threeDirectories.unread sought 0 = [] := by
  obtain ⟨_, read, succeed⟩ := @handledAlone_three dirServer readEntry fsStatusSuccess (some 1) rfl
  obtain ⟨_, tell, _⟩ :=
    @handledAlone_three (leftBy dirServer readEntry) tellThere fsStatusSuccess (some 32) rfl
  obtain ⟨_, seek, _⟩ := @handledAlone_three (leftBy (leftBy dirServer readEntry) tellThere)
    (seekTo 32) fsStatusSuccess none rfl
  have left : threeDirectories.unread (leftBy dirServer readEntry) 0 = [[98, 99], [100]] := rfl
  have lost := @unread_of_seek _ threeDirectories _ _ _ _ _ seek
  have history : HandledSoundly dirServer [⟨.dirRead, readEntry.2, fsStatusSuccess, some 1⟩]
      (leftBy dirServer readEntry) := .cons read succeed (.nil _)
  exact ⟨_, _, _, _, 32, _, _, rfl, history, rfl, tell, seek, left, lost⟩

end LionsOS.Fat
