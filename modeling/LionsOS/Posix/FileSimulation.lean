/-
This file is about two runs of a call, against two environments that answer in the same
way. As long as each command can be issued, what the local variables hold at first makes
no difference, nor does it what one of the servers keeps besides the state of the other:
the runs come to the same result, and leave the same.
-/

import LionsOS.Posix.FileTables

namespace LionsOS.Posix

open Fs (fsStatusSuccess fsStatusAllocationError)

/-! ### Two outcomes -/

/-- Two runs come to outcomes of which the first is what is seen of the second, and the second is
good, if they come to one at all. -/
structure Settled {First Second : Type} (view : Second → First) (Good : Second → Prop)
    (first : Option First) (second : Option Second) : Prop where
  same : first = second.map view
  good : ∀ outcome, second = some outcome → Good outcome

section Settled

variable {First Second Third Fourth : Type} {view : Second → First} {Good : Second → Prop}
  {later : Fourth → Third} {GoodLater : Fourth → Prop} {first : Option First}
  {second : Option Second}

theorem Settled.of_some (outcome : Second) (good : Good outcome) :
    Settled view Good (some (view outcome)) (some outcome) where
  same := rfl
  good := by
    intro _ same
    cases same
    exact good

theorem Settled.of_none : Settled view Good none none :=
  ⟨rfl, fun _ none => (by cases none)⟩

theorem Settled.bind {after : First → Option Third} {afterOther : Second → Option Fourth}
    (settled : Settled view Good first second)
    (next : ∀ outcome, Good outcome →
      Settled later GoodLater (after (view outcome)) (afterOther outcome)) :
    Settled later GoodLater (first.bind after) (second.bind afterOther) := by
  rw [settled.same]
  cases ended : second with
  | none => exact .of_none
  | some outcome => exact next outcome (settled.good _ ended)

theorem Settled.map {change : First → Third} {changeOther : Second → Fourth}
    (settled : Settled view Good first second)
    (same : ∀ outcome, Good outcome → change (view outcome) = later (changeOther outcome))
    (good : ∀ outcome, Good outcome → GoodLater (changeOther outcome)) :
    Settled later GoodLater (first.map change) (second.map changeOther) := by
  rw [settled.same]
  cases ended : second with
  | none => exact .of_none
  | some outcome =>
    have kept := settled.good _ ended
    refine ⟨congrArg some (same outcome kept), fun _ changed => ?_⟩
    cases changed
    exact good outcome kept

end Settled

/-! ### The same client of another server -/

section Servers

variable {A B : Type} {maxFds : Nat} {buffer : Nat}

def FileClient.mapServer (project : B → A) (client : FileClient B maxFds) : FileClient A maxFds :=
  { client with server := project client.server }

def Opening.mapServer (project : B → A) : Opening B maxFds → Opening A maxFds
  | .refused result client => .refused result (client.mapServer project)
  | .asked fd fullPath completion client =>
    .asked fd fullPath completion (client.mapServer project)

/-- The client that is left when a file is opened. -/
def Opening.next : Opening B maxFds → FileClient B maxFds
  | .refused _ client => client
  | .asked _ _ _ client => client

/-- Two runs of a part of a call leave the same client, apart from what the projection forgets of
its server. -/
def CallSettled {Outcome : Type} (project : B → A) (Good : B → Prop)
    (first : Option (Outcome × FileClient A maxFds))
    (second : Option (Outcome × FileClient B maxFds)) : Prop :=
  Settled (fun outcome => (outcome.1, outcome.2.mapServer project))
    (fun outcome => Good outcome.2.server) first second

def OpeningSettled (project : B → A) (Good : B → Prop) (first : Option (Opening A maxFds))
    (second : Option (Opening B maxFds)) : Prop :=
  Settled (Opening.mapServer project) (fun opening => Good opening.next.server) first second

variable {Outcome Other : Type} {project : B → A} {Good : B → Prop} {client : FileClient B maxFds}

theorem CallSettled.of_some (client : FileClient B maxFds) (outcome : Outcome)
    (good : Good client.server) :
    CallSettled project Good (some (outcome, client.mapServer project)) (some (outcome, client)) :=
  Settled.of_some (outcome, client) good

theorem fsBufferAllocate_mapServer :
    (client.mapServer project).fsBufferAllocate =
      client.fsBufferAllocate.map fun taken => (taken.1, taken.2.mapServer project) := by
  unfold FileClient.fsBufferAllocate
  rw [Option.map_map]
  rfl

theorem fsBufferFree_mapServer (buffer : Nat) :
    (client.mapServer project).fsBufferFree buffer =
      (client.fsBufferFree buffer).map (FileClient.mapServer project) := by
  unfold FileClient.fsBufferFree
  rw [Option.map_map]
  rfl

theorem fds_mapServer : (client.mapServer project).fds = client.fds := rfl

theorem fdPath_mapServer : (client.mapServer project).fdPath = client.fdPath := rfl

theorem fsServerFdMap_mapServer :
    (client.mapServer project).fsServerFdMap = client.fsServerFdMap := rfl

theorem serverFd_mapServer (fd : Fin maxFds) :
    (client.mapServer project).serverFd fd = client.serverFd fd := rfl

theorem holding_mapServer (i : Nat) :
    (client.mapServer project).holding i = (client.holding i).mapServer project := rfl

theorem none_mapServer (full : client.fsBufferAllocate = none) :
    (client.mapServer project).fsBufferAllocate = none := by
  rw [fsBufferAllocate_mapServer, full]
  rfl

theorem some_mapServer {next : FileClient B maxFds}
    (taken : client.fsBufferAllocate = some (buffer, next)) :
    (client.mapServer project).fsBufferAllocate = some (buffer, next.mapServer project) := by
  rw [fsBufferAllocate_mapServer, taken]
  rfl

theorem OneBuffer.mapServer {i : Nat} (one : OneBuffer client i) :
    OneBuffer (client.mapServer project) i where
  first := some_mapServer one.first
  second := by
    rw [holding_mapServer]
    exact none_mapServer one.second
  small := one.small
  unused := one.unused

theorem TwoBuffers.mapServer {i j : Nat} (two : TwoBuffers client i j) :
    TwoBuffers (client.mapServer project) i j where
  first := some_mapServer two.first
  second := by
    rw [holding_mapServer]
    exact some_mapServer two.second
  firstSmall := two.firstSmall
  secondSmall := two.secondSmall
  firstUnused := two.firstUnused
  secondUnused := two.secondUnused
  different := two.different

theorem fsBufferFree_server {next : FileClient B maxFds}
    (freed : client.fsBufferFree buffer = some next) : next.server = client.server := by
  obtain ⟨_, _, same⟩ := Option.map_eq_some_iff.mp freed
  rw [← same]

/-- A buffer is given back. -/
theorem settled_fsBufferFree (client : FileClient B maxFds) (buffer : Nat)
    (good : Good client.server) :
    Settled (FileClient.mapServer project) (fun next => Good next.server)
      ((client.mapServer project).fsBufferFree buffer) (client.fsBufferFree buffer) := by
  rw [fsBufferFree_mapServer]
  cases freed : client.fsBufferFree buffer with
  | none => exact .of_none
  | some next =>
    refine .of_some next ?_
    rw [fsBufferFree_server freed]
    exact good

end Servers

/-! ### Environments that answer in the same way -/

/-- Where a server is good, the two environments issue each command and answer in the same way. -/
structure Simulates {A B : Type} (project : B → A) (Good : B → Prop) (first : FileEnv A)
    (second : FileEnv B) : Prop where
  errnos : first.behindErrnos = second.behindErrnos
  available : ∀ server, Good server →
    first.available (project server) = true ∧ second.available server = true
  completion : ∀ command share server, Good server →
    (first.answer command share (project server)).completion =
      (second.answer command share server).completion
  share : ∀ command share server, Good server →
    (first.answer command share (project server)).share = (second.answer command share server).share
  server : ∀ command share server, Good server →
    (first.answer command share (project server)).server =
      project (second.answer command share server).server
  good : ∀ command share server, Good server → Good (second.answer command share server).server

section Calls

variable {A B : Type} {maxFds : Nat} {project : B → A} {Good : B → Prop} {first : FileEnv A}
  {second : FileEnv B} {client : FileClient B maxFds} {path : List UInt8T}

theorem Simulates.statusLong (simulates : Simulates project Good first second) (status : UInt64T) :
    first.statusLong status = second.statusLong status := by
  unfold FileEnv.statusLong FileEnv.errnoOf
  rw [simulates.errnos]

theorem Simulates.statusInt (simulates : Simulates project Good first second) (status : UInt64T) :
    first.statusInt status = second.statusInt status := by
  unfold FileEnv.statusInt FileEnv.errnoOf
  rw [simulates.errnos]

/-- A command comes to the same, whatever the completion holds before. -/
theorem Simulates.command (simulates : Simulates project Good first second)
    (client : FileClient B maxFds) (good : Good client.server) (completion completion' : Completion)
    (command : FsCommand) :
    ∃ answered next, Good next.server ∧
      (client.mapServer project).fsCommandBlocking first completion command =
        { err := false, completion := answered, client := next.mapServer project } ∧
      client.fsCommandBlocking second completion' command =
        { err := false, completion := answered, client := next } ∧
      answered.status.toNat < fsStatusNumStatuses := by
  obtain ⟨available, available'⟩ := simulates.available _ good
  have issued := FileClient.fsCommandBlocking_of_available available' completion' command
  refine ⟨_, _, simulates.good _ _ _ good, ?_, issued, second.protocol _ _ _⟩
  have projected : first.available (client.mapServer project).server = true := available
  rw [FileClient.fsCommandBlocking_of_available projected]
  dsimp only [FileClient.mapServer]
  rw [simulates.completion _ _ _ good, simulates.share _ _ _ good, simulates.server _ _ _ good]

/-! ### Queries -/

section

variable (simulates : Simulates project Good first second) (client : FileClient B maxFds)
  (good : Good client.server)
include simulates good

/-- What two runs of `fstat_int` come to: the information is the same, if there is any, and if it
was the same before. -/
theorem Simulates.fstatInt (completion completion' : Completion) (path : List UInt8T)
    (statbuf statbuf' : Stat) :
    ∃ result stat stat' next, Good next.server ∧ (result = 0 → stat = stat') ∧
      (statbuf = statbuf' → stat = stat') ∧
      (client.mapServer project).fstatInt first completion path statbuf =
        some (result, stat, next.mapServer project) ∧
      client.fstatInt second completion' path statbuf' = some (result, stat', next) := by
  by_cases root : path = rootPath
  · refine ⟨0, .root, .root, client, good, fun _ => rfl, fun _ => rfl, ?_, ?_⟩
    · unfold FileClient.fstatInt
      rw [if_pos root]
    · unfold FileClient.fstatInt
      rw [if_pos root]
  rcases buffers_cases client with ⟨i, j, two⟩ | ⟨i, one⟩ | none
  · obtain ⟨answered, next, good, issued, issued', inTable⟩ := simulates.command
      (((client.holding i).holding j).fillPath (i * Fs.fsBufferSize) path) good completion
      completion' (.stat (bufferAt (i * Fs.fsBufferSize) path.length)
        (bufferAt (j * Fs.fsBufferSize) Fs.fsBufferSize))
    have asked : (client.mapServer project).askStat first completion path i j = _ := issued
    have asked' : client.askStat second completion' path i j = _ := issued'
    rw [two.mapServer.fstatInt completion root statbuf, two.fstatInt completion' root statbuf',
      asked, asked']
    by_cases failed : answered.status ≠ fsStatusSuccess
    · have negative : second.statusInt answered.status < 0 :=
        FileEnv.statusInt_neg inTable failed
      rw [if_pos failed, if_pos failed, simulates.statusInt]
      exact ⟨_, statbuf, statbuf', (next.freed i).freed j, good,
        fun zero => absurd zero negative.ne, fun same => same, rfl, rfl⟩
    · rw [if_neg failed, if_neg failed]
      exact ⟨0, _, _, (next.freed i).freed j, good, fun _ => rfl, fun _ => rfl, rfl, rfl⟩
  · exact ⟨_, statbuf, statbuf', (client.holding i).freed i, good,
      fun zero => absurd zero (FileErrno.result_neg _).ne, fun same => same,
      one.mapServer.fstatInt first completion root statbuf,
      one.fstatInt second completion' root statbuf'⟩
  · exact ⟨_, statbuf, statbuf', client, good, fun zero => absurd zero (FileErrno.result_neg _).ne,
      fun same => same, fstatInt_of_none (none_mapServer none) first completion root statbuf,
      fstatInt_of_none none second completion' root statbuf'⟩

section

variable (locals locals' : Locals)

theorem Simulates.fstatTo (path : List UInt8T) :
    CallSettled project Good ((client.mapServer project).fstatTo first locals path)
      (client.fstatTo second locals' path) := by
  obtain ⟨result, stat, stat', next, good, _, same, looked, looked'⟩ := simulates.fstatInt client
    good (locals.fstatInt 0) (locals'.fstatInt 0) path client.statbuf client.statbuf
  unfold FileClient.fstatTo
  rw [looked', ← same rfl]
  rw [show (client.mapServer project).fstatInt first (locals.fstatInt 0) path
    (client.mapServer project).statbuf = _ from looked]
  exact .of_some { next with statbuf := stat } result good

theorem Simulates.sysFstat (fd : Int) (statbuf : Bool) :
    CallSettled project Good ((client.mapServer project).sysFstat first locals fd statbuf)
      (client.sysFstat second locals' fd statbuf) := by
  unfold FileClient.sysFstat
  split_ifs
  · exact .of_some _ _ good
  · exact .of_some { client with statbuf := .services } 0 good
  · exact .of_some { client with statbuf := .etc } 0 good
  · rw [fds_mapServer]
    cases client.fds.posixFdEntry fd with
    | none => exact .of_some _ _ good
    | some entry =>
      dsimp only
      split_ifs
      · exact simulates.fstatTo client good locals locals' (client.fdPath entry)
      · exact .of_none

theorem Simulates.sysFstatat (dirfd : Int) (path : Option (List UInt8T)) (statbuf : Bool) :
    CallSettled project Good ((client.mapServer project).sysFstatat first locals dirfd path statbuf)
      (client.sysFstatat second locals' dirfd path statbuf) := by
  unfold FileClient.sysFstatat
  split_ifs
  · exact .of_some _ _ good
  · rw [fdPath_mapServer]
    cases resolvePath client.fdPath dirfd path pathMax with
    | error error => exact .of_some _ _ good
    | ok fullPath =>
      dsimp only
      split_ifs
      · exact .of_some { client with statbuf := .etc } 0 good
      · exact .of_some { client with statbuf := .services } 0 good
      · exact simulates.fstatTo client good locals locals' fullPath

theorem Simulates.sysClose (fd : Int) :
    CallSettled project Good ((client.mapServer project).sysClose first locals fd)
      (client.sysClose second locals' fd) := by
  unfold FileClient.sysClose
  split_ifs
  · exact .of_some _ _ good
  · rw [fds_mapServer]
    cases found : client.fds.posixFdEntry fd with
    | none => exact .of_some _ _ good
    | some entry =>
      dsimp only
      split_ifs
      · obtain ⟨answered, next, good, issued, issued', _⟩ := simulates.command client good
          locals.completion locals'.completion (if (client.fds.fdTable entry).directory then
            .dirClose (client.serverFd entry) else .fileClose (client.serverFd entry))
        unfold FileClient.fileClose
        rw [fds_mapServer, found]
        dsimp only
        rw [serverFd_mapServer, issued, issued', simulates.statusInt]
        exact .of_some (FileClient.posixFdDeallocate { next with
          fsServerFdMap := Function.update next.fsServerFdMap entry (-1)
          fdPath := Function.update next.fdPath entry [] } entry) _ good
      · exact .of_none

/-! ### Opening -/

theorem Simulates.checkExists (flags : OpenFlags) (fullPath : List UInt8T) :
    CallSettled project Good ((client.mapServer project).checkExists first locals flags fullPath)
      (client.checkExists second locals' flags fullPath) := by
  unfold FileClient.checkExists
  split_ifs
  · obtain ⟨result, stat, stat', next, good, _, _, looked, looked'⟩ := simulates.fstatInt client
      good (locals.fstatInt 0) (locals'.fstatInt 0) fullPath (locals.statbuf 0) (locals'.statbuf 0)
    rw [looked, looked']
    exact .of_some _ _ good
  · exact .of_some _ _ good

theorem Simulates.checkDirectory (flags : OpenFlags) (fullPath : List UInt8T) :
    CallSettled project Good ((client.mapServer project).checkDirectory first locals flags fullPath)
      (client.checkDirectory second locals' flags fullPath) := by
  unfold FileClient.checkDirectory
  split_ifs
  · obtain ⟨result, stat, stat', next, good, known, _, looked, looked'⟩ :=
      simulates.fstatInt client good (locals.fstatInt 1) (locals'.fstatInt 1) fullPath
        (locals.statbuf 1) (locals'.statbuf 1)
    rw [looked, looked']
    have same : (result = 0 && stat.isDir) = (result = 0 && stat'.isDir) := by
      by_cases zero : result = 0
      · rw [known zero]
      · rw [decide_eq_false zero, Bool.false_and, Bool.false_and]
    dsimp only [Option.map_some]
    rw [same]
    exact .of_some _ _ good
  · exact .of_some _ _ good

end

end

theorem settled_giveUp (client : FileClient B maxFds) (good : Good client.server) (fd : Fin maxFds)
    (pathBuffer : Nat) (error : FileErrno) :
    OpeningSettled project Good ((client.mapServer project).giveUp fd pathBuffer error)
      (client.giveUp fd pathBuffer error) := by
  exact (settled_fsBufferFree (client.posixFdDeallocate fd) pathBuffer good).map
    (fun _ _ => rfl) fun _ good => good

section

variable (simulates : Simulates project Good first second) (client : FileClient B maxFds)
  (good : Good client.server)
include simulates good

theorem Simulates.openChecked (locals locals' : Locals) (flags : OpenFlags) (fullPath : List UInt8T)
    (fd : Fin maxFds) (pathBuffer : Nat) :
    OpeningSettled project Good
      ((client.mapServer project).openChecked first locals flags fullPath fd pathBuffer)
      (client.openChecked second locals' flags fullPath fd pathBuffer) := by
  refine (simulates.checkExists client good locals locals' flags fullPath).bind ?_
  rintro ⟨present, looked⟩ good
  cases present with
  | true => exact settled_giveUp looked good fd pathBuffer .eexist
  | false =>
    dsimp only
    refine (simulates.checkDirectory looked good locals locals' flags fullPath).bind ?_
    rintro ⟨directory, checked⟩ good
    cases directory with
    | true => exact settled_giveUp checked good fd pathBuffer .eisdir
    | false =>
      obtain ⟨answered, next, good, issued, issued', _⟩ := simulates.command checked good
        locals.completion locals'.completion
        (if flags.directory then .dirOpen (bufferAt pathBuffer fullPath.length)
          else .fileOpen (bufferAt pathBuffer fullPath.length) (FileClient.fsFlags flags))
      rw [issued, issued']
      exact (settled_fsBufferFree next pathBuffer good).map (fun _ _ => rfl) fun _ good => good

theorem Simulates.askToOpen (locals locals' : Locals) (dirfd : Int) (path : Option (List UInt8T))
    (flags : OpenFlags) :
    OpeningSettled project Good ((client.mapServer project).askToOpen first locals dirfd path flags)
      (client.askToOpen second locals' dirfd path flags) := by
  have refused (result : Int) {client : FileClient B maxFds} (good : Good client.server) :
      OpeningSettled project Good (some (.refused result (client.mapServer project)))
        (some (.refused result client)) :=
    Settled.of_some (Opening.refused result client) good
  unfold FileClient.askToOpen
  rw [fdPath_mapServer]
  cases resolvePath client.fdPath dirfd path pathMax with
  | error error => exact refused _ good
  | ok fullPath =>
    dsimp only
    split_ifs
    · exact refused _ good
    · exact refused _ good
    · exact refused _ good
    · rw [fsBufferAllocate_mapServer]
      cases taken : client.fsBufferAllocate with
      | none => exact refused _ good
      | some held =>
        obtain ⟨buffer, held⟩ := held
        have kept : Good held.server := by
          obtain ⟨_, _, _, _, rfl⟩ := FileClient.fsBufferAllocate_eq_some taken
          exact good
        dsimp only [Option.map_some]
        rw [fds_mapServer]
        cases held.fds.posixFdAllocate with
        | none =>
          exact (settled_fsBufferFree held buffer kept).map (fun _ _ => rfl) fun _ good => good
        | some allocated =>
          obtain ⟨fd, fds⟩ := allocated
          dsimp only
          rw [fsServerFdMap_mapServer]
          split_ifs
          · exact simulates.openChecked (FileClient.fillPath { held with fds } buffer fullPath) kept
              locals locals' flags fullPath fd buffer
          · exact .of_none

theorem Simulates.truncateOpened (flags : OpenFlags) (completion : Completion) :
    ∃ answered next, Good next.server ∧
      (client.mapServer project).truncateOpened first flags completion =
        { err := false, completion := answered, client := next.mapServer project } ∧
      client.truncateOpened second flags completion =
        { err := false, completion := answered, client := next } := by
  unfold FileClient.truncateOpened
  split_ifs
  · obtain ⟨answered, next, good, issued, issued', _⟩ := simulates.command client good completion
      completion (.fileTruncate completion.data 0)
    exact ⟨answered, next, good, issued, issued'⟩
  · exact ⟨completion, client, good, rfl, rfl⟩

theorem Simulates.finishOpen (flags : OpenFlags) (fd : Fin maxFds) (fullPath : List UInt8T)
    (completion : Completion) :
    CallSettled project Good
      ((client.mapServer project).finishOpen first flags fd fullPath completion)
      (client.finishOpen second flags fd fullPath completion) := by
  unfold FileClient.finishOpen
  by_cases failed : completion.status ≠ fsStatusSuccess
  · rw [if_pos failed, if_pos failed, simulates.statusLong]
    exact .of_some (client.posixFdDeallocate fd) _ good
  · obtain ⟨answered, next, good, truncated, truncated'⟩ :=
      simulates.truncateOpened client good flags completion
    rw [if_neg failed, if_neg failed, truncated, truncated']
    by_cases refused : flags.directory = false ∧ answered.status ≠ fsStatusSuccess
    · rw [if_pos refused, if_pos refused, simulates.statusLong]
      exact .of_some (next.posixFdDeallocate fd) _ good
    · rw [if_neg refused, if_neg refused, fds_mapServer]
      cases next.fds.posixFdEntry fd with
      | none => exact .of_none
      | some entry => exact .of_some (next.enterFile entry flags fullPath completion.data) _ good

theorem Simulates.sysOpenat (locals locals' : Locals) (dirfd : Int) (path : Option (List UInt8T))
    (flags : OpenFlags) :
    CallSettled project Good ((client.mapServer project).sysOpenat first locals dirfd path flags)
      (client.sysOpenat second locals' dirfd path flags) := by
  refine (simulates.askToOpen client good locals locals' dirfd path flags).bind ?_
  intro opening good
  cases opening with
  | refused result next => exact CallSettled.of_some next result good
  | asked fd fullPath completion next =>
    exact simulates.finishOpen next good flags fd fullPath completion

/-! ### Directories and removal -/

theorem Simulates.pathCommand (locals locals' : Locals) (fullPath : List UInt8T)
    (command : Fs.FsBuffer → FsCommand) :
    CallSettled project Good ((client.mapServer project).pathCommand first locals fullPath command)
      (client.pathCommand second locals' fullPath command) := by
  unfold FileClient.pathCommand
  split_ifs
  · exact .of_some _ _ good
  · rw [fsBufferAllocate_mapServer]
    cases taken : client.fsBufferAllocate with
    | none => exact .of_some _ _ good
    | some held =>
      obtain ⟨buffer, held⟩ := held
      have kept : Good held.server := by
        obtain ⟨_, _, _, _, rfl⟩ := FileClient.fsBufferAllocate_eq_some taken
        exact good
      obtain ⟨answered, next, good, issued, issued', _⟩ := simulates.command
        (held.fillPath buffer fullPath) kept locals.completion locals'.completion
        (command (bufferAt buffer fullPath.length))
      have issuedFirst : ((held.mapServer project).fillPath buffer fullPath).fsCommandBlocking first
          locals.completion (command (bufferAt buffer fullPath.length)) = _ := issued
      dsimp only [Option.map_some]
      rw [issuedFirst, issued']
      refine (settled_fsBufferFree next buffer good).map (fun freed _ => ?_) fun freed good => ?_
      · split_ifs
        · rw [simulates.statusLong]
        · rfl
      · split_ifs
        · exact good
        · exact good

theorem Simulates.sysMkdirat (locals locals' : Locals) (dirfd : Int) (path : Option (List UInt8T)) :
    CallSettled project Good ((client.mapServer project).sysMkdirat first locals dirfd path)
      (client.sysMkdirat second locals' dirfd path) := by
  unfold FileClient.sysMkdirat
  rw [fdPath_mapServer]
  cases resolvePath client.fdPath dirfd path pathMax with
  | error error => exact .of_some _ _ good
  | ok fullPath => exact simulates.pathCommand client good locals locals' fullPath .dirCreate

/-- The information is looked at only where it is there. -/
theorem Simulates.parentsRefuse (completions completions' : Nat → Completion)
    (statbuf statbuf' : Stat) (parentPath : List UInt8T) :
    CallSettled project Good
      (FileClient.parentsRefuse first completions statbuf parentPath (client.mapServer project))
      (FileClient.parentsRefuse second completions' statbuf' parentPath client) := by
  induction parentPath using walk_cases generalizing completions completions' statbuf statbuf'
      client with
  | none path noSlash =>
    rw [parentsRefuse_of_none _ _ _ _ noSlash, parentsRefuse_of_none _ _ _ _ noSlash]
    exact .of_some _ _ good
  | root path last =>
    rw [parentsRefuse_of_root _ _ _ _ last, parentsRefuse_of_root _ _ _ _ last]
    exact .of_some _ _ good
  | slash path before found inductionHypothesis =>
    obtain ⟨result, stat, stat', next, good, known, _, looked, looked'⟩ := simulates.fstatInt client
      good (completions 0) (completions' 0) (path.take (before + 1)) statbuf statbuf'
    rw [parentsRefuse_of_slash _ _ _ _ found, parentsRefuse_of_slash _ _ _ _ found, looked, looked',
      Option.bind_some, Option.bind_some]
    dsimp only
    split_ifs with zero
    · rw [known zero]
      exact .of_some _ _ good
    · exact inductionHypothesis next good _ _ stat stat'

theorem Simulates.checkUnlink (locals locals' : Locals) (fullPath : List UInt8T) :
    CallSettled project Good ((client.mapServer project).checkUnlink first locals fullPath)
      (client.checkUnlink second locals' fullPath) := by
  obtain ⟨result, stat, stat', next, good, known, _, looked, looked'⟩ := simulates.fstatInt client
    good (locals.fstatInt 0) (locals'.fstatInt 0) fullPath (locals.statbuf 0) (locals'.statbuf 0)
  unfold FileClient.checkUnlink
  rw [looked, looked', Option.bind_some, Option.bind_some]
  dsimp only
  by_cases zero : result = 0
  · rw [known zero, if_neg (not_not.mpr zero), if_neg (not_not.mpr zero)]
    split_ifs
    · exact .of_some _ _ good
    · exact .of_some _ _ good
  · have notBoth (stat : Stat) : ¬ (result = 0 ∧ stat.isDir = true) := fun both => zero both.1
    rw [if_neg (notBoth stat), if_neg (notBoth stat'), if_pos zero, if_pos zero]
    exact (simulates.parentsRefuse next good _ _ stat stat' fullPath).map (fun _ _ => rfl)
      fun _ good => good

theorem Simulates.sysUnlinkat (locals locals' : Locals) (dirfd : Int) (path : Option (List UInt8T))
    (removedir : Bool) :
    CallSettled project Good
      ((client.mapServer project).sysUnlinkat first locals dirfd path removedir)
      (client.sysUnlinkat second locals' dirfd path removedir) := by
  unfold FileClient.sysUnlinkat
  rw [fdPath_mapServer]
  cases resolvePath client.fdPath dirfd path pathMax with
  | error error => exact .of_some _ _ good
  | ok fullPath =>
    dsimp only
    split_ifs
    · exact .of_some _ _ good
    · exact simulates.pathCommand client good locals locals' fullPath .dirRemove
    · refine (simulates.checkUnlink client good locals locals' fullPath).bind ?_
      rintro ⟨refused, checked⟩ good
      cases refused with
      | some error => exact CallSettled.of_some checked _ good
      | none => exact simulates.pathCommand checked good locals locals' fullPath .fileRemove

end

end Calls

/-! ### Calls that check whether a command was issued -/

/-- What the first environment cannot issue, the second cannot issue or its server has no memory
for, and otherwise they answer in the same way. -/
structure Refuses {A B : Type} (project : B → A) (first : FileEnv A) (second : FileEnv B) :
    Prop where
  errnos : first.behindErrnos = second.behindErrnos
  issue : ∀ command share server,
    let answered := second.answer command share server
    (first.available (project server) = second.available server ∧
      first.answer command share (project server) =
        { answered with server := project answered.server }) ∨
    (first.available (project server) = false ∧ second.available server = true ∧
      answered.completion.status = fsStatusAllocationError ∧ answered.share = share ∧
        project answered.server = project server)

def Transfer.mapServer {A B : Type} {maxFds : Nat} (project : B → A) :
    Transfer B maxFds → Transfer A maxFds
  | .failed result next => .failed result (next.mapServer project)
  | .moved count next => .moved count (next.mapServer project)

section Checked

variable {A B : Type} {maxFds : Nat} {project : B → A} {first : FileEnv A} {second : FileEnv B}
  {call : FileCall}

theorem statusLong_allocationError (env : FileEnv A) :
    env.statusLong fsStatusAllocationError = FileErrno.enomem.result := by
  have error : env.errnoOf fsStatusAllocationError = BitVec.ofNat 64 12 := rfl
  unfold FileEnv.statusLong
  rw [error]
  decide

/-- The client after the server has answered. -/
def FileClient.answered (client : FileClient B maxFds) (answered : Answered B) :
    FileClient B maxFds :=
  { client with
    buffers := { client.buffers with share := answered.share }
    server := answered.server }

/-- A command comes to the same, or is not issued and refused. -/
inductive SameOrRefused (project : B → A) : FileClient.Issued A maxFds →
    FileClient.Issued B maxFds → Prop
  | same (answered : Completion) (next : FileClient B maxFds) :
      SameOrRefused project
        { err := false, completion := answered, client := next.mapServer project }
        { err := false, completion := answered, client := next }
  | refused (completion answered : Completion) (next : FileClient B maxFds) {err : Bool}
      (refused : err = true ∨ answered.status = fsStatusAllocationError) :
      SameOrRefused project { err := true, completion, client := next.mapServer project }
        { err, completion := answered, client := next }

theorem Refuses.command (refuses : Refuses project first second) (client : FileClient B maxFds)
    (completion completion' : Completion) (command : FsCommand) :
    SameOrRefused project ((client.mapServer project).fsCommandBlocking first completion command)
      (client.fsCommandBlocking second completion' command) := by
  cases available' : second.available client.server with
  | false =>
    have available : first.available (client.mapServer project).server = false := by
      rcases refuses.issue command client.buffers.share client.server with ⟨same, _⟩ | ⟨none, _⟩
      · exact same.trans available'
      · exact none
    rw [FileClient.fsCommandBlocking_of_unavailable available,
      FileClient.fsCommandBlocking_of_unavailable available']
    exact .refused completion completion' client (.inl rfl)
  | true =>
    rw [FileClient.fsCommandBlocking_of_available available']
    rcases refuses.issue command client.buffers.share client.server with
      ⟨same, answer⟩ | ⟨available, _, status, share, server⟩
    · have available : first.available (client.mapServer project).server = true :=
        same.trans available'
      rw [FileClient.fsCommandBlocking_of_available available]
      have answer : first.answer command (client.mapServer project).buffers.share
          (client.mapServer project).server = _ := answer
      rw [answer]
      exact .same (second.answer command client.buffers.share client.server).completion
        (client.answered (second.answer command client.buffers.share client.server))
    · rw [FileClient.fsCommandBlocking_of_unavailable available]
      have unchanged : client.mapServer project = (client.answered
          (second.answer command client.buffers.share client.server)).mapServer project := by
        dsimp only [FileClient.mapServer, FileClient.answered] at share server ⊢
        rw [share, server]
      rw [unchanged]
      exact .refused _ _ _ (.inr status)

theorem Refuses.statusLong (refuses : Refuses project first second) (status : UInt64T) :
    first.statusLong status = second.statusLong status := by
  unfold FileEnv.statusLong FileEnv.errnoOf
  rw [refuses.errnos]

theorem allocationError_ne_success : fsStatusAllocationError ≠ fsStatusSuccess := by
  decide

/-- What a round makes of a command. -/
def roundOf (env : FileEnv A) (issued : FileClient.Issued A maxFds)
    (move : UInt64T → FileClient A maxFds → FileClient A maxFds) : Transfer A maxFds :=
  if issued.err then .failed FileErrno.enomem.result issued.client
  else if issued.completion.status ≠ fsStatusSuccess then
    .failed (env.statusLong issued.completion.status) issued.client
  else .moved issued.completion.data (move issued.completion.data issued.client)

section

variable (refuses : Refuses project first second)
include refuses

theorem Refuses.roundOf {issued : FileClient.Issued A maxFds} {issued' : FileClient.Issued B maxFds}
    (comes : SameOrRefused project issued issued')
    (move : UInt64T → FileClient A maxFds → FileClient A maxFds)
    (move' : UInt64T → FileClient B maxFds → FileClient B maxFds)
    (same : ∀ count next,
      move count (next.mapServer project) = (move' count next).mapServer project) :
    roundOf first issued move = (LionsOS.Posix.roundOf second issued' move').mapServer project := by
  unfold LionsOS.Posix.roundOf
  cases comes with
  | same answered next =>
    dsimp only
    rw [if_neg Bool.false_ne_true, if_neg Bool.false_ne_true, refuses.statusLong, same]
    split_ifs
    · rfl
    · rfl
  | @refused completion answered next err refused =>
    dsimp only
    rw [if_pos rfl]
    rcases refused with err | status
    · rw [if_pos err]
      rfl
    · rw [status, if_pos allocationError_ne_success, statusLong_allocationError, ite_self]
      rfl

theorem Refuses.writeChunk (client : FileClient B maxFds) (fd : Fin maxFds) (buffer : Nat)
    (completion completion' : Completion) (written : UInt64T) (buf toWrite : Nat) :
    (client.mapServer project).writeChunk first fd buffer completion written buf toWrite =
      (client.writeChunk second fd buffer completion' written buf toWrite).mapServer project :=
  refuses.roundOf
    (refuses.command (client.fillBuffer buffer toWrite client.memory buf) completion completion'
      (.fileWrite (client.serverFd fd) (client.filePtr fd + written) (bufferAt buffer toWrite)))
    (fun _ next => next) (fun _ next => next) fun _ _ => rfl

theorem Refuses.readChunk (client : FileClient B maxFds) (fd : Fin maxFds) (buffer : Nat)
    (completion completion' : Completion) (totalRead : UInt64T) (buf toRead : Nat) :
    (client.mapServer project).readChunk first fd buffer completion totalRead buf toRead =
      (client.readChunk second fd buffer completion' totalRead buf toRead).mapServer project :=
  refuses.roundOf
    (refuses.command client completion completion'
      (.fileRead (client.serverFd fd) (client.filePtr fd + totalRead) (bufferAt buffer toRead)))
    (fun count next => { next with
      memory := Bytes.copy next.memory ⟨buf, count.toNat⟩ next.buffers.share buffer })
    (fun count next => { next with
      memory := Bytes.copy next.memory ⟨buf, count.toNat⟩ next.buffers.share buffer })
    fun _ _ => rfl

end

/-- The loop comes to the same if its rounds do. -/
theorem chunkLoop_mapServer
    {chunk : FileClient A maxFds → Completion → UInt64T → Nat → Nat → Transfer A maxFds}
    {chunk' : FileClient B maxFds → Completion → UInt64T → Nat → Nat → Transfer B maxFds}
    (round : ∀ client completion completion' total buf size,
      chunk (client.mapServer project) completion total buf size =
        (chunk' client completion' total buf size).mapServer project)
    (client : FileClient B maxFds) (rounds rounds' : Nat → Completion) (total : UInt64T)
    (buf len : Nat) :
    FileClient.chunkLoop chunk rounds total buf len (client.mapServer project) =
      (FileClient.chunkLoop chunk' rounds' total buf len client).mapServer project := by
  induction len using Nat.strong_induction_on generalizing client rounds rounds' total buf with
  | _ len inductionHypothesis =>
    rw [FileClient.chunkLoop, FileClient.chunkLoop]
    split_ifs with none
    · rfl
    · dsimp only
      rw [round client (rounds 0) (rounds' 0)]
      cases chunk' client (rounds' 0) total buf (min len Fs.fsBufferSize) with
      | failed result next => rfl
      | moved count next =>
        dsimp only [Transfer.mapServer]
        split_ifs
        · rfl
        · have less : len - min len Fs.fsBufferSize < len := by
            unfold Fs.fsBufferSize
            omega
          exact inductionHypothesis _ less _ _ _ _ _

theorem fileTransfer_mapServer
    {chunk : FileClient A maxFds → Fin maxFds → Nat → Completion → UInt64T → Nat → Nat →
      Transfer A maxFds}
    {chunk' : FileClient B maxFds → Fin maxFds → Nat → Completion → UInt64T → Nat → Nat →
      Transfer B maxFds}
    (round : ∀ client fd buffer completion completion' total buf size,
      chunk (client.mapServer project) fd buffer completion total buf size =
        (chunk' client fd buffer completion' total buf size).mapServer project)
    (client : FileClient B maxFds) (rounds rounds' : Nat → Completion) (buf len : Nat) (fd : Int) :
    (client.mapServer project).fileTransfer chunk rounds buf len fd =
      (client.fileTransfer chunk' rounds' buf len fd).map
        fun outcome => (outcome.1, outcome.2.mapServer project) := by
  unfold FileClient.fileTransfer
  split_ifs
  · rfl
  · rfl
  · rw [fds_mapServer]
    cases client.fds.posixFdEntry fd with
    | none => rfl
    | some entry =>
      rw [fsBufferAllocate_mapServer]
      cases client.fsBufferAllocate with
      | none => rfl
      | some held =>
        obtain ⟨buffer, held⟩ := held
        dsimp only [Option.map_some]
        rw [chunkLoop_mapServer (fun client => round client entry buffer) held rounds rounds' 0 buf
          len]
        cases FileClient.chunkLoop (fun client => chunk' client entry buffer) rounds' 0 buf len
            held with
        | failed result next | moved total next =>
          dsimp only [Transfer.mapServer]
          rw [fsBufferFree_mapServer, Option.map_map, Option.map_map]
          rfl

section

variable (refuses : Refuses project first second) (client : FileClient B maxFds)
include refuses client

theorem Refuses.sysRead (locals locals' : Locals) (fd : Int) (buf count : Nat) :
    (client.mapServer project).sysRead first locals fd buf count =
      (client.sysRead second locals' fd buf count).map
        fun outcome => (outcome.1, outcome.2.mapServer project) := by
  unfold FileClient.sysRead
  split_ifs
  · rfl
  · rfl
  · rfl
  · rw [fds_mapServer]
    cases client.fds.posixFdEntry fd with
    | none => rfl
    | some entry =>
      dsimp only
      split_ifs
      · exact fileTransfer_mapServer (fun client => refuses.readChunk client) client _ _ _ _ _
      · rfl

theorem Refuses.sysWrite (locals locals' : Locals) (fd : Int) (buf count : Nat) :
    (client.mapServer project).sysWrite first locals fd buf count =
      (client.sysWrite second locals' fd buf count).map
        fun outcome => (outcome.1, outcome.2.mapServer project) := by
  unfold FileClient.sysWrite
  split_ifs
  · rfl
  · rfl
  · rfl
  · rw [fds_mapServer]
    cases client.fds.posixFdEntry fd with
    | none => rfl
    | some entry =>
      dsimp only
      split_ifs
      · exact fileTransfer_mapServer (fun client => refuses.writeChunk client) client _ _ _ _ _
      · rfl

theorem Refuses.sysLseek (locals locals' : Locals) (fd : Int) (offset : UInt64T) (whence : Int) :
    (client.mapServer project).sysLseek first locals fd offset whence =
      ((client.sysLseek second locals' fd offset whence).1,
        (client.sysLseek second locals' fd offset whence).2.mapServer project) := by
  unfold FileClient.sysLseek
  by_cases special : fd = servicesFd maxFds ∨ fd = etcFd maxFds
  · rw [if_pos special, if_pos special]
  rw [if_neg special, if_neg special, fds_mapServer]
  cases client.fds.posixFdEntry fd with
  | none => rfl
  | some entry =>
    dsimp only
    have comes := refuses.command client locals.completion locals'.completion
      (.fileSize (client.serverFd entry))
    rw [serverFd_mapServer]
    generalize (client.mapServer project).fsCommandBlocking first locals.completion
      (.fileSize (client.serverFd entry)) = issued at comes ⊢
    generalize client.fsCommandBlocking second locals'.completion
      (.fileSize (client.serverFd entry)) = issued' at comes ⊢
    have filePtr : (client.mapServer project).filePtr entry = client.filePtr entry := rfl
    rw [filePtr]
    by_cases fromEnd : whence = FileClient.seekEnd
    · have notStart : whence ≠ FileClient.seekSet := by
        rw [fromEnd]
        decide
      have notHere : whence ≠ FileClient.seekCur := by
        rw [fromEnd]
        decide
      rw [if_neg notStart, if_neg notStart, if_neg notHere, if_neg notHere, if_pos fromEnd,
        if_pos fromEnd]
      cases comes with
      | same answered next =>
        rw [if_neg Bool.false_ne_true, if_neg Bool.false_ne_true, refuses.statusLong]
        split_ifs
        · rfl
        · rfl
        · rfl
      | @refused completion answered next err refused =>
        rw [if_pos rfl]
        rcases refused with err | status
        · rw [if_pos err]
        · rw [status, if_pos allocationError_ne_success, statusLong_allocationError, ite_self]
    · split_ifs
      · rfl
      · rfl
      · rfl
      · rfl
      · rfl
      · rfl

end

/-! ### All calls -/

/-- The calls that check whether a command was issued. -/
def FileCall.Checks : FileCall → Prop
  | .read .. | .write .. | .lseek .. => True
  | _ => False

theorem Refuses.perform (refuses : Refuses project first second) (client : FileClient B maxFds)
    (locals locals' : Locals) (checks : call.Checks) :
    (client.mapServer project).perform first locals call = (client.perform second locals' call).map
        fun outcome => (outcome.1, outcome.2.mapServer project) := by
  cases call with
  | read fd buf count => exact refuses.sysRead client locals locals' fd buf count
  | write fd buf count => exact refuses.sysWrite client locals locals' fd buf count
  | lseek fd offset whence =>
    exact congrArg some (refuses.sysLseek client locals locals' fd offset whence)
  | _ => exact checks.elim

theorem Simulates.perform {Good : B → Prop} (simulates : Simulates project Good first second)
    (client : FileClient B maxFds) (good : Good client.server) (locals locals' : Locals)
    (unchecked : ¬ call.Checks) :
    CallSettled project Good ((client.mapServer project).perform first locals call)
      (client.perform second locals' call) := by
  cases call with
  | openat dirfd path flags => exact simulates.sysOpenat client good locals locals' dirfd path flags
  | close fd => exact simulates.sysClose client good locals locals' fd
  | fstat fd statbuf => exact simulates.sysFstat client good locals locals' fd statbuf
  | fstatat dirfd path statbuf =>
    exact simulates.sysFstatat client good locals locals' dirfd path statbuf
  | mkdirat dirfd path => exact simulates.sysMkdirat client good locals locals' dirfd path
  | unlinkat dirfd path removedir =>
    exact simulates.sysUnlinkat client good locals locals' dirfd path removedir
  | _ => exact (unchecked trivial).elim

end Checked

end LionsOS.Posix
