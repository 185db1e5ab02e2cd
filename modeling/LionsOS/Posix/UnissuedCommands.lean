/-
This file is about commands that cannot be issued, since no request id is free. The
completion is left as it is then, and holds whatever the stack held before. Reading,
writing and seeking check for that. The other calls do not: what they return, and what
they do, depends on the stack as soon as they try a command while no id is free.
-/

import LionsOS.Posix.FileSimulation
import LionsOS.Posix.FilePositions

namespace LionsOS.Posix

open Option

open Fs (fsStatusSuccess fsStatusAllocationError)

/-! ### Servers that refuse -/

section Refusing

variable {Server : Type} {maxFds : Nat} {removedir : Bool} {locals : Locals} {buf len : Nat}

variable {fd result dirfd : Int} {statbuf : Bool} {flags : OpenFlags}

/-- After a command its own id is free again. -/
def FileEnv.IdsReturned (env : FileEnv Server) : Prop :=
  ∀ command share server, env.available server = true →
    env.available (env.answer command share server).server = true

/-- Each command is issued. The server has no memory for those that could not be; it counts them. -/
def FileEnv.refusing (env : FileEnv Server) : FileEnv (Server × Nat) where
  available _ := true
  answer command share server :=
    if env.available server.1 then
      let answered := env.answer command share server.1
      { answered with server := (answered.server, server.2) }
    else
      { completion := { status := fsStatusAllocationError, data := 0 }
        share
        server := (server.1, server.2 + 1) }
  behindErrnos := env.behindErrnos
  protocol command share server := by
    dsimp only
    split_ifs
    · exact env.protocol command share server.1
    · exact of_decide_eq_true rfl

/-- The client of the server that counts. -/
def FileClient.counting (client : FileClient Server maxFds) : FileClient (Server × Nat) maxFds :=
  client.mapServer fun server => (server, 0)

open FileClient

/-- What a call comes to does not depend on what its local variables hold at first, and is what it
comes to if the server refuses the commands that cannot be issued; the call fails if any are. -/
structure Determined (env : FileEnv Server) (client : FileClient Server maxFds) (call : FileCall) :
    Prop where
  initial : ∀ locals locals', client.perform env locals call = client.perform env locals' call
  refused : ∀ locals, client.perform env locals call =
    (client.counting.perform env.refusing locals call).map
      fun outcome => (outcome.1, outcome.2.mapServer Prod.fst)
  fails : ∀ locals result next,
    client.counting.perform env.refusing locals call = some (result, next) →
      next.server.2 ≠ 0 → result < 0

/-- The file server is asked for information on a path. -/
def FileClient.Queries (client : FileClient Server maxFds) (path : List UInt8T) : Prop :=
  path ≠ rootPath ∧ ∃ i j, TwoBuffers client i j

/-- The call finds out on its own that it cannot open the root so. -/
def OpenFlags.RefuseRoot (flags : OpenFlags) : Prop :=
  flags.creat = true ∧ flags.excl = true ∨
    flags.directory = false ∧ (flags.wronly = true ∨ flags.rdwr = true)

/-- A call tries a command and does not check whether it was issued. -/
def FileClient.TriesUnchecked (client : FileClient Server maxFds) : FileCall → Prop
  | .read .. | .write .. | .lseek .. => False
  | .close fd => fd ≠ servicesFd maxFds ∧ fd ≠ etcFd maxFds ∧
    ∃ entry, client.fds.posixFdEntry fd = some entry ∧
      (client.fds.fdTable entry).functions = .file
  | .fstat fd statbuf => statbuf = true ∧ fd ≠ servicesFd maxFds ∧ fd ≠ etcFd maxFds ∧
    ∃ entry, client.fds.posixFdEntry fd = some entry ∧
      (client.fds.fdTable entry).functions = .file ∧ client.Queries (client.fdPath entry)
  | .fstatat dirfd path statbuf => statbuf = true ∧
    ∃ fullPath, resolvePath client.fdPath dirfd path pathMax = .ok fullPath ∧
      fullPath ≠ etcPath ∧ fullPath ≠ servicesPath ∧ client.Queries fullPath
  | .openat dirfd path flags =>
    ∃ fullPath, resolvePath client.fdPath dirfd path pathMax = .ok fullPath ∧
      fullPath ≠ etcPath ∧ fullPath ≠ servicesPath ∧ client.fsBufferAllocate.isSome = true ∧
      (∃ fd fds, client.fds.posixFdAllocate = some (fd, fds) ∧ client.fsServerFdMap fd = -1) ∧
      ¬ (fullPath = rootPath ∧ flags.RefuseRoot)
  | .mkdirat dirfd path =>
    ∃ fullPath, resolvePath client.fdPath dirfd path pathMax = .ok fullPath ∧
      fullPath.length < Fs.fsBufferSize ∧ client.fsBufferAllocate.isSome = true
  | .unlinkat dirfd path removedir =>
    ∃ fullPath, resolvePath client.fdPath dirfd path pathMax = .ok fullPath ∧
      fullPath ≠ servicesPath ∧ fullPath.length < Fs.fsBufferSize ∧
      client.fsBufferAllocate.isSome = true ∧ (removedir = false → fullPath ≠ rootPath)

variable {env : FileEnv Server} {client : FileClient Server maxFds} {call : FileCall}

/-! ### While ids are free -/

theorem simulates_self (returned : env.IdsReturned) :
    Simulates id (fun server => env.available server = true) env env where
  errnos := rfl
  available _ available := ⟨available, available⟩
  completion _ _ _ _ := rfl
  share _ _ _ _ := rfl
  server _ _ _ _ := rfl
  good command share server available := returned command share server available

theorem refusing_answer {server : Server × Nat} (available : env.available server.1 = true)
    (command : FsCommand) (share : Nat → UInt8T) :
    env.refusing.answer command share server =
      let answered := env.answer command share server.1
      { answered with server := (answered.server, server.2) } :=
  if_pos available

theorem simulates_refusing (returned : env.IdsReturned) :
    Simulates Prod.fst (fun server => env.available server.1 = true ∧ server.2 = 0) env
      env.refusing where
  errnos := rfl
  available _ good := ⟨good.1, rfl⟩
  completion command share server good := by rw [refusing_answer good.1]
  share command share server good := by rw [refusing_answer good.1]
  server command share server good := by rw [refusing_answer good.1]
  good command share server good := by
    rw [refusing_answer good.1]
    exact ⟨returned command share server.1 good.1, good.2⟩

theorem refuses_self : Refuses id env env where
  errnos := rfl
  issue _ _ _ := .inl ⟨rfl, rfl⟩

theorem refuses_refusing : Refuses Prod.fst env env.refusing where
  errnos := rfl
  issue command share server := by
    cases available : env.available server.1 with
    | true =>
      rw [refusing_answer available]
      exact .inl ⟨rfl, rfl⟩
    | false =>
      have refused : env.refusing.answer command share server = _ :=
        if_neg (Bool.eq_false_iff.mp available)
      rw [refused]
      exact .inr ⟨rfl, rfl, rfl, rfl, rfl⟩

theorem map_mapServer_id {Outcome : Type} (outcome : Option (Outcome × FileClient Server maxFds)) :
    (outcome.map fun outcome => (outcome.1, outcome.2.mapServer id)) = outcome := by
  cases outcome <;> rfl

theorem determined_of_available (returned : env.IdsReturned)
    (available : env.available client.server = true) (unchecked : ¬ call.Checks) :
    Determined env client call where
  initial locals locals' := by
    have settled := (simulates_self returned).perform client available locals locals' unchecked
    exact settled.same.trans (map_mapServer_id _)
  refused locals :=
    ((simulates_refusing returned).perform client.counting ⟨available, rfl⟩ locals locals
      unchecked).same
  fails locals result next called := by
    have settled := (simulates_refusing returned).perform client.counting ⟨available, rfl⟩ locals
      locals unchecked
    exact fun counted => absurd (settled.good _ called).2 counted

/-! ### Calls that check -/

/-- A transfer fails, or no command was refused for it. -/
def Transfer.Counted (refused : Nat) : Transfer (Server × Nat) maxFds → Prop
  | .failed result _ => result < 0
  | .moved _ next => next.server.2 = refused

section

variable (env : FileEnv Server) (client : FileClient (Server × Nat) maxFds)

theorem refusing_command (completion : Completion) (command : FsCommand) :
    let issued := client.fsCommandBlocking env.refusing completion command
    issued.err = false ∧ issued.completion.status.toNat < fsStatusNumStatuses ∧
      (issued.completion.status = fsStatusSuccess → issued.client.server.2 = client.server.2) := by
  rw [fsCommandBlocking_of_available (show env.refusing.available client.server = true
    from rfl)]
  refine ⟨rfl, env.refusing.protocol _ _ _, fun success => ?_⟩
  cases available : env.available client.server.1 with
  | true => rw [refusing_answer available]
  | false =>
    have refused : env.refusing.answer command client.buffers.share client.server = _ :=
      if_neg (Bool.eq_false_iff.mp available)
    rw [refused] at success
    exact absurd success allocationError_ne_success

theorem writeChunk_counted (fd : Fin maxFds) (buffer : Nat) (completion : Completion)
    (written : UInt64T) (buf toWrite : Nat) :
    (client.writeChunk env.refusing fd buffer completion written buf toWrite).Counted
      client.server.2 := by
  obtain ⟨issued, inTable, counts⟩ := refusing_command env
    (client.fillBuffer buffer toWrite client.memory buf) completion
    (.fileWrite (client.serverFd fd) (client.filePtr fd + written) (bufferAt buffer toWrite))
  unfold writeChunk
  dsimp only
  rw [issued, if_neg Bool.false_ne_true]
  split_ifs with failed
  · exact FileEnv.statusLong_neg inTable failed
  · exact counts (not_not.mp failed)

theorem readChunk_counted (fd : Fin maxFds) (buffer : Nat) (completion : Completion)
    (totalRead : UInt64T) (buf toRead : Nat) :
    (client.readChunk env.refusing fd buffer completion totalRead buf toRead).Counted
      client.server.2 := by
  obtain ⟨issued, inTable, counts⟩ := refusing_command env client completion
    (.fileRead (client.serverFd fd) (client.filePtr fd + totalRead) (bufferAt buffer toRead))
  unfold readChunk
  dsimp only
  rw [issued, if_neg Bool.false_ne_true]
  split_ifs with failed
  · exact FileEnv.statusLong_neg inTable failed
  · exact counts (not_not.mp failed)

end

theorem chunkLoop_counted
    {chunk : FileClient (Server × Nat) maxFds → Completion → UInt64T → Nat → Nat →
      Transfer (Server × Nat) maxFds}
    (round : ∀ client completion total buf size,
      (chunk client completion total buf size).Counted client.server.2)
    (client : FileClient (Server × Nat) maxFds) (rounds : Nat → Completion) (total : UInt64T)
    (buf len : Nat) :
    (chunkLoop chunk rounds total buf len client).Counted client.server.2 :=
  @chunkLoop_rule (Server × Nat) maxFds chunk (fun client transfer =>
      transfer.Counted client.server.2)
    (fun _ _ => rfl) round (fun _ same => same) (fun first rest => first ▸ rest) client rounds total
    buf len

theorem fileTransfer_counted
    {chunk : FileClient (Server × Nat) maxFds → Fin maxFds → Nat → Completion → UInt64T → Nat →
      Nat → Transfer (Server × Nat) maxFds}
    (round : ∀ client fd buffer completion total buf size,
      (chunk client fd buffer completion total buf size).Counted client.server.2)
    {client next : FileClient (Server × Nat) maxFds} {rounds : Nat → Completion}
    (called : client.fileTransfer chunk rounds buf len fd = some (result, next)) :
    result < 0 ∨ next.server.2 = client.server.2 := by
  unfold fileTransfer at called
  split_ifs at called
  · cases called
    exact .inr rfl
  · cases called
    exact .inr rfl
  · split at called
    · cases called
      exact .inr rfl
    · rename_i entry _
      split at called
      · cases called
        exact .inr rfl
      · rename_i buffer held taken
        obtain ⟨i, _, _, _, rfl⟩ := fsBufferAllocate_eq_some taken
        have counted := chunkLoop_counted (fun client => round client entry buffer)
          (client.holding i) rounds 0 buf len
        split at called
        · rename_i looped
          rw [looped] at counted
          obtain ⟨_, _, same⟩ := map_eq_some_iff.mp called
          cases same
          exact .inl counted
        · rename_i looped
          rw [looped] at counted
          obtain ⟨freed, freeing, same⟩ := map_eq_some_iff.mp called
          cases same
          refine .inr (Eq.trans ?_ counted)
          rw [← fsBufferFree_server freeing]
          rfl

theorem call_counted {client next : FileClient (Server × Nat) maxFds} {direction : Direction}
    (called : direction.call env.refusing client locals buf len fd = some (result, next)) :
    result < 0 ∨ next.server.2 = client.server.2 := by
  rw [Direction.call_eq] at called
  cases direction with
  | read => exact fileTransfer_counted (fun client => readChunk_counted env client) called
  | write => exact fileTransfer_counted (fun client => writeChunk_counted env client) called

theorem sysLseek_counted (env : FileEnv Server) (client : FileClient (Server × Nat) maxFds)
    (locals : Locals) (fd : Int) (offset : UInt64T) (whence : Int) :
    (client.sysLseek env.refusing locals fd offset whence).1 < 0 ∨
      (client.sysLseek env.refusing locals fd offset whence).2.server.2 = client.server.2 := by
  unfold sysLseek
  by_cases special : fd = servicesFd maxFds ∨ fd = etcFd maxFds
  · rw [if_pos special]
    exact .inr rfl
  rw [if_neg special]
  cases client.fds.posixFdEntry fd with
  | none => exact .inr rfl
  | some entry =>
    obtain ⟨issued, inTable, counts⟩ := refusing_command env client locals.completion
      (.fileSize (client.serverFd entry))
    dsimp only
    rw [issued, if_neg Bool.false_ne_true]
    by_cases failed : (client.fsCommandBlocking env.refusing locals.completion
        (.fileSize (client.serverFd entry))).completion.status ≠ fsStatusSuccess
    · have negative : env.refusing.statusLong _ < 0 := FileEnv.statusLong_neg inTable failed
      split_ifs
      · exact .inr rfl
      · exact .inr rfl
      · exact .inr rfl
      · exact .inr rfl
      · exact .inr rfl
      · exact .inl negative
      · exact .inr rfl
    · have same := counts (not_not.mp failed)
      split_ifs
      · exact .inr rfl
      · exact .inr rfl
      · exact .inr rfl
      · exact .inr rfl
      · exact .inr rfl
      · exact .inr same
      · exact .inr same
      · exact .inr rfl

theorem perform_counted (env : FileEnv Server) {client next : FileClient (Server × Nat) maxFds}
    (checks : call.Checks) (called : client.perform env.refusing locals call = some (result, next)) :
    result < 0 ∨ next.server.2 = client.server.2 := by
  cases call with
  | read fd buf count =>
    rcases sysRead_cases called with rfl | called
    · exact .inr rfl
    · exact call_counted called
  | write fd buf count =>
    rcases sysWrite_cases called with rfl | called
    · exact .inr rfl
    · exact call_counted called
  | lseek fd offset whence =>
    have counted := sysLseek_counted env client locals fd offset whence
    rwa [some.inj called] at counted
  | _ => exact checks.elim

theorem determined_of_checks (env : FileEnv Server) (client : FileClient Server maxFds)
    (checks : call.Checks) : Determined env client call where
  initial locals locals' :=
    (refuses_self.perform client locals locals' checks).trans (map_mapServer_id _)
  refused locals := refuses_refusing.perform client.counting locals locals checks
  fails locals result next called := by
    rcases perform_counted env checks called with failed | same
    · exact fun _ => failed
    · exact fun counted => absurd same counted

/-! ### Calls that try no command -/

section Untried

variable {A B : Type} {project : B → A} {first : FileEnv A} {second : FileEnv B}
  {client : FileClient B maxFds} {path : Option (List UInt8T)}

variable {fullPath : List UInt8T}

theorem resolvePath_length_lt_fsBufferSize {fdPath : Fin maxFds → List UInt8T}
    (resolved : resolvePath fdPath dirfd path pathMax = .ok fullPath) :
    fullPath.length < Fs.fsBufferSize := by
  have fits := resolvePath_length_lt resolved
  unfold pathMax at fits
  unfold Fs.fsBufferSize
  omega

/-- Two runs come to the same, and the server has not been asked. -/
abbrev Untouched (project : B → A) (client : FileClient B maxFds)
    (first : Option (Int × FileClient A maxFds)) (second : Option (Int × FileClient B maxFds)) :
    Prop :=
  CallSettled project (fun server => server = client.server) first second

theorem Untouched.of_some (next : FileClient B maxFds) (result : Int)
    (same : next.server = client.server) :
    Untouched project client (some (result, next.mapServer project)) (some (result, next)) :=
  Settled.of_some (result, next) same

theorem fstatTo_untouched (locals locals' : Locals) {path : List UInt8T}
    (quiet : ¬ (client.mapServer project).Queries path) :
    Untouched project client ((client.mapServer project).fstatTo first locals path)
      (client.fstatTo second locals' path) := by
  unfold fstatTo
  by_cases root : path = rootPath
  · unfold fstatInt
    rw [if_pos root, if_pos root]
    exact Untouched.of_some { client with statbuf := .root } 0 rfl
  rcases buffers_cases client with ⟨i, j, two⟩ | ⟨i, one⟩ | full
  · exact absurd ⟨root, i, j, two.mapServer⟩ quiet
  · rw [one.mapServer.fstatInt first _ root, one.fstatInt second _ root]
    exact Untouched.of_some ((client.holding i).freed i) _ rfl
  · rw [fstatInt_of_none (none_mapServer full) first _ root, fstatInt_of_none full second _ root]
    exact Untouched.of_some client _ rfl

theorem pathCommand_untouched (locals locals' : Locals) (command : Fs.FsBuffer → FsCommand)
    (untried : ¬ (fullPath.length < Fs.fsBufferSize ∧ client.fsBufferAllocate.isSome = true)) :
    Untouched project client ((client.mapServer project).pathCommand first locals fullPath command)
      (client.pathCommand second locals' fullPath command) := by
  unfold pathCommand
  split_ifs with long
  · exact .of_some client _ rfl
  · have full : client.fsBufferAllocate = none := by
      by_contra some
      exact untried ⟨Nat.lt_of_not_le long, isSome_iff_ne_none.mpr some⟩
    rw [none_mapServer full, full]
    exact .of_some client _ rfl

/-- When no buffer is free, no parent is looked at. -/
theorem parentsRefuse_of_full {env : FileEnv B} (full : client.fsBufferAllocate = none)
    (completions : Nat → Completion) (statbuf : Stat) (parentPath : List UInt8T) :
    parentsRefuse env completions statbuf parentPath client = some (false, client) := by
  induction parentPath using walk_cases generalizing completions statbuf with
  | none path noSlash => exact parentsRefuse_of_none client env completions statbuf noSlash
  | root path last => exact parentsRefuse_of_root client env completions statbuf last
  | slash path before found inductionHypothesis =>
    rw [parentsRefuse_of_slash client env completions statbuf found]
    by_cases root : path.take (before + 1) = rootPath
    · unfold fstatInt
      rw [if_pos root]
      rfl
    · rw [fstatInt_of_none full env _ root]
      exact inductionHypothesis _ _

section

variable (locals locals' : Locals)

theorem sysFstat_untouched
    (untried : ¬ (client.mapServer project).TriesUnchecked (.fstat fd statbuf)) :
    Untouched project client ((client.mapServer project).sysFstat first locals fd statbuf)
      (client.sysFstat second locals' fd statbuf) := by
  unfold sysFstat
  split_ifs with null services etc
  · exact .of_some client _ rfl
  · exact .of_some { client with statbuf := .services } 0 rfl
  · exact .of_some { client with statbuf := .etc } 0 rfl
  · rw [fds_mapServer]
    cases found : client.fds.posixFdEntry fd with
    | none => exact .of_some client _ rfl
    | some entry =>
      dsimp only
      split_ifs with isFile
      · refine fstatTo_untouched locals locals' fun queries => ?_
        exact untried
          ⟨Bool.eq_true_of_not_eq_false null, services, etc, entry, found, isFile, queries⟩
      · exact .of_none

theorem sysFstatat_untouched
    (untried : ¬ (client.mapServer project).TriesUnchecked (.fstatat dirfd path statbuf)) :
    Untouched project client
      ((client.mapServer project).sysFstatat first locals dirfd path statbuf)
      (client.sysFstatat second locals' dirfd path statbuf) := by
  unfold sysFstatat
  split_ifs with null
  · exact .of_some client _ rfl
  · rw [fdPath_mapServer]
    cases resolved : resolvePath client.fdPath dirfd path pathMax with
    | error error => exact .of_some client _ rfl
    | ok fullPath =>
      dsimp only
      split_ifs with etc services
      · exact .of_some { client with statbuf := .etc } 0 rfl
      · exact .of_some { client with statbuf := .services } 0 rfl
      · refine fstatTo_untouched locals locals' fun queries => ?_
        exact untried
          ⟨Bool.eq_true_of_not_eq_false null, fullPath, resolved, etc, services, queries⟩

theorem sysClose_untouched (untried : ¬ (client.mapServer project).TriesUnchecked (.close fd)) :
    Untouched project client ((client.mapServer project).sysClose first locals fd)
      (client.sysClose second locals' fd) := by
  unfold sysClose
  split_ifs with special
  · exact .of_some client _ rfl
  · rw [fds_mapServer]
    cases found : client.fds.posixFdEntry fd with
    | none => exact .of_some client _ rfl
    | some entry =>
      dsimp only
      split_ifs with isFile
      · rw [not_or] at special
        exact absurd ⟨special.1, special.2, entry, found, isFile⟩ untried
      · exact .of_none

theorem sysMkdirat_untouched
    (untried : ¬ (client.mapServer project).TriesUnchecked (.mkdirat dirfd path)) :
    Untouched project client ((client.mapServer project).sysMkdirat first locals dirfd path)
      (client.sysMkdirat second locals' dirfd path) := by
  unfold sysMkdirat
  rw [fdPath_mapServer]
  cases resolved : resolvePath client.fdPath dirfd path pathMax with
  | error error => exact .of_some client _ rfl
  | ok fullPath =>
    refine pathCommand_untouched locals locals' .dirCreate fun tried => ?_
    refine untried ⟨fullPath, resolved, tried.1, ?_⟩
    rw [fsBufferAllocate_mapServer, isSome_map]
    exact tried.2

theorem sysUnlinkat_untouched
    (untried : ¬ (client.mapServer project).TriesUnchecked (.unlinkat dirfd path removedir)) :
    Untouched project client
      ((client.mapServer project).sysUnlinkat first locals dirfd path removedir)
      (client.sysUnlinkat second locals' dirfd path removedir) := by
  unfold sysUnlinkat
  rw [fdPath_mapServer]
  cases resolved : resolvePath client.fdPath dirfd path pathMax with
  | error error => exact .of_some client _ rfl
  | ok fullPath =>
    have short := resolvePath_length_lt_fsBufferSize resolved
    dsimp only
    by_cases services : fullPath = servicesPath
    · rw [if_pos services, if_pos services]
      exact .of_some client _ rfl
    rw [if_neg services, if_neg services]
    have quiet (notRoot : removedir = false → fullPath ≠ rootPath) :
        client.fsBufferAllocate = none := by
      by_contra some
      refine untried ⟨fullPath, resolved, services, short, ?_, notRoot⟩
      rw [fsBufferAllocate_mapServer, isSome_map]
      exact isSome_iff_ne_none.mpr some
    cases removedir with
    | true =>
      rw [if_pos rfl, if_pos rfl]
      refine pathCommand_untouched locals locals' .dirRemove fun tried => ?_
      rw [quiet (fun false => (by cases false))] at tried
      cases tried.2
    | false =>
      rw [if_neg Bool.false_ne_true, if_neg Bool.false_ne_true]
      unfold checkUnlink
      by_cases root : fullPath = rootPath
      · unfold fstatInt
        rw [if_pos root, if_pos root]
        exact .of_some client _ rfl
      · have full := quiet fun _ => root
        rw [fstatInt_of_none (none_mapServer full) first _ root,
          fstatInt_of_none full second _ root, bind_some, bind_some]
        dsimp only
        have failed := (FileErrno.result_neg .enomem).ne
        have notBoth (stat : Stat) :
            ¬ (FileErrno.enomem.result = 0 ∧ stat.isDir = true) := fun both => failed both.1
        rw [if_neg (notBoth _), if_neg (notBoth _), if_pos failed, if_pos failed,
          parentsRefuse_of_full (none_mapServer full), parentsRefuse_of_full full]
        dsimp only [map_some, bind_some]
        refine pathCommand_untouched locals locals' .fileRemove fun tried => ?_
        rw [full] at tried
        cases tried.2

end

/-- The call has been refused, and the server has not been asked. -/
def Opening.Untouched (client : FileClient B maxFds) : Opening B maxFds → Prop
  | .refused _ next => next.server = client.server
  | .asked .. => False

theorem freed_untouched (next : FileClient B maxFds) (same : next.server = client.server)
    (buffer : Nat) (result : Int) :
    Settled (Opening.mapServer project) (Opening.Untouched client)
      (((next.mapServer project).fsBufferFree buffer).map fun freed => .refused result freed)
      ((next.fsBufferFree buffer).map fun freed => .refused result freed) := by
  rw [fsBufferFree_mapServer]
  cases freed : next.fsBufferFree buffer with
  | none => exact .of_none
  | some freed' =>
    exact Settled.of_some (Opening.refused result freed') ((fsBufferFree_server freed).trans same)

/-- How the root is refused. -/
theorem openChecked_root {env : FileEnv B} (locals : Locals) (client : FileClient B maxFds)
    (refuses : flags.RefuseRoot) (fd : Fin maxFds) (buffer : Nat) :
    client.openChecked env locals flags rootPath fd buffer =
      client.giveUp fd buffer
        (if flags.creat = true ∧ flags.excl = true then .eexist else .eisdir) := by
  have looked (completion : Completion) (statbuf : Stat) :
      client.fstatInt env completion rootPath statbuf = some (0, .root, client) := by
    unfold fstatInt
    rw [if_pos rfl]
  unfold openChecked checkExists
  by_cases creates : flags.creat = true ∧ flags.excl = true
  · rw [if_pos creates, if_pos creates]
    rfl
  · have directory := refuses.resolve_left creates
    rw [if_neg creates, if_neg creates, bind_some]
    dsimp only
    unfold checkDirectory
    rw [if_pos directory]
    rfl

theorem sysOpenat_untouched (locals locals' : Locals)
    (untried : ¬ (client.mapServer project).TriesUnchecked (.openat dirfd path flags)) :
    Untouched project client ((client.mapServer project).sysOpenat first locals dirfd path flags)
      (client.sysOpenat second locals' dirfd path flags) := by
  have asked : Settled (Opening.mapServer project) (Opening.Untouched client)
      ((client.mapServer project).askToOpen first locals dirfd path flags)
      (client.askToOpen second locals' dirfd path flags) := by
    have refused (result : Int) : Settled (Opening.mapServer project) (Opening.Untouched client)
        (some (.refused result (client.mapServer project))) (some (.refused result client)) :=
      Settled.of_some (Opening.refused result client) rfl
    unfold askToOpen
    rw [fdPath_mapServer]
    cases resolved : resolvePath client.fdPath dirfd path pathMax with
    | error error => exact refused _
    | ok fullPath =>
      dsimp only
      split_ifs with etc directory services
      · exact refused _
      · exact refused _
      · exact refused _
      · rw [fsBufferAllocate_mapServer]
        cases taken : client.fsBufferAllocate with
        | none => exact refused _
        | some held =>
          obtain ⟨buffer, held⟩ := held
          obtain ⟨i, _, _, rfl, rfl⟩ := fsBufferAllocate_eq_some taken
          have sameFds : (client.holding i).fds = client.fds := rfl
          dsimp only [map_some]
          rw [fds_mapServer, sameFds]
          cases allocated : client.fds.posixFdAllocate with
          | none => exact freed_untouched (client.holding i) rfl _ _
          | some found =>
            obtain ⟨fd, fds⟩ := found
            dsimp only
            rw [fsServerFdMap_mapServer]
            split_ifs with unmapped
            · have room : (client.mapServer project).fsBufferAllocate.isSome = true := by
                rw [fsBufferAllocate_mapServer, taken]
                rfl
              obtain ⟨rfl, refuses⟩ : fullPath = rootPath ∧ flags.RefuseRoot := by
                by_contra tried
                exact untried ⟨fullPath, resolved, etc, services, room,
                  ⟨fd, fds, allocated, unmapped⟩, tried⟩
              rw [openChecked_root _ _ refuses, openChecked_root _ _ refuses]
              exact freed_untouched
                (({ client.holding i with fds }.fillPath (i * Fs.fsBufferSize)
                  rootPath).posixFdDeallocate fd) rfl _ _
            · exact .of_none
  refine asked.bind fun opening good => ?_
  cases opening with
  | refused result next => exact Untouched.of_some next result good
  | asked fd fullPath completion next => exact good.elim

theorem perform_untouched (project : B → A) (first : FileEnv A) (second : FileEnv B)
    (client : FileClient B maxFds) (locals locals' : Locals) (unchecked : ¬ call.Checks)
    (untried : ¬ (client.mapServer project).TriesUnchecked call) :
    Untouched project client ((client.mapServer project).perform first locals call)
      (client.perform second locals' call) := by
  cases call with
  | openat => exact sysOpenat_untouched locals locals' untried
  | close => exact sysClose_untouched locals locals' untried
  | fstat => exact sysFstat_untouched locals locals' untried
  | fstatat => exact sysFstatat_untouched locals locals' untried
  | mkdirat => exact sysMkdirat_untouched locals locals' untried
  | unlinkat => exact sysUnlinkat_untouched locals locals' untried
  | _ => exact (unchecked trivial).elim

end Untried

theorem determined_of_untried (env : FileEnv Server) (unchecked : ¬ call.Checks)
    (untried : ¬ client.TriesUnchecked call) : Determined env client call where
  initial locals locals' :=
    (perform_untouched id env env client locals locals' unchecked untried).same.trans
      (map_mapServer_id _)
  refused locals :=
    (perform_untouched Prod.fst env env.refusing client.counting locals locals unchecked
      untried).same
  fails locals result next called := by
    have same : next.server = client.counting.server :=
      (perform_untouched Prod.fst env env.refusing client.counting locals locals unchecked
        untried).good _ called
    intro counted
    rw [same] at counted
    exact absurd rfl counted

/-! ### A stack that holds a status everywhere -/

def junkLocals (status : UInt64T) : Locals where
  completion := { status, data := 0 }
  rounds _ := { status, data := 0 }
  fstatInt _ := { status, data := 0 }
  statbuf _ := .zeroed

section Unissued

variable {status : UInt64T} {next : FileClient Server maxFds} {path : List UInt8T} {i : Nat}

/-- What a part of a call leaves that could not issue a command. -/
structure Unissued (client next : FileClient Server maxFds) : Prop where
  tables : SameTables client next
  server : next.server = client.server

theorem Unissued.trans {middle : FileClient Server maxFds} (first : Unissued client middle)
    (second : Unissued middle next) : Unissued client next :=
  ⟨first.tables.trans second.tables, second.server.trans first.server⟩

theorem Unissued.unavailable (unissued : Unissued client next)
    (unavailable : env.available client.server = false) : env.available next.server = false := by
  rw [unissued.server]
  exact unavailable

theorem Unissued.isSome (unissued : Unissued client next) :
    next.fsBufferAllocate.isSome = client.fsBufferAllocate.isSome := by
  unfold fsBufferAllocate Fs.ShareBuffers.fsBufferAllocate
  rw [isSome_map, isSome_map, isSome_map, isSome_map,
    unissued.tables.used]

/-- A query, with the buffers for it, fails with the status on the stack. -/
theorem TwoBuffers.fstatInt_unissued {j : Nat} (two : TwoBuffers client i j)
    (unavailable : env.available client.server = false)
    (inTable : status.toNat < fsStatusNumStatuses) (failed : status ≠ fsStatusSuccess)
    (notRoot : path ≠ rootPath) (statbuf : Stat) :
    ∃ next, client.fstatInt env { status, data := 0 } path statbuf =
        some (env.statusLong status, statbuf, next) ∧ Unissued client next := by
  have asked : client.askStat env { status, data := 0 } path i j =
      { err := true
        completion := { status, data := 0 }
        client := ((client.holding i).holding j).fillPath (i * Fs.fsBufferSize) path } := by
    have still : env.available (((client.holding i).holding j).fillPath (i * Fs.fsBufferSize)
        path).server = false := unavailable
    exact fsCommandBlocking_of_unavailable still _ _
  have tables := two.freed env { status, data := 0 } path
  rw [two.fstatInt { status, data := 0 } notRoot statbuf]
  rw [asked] at tables ⊢
  rw [if_pos failed, FileEnv.statusInt_eq inTable]
  exact ⟨_, rfl, tables, rfl⟩

section

variable (unavailable : env.available client.server = false)
include unavailable

theorem fstatInt_unissued (inTable : status.toNat < fsStatusNumStatuses)
    (failed : status ≠ fsStatusSuccess) (notRoot : path ≠ rootPath) (statbuf : Stat) :
    ∃ result next, client.fstatInt env { status, data := 0 } path statbuf =
        some (result, statbuf, next) ∧ Unissued client next ∧ result < 0 := by
  rcases buffers_cases client with ⟨i, j, two⟩ | ⟨i, one⟩ | full
  · obtain ⟨next, looked, unissued⟩ :=
      two.fstatInt_unissued unavailable inTable failed notRoot statbuf
    exact ⟨_, next, looked, unissued, FileEnv.statusLong_neg inTable failed⟩
  · exact ⟨_, _, one.fstatInt env _ notRoot statbuf,
      ⟨(SameTables.refl (client.holding i)).freed one.unused, rfl⟩, FileErrno.result_neg _⟩
  · exact ⟨_, _, fstatInt_of_none full env _ notRoot statbuf, ⟨.refl _, rfl⟩,
      FileErrno.result_neg _⟩

theorem fstatTo_unissued (inTable : status.toNat < fsStatusNumStatuses)
    (failed : status ≠ fsStatusSuccess) (queries : client.Queries path) :
    ∃ next, client.fstatTo env (junkLocals status) path = some (env.statusLong status, next) := by
  obtain ⟨notRoot, i, j, two⟩ := queries
  obtain ⟨next, looked, _⟩ :=
    two.fstatInt_unissued unavailable inTable failed notRoot client.statbuf
  unfold fstatTo
  rw [show client.fstatInt env ((junkLocals status).fstatInt 0) path client.statbuf = _ from looked]
  exact ⟨_, rfl⟩

/-- A command on a path, with a buffer for it, fails with the status on the stack. -/
theorem pathCommand_unissued (failed : status ≠ fsStatusSuccess)
    (short : path.length < Fs.fsBufferSize) (room : client.fsBufferAllocate.isSome = true)
    (command : Fs.FsBuffer → FsCommand) :
    ∃ next, client.pathCommand env (junkLocals status) path command =
      some (env.statusLong status, next) := by
  obtain ⟨⟨buffer, held⟩, taken⟩ := isSome_iff_exists.mp room
  obtain ⟨i, small, unused, rfl, rfl⟩ := fsBufferAllocate_eq_some taken
  unfold pathCommand
  rw [if_neg (Nat.not_le.mpr short), taken]
  dsimp only
  have still : env.available ((client.holding i).fillPath (i * Fs.fsBufferSize) path).server =
      false := unavailable
  have refused : ((client.holding i).fillPath (i * Fs.fsBufferSize) path).fsCommandBlocking env
      (junkLocals status).completion (command (bufferAt (i * Fs.fsBufferSize) path.length)) =
        { err := true
          completion := { status, data := 0 }
          client := (client.holding i).fillPath (i * Fs.fsBufferSize) path } :=
    fsCommandBlocking_of_unavailable still _ _
  have filled : SameTables (client.holding i)
      ((client.holding i).fillPath (i * Fs.fsBufferSize) path) :=
    ⟨rfl, rfl, rfl, rfl⟩
  rw [refused]
  rw [filled.fsBufferFree small, map_some, if_pos failed]
  exact ⟨_, rfl⟩

section

variable (inTable : status.toNat < fsStatusNumStatuses)
include inTable

theorem parentsRefuse_unissued (failed : status ≠ fsStatusSuccess) (statbuf : Stat)
    (parentPath : List UInt8T) :
    ∃ next, parentsRefuse env (fun _ => { status, data := 0 }) statbuf parentPath
        client = some (false, next) ∧ Unissued client next := by
  induction parentPath using walk_cases generalizing client with
  | none path noSlash =>
    exact ⟨client, parentsRefuse_of_none client env _ statbuf noSlash, .refl _, rfl⟩
  | root path last =>
    exact ⟨client, parentsRefuse_of_root client env _ statbuf last, .refl _, rfl⟩
  | slash path before found inductionHypothesis =>
    rw [parentsRefuse_of_slash client env _ statbuf found]
    by_cases root : path.take (before + 1) = rootPath
    · refine ⟨client, ?_, .refl _, rfl⟩
      unfold fstatInt
      rw [if_pos root]
      rfl
    · obtain ⟨result, next, looked, unissued, negative⟩ :=
        fstatInt_unissued unavailable inTable failed root statbuf
      rw [looked, bind_some]
      dsimp only
      rw [if_neg negative.ne]
      obtain ⟨last, walked, later⟩ := inductionHypothesis (unissued.unavailable unavailable)
      exact ⟨last, walked, unissued.trans later⟩

theorem sysUnlinkat_unissued (failed : status ≠ fsStatusSuccess) {path : Option (List UInt8T)}
    (tries : client.TriesUnchecked (.unlinkat dirfd path removedir)) :
    ∃ next, client.sysUnlinkat env (junkLocals status) dirfd path removedir =
      some (env.statusLong status, next) := by
  obtain ⟨fullPath, resolved, services, short, room, notRoot⟩ := tries
  unfold sysUnlinkat
  rw [resolved]
  dsimp only
  rw [if_neg services]
  cases removedir with
  | true =>
    exact pathCommand_unissued unavailable failed short room .dirRemove
  | false =>
    rw [if_neg Bool.false_ne_true]
    obtain ⟨result, looked, looking, unissued, negative⟩ := fstatInt_unissued unavailable inTable
      failed (notRoot rfl) ((junkLocals status).statbuf 0)
    obtain ⟨walked, walking, later⟩ := parentsRefuse_unissued (unissued.unavailable unavailable)
      inTable failed ((junkLocals status).statbuf 0) fullPath
    have checked : client.checkUnlink env (junkLocals status) fullPath = some (none, walked) := by
      unfold checkUnlink
      rw [show client.fstatInt env ((junkLocals status).fstatInt 0) fullPath
        ((junkLocals status).statbuf 0) = _ from looking, bind_some]
      dsimp only
      rw [if_neg (fun both => negative.ne both.1), if_pos negative.ne,
        show parentsRefuse env (fun later => (junkLocals status).fstatInt (later + 1))
          ((junkLocals status).statbuf 0) fullPath looked = _ from walking]
      rfl
    have both := unissued.trans later
    rw [checked, bind_some]
    exact pathCommand_unissued (both.unavailable unavailable) failed short (both.isSome.trans room)
      .fileRemove

theorem sysClose_unissued (tries : client.TriesUnchecked (.close fd)) :
    ∃ next, client.sysClose env (junkLocals status) fd = some (env.statusLong status, next) := by
  obtain ⟨services, etc, entry, found, isFile⟩ := tries
  unfold sysClose
  rw [if_neg (not_or.mpr ⟨services, etc⟩), found]
  dsimp only
  rw [if_pos isFile]
  unfold fileClose
  rw [found]
  dsimp only
  rw [fsCommandBlocking_of_unavailable unavailable, ← FileEnv.statusInt_eq inTable]
  exact ⟨_, rfl⟩

theorem sysFstat_unissued (failed : status ≠ fsStatusSuccess)
    (tries : client.TriesUnchecked (.fstat fd statbuf)) :
    ∃ next, client.sysFstat env (junkLocals status) fd statbuf =
      some (env.statusLong status, next) := by
  obtain ⟨given, services, etc, entry, found, isFile, queries⟩ := tries
  unfold sysFstat
  rw [if_neg (Bool.ne_false_iff.mpr given), if_neg services, if_neg etc, found]
  dsimp only
  rw [if_pos isFile]
  exact fstatTo_unissued unavailable inTable failed queries

theorem sysFstatat_unissued (failed : status ≠ fsStatusSuccess) {path : Option (List UInt8T)}
    (tries : client.TriesUnchecked (.fstatat dirfd path statbuf)) :
    ∃ next, client.sysFstatat env (junkLocals status) dirfd path statbuf =
      some (env.statusLong status, next) := by
  obtain ⟨given, fullPath, resolved, etc, services, queries⟩ := tries
  unfold sysFstatat
  rw [if_neg (Bool.ne_false_iff.mpr given), resolved]
  dsimp only
  rw [if_neg etc, if_neg services]
  exact fstatTo_unissued unavailable inTable failed queries

end

theorem sysMkdirat_unissued (failed : status ≠ fsStatusSuccess) {path : Option (List UInt8T)}
    (tries : client.TriesUnchecked (.mkdirat dirfd path)) :
    ∃ next, client.sysMkdirat env (junkLocals status) dirfd path =
      some (env.statusLong status, next) := by
  obtain ⟨fullPath, resolved, short, room⟩ := tries
  unfold sysMkdirat
  rw [resolved]
  exact pathCommand_unissued unavailable failed short room .dirCreate

section

variable (inTable : status.toNat < fsStatusNumStatuses) (failed : status ≠ fsStatusSuccess)
  (possible : ¬ (path = rootPath ∧ flags.RefuseRoot))
include inTable failed possible

theorem checkExists_unissued :
    ∃ next, client.checkExists env (junkLocals status) flags path = some (false, next) ∧
      Unissued client next := by
  unfold checkExists
  by_cases creates : flags.creat = true ∧ flags.excl = true
  · have notRoot : path ≠ rootPath := fun root => possible ⟨root, .inl creates⟩
    obtain ⟨result, next, looked, unissued, negative⟩ := fstatInt_unissued unavailable inTable
      failed notRoot ((junkLocals status).statbuf 0)
    rw [if_pos creates, show client.fstatInt env ((junkLocals status).fstatInt 0) path
      ((junkLocals status).statbuf 0) = _ from looked, map_some]
    dsimp only
    rw [decide_eq_false negative.ne]
    exact ⟨next, rfl, unissued⟩
  · rw [if_neg creates]
    exact ⟨client, rfl, .refl _, rfl⟩

theorem checkDirectory_unissued :
    ∃ next, client.checkDirectory env (junkLocals status) flags path = some (false, next) ∧
      Unissued client next := by
  unfold checkDirectory
  by_cases writes : flags.directory = false ∧ (flags.wronly = true ∨ flags.rdwr = true)
  · have notRoot : path ≠ rootPath := fun root => possible ⟨root, .inr writes⟩
    obtain ⟨result, next, looked, unissued, negative⟩ := fstatInt_unissued unavailable inTable
      failed notRoot ((junkLocals status).statbuf 1)
    rw [if_pos writes, show client.fstatInt env ((junkLocals status).fstatInt 1) path
      ((junkLocals status).statbuf 1) = _ from looked, map_some]
    dsimp only
    rw [decide_eq_false negative.ne]
    exact ⟨next, rfl, unissued⟩
  · rw [if_neg writes]
    exact ⟨client, rfl, .refl _, rfl⟩

end

end

theorem openChecked_unissued {start : FileClient Server maxFds}
    (unavailable : env.available start.server = false)
    (inTable : status.toNat < fsStatusNumStatuses) (failed : status ≠ fsStatusSuccess)
    (small : i < Fs.numBuffers) (tables : SameTables (client.holding i) start)
    (possible : ¬ (path = rootPath ∧ flags.RefuseRoot)) (fd : Fin maxFds) :
    ∃ next, start.openChecked env (junkLocals status) flags path fd (i * Fs.fsBufferSize) =
      some (.asked fd path { status, data := 0 } next) := by
  obtain ⟨looked, exists_, first⟩ := checkExists_unissued unavailable inTable failed possible
  obtain ⟨checked, isDirectory, second⟩ := checkDirectory_unissued (first.unavailable unavailable)
    inTable failed possible
  have both := first.trans second
  have still := both.unavailable unavailable
  have held : SameTables (client.holding i) checked := tables.trans both.tables
  unfold openChecked
  rw [exists_, bind_some]
  dsimp only
  rw [isDirectory, bind_some]
  rw [fsCommandBlocking_of_unavailable still, held.fsBufferFree small]
  exact ⟨_, rfl⟩

section

variable (unavailable : env.available client.server = false)
  (inTable : status.toNat < fsStatusNumStatuses) (failed : status ≠ fsStatusSuccess)
include unavailable inTable failed

theorem sysOpenat_unissued {path : Option (List UInt8T)}
    (tries : client.TriesUnchecked (.openat dirfd path flags)) :
    ∃ next, client.sysOpenat env (junkLocals status) dirfd path flags =
      some (env.statusLong status, next) := by
  obtain ⟨fullPath, resolved, etc, services, room, free, possible⟩ := tries
  obtain ⟨fd, fds, allocated, unmapped⟩ := free
  obtain ⟨⟨buffer, held⟩, taken⟩ := isSome_iff_exists.mp room
  obtain ⟨i, small, unused, rfl, rfl⟩ := fsBufferAllocate_eq_some taken
  have filled : SameTables (holding { client with fds } i)
      ({ client.holding i with fds }.fillPath (i * Fs.fsBufferSize) fullPath) :=
    ⟨rfl, rfl, rfl, rfl⟩
  have still : env.available ({ client.holding i with fds }.fillPath (i * Fs.fsBufferSize)
      fullPath).server = false := unavailable
  obtain ⟨next, opened⟩ := openChecked_unissued still inTable failed small filled possible fd
  have sameFds : (client.holding i).fds = client.fds := rfl
  have sameMap : (client.holding i).fsServerFdMap = client.fsServerFdMap := rfl
  have asked : client.askToOpen env (junkLocals status) dirfd path flags =
      some (.asked fd fullPath { status, data := 0 } next) := by
    unfold askToOpen
    rw [resolved]
    dsimp only
    rw [if_neg etc, if_neg services, taken]
    dsimp only
    rw [sameFds, allocated]
    dsimp only
    rw [sameMap, if_pos unmapped]
    exact opened
  unfold sysOpenat
  rw [asked, bind_some]
  dsimp only
  unfold finishOpen
  rw [if_pos failed]
  exact ⟨_, rfl⟩

theorem perform_unissued (tries : client.TriesUnchecked call) :
    ∃ next, client.perform env (junkLocals status) call =
      some (env.statusLong status, next) := by
  cases call with
  | openat => exact sysOpenat_unissued unavailable inTable failed tries
  | close => exact sysClose_unissued unavailable inTable tries
  | fstat => exact sysFstat_unissued unavailable inTable failed tries
  | fstatat => exact sysFstatat_unissued unavailable inTable failed tries
  | mkdirat => exact sysMkdirat_unissued unavailable failed tries
  | unlinkat => exact sysUnlinkat_unissued unavailable inTable failed tries
  | _ => exact tries.elim

end

end Unissued

theorem statusLong_error_ne (env : FileEnv Server) :
    env.statusLong Fs.fsStatusError ≠ env.statusLong Fs.fsStatusInvalidBuffer := by
  have error : env.errnoOf Fs.fsStatusError = BitVec.ofNat 64 1 := rfl
  have invalidBuffer : env.errnoOf Fs.fsStatusInvalidBuffer = BitVec.ofNat 64 22 := rfl
  unfold FileEnv.statusLong
  rw [error, invalidBuffer]
  decide

theorem not_determined_of_tries (unavailable : env.available client.server = false)
    (tries : client.TriesUnchecked call) : ¬ Determined env client call := by
  intro determined
  have returns (status : UInt64T) (inTable : status.toNat < fsStatusNumStatuses)
      (failed : status ≠ fsStatusSuccess) : ∃ next,
        client.perform env (junkLocals status) call = some (env.statusLong status, next) :=
    perform_unissued unavailable inTable failed tries
  obtain ⟨_, first⟩ := returns Fs.fsStatusError (by decide) (by decide)
  obtain ⟨_, second⟩ := returns Fs.fsStatusInvalidBuffer (by decide) (by decide)
  have same := determined.initial (junkLocals Fs.fsStatusError)
    (junkLocals Fs.fsStatusInvalidBuffer)
  rw [first, second] at same
  exact statusLong_error_ne env (Prod.mk.inj (some.inj same)).1

/-- What a call comes to is determined if and only if an id is free, or the call tries no command
without a check. -/
theorem determined_iff (returned : env.IdsReturned) :
    Determined env client call ↔
      env.available client.server = true ∨ ¬ client.TriesUnchecked call := by
  constructor
  · intro determined
    by_contra neither
    obtain ⟨taken, tries⟩ := not_or.mp neither
    have unavailable : env.available client.server = false := Bool.eq_false_iff.mpr taken
    exact not_determined_of_tries unavailable (not_not.mp tries) determined
  · intro either
    by_cases checks : call.Checks
    · exact determined_of_checks env client checks
    · rcases either with available | untried
      · exact determined_of_available returned available checks
      · exact determined_of_untried env checks untried

end Refusing

/-! ### A file that is closed while all ids are taken -/

theorem emptyFile_idsReturned : emptyFile.IdsReturned :=
  fun _ _ _ _ => rfl

/-- Closing a file is determined while an id is free. -/
theorem close_determined : Determined emptyFile (openedFile ()) (.close 3) :=
  (determined_iff emptyFile_idsReturned).mpr (.inl rfl)

/-- The empty file, with all ids taken. -/
def emptyFileTaken : FileEnv Unit :=
  { emptyFile with available := fun _ => false }

/-- What closing the file returns, with a status left on the stack. -/
def closeReturns (status : UInt64T) : Option Int :=
  ((openedFile ()).perform emptyFileTaken (junkLocals status) (.close 3)).map Prod.fst

/-- Closing the file succeeds or fails as the stack has it, and the server is not asked. -/
theorem close_undetermined : emptyFileTaken.IdsReturned ∧
    closeReturns fsStatusSuccess = some 0 ∧ closeReturns Fs.fsStatusError = some (-1) ∧
    ¬ Determined emptyFileTaken (openedFile ()) (.close 3) := by
  have succeeds : closeReturns fsStatusSuccess = some 0 := by decide +kernel
  have fails : closeReturns Fs.fsStatusError = some (-1) := by decide +kernel
  refine ⟨fun _ _ _ available => absurd available Bool.false_ne_true, succeeds, fails, ?_⟩
  intro determined
  have same : closeReturns fsStatusSuccess = closeReturns Fs.fsStatusError :=
    congrArg (Option.map Prod.fst) (determined.initial _ _)
  cases same

end LionsOS.Posix
