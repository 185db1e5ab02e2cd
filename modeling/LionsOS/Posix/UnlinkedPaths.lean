/-
This file is about the removal of a file in a tree that the server knows. Where the file
is not there, `unlinkat` walks up to the nearest parent that is, and fails with `ENOTDIR`
if that is no directory. A directory is never given to the command that removes files.
-/

import LionsOS.Posix.FileTables
import LionsOS.Posix.FileRanges

namespace LionsOS.Posix

open Fs (fsStatusSuccess)
open Bytes FileClient FileErrno List

/-! ### Parents in a tree -/

/-- What is at a path: nothing, or something that is a directory or not. -/
abbrev FileTree := List UInt8T → Option Bool

/-- A proper prefix that ends at a slash and is not the root. -/
structure IsCut (path : List UInt8T) (i : Nat) : Prop where
  positive : 0 < i
  slash : path[i]? = some 0x2f
  notRoot : path.take i ≠ rootPath

/-- The longest proper prefix that exists is no directory. -/
def NearestRefuses (tree : FileTree) (path : List UInt8T) : Prop :=
  ∃ i, IsCut path i ∧ tree (path.take i) = some false ∧
    ∀ j, IsCut path j → i < j → tree (path.take j) = none

section Cuts

variable {path : List UInt8T} {i j : Nat} {tree : FileTree}

theorem lastSlash_eq_none (none : lastSlash path = none) (i : Nat) : path[i]? ≠ some 0x2f := by
  intro slash
  have inside : i < path.length := (List.getElem?_eq_some_iff.mp slash).1
  have all := List.find?_eq_none.mp none i (List.mem_reverse.mpr (List.mem_range.mpr inside))
  exact all (decide_eq_true slash)

theorem lastSlash_eq_some (found : lastSlash path = some i) :
    path[i]? = some 0x2f ∧ ∀ j, i < j → path[j]? ≠ some 0x2f := by
  have here := List.find?_some (p := fun i => decide (path[i]? = some 0x2f)) found
  refine ⟨of_decide_eq_true here, fun j later slash => ?_⟩
  have inside : j < path.length := (List.getElem?_eq_some_iff.mp slash).1
  obtain ⟨_, before, after, split, none⟩ := List.find?_eq_some_iff_append.mp found
  have order : (List.range path.length).reverse.Pairwise (· > ·) :=
    List.pairwise_reverse.mpr List.pairwise_lt_range
  rw [split] at order
  have member : j ∈ before ++ i :: after :=
    split ▸ List.mem_reverse.mpr (List.mem_range.mpr inside)
  rcases List.mem_append.mp member with earlier | rest
  · have refuted := none j earlier
    rw [decide_eq_true slash] at refuted
    cases refuted
  · rcases List.mem_cons.mp rest with rfl | behind
    · exact absurd later (Nat.lt_irrefl _)
    · have smaller := (List.pairwise_cons.mp (List.pairwise_append.mp order).2.1).1 j behind
      omega

theorem IsCut.le_last (cut : IsCut path i) {last : Nat}
    (found : lastSlash path = some last) : i ≤ last := by
  by_contra behind
  exact (lastSlash_eq_some found).2 i (Nat.lt_of_not_le behind) cut.slash

theorem not_nearestRefuses_of_none (none : lastSlash path = none) : ¬ NearestRefuses tree path := by
  rintro ⟨i, cut, _⟩
  exact lastSlash_eq_none none i cut.slash

theorem not_nearestRefuses_of_root (first : lastSlash path = some 0) :
    ¬ NearestRefuses tree path := by
  rintro ⟨i, cut, _⟩
  have small := cut.le_last first
  have positive := cut.positive
  omega

theorem isCut_take (inside : i < j) : IsCut (path.take j) i ↔ IsCut path i := by
  have same : (path.take j).take i = path.take i := by
    rw [take_take, Nat.min_eq_left (Nat.le_of_lt inside)]
  constructor
  · rintro ⟨positive, slash, notRoot⟩
    rw [getElem?_take_of_lt inside] at slash
    rw [same] at notRoot
    exact ⟨positive, slash, notRoot⟩
  · rintro ⟨positive, slash, notRoot⟩
    refine ⟨positive, ?_, ?_⟩
    · rwa [getElem?_take_of_lt inside]
    · rwa [same]

theorem isCut_take_lt (cut : IsCut (path.take j) i) : i < j := by
  have inside := (List.getElem?_eq_some_iff.mp cut.slash).1
  rw [List.length_take] at inside
  omega

section Slash

variable {before : Nat} (found : lastSlash path = some (before + 1))
include found

theorem not_nearestRefuses_of_rootParent (root : path.take (before + 1) = rootPath) :
    ¬ NearestRefuses tree path := by
  rintro ⟨i, cut, _⟩
  have length : (path.take (before + 1)).length = 1 := by
    rw [root]
    rfl
  rw [length_take] at length
  have inside := lastSlash_lt found
  have small := cut.le_last found
  have positive := cut.positive
  have last : i = before + 1 := by omega
  exact cut.notRoot (last ▸ root)

theorem nearestRefuses_of_some (notRoot : path.take (before + 1) ≠ rootPath) {isDir : Bool}
    (present : tree (path.take (before + 1)) = some isDir) :
    NearestRefuses tree path ↔ isDir = false := by
  have cut : IsCut path (before + 1) :=
    ⟨Nat.succ_pos _, (lastSlash_eq_some found).1, notRoot⟩
  constructor
  · rintro ⟨i, own, refuses, longer⟩
    rcases Nat.lt_or_eq_of_le (own.le_last found) with less | same
    · cases present.symm.trans (longer _ cut less)
    · rw [← same, refuses] at present
      exact (Option.some.inj present).symm
  · rintro rfl
    refine ⟨before + 1, cut, present, fun j own less => ?_⟩
    exact absurd (own.le_last found) (Nat.not_le.mpr less)

theorem nearestRefuses_of_none (absent : tree (path.take (before + 1)) = none) :
    NearestRefuses tree path ↔ NearestRefuses tree (path.take (before + 1)) := by
  have same (i : Nat) (inside : i < before + 1) :
      (path.take (before + 1)).take i = path.take i := by
    rw [take_take, Nat.min_eq_left (Nat.le_of_lt inside)]
  constructor
  · rintro ⟨i, cut, refuses, longer⟩
    have inside : i < before + 1 := by
      rcases Nat.lt_or_eq_of_le (cut.le_last found) with less | same
      · exact less
      · rw [same, absent] at refuses
        cases refuses
    refine ⟨i, (isCut_take inside).mpr cut, by rwa [same i inside], fun j own less => ?_⟩
    have within := isCut_take_lt own
    rw [same j within]
    exact longer j ((isCut_take within).mp own) less
  · rintro ⟨i, cut, refuses, longer⟩
    have inside := isCut_take_lt cut
    rw [same i inside] at refuses
    refine ⟨i, (isCut_take inside).mp cut, refuses, fun j own less => ?_⟩
    rcases Nat.lt_or_eq_of_le (own.le_last found) with within | last
    · rw [← same j within]
      exact longer j ((isCut_take within).mpr own) less
    · rw [last]
      exact absent

end Slash

end Cuts

/-! ### What the server is asked -/

/-- The path in a buffer of the share. -/
def pathIn (share : Nat → UInt8T) (buffer : Fs.FsBuffer) : List UInt8T :=
  (range buffer.size.toNat).map fun i => share (buffer.offset.toNat + i)

/-- A command, and the share as it is then. -/
structure Request where
  command : FsCommand
  share : Nat → UInt8T

/-- The command removes the file at a path. -/
def Request.Removes (request : Request) (path : List UInt8T) : Prop :=
  ∃ buffer, request.command = .fileRemove buffer ∧ pathIn request.share buffer = path

/-- The server keeps all that it is asked. -/
def FileEnv.tracing {Server : Type} (env : FileEnv Server) : FileEnv (Server × List Request) where
  available server := env.available server.1
  answer command share server :=
    let answered := env.answer command share server.1
    { completion := answered.completion
      share := answered.share
      server := (answered.server, server.2 ++ [⟨command, share⟩]) }
  behindErrnos := env.behindErrnos
  protocol command share server := env.protocol command share server.1

/-- The server gives information from a tree, and removes a file only with an answer that does not
speak of directories. There is an id for each command. -/
structure FileEnv.AnswersFrom {Server : Type} (env : FileEnv Server) (tree : FileTree) : Prop where
  available : ∀ server, env.available server = true
  present : ∀ share server i j size isDir, i < Fs.numBuffers → j < Fs.numBuffers → i ≠ j →
    size < pathMax → tree (pathIn share (bufferAt (i * Fs.fsBufferSize) size)) = some isDir →
      let answered := env.answer (.stat (bufferAt (i * Fs.fsBufferSize) size)
        (bufferAt (j * Fs.fsBufferSize) Fs.fsBufferSize)) share server
      answered.completion.status = fsStatusSuccess ∧
        (Stat.read answered.share (j * Fs.fsBufferSize)).isDir = isDir
  absent : ∀ share server path buf, tree (pathIn share path) = none →
    (env.answer (.stat path buf) share server).completion.status ≠ fsStatusSuccess
  removal : ∀ share server path,
    (env.answer (.fileRemove path) share server).completion.status ≠ Fs.fsStatusNotDirectory

section Tree

variable {Server : Type} {maxFds : Nat} {env : FileEnv Server} {tree : FileTree}
  {client next : FileClient (Server × List Request) maxFds} {i j : Nat} {path : List UInt8T}

theorem bufferAt_offset (small : i < Fs.numBuffers) (size : Nat) :
    (bufferAt (i * Fs.fsBufferSize) size).offset.toNat = i * Fs.fsBufferSize := by
  have numbers : Fs.numBuffers = 2044 := rfl
  dsimp only [bufferAt]
  unfold Fs.fsBufferSize
  rw [BitVec.toNat_ofNat]
  omega

/-- A path that was copied to a buffer is there. -/
theorem pathIn_fillPath (client : FileClient Server maxFds) (small : i < Fs.numBuffers)
    (short : path.length < pathMax) :
    pathIn (client.fillPath (i * Fs.fsBufferSize) path).buffers.share
      (bufferAt (i * Fs.fsBufferSize) path.length) = path := by
  have size : (bufferAt (i * Fs.fsBufferSize) path.length).size.toNat = path.length := by
    dsimp only [bufferAt]
    unfold pathMax at short
    rw [BitVec.toNat_ofNat]
    omega
  unfold pathIn
  rw [bufferAt_offset small, size]
  refine ext_getElem (by rw [length_map, length_range]) fun k inside inPath => ?_
  rw [getElem_map, getElem_range]
  have within : i * Fs.fsBufferSize + k ∈ (⟨i * Fs.fsBufferSize, path.length⟩ : Range) :=
    ⟨Nat.le_add_right _ _, Nat.add_lt_add_left inPath _⟩
  show copy client.buffers.share ⟨i * Fs.fsBufferSize, path.length⟩
    (fun index => path[index]?.getD 0) 0 (i * Fs.fsBufferSize + k) = path[k]
  rw [copy_of_mem within, Nat.zero_add, Nat.add_sub_cancel_left, getElem?_eq_getElem inPath,
    Option.getD_some]

theorem isDir_read_congr {share share' : Nat → UInt8T} {start : Nat}
    (same : ∀ k, 16 ≤ k → k < 24 → share (start + k) = share' (start + k)) :
    (Stat.read share start).isDir = (Stat.read share' start).isDir := by
  have word : Stat.wordAt share start 2 = Stat.wordAt share' start 2 := by
    refine foldr_ext _ _ _ fun byte member word => ?_
    have small := mem_range.mp member
    rw [Nat.add_assoc, same (8 * 2 + byte) (by omega) (by omega)]
  unfold Stat.isDir
  rw [show (Stat.read share start).mode = (Stat.read share' start).mode from
    congrArg (BitVec.setWidth 32) word]

theorem isDir_read_freed (client : FileClient Server maxFds) (different : i ≠ j) :
    (Stat.read (client.freed i).buffers.share (j * Fs.fsBufferSize)).isDir =
      (Stat.read client.buffers.share (j * Fs.fsBufferSize)).isDir := by
  refine isDir_read_congr fun k _ small => ?_
  show copy client.buffers.share ⟨i * Fs.fsBufferSize, Fs.fsBufferSize⟩ (fun _ => 0) 0
    (j * Fs.fsBufferSize + k) = _
  refine copy_of_not_mem fun inside => ?_
  obtain ⟨above, below⟩ := inside
  rcases Nat.lt_or_gt_of_ne different with less | more
  · have next : (i + 1) * Fs.fsBufferSize ≤ j * Fs.fsBufferSize := Nat.mul_le_mul_right _ less
    rw [Nat.succ_mul] at next
    dsimp only at below
    omega
  · dsimp only at above
    unfold Fs.fsBufferSize at *
    omega

/-- Taking buffers goes by those that are in use only. -/
theorem fsBufferAllocate_of_used {client next : FileClient Server maxFds}
    (same : next.buffers.used = client.buffers.used)
    (taken : client.fsBufferAllocate = some (i * Fs.fsBufferSize, client.holding i)) :
    next.fsBufferAllocate = some (i * Fs.fsBufferSize, next.holding i) := by
  obtain ⟨⟨buffer, buffers⟩, searched, equal⟩ := Option.map_eq_some_iff.mp taken
  obtain ⟨k, found, made⟩ := Option.map_eq_some_iff.mp searched
  cases made
  have index : k = i := by
    have offsets : k * Fs.fsBufferSize = i * Fs.fsBufferSize := (Prod.mk.inj equal).1
    exact Nat.eq_of_mul_eq_mul_right (by decide) offsets
  unfold fsBufferAllocate Fs.ShareBuffers.fsBufferAllocate
  rw [same, found, index]
  exact congrArg some (Prod.ext rfl (by unfold holding; rw [same]))

theorem TwoBuffers.of_tables {client next : FileClient Server maxFds} (two : TwoBuffers client i j)
    (same : SameTables client next) : TwoBuffers next i j where
  first := fsBufferAllocate_of_used same.used two.first
  second := by
    have held : (next.holding i).buffers.used = (client.holding i).buffers.used :=
      congrArg (fun used : Nat → Bool => Function.update used i true) same.used
    exact fsBufferAllocate_of_used held two.second
  firstSmall := two.firstSmall
  secondSmall := two.secondSmall
  firstUnused := (congrFun same.used i).trans two.firstUnused
  secondUnused := (congrFun same.used j).trans two.secondUnused
  different := two.different

/-- What is found out of a path. -/
def Looked (found : Option Bool) (result : Int) (stat : Stat) : Prop :=
  match found with
  | none => result ≠ 0
  | some isDir => result = 0 ∧ stat.isDir = isDir

/-- The server is asked for information only. -/
def OnlyLooked (client next : FileClient (Server × List Request) maxFds) : Prop :=
  ∃ asked, next.server.2 = client.server.2 ++ asked ∧ ∀ request ∈ asked, request.command.IsStat

theorem OnlyLooked.refl (client : FileClient (Server × List Request) maxFds) :
    OnlyLooked client client :=
  ⟨[], (append_nil _).symm, forall_mem_nil _⟩

theorem OnlyLooked.trans {middle : FileClient (Server × List Request) maxFds}
    (first : OnlyLooked client middle) (second : OnlyLooked middle next) :
    OnlyLooked client next := by
  obtain ⟨earlier, record, looked⟩ := first
  obtain ⟨later, record', looked'⟩ := second
  refine ⟨earlier ++ later, ?_, forall_mem_append.mpr ⟨looked, looked'⟩⟩
  rw [record', record, append_assoc]

variable (answers : env.AnswersFrom tree)
include answers

theorem askStat_tracing (client : FileClient (Server × List Request) maxFds)
    (small : i < Fs.numBuffers) (short : path.length < pathMax) (completion : Completion)
    (j : Nat) :
    ∃ share, pathIn share (bufferAt (i * Fs.fsBufferSize) path.length) = path ∧
      let command := .stat (bufferAt (i * Fs.fsBufferSize) path.length)
        (bufferAt (j * Fs.fsBufferSize) Fs.fsBufferSize)
      let asked := client.askStat env.tracing completion path i j
      asked.completion = (env.answer command share client.server.1).completion ∧
      asked.client.server.2 = client.server.2 ++ [⟨command, share⟩] ∧
      asked.client.buffers.share = (env.answer command share client.server.1).share := by
  have available : env.tracing.available
      (((client.holding i).holding j).fillPath (i * Fs.fsBufferSize) path).server = true :=
    answers.available _
  have issued : client.askStat env.tracing completion path i j = _ :=
    fsCommandBlocking_of_available available _ _
  rw [issued]
  exact ⟨_, pathIn_fillPath ((client.holding i).holding j) small short, rfl, rfl, rfl⟩

section

variable (two : TwoBuffers client i j) (short : path.length < pathMax)
include two short

/-- `fstat_int` finds out what is at a path. -/
theorem fstatInt_of_tree (notRoot : path ≠ rootPath) (completion : Completion) (statbuf : Stat) :
    ∃ result stat next, client.fstatInt env.tracing completion path statbuf =
        some (result, stat, next) ∧ SameTables client next ∧ OnlyLooked client next ∧
      Looked (tree path) result stat := by
  obtain ⟨share, found, completed, asked, left⟩ :=
    askStat_tracing answers client two.firstSmall short completion j
  have tables := two.freed env.tracing completion path
  have seen :=
    isDir_read_freed (client.askStat env.tracing completion path i j).client two.different
  have looked : OnlyLooked client
      (((client.askStat env.tracing completion path i j).client.freed i).freed j) :=
    ⟨_, asked, forall_mem_singleton.mpr trivial⟩
  rw [two.fstatInt completion notRoot statbuf]
  dsimp only
  cases tree_path : tree path with
  | none =>
    have failed : (client.askStat env.tracing completion path i j).completion.status ≠
        fsStatusSuccess := by
      rw [completed]
      exact answers.absent _ _ _ _ ((congrArg tree found).trans tree_path)
    rw [if_pos failed]
    refine ⟨_, _, _, rfl, tables, looked, ?_⟩
    exact (FileEnv.statusInt_neg (completed ▸ env.protocol _ _ _) failed).ne
  | some isDir =>
    obtain ⟨success, directory⟩ := answers.present share client.server.1 i j path.length isDir
      two.firstSmall two.secondSmall two.different short ((congrArg tree found).trans tree_path)
    rw [completed, if_neg (not_not.mpr success)]
    refine ⟨_, _, _, rfl, tables, looked, rfl, ?_⟩
    rw [seen, left]
    exact directory

/-- The walk comes to the nearest parent that exists. -/
theorem parentsRefuse_of_tree (completions : Nat → Completion) (statbuf : Stat) :
    ∃ refuse next, parentsRefuse env.tracing completions statbuf path client =
        some (refuse, next) ∧ SameTables client next ∧ OnlyLooked client next ∧
      (refuse = true ↔ NearestRefuses tree path) := by
  induction path using walk_cases generalizing client completions statbuf with
  | none path none =>
    refine ⟨false, client, parentsRefuse_of_none client _ completions statbuf none, .refl _,
      .refl _, ?_⟩
    exact iff_of_false Bool.false_ne_true (not_nearestRefuses_of_none none)
  | root path first =>
    refine ⟨false, client, parentsRefuse_of_root client _ completions statbuf first, .refl _,
      .refl _, ?_⟩
    exact iff_of_false Bool.false_ne_true (not_nearestRefuses_of_root first)
  | slash path before found inductionHypothesis =>
    have shorter : (path.take (before + 1)).length < pathMax :=
      (length_parent_lt found).trans short
    rw [parentsRefuse_of_slash client _ completions statbuf found]
    by_cases root : path.take (before + 1) = rootPath
    · refine ⟨false, client, ?_, .refl _, .refl _, ?_⟩
      · unfold fstatInt
        rw [if_pos root]
        rfl
      · exact iff_of_false Bool.false_ne_true (not_nearestRefuses_of_rootParent found root)
    obtain ⟨result, stat, looked, looking, tables, only, at_parent⟩ :=
      fstatInt_of_tree answers two shorter root (completions 0) statbuf
    rw [looking, Option.bind_some]
    dsimp only
    cases present : tree (path.take (before + 1)) with
    | none =>
      rw [present] at at_parent
      rw [if_neg at_parent]
      obtain ⟨refuse, next, walking, later, onlyLater, refuse_iff⟩ := inductionHypothesis
        (two.of_tables tables) shorter (fun later => completions (later + 1)) stat
      refine ⟨refuse, next, walking, tables.trans later, only.trans onlyLater, ?_⟩
      rw [nearestRefuses_of_none found present]
      exact refuse_iff
    | some isDir =>
      rw [present] at at_parent
      rw [if_pos at_parent.1, at_parent.2]
      refine ⟨_, looked, rfl, tables, only, ?_⟩
      rw [nearestRefuses_of_some found root present, Bool.not_eq_true']

/-- The checks before a removal find out whether there is a directory, or a parent that is none. -/
theorem checkUnlink_of_tree (locals : Locals) :
    ∃ refused next, client.checkUnlink env.tracing locals path = some (refused, next) ∧
      SameTables client next ∧ OnlyLooked client next ∧
      (refused = some .enotdir ↔ path ≠ rootPath ∧ tree path = none ∧ NearestRefuses tree path) ∧
      (refused = none → path ≠ rootPath ∧ tree path ≠ some true) ∧
      (refused = none ∨ refused = some .enotdir ∨ refused = some .eisdir) := by
  unfold checkUnlink
  by_cases root : path = rootPath
  · refine ⟨some .eisdir, client, ?_, .refl _, .refl _, ?_, (nomatch ·), .inr (.inr rfl)⟩
    · unfold fstatInt
      rw [if_pos root]
      rfl
    · exact iff_of_false (nomatch ·) fun all => all.1 root
  obtain ⟨result, stat, looked, looking, tables, only, at_path⟩ :=
    fstatInt_of_tree answers two short root (locals.fstatInt 0) (locals.statbuf 0)
  rw [looking, Option.bind_some]
  dsimp only
  cases present : tree path with
  | none =>
    rw [present] at at_path
    have failed : result ≠ 0 := at_path
    rw [if_neg (fun both => failed both.1), if_pos failed]
    obtain ⟨refuse, next, walking, later, onlyLater, refuse_iff⟩ := parentsRefuse_of_tree answers
      (two.of_tables tables) short (fun later => locals.fstatInt (later + 1)) stat
    rw [walking]
    refine ⟨_, next, rfl, tables.trans later, only.trans onlyLater, ?_, ?_, ?_⟩
    · rw [← refuse_iff]
      cases refuse with
      | true => exact iff_of_true rfl ⟨root, rfl, rfl⟩
      | false => exact iff_of_false (nomatch ·) fun all => (nomatch all.2.2)
    · exact fun _ => ⟨root, (nomatch ·)⟩
    · cases refuse with
      | true => exact .inr (.inl rfl)
      | false => exact .inl rfl
  | some isDir =>
    rw [present] at at_path
    obtain ⟨success, directory⟩ := at_path
    cases isDir with
    | true =>
      rw [if_pos ⟨success, directory⟩]
      refine ⟨_, looked, rfl, tables, only, ?_, (nomatch ·), .inr (.inr rfl)⟩
      exact iff_of_false (nomatch ·) fun all => (nomatch all.2.1)
    | false =>
      have notBoth : ¬ (result = 0 ∧ stat.isDir = true) := by
        rw [directory]
        exact fun both => Bool.false_ne_true both.2
      rw [if_neg notBoth, if_neg (not_not.mpr success)]
      refine ⟨_, looked, rfl, tables, only, ?_, fun _ => ⟨root, (nomatch ·)⟩, .inl rfl⟩
      exact iff_of_false (nomatch ·) fun all => (nomatch all.2.1)

end

omit answers in
/-- Only one status stands for `ENOTDIR`. -/
theorem statusLong_ne_enotdir {status : UInt64T} (inTable : status.toNat < fsStatusNumStatuses)
    (other : status ≠ Fs.fsStatusNotDirectory) : env.statusLong status ≠ enotdir.result := by
  unfold FileEnv.statusLong FileEnv.errnoOf
  have entries : ∀ i < fsStatusNumStatuses, i ≠ 16 → ∃ error, fsStatusToErrno[i]? = some error ∧
      (-BitVec.ofNat 64 error).toInt ≠ enotdir.result := by
    decide
  obtain ⟨error, found, different⟩ := entries _ inTable fun same =>
    other (BitVec.eq_of_toNat_eq same)
  rw [found]
  exact different

/-- The command that removes a file names the path, and does not fail with `ENOTDIR`. -/
theorem pathCommand_of_tree (client : FileClient (Server × List Request) maxFds)
    (short : path.length < pathMax) (locals : Locals) :
    ∃ result next asked, client.pathCommand env.tracing locals path .fileRemove =
        some (result, next) ∧ next.server.2 = client.server.2 ++ asked ∧
      (∀ request ∈ asked, ∀ removed, request.Removes removed → removed = path) ∧
      result ≠ enotdir.result := by
  unfold pathCommand
  have fits : ¬ Fs.fsBufferSize ≤ path.length := by
    unfold pathMax at short
    unfold Fs.fsBufferSize
    omega
  rw [if_neg fits]
  cases taken : client.fsBufferAllocate with
  | none =>
    refine ⟨_, client, [], rfl, (append_nil _).symm, forall_mem_nil _, ?_⟩
    decide
  | some held =>
    obtain ⟨buffer, held⟩ := held
    obtain ⟨i, small, unused, rfl, rfl⟩ := fsBufferAllocate_eq_some taken
    have filled := pathIn_fillPath (client.holding i) small short
    have available : env.tracing.available
        ((client.holding i).fillPath (i * Fs.fsBufferSize) path).server = true :=
      answers.available _
    have filling : SameTables (client.holding i)
        ((client.holding i).fillPath (i * Fs.fsBufferSize) path) :=
      ⟨rfl, rfl, rfl, rfl⟩
    have tables := filling.trans (fsCommandBlocking_tables env.tracing _ locals.completion
      (.fileRemove (bufferAt (i * Fs.fsBufferSize) path.length)))
    dsimp only
    rw [tables.fsBufferFree small, fsCommandBlocking_of_available available]
    have named (request : Request) (member : request ∈ [(⟨.fileRemove
        (bufferAt (i * Fs.fsBufferSize) path.length), ((client.holding i).fillPath
          (i * Fs.fsBufferSize) path).buffers.share⟩ : Request)]) (removed : List UInt8T)
        (removes : request.Removes removed) : removed = path := by
      cases mem_singleton.mp member
      obtain ⟨buffer, same, inBuffer⟩ := removes
      cases same
      exact inBuffer.symm.trans filled
    have other := answers.removal ((client.holding i).fillPath
      (i * Fs.fsBufferSize) path).buffers.share client.server.1
        (bufferAt (i * Fs.fsBufferSize) path.length)
    split_ifs
    · exact ⟨_, _, _, rfl, rfl, named, statusLong_ne_enotdir (env.protocol _ _ _) other⟩
    · exact ⟨_, _, _, rfl, rfl, named, by decide⟩

/-- Where the server answers from a tree, `unlinkat` of a path that is not there, and is not
`/etc/services`, fails with `ENOTDIR` if and only if the nearest parent that is there is no
directory. It has only asked for information then; and whatever it comes to, it removes no directory
as a file. -/
theorem unlinkat_enotdir_iff (two : TwoBuffers client i j) (locals : Locals) (dirfd : Int)
    (path : Option (List UInt8T)) :
    ∃ result next asked, client.sysUnlinkat env.tracing locals dirfd path false =
        some (result, next) ∧ next.server.2 = client.server.2 ++ asked ∧
      (∀ fullPath, resolvePath client.fdPath dirfd path pathMax = .ok fullPath →
        fullPath ≠ servicesPath → fullPath ≠ rootPath → tree fullPath = none →
          (result = enotdir.result ↔ NearestRefuses tree fullPath)) ∧
      (result = enotdir.result → ∀ request ∈ asked, request.command.IsStat) ∧
      ∀ request ∈ asked, ∀ removed, request.Removes removed →
        removed ≠ rootPath ∧ tree removed ≠ some true := by
  unfold sysUnlinkat
  cases resolved : resolvePath client.fdPath dirfd path pathMax with
  | error error =>
    refine ⟨_, client, [], rfl, (append_nil _).symm, fun _ same => (nomatch same), ?_, ?_⟩
    · exact fun _ => forall_mem_nil _
    · exact forall_mem_nil _
  | ok fullPath =>
    dsimp only
    by_cases services : fullPath = servicesPath
    · rw [if_pos services]
      refine ⟨_, client, [], rfl, (append_nil _).symm, ?_, ?_, forall_mem_nil _⟩
      · intro _ same other
        cases same
        exact absurd services other
      · exact fun _ => forall_mem_nil _
    rw [if_neg services]
    have short : fullPath.length < pathMax := resolvePath_length_lt resolved
    obtain ⟨refused, checked, checking, _, looked, enotdir_iff, allowed, which⟩ :=
      checkUnlink_of_tree answers two short locals
    obtain ⟨asked, record, only⟩ := looked
    have nothing (request : Request) (member : request ∈ asked) (removed : List UInt8T)
        (removes : request.Removes removed) : False := by
      obtain ⟨buffer, same, _⟩ := removes
      have stat := only request member
      rw [same] at stat
      exact stat
    rw [checking, Option.bind_some]
    cases refused with
    | some error =>
      refine ⟨_, checked, asked, rfl, record, ?_, fun _ => only, ?_⟩
      · intro _ same _ root absent
        cases same
        have exact_ : error.result = enotdir.result ↔ some error = some enotdir := by
          rcases which with none | enotdir | eisdir
          · cases none
          · cases enotdir
            exact iff_of_true rfl rfl
          · cases eisdir
            exact iff_of_false (by decide) (nomatch ·)
        rw [exact_, enotdir_iff]
        exact ⟨fun all => all.2.2, fun refuses => ⟨root, absent, refuses⟩⟩
      · exact fun request member removed removes => (nothing request member removed removes).elim
    | none =>
      obtain ⟨root, notDirectory⟩ := allowed rfl
      obtain ⟨result, next, removals, removing, record', named, other⟩ :=
        pathCommand_of_tree answers checked short locals
      rw [removing]
      refine ⟨result, next, asked ++ removals, rfl, ?_, ?_, fun same => absurd same other, ?_⟩
      · rw [record', record, append_assoc]
      · intro _ same _ _ absent
        cases same
        refine iff_of_false other fun refuses => ?_
        exact nomatch enotdir_iff.mpr ⟨root, absent, refuses⟩
      · intro request member removed removes
        rcases mem_append.mp member with earlier | later
        · exact (nothing request earlier removed removes).elim
        · rw [named request later removed removes]
          exact ⟨root, notDirectory⟩

end Tree

/-! ### A server with a tree -/

/-- The word for the mode of a file is written, and nothing else. -/
def writeMode (share : Nat → UInt8T) (start : Nat) (isDir : Bool) (address : Nat) : UInt8T :=
  if start + 16 ≤ address ∧ address < start + 24 then
    if address = start + 17 then if isDir then 0x40 else 0x80 else 0
  else share address

def treeFiles (tree : FileTree) : FileEnv Unit where
  available _ := true
  answer command share _ :=
    match command with
    | .stat path buf =>
      match tree (pathIn share path) with
      | none => { completion := ⟨Fs.fsStatusNoFile, 0⟩, share, server := () }
      | some isDir =>
        { completion := ⟨fsStatusSuccess, 0⟩
          share := writeMode share buf.offset.toNat isDir
          server := () }
    | .fileRemove path =>
      { completion := ⟨if (tree (pathIn share path)).isSome then fsStatusSuccess
          else Fs.fsStatusNoFile, 0⟩
        share
        server := () }
    | _ => { completion := ⟨fsStatusSuccess, 0⟩, share, server := () }
  behindErrnos _ := 0
  protocol command share _ := by
    cases command with
    | stat | fileRemove => dsimp only; split <;> exact of_decide_eq_true rfl
    | _ => exact of_decide_eq_true rfl

theorem isDir_read_writeMode (share : Nat → UInt8T) (start : Nat) (isDir : Bool) :
    (Stat.read (writeMode share start isDir) start).isDir = isDir := by
  have word : Stat.wordAt (writeMode share start isDir) start 2 =
      Stat.wordAt (writeMode (fun _ => 0) 0 isDir) 0 2 := by
    refine List.foldr_ext _ _ _ fun byte member word => ?_
    have small := List.mem_range.mp member
    have inside (start : Nat) :
        start + 16 ≤ start + 8 * 2 + byte ∧ start + 8 * 2 + byte < start + 24 := by
      omega
    unfold writeMode
    rw [if_pos (inside start), if_pos (inside 0)]
    by_cases second : byte = 1
    · rw [if_pos (show start + 8 * 2 + byte = start + 17 by omega),
        if_pos (show 0 + 8 * 2 + byte = 0 + 17 by omega)]
    · rw [if_neg (by omega), if_neg (by omega)]
  unfold Stat.isDir
  rw [show (Stat.read (writeMode share start isDir) start).mode = _ from
    congrArg (BitVec.setWidth 32) word]
  cases isDir <;> decide

theorem treeFiles_answersFrom (tree : FileTree) : (treeFiles tree).AnswersFrom tree where
  available _ := rfl
  present share _ i j size isDir _ small _ _ found := by
    dsimp only [treeFiles]
    rw [found]
    refine ⟨rfl, ?_⟩
    rw [bufferAt_offset small]
    exact isDir_read_writeMode share _ isDir
  absent share _ path buf found := by
    dsimp only [treeFiles]
    rw [found]
    exact show Fs.fsStatusNoFile ≠ fsStatusSuccess by decide
  removal share _ path := by
    dsimp only [treeFiles]
    split <;> decide

/-- A client that has done nothing yet. -/
def untracedClient : FileClient (Unit × List Request) 128 :=
  .initial (fun _ => 0) ((), [])

theorem untracedClient_buffers : ∃ i j, TwoBuffers untracedClient i j := by
  have free (i k : Nat) (small : k < Fs.numBuffers) (different : k ≠ i) :
      (untracedClient.holding i).fsBufferAllocate ≠ none := by
    have unused : (untracedClient.holding i).buffers.used k = false :=
      (holding_used_of_ne different).trans rfl
    exact Option.isSome_iff_ne_none.mp (fsBufferAllocate_isSome small unused)
  rcases buffers_cases untracedClient with two | ⟨i, one⟩ | none
  · exact two
  · by_cases first : i = 0
    · exact absurd one.second (free i 1 (by decide) (by omega))
    · exact absurd one.second (free i 0 (by decide) (by omega))
  · exact absurd none (Option.isSome_iff_ne_none.mp
      (fsBufferAllocate_isSome (i := 0) (by decide) rfl))

/-- There is the file `/a`. -/
def fileOnly : FileTree :=
  fun path => if path = [0x2f, 0x61] then some false else none

/-- The path `/a/b` cannot be removed, since `/a` is no directory. -/
theorem unlink_below_file : ∃ next asked,
    untracedClient.sysUnlinkat (treeFiles fileOnly).tracing zeroedLocals atFdcwd
      (some [0x2f, 0x61, 0x2f, 0x62]) false = some (enotdir.result, next) ∧
      next.server.2 = untracedClient.server.2 ++ asked ∧
      ∀ request ∈ asked, request.command.IsStat := by
  obtain ⟨i, j, two⟩ := untracedClient_buffers
  obtain ⟨result, next, asked, called, record, enotdir_iff, only, _⟩ :=
    unlinkat_enotdir_iff (treeFiles_answersFrom fileOnly) two zeroedLocals atFdcwd
      (some [0x2f, 0x61, 0x2f, 0x62])
  have refuses : NearestRefuses fileOnly [0x2f, 0x61, 0x2f, 0x62] := by
    refine ⟨2, ⟨by decide, rfl, by decide⟩, rfl, fun k cut later => ?_⟩
    have last : lastSlash [0x2f, 0x61, 0x2f, 0x62] = some 2 := rfl
    exact absurd (cut.le_last last) (Nat.not_le.mpr later)
  have failed := (enotdir_iff [0x2f, 0x61, 0x2f, 0x62] rfl (by decide) (by decide) rfl).mpr refuses
  subst failed
  exact ⟨next, asked, called, record, only rfl⟩

/-- There is the file `/etc`. -/
def etcFile : FileTree :=
  fun path => if path = etcPath then some false else none

/-- The path `/etc/services` is refused before its parent, which is no directory, is looked at. -/
theorem unlink_services : etcFile servicesPath = none ∧ NearestRefuses etcFile servicesPath ∧
    untracedClient.sysUnlinkat (treeFiles etcFile).tracing zeroedLocals atFdcwd
      (some servicesPath) false = some (eperm.result, untracedClient) ∧
    eperm.result ≠ enotdir.result := by
  refine ⟨rfl, ⟨4, ⟨by decide, rfl, by decide⟩, rfl, fun k cut later => ?_⟩, rfl, by decide⟩
  have last : lastSlash servicesPath = some 4 := rfl
  exact absurd (cut.le_last last) (Nat.not_le.mpr later)

end LionsOS.Posix
