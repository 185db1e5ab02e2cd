/-
This file is about the paths that the NFS server renames. The array of both path
buffers has two bytes to a row, so the second path is copied over all of the
first but its first two bytes; and what is copied second is the old path again.
-/

import LionsOS.Nfs.Requests

namespace LionsOS.Nfs

open LionsOS.Fs List

variable {path oldPath : List UInt8T}

/-! ### Strings -/

/-- The string that starts at these bytes. -/
def cString (bytes : List UInt8T) : List UInt8T :=
  bytes.takeWhile (· ≠ 0)

theorem cString_cons (byte : UInt8T) (bytes : List UInt8T) :
    cString (byte :: bytes) = if byte = 0 then [] else byte :: cString bytes := by
  simp only [cString, takeWhile_cons, decide_not, Bool.not_eq_true', decide_eq_false_iff_not,
    ite_not]

theorem cString_append {bytes : List UInt8T} (ends : 0 ∈ bytes) (rest : List UInt8T) :
    cString (bytes ++ rest) = cString bytes := by
  induction bytes with
  | nil => cases ends
  | cons byte bytes inductionHypothesis =>
    rw [cons_append, cString_cons, cString_cons]
    by_cases zero : byte = 0
    · rw [if_pos zero, if_pos zero]
    · rcases mem_cons.mp ends with same | later
      · exact absurd same.symm zero
      · rw [inductionHypothesis later]

/-! ### The path buffers -/

theorem bytesAt_append (memory : Nat → UInt8T) (start first second : Nat) :
    bytesAt memory ⟨start, first + second⟩ =
      bytesAt memory ⟨start, first⟩ ++ bytesAt memory ⟨start + first, second⟩ := by
  simp only [bytesAt, range_add, map_append, map_map]
  refine congrArg _ (map_congr_left fun index _ => ?_)
  rw [Function.comp_apply, Nat.add_assoc]

section

variable (server : NfsServer)
include server

theorem bytesAt_writePath (slot : Fin 2) (path : List UInt8T) :
    bytesAt (server.writePath slot path).pathBuffer ⟨2 * slot, path.length⟩ = path :=
  bytesAt_copy _ _ _

theorem bytesAt_writePath_before (slot : Fin 2) (path : List UInt8T) {start length : Nat}
    (before : start + length ≤ 2 * slot) :
    bytesAt (server.writePath slot path).pathBuffer ⟨start, length⟩ =
      bytesAt server.pathBuffer ⟨start, length⟩ := by
  refine map_congr_left fun index inside => ?_
  have inside := mem_range.mp inside
  refine if_neg ?_
  rintro ⟨behind, _⟩
  exact absurd (Nat.lt_of_lt_of_le (Nat.add_lt_add_left inside start) before)
    (Nat.not_lt.mpr behind)

theorem bytesAt_writePath_zero (long : 2 ≤ path.length) :
    bytesAt (server.writePath 0 path).pathBuffer ⟨0, 2⟩ = path.take 2 := by
  have all := bytesAt_writePath server 0 path
  rw [← Nat.add_sub_cancel' long, bytesAt_append] at all
  exact (take_left' (by rfl)).symm.trans (congrArg (take 2) all)

theorem pathIn_one_writePath (ends : 0 ∈ path) (fits : path.length ≤ fsMaxPathLength + 1) :
    (server.writePath 1 path).pathIn 1 = cString path := by
  have room : 2 * (fsMaxPathLength + 1) - 2 * (1 : Fin 2).val =
      path.length + (2 * (fsMaxPathLength + 1) - 2 * (1 : Fin 2).val - path.length) :=
    (Nat.add_sub_cancel' (fits.trans (by decide))).symm
  rw [NfsServer.pathIn, room, bytesAt_append, bytesAt_writePath]
  exact cString_append ends _

theorem pathIn_zero_writePath {first second : List UInt8T} (ends : 0 ∈ second)
    (long : 2 ≤ first.length) (fits : second.length ≤ fsMaxPathLength + 1) :
    ((server.writePath 0 first).writePath 1 second).pathIn 0 =
      cString (first.take 2 ++ second) := by
  have room : 2 * (fsMaxPathLength + 1) - 2 * (0 : Fin 2).val =
      2 + (second.length + (2 * fsMaxPathLength - second.length)) := by
    rw [Nat.add_sub_cancel' (fits.trans (by decide))]
    rfl
  have copied := bytesAt_writePath (server.writePath 0 first) 1 second
  rw [NfsServer.pathIn, room, bytesAt_append, bytesAt_append]
  show cString (bytesAt _ ⟨0, 2⟩ ++ (bytesAt _ ⟨2 * (1 : Fin 2).val, second.length⟩ ++ _)) = _
  rw [copied, bytesAt_writePath_before _ 1 second (by rfl), bytesAt_writePath_zero server long,
    ← append_assoc]
  exact cString_append (mem_append_right _ ends) _

end

theorem cString_take_append_iff (long : 2 ≤ path.length) :
    cString (path.take 2 ++ path) = cString path ↔ (cString path).length ≤ 1 := by
  match path, long with
  | first :: second :: rest, _ =>
    rw [take_succ_cons, take_succ_cons, take_zero, cons_append,
      cons_append, nil_append, cString_cons, cString_cons second,
      cString_cons first (second :: rest), cString_cons second rest]
    by_cases empty : first = 0
    · simp [empty]
    · by_cases one : second = 0
      · simp only [empty, one, if_true, true_iff]
        exact Nat.le_refl 1
      · simp only [empty, one, if_false, cons.injEq, true_and, length_cons]
        refine iff_of_false (fun same => ?_) (by omega)
        have lengths := congrArg length same
        simp only [length_cons] at lengths
        omega

/-! ### Renaming -/

/-- The call of libnfs that a handler makes, whether libnfs accepts it or not. -/
def callMade (handler : NfsAnswer → Outcome) (answer : NfsAnswer) : Option NfsCall :=
  match (handler { answer with submitted := true }).progress with
  | .submitted call _ => some call
  | _ => none

variable {server : NfsServer} {id : UInt64T} {params : CmdParams}

theorem copied_path {buf : FsBuffer}
    (copied : fsCopyClientPath server.share clientShareSize buf = some path) :
    0 ∈ path ∧ 2 ≤ path.length ∧ path.length ≤ fsMaxPathLength + 1 := by
  unfold fsCopyClientPath at copied
  split at copied
  case h_1 => cases copied
  case h_2 data checked =>
    obtain ⟨short, ⟨⟩⟩ := Option.ite_none_left_eq_some.mp copied
    have length : (bytesAt server.share buf.range ++ [0]).length = buf.size.toNat + 1 := by
      rw [length_append, bytesAt, length_map, length_range]
      rfl
    rw [length]
    exact ⟨mem_append_right _ (mem_singleton_self _),
      Nat.succ_le_succ (fsGetClientBuffer_eq_some.mp checked).2.1,
      Nat.succ_le_succ (Nat.not_lt.mp short)⟩

/-- What the server asks libnfs to rename is, as the old path, the start of the old path and the old
path, and as the new path the old path. -/
theorem callMade_handleRename (answer : NfsAnswer)
    (copied : fsCopyClientPath server.share clientShareSize (paramBuffer params 0) = some oldPath) :
    callMade (fun answer => handleRename server answer id params) answer =
      if server.firstFreeCont = none then none
      else some (.rename (cString (oldPath.take 2 ++ oldPath)) (cString oldPath)) := by
  obtain ⟨ends, long, fits⟩ := copied_path copied
  have again : fsCopyClientPath (server.writePath 0 oldPath).share clientShareSize
      (paramBuffer params 0) = some oldPath := copied
  simp only [callMade, handleRename, withPath, copied, again, submitWith, withContinuation, submit]
  rw [pathIn_zero_writePath server ends long fits, pathIn_one_writePath _ ends fits]
  cases exhausted : server.firstFreeCont with
  | none => simp [continuationAlloc, NfsServer.writePath, exhausted, fail]
  | some cont => simp [continuationAlloc, NfsServer.writePath, exhausted]

/-- The server passes exactly the client's old and new path to libnfs where there is a continuation,
the old path is of one byte at most, and the new path is the old one. -/
theorem rename_passes_paths_iff (answer : NfsAnswer) {oldPath newPath : List UInt8T}
    (copiedOld : fsCopyClientPath server.share clientShareSize (paramBuffer params 0) =
      some oldPath)
    (_copiedNew : fsCopyClientPath server.share clientShareSize (paramBuffer params 2) =
      some newPath) :
    callMade (fun answer => handleRename server answer id params) answer =
        some (.rename (cString oldPath) (cString newPath)) ↔
      server.firstFreeCont ≠ none ∧ (cString oldPath).length ≤ 1 ∧
        cString newPath = cString oldPath := by
  obtain ⟨_, long, _⟩ := copied_path copiedOld
  rw [callMade_handleRename answer copiedOld, ← cString_take_append_iff long]
  split_ifs with exhausted
  · simp [exhausted]
  · simp [exhausted, eq_comm]

/-- The server with the two paths of two bytes at the start of the share. -/
def renamingServer : NfsServer :=
  { NfsSystem.started.server with share := fun address => [97, 98, 99, 100][address]?.getD 0 }

/-- To rename a path of one byte to itself passes both paths. -/
theorem one_byte_path_passed :
    callMade (fun answer => handleRename renamingServer answer 0 (paramsOf [0, 1, 0, 1]))
      NfsSystem.accepting = some (.rename [97] [97]) := by
  have copied : fsCopyClientPath renamingServer.share clientShareSize
      (paramBuffer (paramsOf [0, 1, 0, 1]) 0) = some [97, 0] := by decide
  exact (rename_passes_paths_iff NfsSystem.accepting copied copied).mpr ⟨by decide, by decide, rfl⟩

/-- To rename a path of two bytes to another one asks libnfs to rename a third path to the first. -/
theorem other_paths_passed :
    fsCopyClientPath renamingServer.share clientShareSize
        (paramBuffer (paramsOf [0, 2, 2, 2]) 0) = some [97, 98, 0] ∧
      fsCopyClientPath renamingServer.share clientShareSize
        (paramBuffer (paramsOf [0, 2, 2, 2]) 2) = some [99, 100, 0] ∧
      callMade (fun answer => handleRename renamingServer answer 0 (paramsOf [0, 2, 2, 2]))
        NfsSystem.accepting = some (.rename [97, 98, 97, 98] [97, 98]) := by
  have copied : fsCopyClientPath renamingServer.share clientShareSize
      (paramBuffer (paramsOf [0, 2, 2, 2]) 0) = some [97, 98, 0] := by decide
  rw [callMade_handleRename NfsSystem.accepting copied]
  decide

end LionsOS.Nfs
