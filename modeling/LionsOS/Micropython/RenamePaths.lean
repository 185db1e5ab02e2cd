/-
This file is about the paths of a rename. Both are built in the one growable string of
a mount, behind its root, and the call holds a pointer to the first while it builds the
second. Where the second path is built in place, the pointer reads the second path; where
the string has moved, it reads what is left of memory that was given back. With an empty
root the string is not used.
-/

import Mathlib.Data.BitVec
import Mathlib.Data.List.TakeWhile
import LionsOS.Lib.CStrings
import LionsOS.Micropython.FsClient

namespace LionsOS.Micropython

open Bytes FsClient List
open Fs (FsBuffer bytesAt fsStatusSuccess)

/-! ### Growable strings -/

/-- A string of a program. -/
structure PyStr where
  bytes : List UInt8T
  short : bytes.length < 2 ^ 64
  deriving DecidableEq

/-- What the file system uses of a `vstr_t`. -/
structure Vstr where
  buf : Nat
  len : Nat

/-- The characters of a string are in the memory. -/
def Vstr.Holds (memory : List UInt8T) (vstr : Vstr) (bytes : List UInt8T) : Prop :=
  vstr.len = bytes.length ∧ bytes <+: memory.drop vstr.buf

/-- The functions on growable strings, over the memory of the interpreter. They fail when there is
no memory left. -/
structure VstrFunctions (Gc : Type) where
  memory : Gc → List UInt8T
  bounded : ∀ gc, (memory gc).length < 2 ^ 64
  init : Gc → Option (Gc × Vstr)
  addStr : Gc → Vstr → List UInt8T → Option (Gc × Vstr)
  nullTerminatedStr : Gc → Vstr → Option (Gc × Vstr)
  init_holds : ∀ gc next vstr, init gc = some (next, vstr) → vstr.Holds (memory next) []
  addStr_holds : ∀ gc vstr added next grown bytes, addStr gc vstr added = some (next, grown) →
    vstr.Holds (memory gc) bytes → grown.Holds (memory next) (bytes ++ added)
  nullTerminatedStr_holds : ∀ gc vstr next ended bytes,
    nullTerminatedStr gc vstr = some (next, ended) → vstr.Holds (memory gc) bytes →
    ended.Holds (memory next) bytes ∧ bytes ++ [0] <+: (memory next).drop ended.buf

/-! ### Paths of a mount -/

/-- `mp_obj_vfs_fs_t`. -/
structure VfsFs where
  root : Vstr
  rootLen : Nat

/-- A pointer to a path: to the characters of a string object, or into the string of a mount. -/
inductive PathStr where
  | object (str : PyStr)
  | root (address : Nat)
  deriving DecidableEq

/-- What is read at a pointer, if there is a zero behind it. -/
def PathStr.text (memory : List UInt8T) : PathStr → Option (List UInt8T)
  | .object str => some (cString str.bytes)
  | .root address => CStrings.textOf (memory.drop address)

inductive PyError where
  | memoryError
  | osError (errno : UInt64T)

/-- What comes of the part of a rename in front of its command. -/
inductive RenamePaths (Server : Type) where
  | raises (error : PyError) (client : FsClient Server)
  /-- What is read has no end, or an assertion fires. -/
  | faults
  | sends (oldPath newPath : FsBuffer) (client : FsClient Server)

section Functions

variable {Gc Server : Type} (lib : VstrFunctions Gc)

def vfsFsMakeNew (gc : Gc) (arg : Option PyStr) : Option (Gc × VfsFs) :=
  (lib.init gc).bind fun (gc, root) =>
    match arg with
    | none => some (gc, { root, rootLen := root.len })
    | some path =>
      (lib.addStr gc root (cString path.bytes)).bind fun (gc, root) =>
        (lib.addStr gc root [0x2f]).map fun (gc, root) => (gc, { root, rootLen := root.len })

def vfsFsGetPathStr (gc : Gc) (self : VfsFs) (path : PyStr) : Option (PathStr × Gc × VfsFs) :=
  if self.rootLen = 0 then some (.object path, gc, self)
  else
    (lib.addStr gc { self.root with len := self.rootLen } (cString path.bytes)).bind
      fun (gc, root) => (lib.nullTerminatedStr gc root).map fun (gc, root) =>
        (.root root.buf, gc, { self with root })

/-- The lengths of the paths are found only when the buffers have been allocated. -/
def copyPaths (gc : Gc) (oldPath newPath : PathStr) (client : FsClient Server) :
    RenamePaths Server :=
  match client.fsBufferAllocate with
  | none => .raises (.osError 1) client
  | some (oldPathBuffer, client) =>
    match client.fsBufferAllocate with
    | none =>
      match client.fsBufferFree oldPathBuffer with
      | none => .faults
      | some client => .raises (.osError 1) client
    | some (newPathBuffer, client) =>
      match oldPath.text (lib.memory gc), newPath.text (lib.memory gc) with
      | some oldText, some newText =>
        .sends (bufferAt oldPathBuffer oldText.length) (bufferAt newPathBuffer newText.length)
          ((client.copyTo oldPathBuffer oldText).copyTo newPathBuffer newText)
      | _, _ => .faults

/-- `vfs_fs_rename`, in front of its command. -/
def renamePaths (gc : Gc) (self : VfsFs) (client : FsClient Server) (oldPathIn newPathIn : PyStr) :
    RenamePaths Server :=
  match vfsFsGetPathStr lib gc self oldPathIn with
  | none => .raises .memoryError client
  | some (oldPath, gc, self) =>
    match vfsFsGetPathStr lib gc self newPathIn with
    | none => .raises .memoryError client
    | some (newPath, gc, _) => copyPaths lib gc oldPath newPath client

/-- `none` where the call does not end. -/
def vfsFsRename (env : FileServer Server) (locals : Completion) (gc : Gc) (self : VfsFs)
    (client : FsClient Server) (oldPathIn newPathIn : PyStr) :
    Option (Except PyError Unit × FsClient Server) :=
  match renamePaths lib gc self client oldPathIn newPathIn with
  | .raises error client => some (.error error, client)
  | .faults => none
  | .sends oldPath newPath client =>
    let issued := client.fsCommandBlocking env locals (.rename oldPath newPath)
    (issued.client.fsBufferFree oldPath.offset.toNat).bind fun client =>
      (client.fsBufferFree newPath.offset.toNat).map fun client =>
        if issued.completion.status ≠ fsStatusSuccess then
          (.error (.osError issued.completion.status), client)
        else (.ok (), client)

end Functions

/-! ### Mounts -/

/-- A mount, with the root that is in front of the paths in its string. -/
structure Mounted {Gc : Type} (lib : VstrFunctions Gc) where
  gc : Gc
  self : VfsFs
  rootPath : List UInt8T
  noZero : 0 ∉ rootPath
  rootLen : self.rootLen = rootPath.length
  held : ∃ rest, self.root.Holds (lib.memory gc) (rootPath ++ rest)

section Mounts

variable {Gc : Type} {lib : VstrFunctions Gc} {gc : Gc} {self : VfsFs} {bytes : List UInt8T}

theorem zero_not_mem_cString (bytes : List UInt8T) : 0 ∉ cString bytes := by
  intro member
  simpa using mem_takeWhile_imp member

theorem cString_of_not_mem (noZero : 0 ∉ bytes) : cString bytes = bytes :=
  takeWhile_eq_self_iff.mpr fun _ member =>
    decide_eq_true fun zero => noZero (zero ▸ member)

theorem cString_eq_self_iff : cString bytes = bytes ↔ 0 ∉ bytes :=
  ⟨fun same => same ▸ zero_not_mem_cString bytes, cString_of_not_mem⟩

/-- Every file system object that is made is a mount. -/
theorem exists_mounted_of_makeNew {before : Gc} {arg : Option PyStr}
    (made : vfsFsMakeNew lib before arg = some (gc, self)) :
    ∃ mounted : Mounted lib, mounted.gc = gc ∧ mounted.self = self ∧
      mounted.rootPath = arg.elim [] fun path => cString path.bytes ++ [0x2f] := by
  obtain ⟨⟨first, root⟩, initialised, made⟩ := Option.bind_eq_some_iff.mp made
  have empty := lib.init_holds _ _ _ initialised
  cases arg with
  | none =>
    cases made
    exact ⟨⟨gc, _, [], not_mem_nil, empty.1, [], empty⟩, rfl, rfl, rfl⟩
  | some path =>
    obtain ⟨⟨second, grown⟩, added, made⟩ := Option.bind_eq_some_iff.mp made
    obtain ⟨⟨third, slashed⟩, ended, same⟩ := Option.map_eq_some_iff.mp made
    cases same
    have holds := lib.addStr_holds _ _ _ _ _ _ ended (lib.addStr_holds _ _ _ _ _ _ added empty)
    refine ⟨⟨gc, _, cString path.bytes ++ [0x2f], ?_, holds.1, [], ?_⟩, rfl, rfl, rfl⟩
    · intro member
      rcases mem_append.mp member with inPath | slash
      · exact zero_not_mem_cString _ inPath
      · cases mem_singleton.mp slash
    · rw [append_nil]
      exact holds

/-- What is built for a path reads as the root and the path, and the mount has the root still. -/
theorem getPathStr_spec (mounted : Mounted lib) {path : PyStr} {str : PathStr}
    (built : vfsFsGetPathStr lib mounted.gc mounted.self path = some (str, gc, self)) :
    ∃ next : Mounted lib, next.gc = gc ∧ next.self = self ∧ next.rootPath = mounted.rootPath ∧
      str.text (lib.memory gc) = some (mounted.rootPath ++ cString path.bytes) := by
  unfold vfsFsGetPathStr at built
  split_ifs at built with empty
  · cases built
    have none : mounted.rootPath = [] :=
      eq_nil_of_length_eq_zero (mounted.rootLen.symm.trans empty)
    refine ⟨mounted, rfl, rfl, rfl, ?_⟩
    rw [none]
    rfl
  · obtain ⟨⟨second, grown⟩, added, built⟩ := Option.bind_eq_some_iff.mp built
    obtain ⟨⟨third, ended⟩, terminated, same⟩ := Option.map_eq_some_iff.mp built
    cases same
    obtain ⟨rest, _, inMemory⟩ := mounted.held
    have truncated : Vstr.Holds (lib.memory mounted.gc)
        { mounted.self.root with len := mounted.self.rootLen } mounted.rootPath :=
      ⟨mounted.rootLen, (prefix_append _ _).trans inMemory⟩
    obtain ⟨holds, behind⟩ := lib.nullTerminatedStr_holds _ _ _ _ _ terminated
      (lib.addStr_holds _ _ _ _ _ _ added truncated)
    refine ⟨⟨gc, { mounted.self with root := ended }, mounted.rootPath, mounted.noZero,
      mounted.rootLen, _, holds⟩, rfl, rfl, rfl, ?_⟩
    obtain ⟨more, same⟩ := behind
    refine CStrings.textOf_eq_some_iff.mpr ⟨fun member => ?_, more, ?_⟩
    · rcases mem_append.mp member with inRoot | inPath
      · exact mounted.noZero inRoot
      · exact zero_not_mem_cString _ inPath
    · rw [← same, append_assoc]
      rfl

end Mounts

/-! ### What is sent -/

/-- If a command is sent, its ranges hold these paths. -/
def RenamePaths.Sends {Server : Type} (oldBytes newBytes : List UInt8T) :
    RenamePaths Server → Prop
  | .raises .. => True
  | .faults => False
  | .sends oldPath newPath client => bytesAt client.buffers.share oldPath.range = oldBytes ∧
      bytesAt client.buffers.share newPath.range = newBytes

/-- Bytes that were copied to one place are these when others have been copied to a second. -/
def CopiedOver (first second : Nat) (left upper sent : List UInt8T) : Prop :=
  sent.length = left.length ∧ ∀ k < left.length, sent[k]? =
    if second ≤ first + k ∧ first + k < second + upper.length then upper[first + k - second]?
    else left[k]?

section Sending

variable {Gc Server : Type} {lib : VstrFunctions Gc} {gc : Gc} {client : FsClient Server}
  {oldPath newPath : PathStr} {text : List UInt8T} {old new : PyStr}

theorem share_copyTo (buffer : Nat) (bytes : List UInt8T) :
    (client.copyTo buffer bytes).buffers.share = copy client.buffers.share
      ⟨buffer, bytes.length⟩ (fun index => bytes[index]?.getD 0) 0 :=
  rfl

theorem bytesAt_copied_iff {share : Nat → UInt8T} {first second : Nat}
    {left upper sent : List UInt8T} :
    bytesAt (copy (copy share ⟨first, left.length⟩ (fun index => left[index]?.getD 0) 0)
        ⟨second, upper.length⟩ (fun index => upper[index]?.getD 0) 0) ⟨first, left.length⟩ = sent ↔
      CopiedOver first second left upper sent := by
  let copied := copy (copy share ⟨first, left.length⟩ (fun index => left[index]?.getD 0) 0)
    ⟨second, upper.length⟩ (fun index => upper[index]?.getD 0) 0
  have length : (bytesAt copied ⟨first, left.length⟩).length = left.length := by
    rw [bytesAt, length_map, length_range]
  have byte : ∀ k < left.length, (bytesAt copied ⟨first, left.length⟩)[k]? =
      if second ≤ first + k ∧ first + k < second + upper.length then upper[first + k - second]?
      else left[k]? := by
    intro k inside
    have inFirst : first + k ∈ (⟨first, left.length⟩ : Range) :=
      ⟨Nat.le_add_right _ _, Nat.add_lt_add_left inside _⟩
    rw [bytesAt, getElem?_map, getElem?_range inside, Option.map_some]
    split_ifs with covered
    · have within : first + k - second < upper.length := by omega
      rw [show copied (first + k) = upper[0 + (first + k - second)]?.getD 0 from
        copy_of_mem covered, Nat.zero_add, getElem?_eq_getElem within, Option.getD_some]
    · rw [show copied (first + k) = _ from copy_of_not_mem covered, copy_of_mem inFirst,
        Nat.zero_add, Nat.add_sub_cancel_left, getElem?_eq_getElem inside, Option.getD_some]
  constructor
  · rintro rfl
    exact ⟨length, byte⟩
  · rintro ⟨sameLength, sameBytes⟩
    refine ext_getElem? fun k => ?_
    by_cases inside : k < left.length
    · exact (byte k inside).trans (sameBytes k inside).symm
    · have behind := Nat.not_lt.mp inside
      exact (getElem?_eq_none (length.trans_le behind)).trans
        (getElem?_eq_none (sameLength.trans_le behind)).symm

theorem length_text_lt (read : oldPath.text (lib.memory gc) = some text) :
    text.length < 2 ^ 64 := by
  cases oldPath with
  | object str =>
    cases read
    exact ( takeWhile_prefix _).length_le.trans_lt str.short
  | root address =>
    obtain ⟨_, rest, same⟩ := CStrings.textOf_eq_some_iff.mp read
    have bound := lib.bounded gc
    have lengths := congrArg length same
    rw [length_drop, length_append] at lengths
    omega

theorem range_bufferAt {i : Nat} (small : i < Fs.numBuffers) (short : text.length < 2 ^ 64) :
    (bufferAt (i * Fs.fsBufferSize) text.length).range =
      ⟨i * Fs.fsBufferSize, text.length⟩ :=
  congrArg₂ Range.mk (toNat_bufferAt_offset small _)
    ((BitVec.toNat_ofNat _ _).trans (Nat.mod_eq_of_lt short))

/-- The first path that is sent is what its pointer reads then, with the second over it. -/
theorem copyPaths_sends_iff {newText oldBytes newBytes : List UInt8T}
    (readNew : newPath.text (lib.memory gc) = some newText) :
    (copyPaths lib gc oldPath newPath client).Sends oldBytes newBytes ↔
      ∀ first client₁ second client₂, client.fsBufferAllocate = some (first, client₁) →
        client₁.fsBufferAllocate = some (second, client₂) →
        newText = newBytes ∧ ∃ left, oldPath.text (lib.memory gc) = some left ∧
          CopiedOver first second left newText oldBytes := by
  unfold copyPaths
  cases allocated : client.fsBufferAllocate with
  | none => exact iff_of_true trivial fun _ _ _ _ impossible => by cases impossible
  | some held =>
    obtain ⟨first, client₁⟩ := held
    obtain ⟨i, small, rfl, rfl⟩ := fsBufferAllocate_eq_some allocated
    dsimp only
    cases allocatedNext : (client.holding i).fsBufferAllocate with
    | none =>
      obtain ⟨freed, released⟩ := fsBufferFree_of_used small
        (@FsClient.holding_used_self _ client _)
      rw [released]
      refine iff_of_true trivial fun _ _ _ _ same impossible => ?_
      cases same
      cases allocatedNext.symm.trans impossible
    | some heldNext =>
      obtain ⟨second, client₂⟩ := heldNext
      obtain ⟨j, smallNext, rfl, rfl⟩ := fsBufferAllocate_eq_some allocatedNext
      have only (Holds : Nat → Nat → Prop) : (∀ first client₁ second client₂,
          some (i * Fs.fsBufferSize, client.holding i) = some (first, client₁) →
          client₁.fsBufferAllocate = some (second, client₂) → Holds first second) ↔
            Holds (i * Fs.fsBufferSize) (j * Fs.fsBufferSize) := by
        refine ⟨fun all => all _ _ _ _ rfl allocatedNext, ?_⟩
        rintro holds _ _ second client₂ ⟨⟩ same
        cases allocatedNext.symm.trans same
        exact holds
      rw [only fun first second => newText = newBytes ∧ ∃ left,
        oldPath.text (lib.memory gc) = some left ∧ CopiedOver first second left newText oldBytes]
      rw [readNew]
      cases readOld : oldPath.text (lib.memory gc) with
      | none => exact iff_of_false not_false fun ⟨_, _, impossible, _⟩ => by cases impossible
      | some left =>
        simp only [RenamePaths.Sends, Option.some.injEq, exists_eq_left']
        rw [range_bufferAt small (length_text_lt readOld),
          range_bufferAt smallNext (length_text_lt readNew)]
        rw [share_copyTo, share_copyTo, bytesAt_copied_iff, Fs.bytesAt_copy]
        exact and_comm

/-! ### Renames -/

/-- What the pointer to the first path reads when the second has been built: the path itself if
there is no root, the second path if the string is where it was, and otherwise what is left where
the string has been. -/
def StillReads (mounted : Mounted lib) (memory : List UInt8T) (oldPath newPath : PathStr)
    (old new : PyStr) (left : List UInt8T) : Prop :=
  if mounted.rootPath = [] then left = cString old.bytes
  else if oldPath = newPath then left = mounted.rootPath ++ new.bytes
  else oldPath.text memory = some left

/-- The second path has no zero in it, and what the first pointer reads has, with the second path
over it where the buffers meet, the bytes of the first path. -/
def PathsKept (mounted : Mounted lib) (client : FsClient Server) (old new : PyStr) : Prop :=
  ∀ oldPath gc₁ self₁ newPath gc₂ self₂ first client₁ second client₂,
    vfsFsGetPathStr lib mounted.gc mounted.self old = some (oldPath, gc₁, self₁) →
    vfsFsGetPathStr lib gc₁ self₁ new = some (newPath, gc₂, self₂) →
    client.fsBufferAllocate = some (first, client₁) →
    client₁.fsBufferAllocate = some (second, client₂) →
    0 ∉ new.bytes ∧ ∃ left, StillReads mounted (lib.memory gc₂) oldPath newPath old new left ∧
      CopiedOver first second left (mounted.rootPath ++ new.bytes) (mounted.rootPath ++ old.bytes)

theorem stillReads_iff {mounted : Mounted lib} {gc₁ gc₂ : Gc} {self₁ : VfsFs} {left : List UInt8T}
    (noZero : 0 ∉ new.bytes)
    (builtOld : vfsFsGetPathStr lib mounted.gc mounted.self old = some (oldPath, gc₁, self₁))
    (readNew : newPath.text (lib.memory gc₂) = some (mounted.rootPath ++ cString new.bytes)) :
    StillReads mounted (lib.memory gc₂) oldPath newPath old new left ↔
      oldPath.text (lib.memory gc₂) = some left := by
  unfold StillReads
  split_ifs with empty same
  · have noRoot : mounted.self.rootLen = 0 := mounted.rootLen.trans (congrArg length empty)
    unfold vfsFsGetPathStr at builtOld
    rw [if_pos noRoot] at builtOld
    cases builtOld
    exact eq_comm.trans (Option.some_inj (a := cString old.bytes)).symm
  · rw [same, readNew, cString_of_not_mem noZero]
    exact eq_comm.trans Option.some_inj.symm
  · exact Iff.rfl

/-- Whatever the root and the lengths of the paths, the server is sent both paths exactly if the
first is not lost while the second is built. -/
theorem rename_sends_iff {mounted : Mounted lib} {old new : PyStr} :
    (renamePaths lib mounted.gc mounted.self client old new).Sends
        (mounted.rootPath ++ old.bytes) (mounted.rootPath ++ new.bytes) ↔
      PathsKept mounted client old new := by
  unfold renamePaths
  cases builtOld : vfsFsGetPathStr lib mounted.gc mounted.self old with
  | none =>
    refine iff_of_true trivial fun _ _ _ _ _ _ _ _ _ _ impossible => ?_
    cases builtOld.symm.trans impossible
  | some built =>
    obtain ⟨oldPath, gc₁, self₁⟩ := built
    obtain ⟨next, rfl, rfl, sameRoot, _⟩ := getPathStr_spec mounted builtOld
    dsimp only
    cases builtNew : vfsFsGetPathStr lib next.gc next.self new with
    | none =>
      refine iff_of_true trivial fun _ _ _ _ _ _ _ _ _ _ same impossible => ?_
      cases builtOld.symm.trans same
      cases builtNew.symm.trans impossible
    | some builtNext =>
      obtain ⟨newPath, gc₂, self₂⟩ := builtNext
      obtain ⟨_, _, _, _, readNew⟩ := getPathStr_spec next builtNew
      rw [sameRoot] at readNew
      rw [copyPaths_sends_iff readNew]
      have kept {first second : Nat} : (mounted.rootPath ++ cString new.bytes =
            mounted.rootPath ++ new.bytes ∧ ∃ left, oldPath.text (lib.memory gc₂) = some left ∧
              CopiedOver first second left (mounted.rootPath ++ cString new.bytes)
                (mounted.rootPath ++ old.bytes)) ↔
          0 ∉ new.bytes ∧ ∃ left, StillReads mounted (lib.memory gc₂) oldPath newPath old new left ∧
              CopiedOver first second left (mounted.rootPath ++ new.bytes)
                (mounted.rootPath ++ old.bytes) := by
        rw [append_cancel_left_eq, cString_eq_self_iff]
        refine and_congr_right fun noZero => exists_congr fun left => ?_
        rw [stillReads_iff noZero builtOld readNew, cString_of_not_mem noZero]
      constructor
      · intro sent _ _ _ _ _ _ first client₁ second client₂ sameOld sameNew allocated allocatedNext
        cases builtOld.symm.trans sameOld
        cases builtNew.symm.trans sameNew
        exact kept.mp (sent _ _ _ _ allocated allocatedNext)
      · intro paths first client₁ second client₂ allocated allocatedNext
        exact kept.mpr (paths _ _ _ _ _ _ _ _ _ _ builtOld builtNew allocated allocatedNext)

/-- The command of a rename that ends is the one that was prepared, if it could be issued. -/
theorem exchanges_of_renamed {env : FileServer Server} {locals : Completion} {self : VfsFs}
    {result : Except PyError Unit} {next prepared : FsClient Server} {oldBuf newBuf : FsBuffer}
    (sends : renamePaths lib gc self client old new = .sends oldBuf newBuf prepared)
    (available : env.available prepared.server = true)
    (renamed : vfsFsRename lib env locals gc self client old new = some (result, next)) :
    next.record.exchanges = prepared.record.exchanges ++
      [(.rename oldBuf newBuf, (prepared.exchange env (.rename oldBuf newBuf)).1)] := by
  unfold vfsFsRename fsCommandBlocking at renamed
  rw [sends] at renamed
  dsimp only at renamed
  rw [if_pos available] at renamed
  obtain ⟨freed, released, renamed⟩ := Option.bind_eq_some_iff.mp renamed
  obtain ⟨last, releasedNext, ended⟩ := Option.map_eq_some_iff.mp renamed
  have same : last = next := by
    split_ifs at ended <;> exact congrArg Prod.snd ended
  rw [← same, fsBufferFree_record releasedNext, fsBufferFree_record released]
  rfl

end Sending

/-! ### A string that stays where it is -/

/-- Bytes are written into a memory that has room for them. -/
def writeInto (memory : { bytes : List UInt8T // bytes.length < 2 ^ 64 }) (offset : Nat)
    (bytes : List UInt8T) : Option { bytes : List UInt8T // bytes.length < 2 ^ 64 } :=
  if inside : offset + bytes.length ≤ memory.val.length then
    some ⟨memory.val.take offset ++ bytes ++ memory.val.drop (offset + bytes.length), by
      have fits := memory.property
      simp only [length_append, length_take, length_drop]
      omega⟩
  else none

theorem prefix_of_writeInto {memory next : { bytes : List UInt8T // bytes.length < 2 ^ 64 }}
    {vstr : Vstr} {bytes added : List UInt8T} (holds : vstr.Holds memory.val bytes)
    (written : writeInto memory (vstr.buf + vstr.len) added = some next) :
    bytes ++ added <+: next.val.drop vstr.buf := by
  obtain ⟨length, inMemory⟩ := holds
  unfold writeInto at written
  split_ifs at written with inside
  cases written
  have short : vstr.buf ≤ (memory.val.take (vstr.buf + vstr.len)).length := by
    rw [length_take]
    omega
  have front : (memory.val.take (vstr.buf + vstr.len)).drop vstr.buf = bytes := by
    rw [drop_take, Nat.add_sub_cancel_left, length]
    exact (prefix_iff_eq_take.mp inMemory).symm
  show _ <+: drop _ (_ ++ _ ++ _)
  rw [append_assoc, drop_append_of_le_length short, front, ← append_assoc]
  exact prefix_append _ _

/-- A string has all of the memory, and fails to grow beyond it. -/
def inPlace : VstrFunctions { bytes : List UInt8T // bytes.length < 2 ^ 64 } where
  memory gc := gc.val
  bounded gc := gc.property
  init gc := some (gc, ⟨0, 0⟩)
  addStr gc vstr added := (writeInto gc (vstr.buf + vstr.len) added).map fun next =>
    (next, { vstr with len := vstr.len + added.length })
  nullTerminatedStr gc vstr := (writeInto gc (vstr.buf + vstr.len) [0]).map fun next => (next, vstr)
  init_holds gc next vstr made := by
    cases made
    exact ⟨rfl, nil_prefix⟩
  addStr_holds gc vstr added next grown bytes done holds := by
    obtain ⟨memory, written, same⟩ := Option.map_eq_some_iff.mp done
    cases same
    have grew := prefix_of_writeInto holds written
    exact ⟨by rw [length_append, ← holds.1], grew⟩
  nullTerminatedStr_holds gc vstr next ended bytes done holds := by
    obtain ⟨memory, written, same⟩ := Option.map_eq_some_iff.mp done
    cases same
    have ended := prefix_of_writeInto holds written
    exact ⟨⟨holds.1, (prefix_append _ _).trans ended⟩, ended⟩

/-- A mount with the root `r/`. -/
def mountedInPlace : Mounted inPlace where
  gc := ⟨[0x72, 0x2f, 0, 0, 0, 0, 0, 0], by decide⟩
  self := ⟨⟨0, 2⟩, 2⟩
  rootPath := [0x72, 0x2f]
  noZero := by decide
  rootLen := rfl
  held := ⟨[], rfl, by decide⟩

/-- A rename of `a` to `b` names `r/b` twice. -/
theorem rename_loses_old_path :
    ¬ (renamePaths inPlace mountedInPlace.gc mountedInPlace.self unused
      ⟨[0x61], by decide⟩ ⟨[0x62], by decide⟩).Sends [0x72, 0x2f, 0x61] [0x72, 0x2f, 0x62] := by
  have built : renamePaths inPlace mountedInPlace.gc mountedInPlace.self unused
      ⟨[0x61], by decide⟩ ⟨[0x62], by decide⟩ = copyPaths inPlace
        ⟨[0x72, 0x2f, 0x62, 0, 0, 0, 0, 0], by decide⟩ (.root 0) (.root 0) unused := rfl
  have reads : (PathStr.root 0).text [0x72, 0x2f, 0x62, 0, 0, 0, 0, 0] =
      some [0x72, 0x2f, 0x62] := rfl
  rw [built, copyPaths_sends_iff reads]
  intro sends
  obtain ⟨⟨first, client₁⟩, allocated⟩ := Option.isSome_iff_exists.mp
    (fsBufferAllocate_isSome (show 0 < Fs.numBuffers by decide)
      (rfl : unused.buffers.used 0 = false))
  obtain ⟨i, _, rfl, rfl⟩ := fsBufferAllocate_eq_some allocated
  have unused : ∃ j < Fs.numBuffers, (unused.holding i).buffers.used j = false := by
    by_cases zero : i = 0
    · exact ⟨1, by decide, Function.update_of_ne (by omega) _ _⟩
    · exact ⟨0, by decide, Function.update_of_ne (Ne.symm zero) _ _⟩
  obtain ⟨j, small, free⟩ := unused
  obtain ⟨⟨second, client₂⟩, allocatedNext⟩ :=
    Option.isSome_iff_exists.mp (fsBufferAllocate_isSome small free)
  obtain ⟨_, left, read, upper⟩ := sends _ _ _ _ allocated allocatedNext
  cases reads.symm.trans read
  have third := upper.2 2 (by decide)
  split_ifs at third with covered
  · exact absurd (mem_of_getElem? third.symm) (by decide)
  · exact absurd third (by decide)

end LionsOS.Micropython
