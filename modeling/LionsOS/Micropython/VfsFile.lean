/-
This file embeds the file objects of `vfs_fs_file.c`: reading, writing, seeking, and how
an object is made from a path and a mode. An object keeps the position and the size of
its file. What its memory holds when it is allocated is an argument.
-/

import LionsOS.Micropython.FsClient

namespace LionsOS.Micropython

open Fs (fsBufferSize fsStatusSuccess)

/-! ### Objects -/

/-- `mp_obj_vfs_fs_file_t`. The type is that of a text, or of bytes. -/
structure VfsFsFile where
  text : Bool
  fd : UInt64T
  pos : UInt64T
  size : UInt64T

def fsOpenFlagsReadOnly : UInt64T := 0
def fsOpenFlagsWriteOnly : UInt64T := 1
def fsOpenFlagsReadWrite : UInt64T := 2
def fsOpenFlagsCreate : UInt64T := 4

/-- What a mode says. -/
structure OpenMode where
  rw : UInt64T
  create : Bool
  truncate : Bool
  append : Bool
  text : Bool

namespace OpenMode

/-- Before the first character. -/
def initial (text : Bool) : OpenMode where
  rw := 0
  create := false
  truncate := false
  append := false
  text

/-- What a character adds. Others are passed over. -/
def read (mode : OpenMode) : Char → OpenMode
  | 'r' => { mode with rw := fsOpenFlagsReadOnly }
  | 'w' => { mode with rw := fsOpenFlagsWriteOnly, create := true, truncate := true }
  | 'a' => { mode with rw := fsOpenFlagsWriteOnly, create := true, append := true }
  | '+' => { mode with rw := fsOpenFlagsReadWrite }
  | 'b' => { mode with text := false }
  | 't' => { mode with text := true }
  | _ => mode

/-- The loop over a mode string. -/
def parse (text : Bool) (mode : List Char) : OpenMode :=
  (mode.takeWhile fun char => char.toNat ≠ 0).foldl read (initial text)

def flags (mode : OpenMode) : UInt64T :=
  if mode.create then mode.rw ||| fsOpenFlagsCreate else mode.rw

end OpenMode

/-! ### Reading and writing -/

/-- What a call of the stream protocol returns. -/
inductive StreamResult where
  | streamError
  | returns (amount : UInt64T)

section Functions

variable {Server : Type} (env : FileServer Server)

/-- The bytes that are read are returned beside the result. -/
def vfsFsFileRead (locals : Completion) (client : FsClient Server) (o : VfsFsFile)
    (size : UInt64T) : Option (StreamResult × List UInt8T × VfsFsFile × FsClient Server) :=
  match client.fsBufferAllocate with
  | none => some (.streamError, [], o, client)
  | some (readBuffer, taken) =>
    let issued := taken.fsCommandBlocking env locals
      (.fileRead o.fd o.pos { offset := BitVec.ofNat 64 readBuffer, size })
    if issued.err ∨ issued.completion.status ≠ fsStatusSuccess then
      (issued.client.fsBufferFree readBuffer).map fun freed => (.streamError, [], o, freed)
    else
      let lenRead := issued.completion.data
      let copied := issued.client.copyFrom readBuffer lenRead.toNat
      (copied.2.fsBufferFree readBuffer).map fun freed =>
        (.returns lenRead, copied.1, { o with pos := o.pos + lenRead }, freed)

/-- The end of a write, behind the command. -/
def VfsFsFile.written (o : VfsFsFile) (completion : Completion) : StreamResult × VfsFsFile :=
  if completion.status ≠ fsStatusSuccess then (.streamError, o)
  else
    let pos := o.pos + completion.data
    (.returns completion.data, { o with pos, size := if o.size < pos then pos else o.size })

/-- The status is looked at even if no command was issued. -/
def vfsFsFileWrite (locals : Completion) (client : FsClient Server) (o : VfsFsFile)
    (buf : List UInt8T) : Option (StreamResult × VfsFsFile × FsClient Server) :=
  match client.fsBufferAllocate with
  | none => some (.streamError, o, client)
  | some (writeBuffer, taken) =>
    let issued := (taken.copyTo writeBuffer buf).fsCommandBlocking env locals
      (.fileWrite o.fd o.pos (bufferAt writeBuffer buf.length))
    (issued.client.fsBufferFree writeBuffer).map fun freed =>
      let ended := o.written issued.completion
      (ended.1, ended.2, freed)

inductive Whence where
  | set
  | cur
  | fromEnd

/-- `MP_STREAM_SEEK` of `vfs_fs_file_ioctl`. -/
def VfsFsFile.seek (o : VfsFsFile) (whence : Whence) (offset : UInt64T) : VfsFsFile :=
  match whence with
  | .cur => { o with pos := o.pos + offset }
  | .fromEnd =>
    let pos := o.size + offset
    { o with pos, size := if o.size < pos then pos else o.size }
  | .set => { o with pos := offset }

/-! ### Opening -/

/-- What a file is opened by: a descriptor, or a path. -/
inductive FileIn where
  | smallInt (fd : UInt64T)
  | path (fname : List UInt8T)

inductive Opened where
  | raises (errno : UInt64T)
  | returns (o : VfsFsFile)

/-- The file is closed because of a command that failed. -/
def closeFile (completion : Completion) (client : FsClient Server) (fd : UInt64T) :
    Completion × FsClient Server :=
  let issued := client.fsCommandBlocking env completion (.fileClose fd)
  (issued.completion, issued.client)

/-- The end of `mp_vfs_fs_file_open`, from the truncation on. -/
def truncateOrAppend (mode : OpenMode) (o : VfsFsFile) (completion : Completion)
    (client : FsClient Server) : Opened × FsClient Server :=
  if mode.truncate then
    let issued := client.fsCommandBlocking env completion (.fileTruncate o.fd 0)
    if issued.completion.status ≠ fsStatusSuccess then
      let closed := closeFile env issued.completion issued.client o.fd
      (.raises closed.1.status, closed.2)
    else (.returns o, issued.client)
  else if mode.append then (.returns { o with pos := o.size }, client)
  else (.returns o, client)

/-- The part of `mp_vfs_fs_file_open` behind the command that opens the file. -/
def sizeOpened (mode : OpenMode) (o : VfsFsFile) (buffer : Nat) (completion : Completion)
    (client : FsClient Server) : Option (Opened × FsClient Server) :=
  let issued := client.fsCommandBlocking env completion (.fileSize o.fd)
  if issued.completion.status ≠ fsStatusSuccess then
    let closed := closeFile env issued.completion issued.client o.fd
    (closed.2.fsBufferFree buffer).map fun freed => (.raises closed.1.status, freed)
  else
    some (truncateOrAppend env mode { o with size := issued.completion.data } issued.completion
      issued.client)

/-- `fs_buffer_allocate` returns 1 when there is no buffer. -/
def mpVfsFsFileOpen (locals : Completion) (fresh : VfsFsFile) (client : FsClient Server)
    (text : Bool) (fileIn : FileIn) (modeIn : List Char) : Option (Opened × FsClient Server) :=
  let mode := OpenMode.parse text modeIn
  let o := { fresh with text := mode.text }
  match fileIn with
  | .smallInt fd => some (.returns { o with fd }, client)
  | .path fname =>
    match client.fsBufferAllocate with
    | none => some (.raises 1, client)
    | some (buffer, taken) =>
      let path := cString fname ++ [0]
      let issued := (taken.copyTo buffer path).fsCommandBlocking env locals
        (.fileOpen (bufferAt buffer path.length) mode.flags)
      match issued.client.fsBufferFree buffer with
      | none => none
      | some freed =>
        if issued.completion.status ≠ fsStatusSuccess then
          some (.raises issued.completion.status, freed)
        else sizeOpened env mode { o with fd := issued.completion.data } buffer issued.completion
          freed

end Functions

end LionsOS.Micropython
