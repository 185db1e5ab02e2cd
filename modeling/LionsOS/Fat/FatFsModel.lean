/-
This file is about what the handlers rely on of FatFs: each open file has a
position, `f_lseek` sets it, and `f_read`, `f_write` and `f_truncate` act there.
A plain FatFs that does this on a volume in memory shows that it can be had; its
table of open objects is cleared at each mount, as the one of FatFs is, and an
open is refused when the table is full.
-/

import LionsOS.Fat.Workers

open Function

namespace LionsOS.Fat

open LionsOS.Fs StepRun

/-! ### Positions -/

/-- Bytes of the share are put at an offset of a file, and nowhere else. -/
def PutAt {File : Type} (contents : File → Nat → UInt8T) (file : File) (offset : UInt64T)
    (share : Nat → UInt8T) (buff : UInt64T) (count : UInt32T) (after : File → Nat → UInt8T) : Prop :=
  after file = Bytes.copy (contents file) ⟨offset.toNat, count.toNat⟩ share buff.toNat ∧
    ∀ other, other ≠ file → after other = contents other

/-- The share gets the bytes at an offset of a file. -/
def GotFrom (contents : Nat → UInt8T) (offset : UInt64T) (share : Nat → UInt8T) (buff : UInt64T)
    (count : UInt32T) (after : Nat → UInt8T) : Prop :=
  after = Bytes.copy share ⟨buff.toNat, count.toNat⟩ contents offset.toNat

/-- A file gets a length, and no other file does. -/
def CutTo {File : Type} (size : File → UInt64T) (file : File) (length : UInt64T)
    (after : File → UInt64T) : Prop :=
  after file = length ∧ ∀ other, other ≠ file → after other = size other

/-- The calls that may change the position of an open file. -/
def FatFsCall.Moves (file : Fin maxOpenFiles) : FatFsCall → Prop
  | .fOpen moved _ _ | .fLseek moved _ | .fRead moved _ _ | .fWrite moved _ _ => moved = file
  | _ => False

/-- Open files have positions in the files of the volume, and are accessed there. -/
structure Positional (fatfs : FatFs) where
  File : Type
  fileOf : fatfs.Volume → Fin maxOpenFiles → File
  contents : fatfs.Volume → File → Nat → UInt8T
  size : fatfs.Volume → File → UInt64T
  position : fatfs.Volume → Fin maxOpenFiles → UInt64T
  seeks : ∀ {file offset volume share reply volume' share'},
    fatfs.Acts (.fLseek file offset) volume share reply volume' share' → reply.result = .ok →
      position volume' file = offset
  writes : ∀ {file buff btw volume share reply volume' share'},
    fatfs.Acts (.fWrite file buff btw) volume share reply volume' share' → reply.result = .ok →
      reply.count ≤ btw ∧ PutAt (contents volume) (fileOf volume file) (position volume file) share
        buff reply.count (contents volume')
  reads : ∀ {file buff btr volume share reply volume' share'},
    fatfs.Acts (.fRead file buff btr) volume share reply volume' share' → reply.result = .ok →
      reply.count ≤ btr ∧ GotFrom (contents volume (fileOf volume file)) (position volume file)
        share buff reply.count share'
  truncates : ∀ {file volume share reply volume' share'},
    fatfs.Acts (.fTruncate file) volume share reply volume' share' → reply.result = .ok →
      CutTo (size volume) (fileOf volume file) (position volume file) (size volume')
  others : ∀ {call file volume share reply volume' share'},
    fatfs.Acts call volume share reply volume' share' → ¬ call.Moves file →
      position volume' file = position volume file

/-! ### A plain FatFs -/

/-- `FF_FS_LOCK` -/
def ffFsLock : Nat := 48

/-- The files of a volume by their paths, and what is open of them. -/
structure PlainVolume where
  contents : List UInt8T → Nat → UInt8T
  size : List UInt8T → UInt64T
  opened : Fin maxOpenFiles → List UInt8T
  position : Fin maxOpenFiles → UInt64T
  locks : Nat

open PlainVolume

namespace PlainVolume

/-- The size of the file that an open file is of. -/
def sizeOf (volume : PlainVolume) (file : Fin maxOpenFiles) : UInt64T :=
  volume.size (volume.opened file)

/-- Move an open file to a position, which extends its file if that is behind its end. -/
def seek (volume : PlainVolume) (file : Fin maxOpenFiles) (offset : UInt64T) : PlainVolume :=
  { volume with
    position := update volume.position file offset
    size := update volume.size (volume.opened file)
      (if volume.sizeOf file < offset then offset else volume.sizeOf file) }

/-- How much is read at the position of an open file: no more than its file has there. -/
def readCount (volume : PlainVolume) (file : Fin maxOpenFiles) (btr : UInt32T) : UInt32T :=
  if (volume.sizeOf file - volume.position file).toNat < btr.toNat then
    (volume.sizeOf file - volume.position file).setWidth 32
  else btr

def succeeded (count : UInt32T) : FatFsReply where
  result := .ok
  count := count
  info := { fsize := 0, ftime := 0, fattrib := 0, fname := [] }

def refused : FatFsReply where
  result := .tooManyOpenFiles
  count := 0
  info := { fsize := 0, ftime := 0, fattrib := 0, fname := [] }

/-- One more object is open. -/
def lock (volume : PlainVolume) : PlainVolume :=
  { volume with locks := volume.locks + 1 }

/-- A file is open, at its start. -/
def openFile (volume : PlainVolume) (file : Fin maxOpenFiles) (path : List UInt8T) : PlainVolume :=
  { volume.lock with
    opened := update volume.opened file path
    position := update volume.position file 0 }

/-- What a call returns, and what it leaves of the volume and of the share. -/
def perform (volume : PlainVolume) (share : Nat → UInt8T) :
    FatFsCall → FatFsReply × PlainVolume × (Nat → UInt8T)
  | .fMount | .fUnmount => (succeeded 0, { volume with locks := 0 }, share)
  | .fOpen file path _ =>
    if volume.locks < ffFsLock then (succeeded 0, volume.openFile file path, share)
    else (refused, volume, share)
  | .fOpendir _ _ =>
    if volume.locks < ffFsLock then (succeeded 0, volume.lock, share) else (refused, volume, share)
  | .fClose _ | .fClosedir _ => (succeeded 0, { volume with locks := volume.locks - 1 }, share)
  | .fLseek file offset => (succeeded 0, volume.seek file offset, share)
  | .fRead file buff btr =>
    let count := volume.readCount file btr
    (succeeded count, volume.seek file (volume.position file + count.setWidth 64),
      Bytes.copy share ⟨buff.toNat, count.toNat⟩ (volume.contents (volume.opened file))
        (volume.position file).toNat)
  | .fWrite file buff btw =>
    let path := volume.opened file
    let written := Bytes.copy (volume.contents path) ⟨(volume.position file).toNat, btw.toNat⟩ share
      buff.toNat
    let volume := volume.seek file (volume.position file + btw.setWidth 64)
    (succeeded btw, { volume with contents := update volume.contents path written }, share)
  | .fTruncate file =>
    (succeeded 0,
      { volume with
        size := update volume.size (volume.opened file) (volume.position file) },
      share)
  | _ => (succeeded 0, volume, share)

end PlainVolume

def plainFatFs : FatFs where
  Volume := PlainVolume
  fSize := sizeOf
  fTelldir _ _ := 0
  ssize _ := 512
  Acts call volume share reply volume' share' := volume.perform share call = (reply, volume', share')

theorem PlainVolume.readCount_le (volume : PlainVolume) (file : Fin maxOpenFiles) (btr : UInt32T) :
    volume.readCount file btr ≤ btr := by
  unfold readCount
  split
  · rename_i short
    exact (Nat.mod_le _ _).trans short.le
  · exact BitVec.le_refl _

/-- The plain FatFs acts at positions. -/
def plainPositional : Positional plainFatFs where
  File := List UInt8T
  fileOf := opened
  contents := contents
  size := size
  position := position
  seeks := by
    rintro file offset volume share reply _ _ ⟨⟩ succeeded
    exact update_self _ _ _
  writes := by
    rintro file buff btw volume share reply _ _ ⟨⟩ succeeded
    refine ⟨BitVec.le_refl _, update_self _ _ _, fun other different => ?_⟩
    exact update_of_ne different _ _
  reads := by
    rintro file buff btr volume share reply _ _ ⟨⟩ succeeded
    exact ⟨volume.readCount_le file btr, rfl⟩
  truncates := by
    rintro file volume share reply _ _ ⟨⟩ succeeded
    exact ⟨update_self _ _ _, fun other different => update_of_ne different _ _⟩
  others := by
    intro call file volume share reply volume' share' acts still
    have acts : volume.perform share call = (reply, volume', share') := acts
    cases call with
    | fOpen moved path mode =>
      simp only [perform] at acts
      split at acts
      · cases acts
        exact update_of_ne (fun same => still same.symm) _ _
      · cases acts
        rfl
    | fOpendir dir path =>
      simp only [perform] at acts
      split at acts <;> (cases acts; rfl)
    | fLseek moved _ | fRead moved _ _ | fWrite moved _ _ =>
      cases acts
      exact update_of_ne (fun same => still same.symm) _ _
    | _ => cases acts; rfl

/-! ### A server on it -/

def emptyVolume : PlainVolume where
  contents _ _ := 0
  size _ := 0
  opened _ := []
  position _ := 0
  locks := 0

/-- A share that begins with a path. -/
def plainShare (address : Nat) : UInt8T :=
  if address = 0 then 97 else BitVec.ofNat 8 address

/-- To open the file of that path for reading and writing, and to create it if need be. -/
def openParams : CmdParams :=
  paramsOf [0, 1, 6]

/-- The server before any command. -/
def plainWorkers (Worker : Type) : FatWorkers plainFatFs Worker where
  files :=
    { fsInitialised := false
      fileUsed := fun _ => false
      dirUsed := fun _ => false
      table := fun _ => { state := .free, handle := 0, busyCount := 0, generation := 0 }
      volume := emptyVolume
      share := plainShare }
  working _ := none
  accesses := []
  assertionFailed := false

theorem plainWorkers_initial (Worker : Type) : (plainWorkers Worker).Initial :=
  ⟨rfl, rfl, rfl, rfl, rfl, rfl, rfl⟩

deriving instance DecidableEq for FilInfo, FatFsReply

namespace FatWorkers

variable {Worker : Type} [DecidableEq Worker]

/-- The step of an event, `none` when it cannot happen. -/
def perform (workers : FatWorkers plainFatFs Worker) (event : WorkerEvent plainFatFs Worker) :
    Option (FatWorkers plainFatFs Worker) :=
  if workers.assertionFailed then none
  else match event with
    | .spawn worker type params =>
      if (workers.working worker).isNone then
        some (workers.advance worker type params (operationFunctions type params workers.files))
      else none
    | .act worker reply =>
      (workers.working worker).bind fun operation =>
        let acted := PlainVolume.perform workers.files.volume workers.files.share operation.call
        if operation.reply = none ∧ acted.1 = reply then
          some
            { workers with
              files := { workers.files with volume := acted.2.1, share := acted.2.2 }
              working := update workers.working worker
                (some { operation with reply := some reply }) }
        else none
    | .resume worker =>
      (workers.working worker).bind fun operation => operation.reply.map fun reply =>
        workers.advance worker operation.type operation.params
          (Fat.resume workers.files reply operation.stage)
    | .writeShare share => some { workers with files := { workers.files with share } }

theorem step_of_perform {workers next : FatWorkers plainFatFs Worker}
    {event : WorkerEvent plainFatFs Worker} (performed : workers.perform event = some next) :
    Step workers event next := by
  unfold perform at performed
  split at performed
  case isTrue failed => cases performed
  case isFalse alive =>
    have alive := eq_false_of_ne_true alive
    split at performed
    case h_1 worker type params =>
      obtain ⟨idle, ⟨⟩⟩ := Option.ite_none_right_eq_some.mp performed
      exact .spawn alive (Option.isNone_iff_eq_none.mp idle)
    case h_2 worker reply =>
      obtain ⟨operation, working, acted⟩ := Option.bind_eq_some_iff.mp performed
      obtain ⟨⟨waiting, rfl⟩, ⟨⟩⟩ := Option.ite_none_right_eq_some.mp acted
      exact .act alive working waiting rfl
    case h_3 worker =>
      obtain ⟨operation, working, goesOn⟩ := Option.bind_eq_some_iff.mp performed
      obtain ⟨reply, replied, rfl⟩ := Option.map_eq_some_iff.mp goesOn
      exact .resume alive working replied
    case h_4 share =>
      cases performed
      exact .writeShare alive

theorem run_of_perform {start finish : FatWorkers plainFatFs Worker}
    {events : List (WorkerEvent plainFatFs Worker)}
    (performed : events.foldlM perform start = some finish) : Run Step start events finish :=
  Run.of_foldlM (fun _ _ _ => step_of_perform) performed

end FatWorkers

end LionsOS.Fat
