/-
This file puts together what is proved about the accesses of both file system
servers to the share of their client: none of them leaves the share or the buffers
that the command names, whatever numbers the client has put there.
-/

import LionsOS.Fat.Workers
import LionsOS.Nfs.ShareAccesses

namespace LionsOS.Fs

open StepRun

/-- An access is to bytes of the share alone, and to bytes of one of the buffers that its command
names. -/
def InBounds (shareSize : UInt64T) (access : ShareAccess) : Prop :=
  ∃ buf ∈ access.type.buffers access.params, ∀ address ∈ access.range,
    address < shareSize.toNat ∧ buf.offset.toNat ≤ address ∧
      address < buf.offset.toNat + buf.size.toNat

theorem inBounds_of_allowed {shareSize : UInt64T} {access : ShareAccess}
    (allowed : Allowed shareSize (access.type.buffers access.params) access.range) :
    InBounds shareSize access := by
  obtain ⟨buf, named, checked, inside⟩ := id allowed
  exact ⟨buf, named, fun address touched => ⟨allowed.lt touched, inside address touched⟩⟩

section

variable {fatfs : Fat.FatFs} {Worker : Type} [DecidableEq Worker]
  {fatStart workers : Fat.FatWorkers fatfs Worker} {fatEvents : List (Fat.WorkerEvent fatfs Worker)}
  {nfsStart system : Nfs.NfsSystem} {nfsEvents : List Nfs.NfsEvent}

/-- In every run of the FAT server's workers, whatever FatFs does, and in every run of the NFS server,
whatever libnfs does, the handlers and the calls they make access only bytes of the share that the
command names; and the check that this rests on is of the exact sum of offset and size. -/
theorem share_accesses_in_bounds (fatInitial : fatStart.Initial)
    (fatRun : Run Fat.FatWorkers.Step fatStart fatEvents workers) (nfsInitial : nfsStart.Initial)
    (nfsRun : Run Nfs.NfsSystem.Step nfsStart nfsEvents system) :
    (∀ access ∈ workers.accesses, InBounds Fat.fatFsDataRegionSize access) ∧
      (∀ access ∈ system.accesses, InBounds Nfs.clientShareSize access) ∧
      ∀ (shareSize : UInt64T) (buf : FsBuffer), (fsGetClientBuffer shareSize buf).isSome ↔
          0 < buf.size.toNat ∧ buf.offset.toNat + buf.size.toNat ≤ shareSize.toNat := by
  refine ⟨fun access member => ?_, fun access member => ?_, fun shareSize buf => ?_⟩
  · exact inBounds_of_allowed
      ((Fat.FatWorkers.AccessesAllowed.run fatInitial fatRun).accesses access member)
  · exact inBounds_of_allowed
      ((Nfs.NfsSystem.AccessesAllowed.run nfsInitial nfsRun).accesses access member)
  · simp only [Option.isSome_iff_exists, fsGetClientBuffer_eq_some, exists_eq_left]

end

/-- A FatFs whose calls may return anything and leave all as it is. -/
def idleFatFs : Fat.FatFs where
  Volume := Unit
  fSize _ _ := 0
  fTelldir _ _ := 0
  ssize _ := 512
  Acts _ volume share _ volume' share' := volume' = volume ∧ share' = share

def idleWorkers : Fat.FatWorkers idleFatFs Unit where
  files :=
    { fsInitialised := false
      fileUsed := fun _ => false
      dirUsed := fun _ => false
      table := fun _ => { state := .free, handle := 0, busyCount := 0, generation := 0 }
      volume := ()
      share := fun _ => 0 }
  working _ := none
  accesses := []
  assertionFailed := false

/-- A stat for a path of one byte, to a buffer that is just long enough. -/
def statParams : CmdParams :=
  paramsOf [0, 1, 8, 136]

def found : Fat.FatFsReply where
  result := .ok
  count := 0
  info := { fsize := 0, ftime := 0, fattrib := 0, fname := [] }

theorem run_idleWorkers :
    ∃ workers, Run Fat.FatWorkers.Step idleWorkers
        [.spawn () .stat statParams, .act () found, .resume ()] workers ∧
      workers.accesses.map ShareAccess.range = [⟨0, 1⟩, ⟨8, 136⟩] := by
  refine ⟨_, ((Run.single (.spawn rfl rfl)).snoc (.act rfl rfl rfl ⟨rfl, rfl⟩)).snoc
    (.resume rfl rfl rfl), ?_⟩
  rfl

/-- The commands and the answers by which the NFS server handles the stat. -/
def statEvents : List Nfs.NfsEvent :=
  [.putCommand ⟨0, fsQueueCapacity_pos⟩ { id := 7, type := 4, params := statParams },
    .publishCommands 1, .readCommandCount, .readCompletionSpace,
    .handle Nfs.NfsSystem.accepting, .publishConsumption, .callback 0 Nfs.NfsSystem.succeeding]

theorem run_statEvents :
    ∃ system, Run Nfs.NfsSystem.Step Nfs.NfsSystem.started statEvents system ∧
      system.accesses.map ShareAccess.range = [⟨0, 1⟩, ⟨8, 136⟩] := by
  refine ⟨_, Run.of_foldlM (fun _ _ _ performed => performed) rfl, ?_⟩
  rfl

/-- Both servers handle a stat. -/
theorem share_accesses_in_bounds_of_stat :
    ∃ workers system, workers.accesses.map ShareAccess.range = [⟨0, 1⟩, ⟨8, 136⟩] ∧
      system.accesses.map ShareAccess.range = [⟨0, 1⟩, ⟨8, 136⟩] ∧
      Run Fat.FatWorkers.Step idleWorkers
        [.spawn () .stat statParams, .act () found, .resume ()] workers ∧
      Run Nfs.NfsSystem.Step Nfs.NfsSystem.started statEvents system ∧
      (∀ access ∈ workers.accesses, InBounds Fat.fatFsDataRegionSize access) ∧
      ∀ access ∈ system.accesses, InBounds Nfs.clientShareSize access := by
  obtain ⟨workers, fatRun, fatRanges⟩ := run_idleWorkers
  obtain ⟨system, nfsRun, nfsRanges⟩ := run_statEvents
  have idle : idleWorkers.Initial := ⟨rfl, rfl, rfl, rfl, rfl, rfl, rfl⟩
  obtain ⟨fatInBounds, nfsInBounds, _⟩ :=
    share_accesses_in_bounds idle fatRun Nfs.NfsSystem.started_initial nfsRun
  exact ⟨workers, system, fatRanges, nfsRanges, fatRun, nfsRun, fatInBounds, nfsInBounds⟩

end LionsOS.Fs
