/-
This file proves that what the transmit virtualiser passes to the driver comes
back to where it came from. As regions lie apart, an IO address tells its owner;
so the buffers passed from a region are those put in the free queue of its owner
and those whose addresses are still with the driver, each as often. This needs
every buffer that is passed on to lie in its region, and the end of this region to
be a machine word. The virtualiser checks the first for network clients; for
firewall clients it compares with the capacity of the wrong queue.
-/

import LionsOS.Firewall.VirtTx

open Function

namespace LionsOS.Firewall

open StepRun Shares Multiset

variable {config : VirtTxConfig} {client : Fin config.numActiveClients} {len : UInt16T}
  {offset : Nat}

/-- The end of a region is a machine word. -/
def DataRegion.Ends (region : DataRegion) : Prop :=
  region.ioAddr + region.capacity * netBufferSize < 2 ^ 64

/-! ### The search -/

section Search

variable {clients : Nat} {regions : Fin clients → DataRegion} {phys : Nat}

theorem mem_range {region : DataRegion} : phys ∈ region.range ↔
    region.ioAddr ≤ phys ∧ phys < region.ioAddr + region.capacity * netBufferSize :=
  Iff.rfl

theorem mem_range_of_extractOffset {client : Fin clients}
    (found : extractOffset regions phys = some (client, offset)) :
    phys ∈ (regions client).range ∧ offset = phys - (regions client).ioAddr := by
  obtain ⟨other, here, same⟩ := Option.map_eq_some_iff.mp found
  cases same
  have both := List.find?_some here
  rw [Bool.and_eq_true, decide_eq_true_iff, decide_eq_true_iff] at both
  refine ⟨mem_range.mpr ⟨both.1, both.2.trans_le (Nat.mod_le _ _)⟩, rfl⟩

theorem extractOffset_eq_none
    (outside : ∀ client, phys ∉ (regions client).range) : extractOffset regions phys = none := by
  refine Option.map_eq_none_iff.mpr (List.find?_eq_none.mpr fun client _ found => ?_)
  rw [Bool.and_eq_true, decide_eq_true_iff, decide_eq_true_iff] at found
  exact outside client (mem_range.mpr ⟨found.1, found.2.trans_le (Nat.mod_le _ _)⟩)

/-- The search finds the region with the address, if it is the only one. -/
theorem extractOffset_of_mem_range
    {client : Fin clients} (inside : phys ∈ (regions client).range) (ends : (regions client).Ends)
    (only : ∀ other, phys ∈ (regions other).range → other = client) :
    extractOffset regions phys = some (client, phys - (regions client).ioAddr) := by
  cases search : extractOffset regions phys with
  | some found =>
    obtain ⟨other, offset⟩ := found
    obtain ⟨there, rfl⟩ := mem_range_of_extractOffset search
    rw [only other there]
  | none =>
    have passedBy := List.find?_eq_none.mp (Option.map_eq_none_iff.mp search) client
      (List.mem_finRange client)
    rw [Bool.and_eq_true, decide_eq_true_iff, decide_eq_true_iff, Nat.mod_eq_of_lt ends] at passedBy
    exact absurd inside passedBy

end Search

/-! ### Where addresses belong -/

theorem VirtTxConfig.WellFormed.owner_unique (wellFormed : config.WellFormed) {phys : Nat}
    {owner other : Owner config} (inside : phys ∈ (config.region owner).range)
    (inside' : phys ∈ (config.region other).range) : owner = other := by
  by_contra different
  exact wellFormed.disjoint owner other different phys inside inside'

namespace VirtTxSystem

variable {system next : VirtTxSystem config} {event : VirtTxEvent config}

/-- The IO addresses that are with the driver or on the way to and from it. -/
def atDriver (system : VirtTxSystem config) : Multiset Nat :=
  ↑(system.virt.drvActive.entries.map NetBuffDesc.ioOrOffset) + system.held +
    ↑(system.virt.drvFree.entries.map NetBuffDesc.ioOrOffset)

/-- The offsets of the buffers of a region that were passed to the driver. -/
def passedFrom (system : VirtTxSystem config) (region : DataRegion) : Multiset Nat :=
  (system.passed.filter fun buffer => buffer.1 = region).map Prod.snd

/-- Every buffer passed to the driver is of an owner's region, every address at the driver belongs to
a region that ends, and for each owner the buffers that were passed on or refused are those put in its
free queue and those whose addresses are at the driver. -/
structure Accounted (system : VirtTxSystem config) : Prop where
  owned : ∀ buffer ∈ system.passed, ∃ owner, buffer.1 = config.region owner
  located : ∀ phys ∈ system.atDriver, ∃ owner, phys ∈ (config.region owner).range ∧
    (config.region owner).Ends
  balance : ∀ owner, system.passedFrom (config.region owner) + system.refused owner =
    system.freed owner + share (config.region owner).range system.atDriver

theorem region_lt {buffer : FwBuffDesc 256}
    (asserted : Asserted config (config.activeClients client) buffer) :
    buffer.interface.val < config.numDataRegions :=
  asserted.2.2

/-- Whenever a buffer is passed to the driver, it lies in its region, and its region ends. -/
def Returning (system : VirtTxSystem config) : VirtTxEvent config → Prop
  | .provideNet client => ∀ buffer rest,
      (system.virt.clientActive client).entries = buffer :: rest →
      ¬Refused (config.clients client) buffer → (config.clients client).Ends
  | .provideFw client => ∀ buffer rest,
      (system.virt.fwActiveClients client).entries = buffer :: rest →
      ∀ asserted : Asserted config (config.activeClients client) buffer,
        buffer.offset < (config.dataRegions ⟨buffer.interface, region_lt asserted⟩).capacity *
          netBufferSize ∧ (config.dataRegions ⟨buffer.interface, region_lt asserted⟩).Ends
  | _ => True

/-! ### What a step does to the accounts -/

/-- What a step does to the accounts. -/
inductive AccountStep (system next : VirtTxSystem config) : Prop
  | quiet (atDriver : next.atDriver = system.atDriver) (passed : next.passed = system.passed)
      (refused : next.refused = system.refused) (freed : next.freed = system.freed)
      (failure : next.failure = system.failure)
  /-- A client's buffer goes back to it. -/
  | refuse {owner : Owner config} {offset : Nat} (atDriver : next.atDriver = system.atDriver)
      (passed : next.passed = system.passed)
      (refused : next.refused = update system.refused owner
        (system.refused owner + {offset}))
      (freed : next.freed = update system.freed owner (system.freed owner + {offset}))
      (failure : next.failure = system.failure)
  | pass {owner : Owner config} {offset : Nat}
      (inside : offset < (config.region owner).capacity * netBufferSize)
      (ends : (config.region owner).Ends)
      (atDriver : next.atDriver = system.atDriver + {(config.region owner).ioAddr + offset})
      (passed : next.passed = system.passed + {(config.region owner, offset)})
      (refused : next.refused = system.refused) (freed : next.freed = system.freed)
      (failure : next.failure = system.failure)
  /-- An address is turned back into an offset of its owner. -/
  | free {owner : Owner config} {phys : Nat} (inside : phys ∈ (config.region owner).range)
      (atDriver : system.atDriver = next.atDriver + {phys}) (passed : next.passed = system.passed)
      (refused : next.refused = system.refused)
      (freed : next.freed = update system.freed owner
        (system.freed owner + {phys - (config.region owner).ioAddr}))
      (failure : next.failure = system.failure)
  | failed (other : next.failure = some .buffer ∨ next.failure = some .enqueue)

theorem AccountStep.accounted (wellFormed : config.WellFormed) (step : AccountStep system next)
    (before : system.Accounted) (live : next.failure = none) : next.Accounted := by
  obtain ⟨owned, located, balance⟩ := before
  cases step with
  | quiet atDriver passed refused freed failure =>
    refine ⟨by rwa [passed], by rwa [atDriver], ?_⟩
    rw [atDriver, refused, freed]
    unfold passedFrom at balance ⊢
    rw [passed]
    exact balance
  | refuse atDriver passed refused freed failure =>
    rename_i owner offset
    refine ⟨by rwa [passed], by rwa [atDriver], fun other => ?_⟩
    unfold passedFrom at balance ⊢
    rw [atDriver, passed, refused, freed]
    rcases eq_or_ne other owner with rfl | different
    · rw [update_self, update_self, ← add_assoc, balance, add_right_comm]
    · rw [update_of_ne different, update_of_ne different, balance]
  | pass inside ends atDriver passed refused freed failure =>
    rename_i owner offset
    have there : (config.region owner).ioAddr + offset ∈ (config.region owner).range :=
      start_add_mem inside
    refine ⟨?_, ?_, fun other => ?_⟩
    · rw [passed]
      intro buffer member
      rcases mem_add.mp member with before | new
      · exact owned buffer before
      · rw [mem_singleton.mp new]
        exact ⟨owner, rfl⟩
    · rw [atDriver]
      intro phys member
      rcases mem_add.mp member with before | new
      · exact located phys before
      · rw [mem_singleton.mp new]
        exact ⟨owner, there, ends⟩
    · unfold passedFrom at balance ⊢
      rw [atDriver, passed, refused, freed, filter_add, map_add, filter_singleton]
      rcases eq_or_ne other owner with rfl | different
      · have back : (config.region other).ioAddr + offset - (config.region other).range.start =
          offset := Nat.add_sub_cancel_left _ _
        rw [share_add_of_mem there, if_pos rfl, map_singleton, back, add_right_comm,
          balance, add_assoc]
      · -- Another owner's region does not have the address, and so is another region.
        have elsewhere : (config.region owner).ioAddr + offset ∉ (config.region other).range :=
          fun here => different (wellFormed.owner_unique here there)
        have regions : config.region owner ≠ config.region other := fun same =>
          elsewhere (same ▸ there)
        rw [share_add_of_not_mem elsewhere, if_neg regions, empty_eq_zero,
          map_zero, add_zero, balance]
  | free inside atDriver passed refused freed failure =>
    rename_i owner phys
    refine ⟨by rwa [passed], fun other member => located other ?_, fun other => ?_⟩
    · rw [atDriver]
      exact mem_add.mpr (Or.inl member)
    · unfold passedFrom at balance ⊢
      rw [passed, refused, freed, balance, atDriver]
      rcases eq_or_ne other owner with rfl | different
      · rw [share_add_of_mem inside, update_self, add_assoc]
        exact congrArg _ (add_comm _ _)
      · have elsewhere : phys ∉ (config.region other).range :=
          fun here => different (wellFormed.owner_unique here inside)
        rw [share_add_of_not_mem elsewhere, update_of_ne different]
  | failed other =>
    rcases other with buffer | enqueue
    · cases live.symm.trans buffer
    · cases live.symm.trans enqueue

/-! ### Every step -/

/-- Putting a buffer in a free queue succeeds or fails an assertion. -/
theorem enqueueFree_cases (system : VirtTxSystem config) (owner : Owner config)
    (buffer : NetBuffDesc) :
    (system.enqueueFree owner buffer).failure = some .enqueue ∨
      ((system.enqueueFree owner buffer).atDriver = system.atDriver ∧
        (system.enqueueFree owner buffer).passed = system.passed ∧
        (system.enqueueFree owner buffer).refused = system.refused ∧
        (system.enqueueFree owner buffer).freed = update system.freed owner
          (system.freed owner + {buffer.ioOrOffset}) ∧
        (system.enqueueFree owner buffer).failure = system.failure) := by
  unfold enqueueFree
  split
  · exact Or.inl rfl
  · refine Or.inr ⟨?_, rfl, rfl, rfl, rfl⟩
    cases owner <;> rfl

/-- Passing a buffer to the driver succeeds or fails an assertion. -/
theorem enqueueActive_cases (system : VirtTxSystem config) (region : DataRegion) (offset : Nat)
    (len : UInt16T) :
    (system.enqueueActive region offset len).failure = some .enqueue ∨
      ((system.enqueueActive region offset len).atDriver =
          system.atDriver + {(offset + region.ioAddr) % 2 ^ 64} ∧
        (system.enqueueActive region offset len).passed = system.passed + {(region, offset)} ∧
        (system.enqueueActive region offset len).refused = system.refused ∧
        (system.enqueueActive region offset len).freed = system.freed ∧
        (system.enqueueActive region offset len).failure = system.failure) := by
  unfold enqueueActive
  split
  · exact Or.inl rfl
  · rename_i queue enqueued
    refine Or.inr ⟨?_, rfl, rfl, rfl, rfl⟩
    simp only [atDriver, (fwEnqueue_eq_some.mp enqueued).1, List.map_append, List.map_singleton,
      ← coe_add, coe_singleton]
    ac_rfl

theorem AccountStep.of_enqueueActive (owner : Owner config)
    (inside : offset < (config.region owner).capacity * netBufferSize)
    (ends : (config.region owner).Ends) :
    AccountStep system (system.enqueueActive (config.region owner) offset len) := by
  have address : (offset + (config.region owner).ioAddr) % 2 ^ 64 =
      (config.region owner).ioAddr + offset := by
    rw [add_comm, Nat.mod_eq_of_lt ((Nat.add_lt_add_left inside _).trans ends)]
  rcases system.enqueueActive_cases (config.region owner) offset len with full | enqueued
  · exact .failed (Or.inr full)
  · obtain ⟨atDriver, passed, refused, freed, failure⟩ := enqueued
    rw [address] at atDriver
    exact .pass inside ends atDriver passed refused freed failure

/-- Only the virtualiser's own accounts matter. -/
theorem AccountStep.congr {other : VirtTxSystem config} (step : AccountStep other next)
    (atDriver : other.atDriver = system.atDriver) (passed : other.passed = system.passed)
    (refused : other.refused = system.refused) (freed : other.freed = system.freed)
    (failure : other.failure = system.failure) : AccountStep system next := by
  cases step with
  | quiet atDriver' passed' refused' freed' failure' =>
    exact .quiet (atDriver'.trans atDriver) (passed'.trans passed) (refused'.trans refused)
      (freed'.trans freed) (failure'.trans failure)
  | refuse atDriver' passed' refused' freed' failure' =>
    rw [refused] at refused'
    rw [freed] at freed'
    exact .refuse (atDriver'.trans atDriver) (passed'.trans passed) refused' freed'
      (failure'.trans failure)
  | pass inside ends atDriver' passed' refused' freed' failure' =>
    rw [atDriver] at atDriver'
    rw [passed] at passed'
    exact .pass inside ends atDriver' passed' (refused'.trans refused) (freed'.trans freed)
      (failure'.trans failure)
  | free inside atDriver' passed' refused' freed' failure' =>
    rw [freed] at freed'
    exact .free inside (atDriver.symm.trans atDriver') (passed'.trans passed)
      (refused'.trans refused) freed' (failure'.trans failure)
  | failed other => exact .failed other

theorem accountStep_provideNet {client : Fin config.numClients}
    (returning : system.Returning (.provideNet client))
    (step : system.provideNet client = some next) : AccountStep system next := by
  obtain ⟨⟨buffer, queue⟩, dequeued, same⟩ := Option.map_eq_some_iff.mp step
  have entries := (fwDequeue_eq_some.mp dequeued).1
  simp only at same
  split at same
  · subst same
    rcases enqueueFree_cases _ (.net client) buffer with full | enqueued
    · exact .failed (Or.inr full)
    · obtain ⟨atDriver, passed, refused, freed, failure⟩ := enqueued
      exact .refuse atDriver passed refused freed failure
  · rename_i accepted
    subst same
    have inside : buffer.ioOrOffset < (config.clients client).capacity * netBufferSize := by
      have bound := (not_or.mp accepted).2
      rw [mul_comm]
      exact Nat.not_le.mp bound
    exact (AccountStep.of_enqueueActive (.net client) inside
      (returning buffer queue.entries entries accepted)).congr rfl rfl rfl rfl rfl

theorem accountStep_provideFw (wellFormed : config.WellFormed)
    (returning : system.Returning (.provideFw client)) (step : system.provideFw client = some next) :
    AccountStep system next := by
  obtain ⟨⟨buffer, queue⟩, dequeued, same⟩ := Option.map_eq_some_iff.mp step
  have entries := (fwDequeue_eq_some.mp dequeued).1
  simp only at same
  split at same
  · rename_i asserted
    subst same
    obtain ⟨inside, ends⟩ := returning buffer queue.entries entries asserted
    obtain ⟨owner, region, _⟩ := wellFormed.dataRegions ⟨buffer.interface, asserted.2.2⟩
    rw [← region] at inside ends ⊢
    exact (AccountStep.of_enqueueActive (.fw owner) inside ends).congr rfl rfl rfl rfl rfl
  · subst same
    exact .failed (Or.inl rfl)

theorem accountStep_driverTake (step : system.driverTake = some next) :
    AccountStep system next := by
  obtain ⟨⟨buffer, queue⟩, dequeued, rfl⟩ := Option.map_eq_some_iff.mp step
  refine .quiet ?_ rfl rfl rfl rfl
  simp only [atDriver, (fwDequeue_eq_some.mp dequeued).1, List.map_cons, ← cons_coe,
    ← singleton_add]
  ac_rfl

theorem accountStep_driverReturn {ioAddr : Nat} (step : system.driverReturn ioAddr len = some next) :
    AccountStep system next := by
  obtain ⟨holds, returned⟩ := Option.ite_none_right_eq_some.mp step
  obtain ⟨queue, enqueued, rfl⟩ := Option.map_eq_some_iff.mp returned
  refine .quiet ?_ rfl rfl rfl rfl
  have held : system.held = system.held.erase ioAddr + {ioAddr} := by
    rw [add_comm, singleton_add, cons_erase holds]
  simp only [atDriver, (fwEnqueue_eq_some.mp enqueued).1, List.map_append, List.map_singleton,
    ← coe_add, coe_singleton]
  conv_rhs => rw [held]
  ac_rfl

theorem accountStep_txReturn (wellFormed : config.WellFormed) (accounted : system.Accounted)
    (step : system.txReturn = some next) : AccountStep system next := by
  obtain ⟨⟨buffer, queue⟩, dequeued, same⟩ := Option.map_eq_some_iff.mp step
  have fewer : system.atDriver = ({ system with
      virt := { system.virt with drvFree := queue } } : VirtTxSystem config).atDriver +
        {buffer.ioOrOffset} := by
    simp only [atDriver, (fwDequeue_eq_some.mp dequeued).1, List.map_cons, ← cons_coe,
      ← singleton_add]
    ac_rfl
  have member : buffer.ioOrOffset ∈ system.atDriver := by
    rw [fewer]
    exact mem_add.mpr (Or.inr (mem_singleton_self _))
  obtain ⟨owner, inside, ends⟩ := accounted.located _ member
  -- Whoever else had the address would be its owner.
  have only : ∀ other, buffer.ioOrOffset ∈ (config.region other).range → other = owner :=
    fun other here => wellFormed.owner_unique here inside
  have frees (taken : next = enqueueFree { system with
        virt := { system.virt with drvFree := queue } } owner
      { ioOrOffset := buffer.ioOrOffset - (config.region owner).ioAddr, len := buffer.len }) :
      AccountStep system next := by
    subst taken
    rcases enqueueFree_cases _ owner _ with full | enqueued
    · exact .failed (Or.inr full)
    · obtain ⟨atDriver, passed, refused, freed, failure⟩ := enqueued
      exact .free inside (fewer.trans (congrArg (· + _) atDriver.symm)) passed refused freed failure
  cases owner with
  | net client =>
    have found : extractOffsetNetClient config buffer.ioOrOffset = _ :=
      extractOffset_of_mem_range inside ends fun other here => Owner.net.inj (only (.net other) here)
    simp only [found] at same
    exact frees same.symm
  | fw client =>
    have notNet : extractOffsetNetClient config buffer.ioOrOffset = none :=
      extractOffset_eq_none fun other here => nomatch only (.net other) here
    have found : extractOffsetFwClient config buffer.ioOrOffset = _ :=
      extractOffset_of_mem_range inside ends fun other here => Owner.fw.inj (only (.fw other) here)
    simp only [notNet, found] at same
    exact frees same.symm

theorem accountStep_of_step (wellFormed : config.WellFormed) (accounted : system.Accounted)
    (returning : system.Returning event) (step : Step system event next) :
    AccountStep system next := by
  unfold Step perform at step
  split at step
  · cases step
  · cases event with
    | sendNet client buffer | sendFw client buffer =>
      obtain ⟨queue, enqueued, rfl⟩ := Option.map_eq_some_iff.mp step
      exact .quiet rfl rfl rfl rfl rfl
    | provideNet client => exact accountStep_provideNet returning step
    | provideFw client => exact accountStep_provideFw wellFormed returning step
    | driverTake => exact accountStep_driverTake step
    | driverReturn ioAddr len => exact accountStep_driverReturn step
    | txReturn => exact accountStep_txReturn wellFormed accounted step
    | takeFree owner =>
      obtain ⟨⟨buffer, queue⟩, dequeued, rfl⟩ := Option.map_eq_some_iff.mp step
      cases owner <;> exact .quiet rfl rfl rfl rfl rfl

theorem AccountStep.failure (step : AccountStep system next) :
    next.failure = system.failure ∨ next.failure = some .buffer ∨ next.failure = some .enqueue := by
  cases step with
  | quiet atDriver passed refused freed failure
  | refuse atDriver passed refused freed failure
  | pass inside ends atDriver passed refused freed failure
  | free inside atDriver passed refused freed failure => exact Or.inl failure
  | failed other => exact Or.inr other

/-! ### Runs -/

theorem accounted_of_initial (initial : system.Initial) : system.Accounted where
  owned := by
    rw [initial.passed]
    exact fun _ none => absurd none (notMem_zero _)
  located := by
    rw [atDriver, initial.drvActive, initial.held, initial.drvFree]
    exact fun _ none => absurd none (notMem_zero _)
  balance := by
    intro owner
    simp only [atDriver, passedFrom, initial.passed, initial.refused, initial.freed,
      initial.drvActive, initial.held, initial.drvFree]
    rfl

/-- What a network client provides out of range or misaligned goes back to it, and not to the
driver. -/
theorem refused_goes_back {client : Fin config.numClients} {buffer : NetBuffDesc}
    {rest : List NetBuffDesc} (first : (system.virt.clientActive client).entries = buffer :: rest)
    (refused : Refused (config.clients client) buffer)
    (step : Step system (.provideNet client) next) :
    next.virt.drvActive = system.virt.drvActive ∧ (next.failure = none →
      (next.virt.clientFree client).entries =
        (system.virt.clientFree client).entries ++ [buffer]) := by
  unfold Step perform at step
  split at step
  · cases step
  · obtain ⟨⟨other, queue⟩, dequeued, same⟩ := Option.map_eq_some_iff.mp step
    have entries := (fwDequeue_eq_some.mp dequeued).1
    rw [first] at entries
    obtain ⟨rfl, _⟩ := entries
    simp only [refused, if_true] at same
    subst same
    unfold enqueueFree
    split
    · exact ⟨rfl, fun live => nomatch live⟩
    · rename_i longer enqueued
      refine ⟨rfl, fun _ => ?_⟩
      simp only [setFreeQueue, update_self]
      exact (fwEnqueue_eq_some.mp enqueued).1

/-- In every run in which each buffer passed to the driver lies in its region and the region ends, no
address fails to be found; the buffers passed from an owner's region, with those it had refused, are
at all times those put in its free queue, with the same offsets and as often, and those still at the
driver; and what is refused goes back to its network client. -/
theorem passed_buffers_return (wellFormed : config.WellFormed) {start : VirtTxSystem config}
    (initial : start.Initial) {events : List (VirtTxEvent config)}
    (run : Run (Guarded Returning Step) start events system) :
    system.failure ≠ some .client ∧ (system.failure = none → system.Accounted) ∧
      ∀ client buffer rest next, (system.virt.clientActive client).entries = buffer :: rest →
        Refused (config.clients client) buffer → Step system (.provideNet client) next →
          next.virt.drvActive = system.virt.drvActive ∧ (next.failure = none →
            (next.virt.clientFree client).entries =
              (system.virt.clientFree client).entries ++ [buffer]) := by
  have invariant := run.invariant
    (fun state => state.failure ≠ some .client ∧ (state.failure = none → state.Accounted))
    ⟨by rw [initial.failure]; nofun, fun _ => accounted_of_initial initial⟩ ?_
  · exact ⟨invariant.1, invariant.2, fun client buffer rest next first refused step =>
      refused_goes_back first refused step⟩
  · rintro state event next ⟨notClient, accounted⟩ ⟨returning, step⟩
    have live : state.failure = none := by
      unfold Step perform at step
      split at step
      · cases step
      · rename_i went
        exact Option.not_isSome_iff_eq_none.mp went
    have effect := accountStep_of_step wellFormed (accounted live) returning step
    refine ⟨?_, effect.accounted wellFormed (accounted live)⟩
    rcases effect.failure with same | buffer | enqueue
    · rw [same]
      exact notClient
    · rw [buffer]
      nofun
    · rw [enqueue]
      nofun

/-! ### A queue that is longer than the region -/

/-- One router with a queue of 1024 entries sends buffers of one region of 512. -/
def longQueueConfig : VirtTxConfig where
  numClients := 0
  clients := nofun
  numActiveClients := 1
  activeClients _ := 1024
  numDataRegions := 1
  dataRegions _ := { ioAddr := 0x10000000, capacity := 512 }
  numFreeClients := 1
  freeClients _ := { ioAddr := 0x10000000, capacity := 512 }

theorem longQueueConfig_wellFormed : longQueueConfig.WellFormed where
  disjoint owner other different := by
    cases owner with
    | net client => exact client.elim0
    | fw client =>
      cases other with
      | net client => exact client.elim0
      | fw other =>
        exact absurd (congrArg Owner.fw (@Subsingleton.elim (Fin 1) _ client other)) different
  dataRegions index :=
    ⟨⟨0, Nat.one_pos⟩, rfl, fun other _ => @Subsingleton.elim (Fin 1) _ other _⟩

/-- Nothing is in any queue. -/
def longQueueStart : VirtTxSystem longQueueConfig where
  virt :=
    { drvActive := .empty 512
      drvFree := .empty 512
      clientActive := nofun
      clientFree := nofun
      fwActiveClients := fun _ => .empty 1024
      fwFreeClients := fun _ => .empty 512 }
  held := 0
  passed := 0
  refused _ := 0
  freed _ := 0
  failure := none

/-- A buffer of the router. -/
def sentBuffer (offset : Nat) : FwBuffDesc 256 where
  offset
  len := 64
  interface := 0

/-- The router sends a buffer, and the driver gives its address back. -/
def roundTrip (offset : Nat) : List (VirtTxEvent longQueueConfig) :=
  [.sendFw ⟨0, Nat.one_pos⟩ (sentBuffer offset)] ++ [.provideFw ⟨0, Nat.one_pos⟩] ++
    [.driverTake, .driverReturn (0x10000000 + offset) 64, .txReturn]

/-- The first offset behind the region passes the assertions, but its address is in no region. -/
theorem address_behind_region_not_found :
    longQueueConfig.WellFormed ∧ longQueueStart.Initial ∧
      ∃ system, Run Step longQueueStart (roundTrip (512 * netBufferSize)) system ∧
        system.failure = some .client := by
  refine ⟨longQueueConfig_wellFormed, ⟨rfl, rfl, rfl, rfl, rfl, rfl, rfl⟩, _,
    Run.of_foldlM (fun _ _ _ performed => performed) rfl, rfl⟩

/-- The last buffer of the region comes back. -/
theorem passed_buffers_return_of_last :
    ∃ system, Run (Guarded Returning Step) longQueueStart (roundTrip (511 * netBufferSize)) system ∧
      system.freed (.fw ⟨0, Nat.one_pos⟩) = {511 * netBufferSize} ∧
      system.failure ≠ some .client ∧ system.Accounted := by
  obtain ⟨sent, sends, one, passed, passes, system, returns, live, freed⟩ :
      ∃ sent, Run Step longQueueStart
          [.sendFw ⟨0, Nat.one_pos⟩ (sentBuffer (511 * netBufferSize))] sent ∧
        (sent.virt.fwActiveClients ⟨0, Nat.one_pos⟩).entries = [sentBuffer (511 * netBufferSize)] ∧
        ∃ passed, Step sent (.provideFw ⟨0, Nat.one_pos⟩) passed ∧
        ∃ system, Run Step passed [.driverTake,
            .driverReturn (0x10000000 + 511 * netBufferSize) 64, .txReturn] system ∧
          system.failure = none ∧ system.freed (.fw ⟨0, Nat.one_pos⟩) = {511 * netBufferSize} := by
    refine ⟨_, Run.single rfl, rfl, _, rfl, _, Run.of_foldlM (fun _ _ _ performed => performed) rfl,
      rfl, ?_⟩
    rfl
  have before : Run (Guarded Returning Step) longQueueStart _ sent :=
    sends.guarded_of_labels fun event member state => by
      rw [List.mem_singleton.mp member]
      trivial
  have returning : sent.Returning (.provideFw ⟨0, Nat.one_pos⟩) := by
    intro buffer rest first asserted
    rw [one] at first
    cases first
    exact ⟨(by decide : 511 * netBufferSize < 512 * netBufferSize),
      (by decide : 0x10000000 + 512 * netBufferSize < 2 ^ 64)⟩
  have after : Run (Guarded Returning Step) passed _ system :=
    returns.guarded_of_labels fun event member state => by
      simp only [List.mem_cons, List.not_mem_nil, or_false] at member
      rcases member with rfl | rfl | rfl <;> trivial
  have run := (before.snoc ⟨returning, passes⟩).trans after
  obtain ⟨notClient, accounted, _⟩ := passed_buffers_return longQueueConfig_wellFormed
    ⟨rfl, rfl, rfl, rfl, rfl, rfl, rfl⟩ run
  exact ⟨system, run, freed, notClient, accounted live⟩

end VirtTxSystem

end LionsOS.Firewall
