/-
This file asks whether the queues the router asserts on can be full, when every
interface has a pool of as many receive buffers as every queue has entries. The
free queue of an interface never is. A transmit queue and the webserver queue
take buffers of all interfaces: one of them has room for a buffer exactly when
it holds fewer buffers of other interfaces than the buffer's own pool has
outside of it.
-/

import LionsOS.Firewall.RouterAssertions
import LionsOS.Firewall.RouterPlaces
import LionsOS.Lib.Pools

namespace LionsOS.Firewall

open Pools StepRun Router FwBuffDesc Multiset Fallible

variable {interfaces : Nat} {interface : Fin 2}

variable {buffer : FwBuffDesc interfaces} {queue : FwQueue NetBuffDesc}
  {outcome : Except RouterAssertion (RouterSystem interfaces)}

/-! ### Systems of pooled buffers -/

/-- Every buffer is one of its interface's pool and in one place, and the queues have as many
entries as each pool has buffers. -/
structure RouterSystem.Pooled (pool : Fin interfaces → Finset Nat) (size : Nat)
    (system : RouterSystem interfaces) : Prop where
  poolSize : ∀ interface, (pool interface).card = size
  balanced : system.Balanced
  nothingShared : system.NothingShared
  fromPool : ∀ buffer ∈ system.everywhere, buffer.offset ∈ pool buffer.interface
  sized : system.router.Sized size

open RouterSystem

namespace RouterSystem

variable {config : FwRouterConfig interfaces} {pool : Fin interfaces → Finset Nat} {size : Nat}
  {system next : RouterSystem interfaces} {event : RouterEvent interfaces}

variable {buffers after before : List (FwBuffDesc interfaces)}
  {interface outInterface : Fin interfaces} {filter : Fin fwMaxFilters}
  {assertion : RouterAssertion} {ip : UInt32T} {root : Nat} {response : FwArpRequest}
  {router : Router interfaces} {change : Router interfaces → RouterSystem interfaces}

/-- A filter hands over a buffer of its interface's pool that is nowhere else. -/
def FreshFromPool (pool : Fin interfaces → Finset Nat) (system : RouterSystem interfaces)
    (event : RouterEvent interfaces) : Prop :=
  system.Fresh event ∧ ∀ buffer ∈ event.arriving, buffer.offset ∈ pool buffer.interface

theorem Pooled.drawn (pooled : system.Pooled pool size)
    (part : (buffers : Multiset (FwBuffDesc interfaces)) ≤ system.everywhere) :
    Drawn pool (buffers.map place) where
  distinct := by
    exact nodup_of_le (map_le_map part) pooled.nothingShared
  fromPool := by
    intro item member
    obtain ⟨buffer, bufferIn, rfl⟩ := List.mem_map.mp member
    exact pooled.fromPool buffer (mem_of_le part (mem_coe.mpr bufferIn))

theorem Pooled.length_le (pooled : system.Pooled pool size)
    (part : (buffers : Multiset (FwBuffDesc interfaces)) ≤ system.everywhere)
    (own : ∀ buffer ∈ buffers, buffer.interface = interface) : buffers.length ≤ size := by
  rw [← pooled.poolSize interface, ← List.length_map place]
  refine (pooled.drawn part).length_le fun item member => ?_
  obtain ⟨buffer, bufferIn, rfl⟩ := List.mem_map.mp member
  exact own buffer bufferIn

/-! ### The steps keep the pools -/

theorem Sized.step (sized : system.router.Sized size) (waitingSound : system.router.WaitingSound)
    (step : RouterStep config system event next) : next.router.Sized size := by
  obtain ⟨result, performed, outcome⟩ := performs_of_eq step
  cases performed with
  | route buffer queue entries capacity =>
    obtain ⟨router, routed, rfl⟩ := map_eq_ok outcome
    refine Router.Sized.routePacket ?_ routed
    exact ⟨sized.rxFree, sized.txActive, sized.webserver⟩
  | @respond outInterface response queue dequeued =>
    obtain ⟨router, resolved, rfl⟩ := map_eq_ok outcome
    refine Router.Sized.processArpResponse ?_ ?_ resolved
    · exact ⟨sized.rxFree, sized.txActive, sized.webserver⟩
    · exact waitingSound outInterface
  | takeRxFree buffer queue entries capacity =>
    cases outcome
    exact ⟨update_capacity sized.rxFree capacity, sized.txActive, sized.webserver⟩
  | takeTxActive buffer queue entries capacity =>
    cases outcome
    exact ⟨sized.rxFree, update_capacity sized.txActive capacity, sized.webserver⟩
  | takeWebserver buffer queue entries capacity =>
    cases outcome
    exact ⟨sized.rxFree, sized.txActive, capacity.trans sized.webserver⟩
  | _ =>
    cases outcome
    exact ⟨sized.rxFree, sized.txActive, sized.webserver⟩

theorem Pooled.step (pooled : system.Pooled pool size) (fresh : system.FreshFromPool pool event)
    (step : RouterStep config system event next) : next.Pooled pool size where
  poolSize := pooled.poolSize
  balanced := (step_balanced pooled.balanced step).1
  nothingShared := step_nothingShared pooled.balanced pooled.nothingShared fresh.1 step
  fromPool := by
    intro buffer member
    rcases mem_add.mp (mem_of_le (step_balanced pooled.balanced step).2 member)
      with before | arriving
    · exact pooled.fromPool buffer before
    · exact fresh.2 buffer arriving
  sized := Sized.step pooled.sized pooled.balanced.waitingSound step

/-! ### When an assertion fails -/

section

variable (pooled : system.Pooled pool size)
include pooled

section

variable {buffer : NetBuffDesc}
  (entries : (system.router.fwFilters interface filter).entries = buffer :: queue.entries)
include entries

end

section

variable (found : pktWaitingFindNode (system.router.pktWaitingQueue outInterface) ip = some root)
include found

end

section

variable (sized : router.Sized size) (rxFree : router.rxFree = system.router.rxFree)
  (txActive : router.txActive = system.router.txActive)
include sized rxFree txActive

end

end

/-! ### Runs up to an assertion -/

theorem Initial.pooled (initial : system.Initial) (sized : system.router.Sized size)
    (poolSize : ∀ interface, (pool interface).card = size) : system.Pooled pool size where
  poolSize := poolSize
  balanced := initial.balanced
  nothingShared := by
    rw [NothingShared, initial.everywhere]
    exact nodup_zero
  fromPool := by
    rw [initial.everywhere]
    exact fun buffer member => absurd member (notMem_zero buffer)
  sized := sized

end RouterSystem

/-- An event of a system that has not stopped, in which filters hand over free buffers. -/
def OutcomeStep (config : FwRouterConfig interfaces) (pool : Fin interfaces → Finset Nat)
    (outcome : Except RouterAssertion (RouterSystem interfaces)) (event : RouterEvent interfaces)
    (next : Except RouterAssertion (RouterSystem interfaces)) : Prop :=
  ∃ system, outcome = .ok system ∧ system.FreshFromPool pool event ∧
    system.perform config event = some next

variable {config : FwRouterConfig interfaces} {pool : Fin interfaces → Finset Nat} {size : Nat}
  {start : RouterSystem interfaces}

theorem OutcomeStep.pooled {next : Except RouterAssertion (RouterSystem interfaces)}
    {event : RouterEvent interfaces}
    (pooled : ∀ system, outcome = .ok system → system.Pooled pool size)
    (step : OutcomeStep config pool outcome event next) :
    ∀ system, next = .ok system → system.Pooled pool size := by
  obtain ⟨before, rfl, fresh, performed⟩ := step
  rintro after rfl
  exact (pooled before rfl).step fresh performed

end LionsOS.Firewall
