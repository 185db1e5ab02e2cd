/-
This file keeps the books of the router. Every buffer it dequeues is at each
moment in one place, the free queue of the interface it was received on, one
transmit queue, the webserver queue or one node of a waiting structure, until a
consumer takes it out; and an ARP response moves the buffers of its address
from the waiting structure to such places. If the buffers handed to the router
are free ones, no buffer is ever in two places.
-/

import LionsOS.Firewall.RouterSystem

open Function

namespace LionsOS.Firewall

open StepRun Places

variable {interfaces : Nat}

variable {ip : UInt32T} {buffer : FwBuffDesc interfaces} {root : Nat}

/-! ### The waiting buffers -/

namespace PktsWaiting

variable {waiting next : PktsWaiting interfaces}

theorem buffers_of_contents {before after : List (UInt32T × List (FwBuffDesc interfaces))}
    {found : List (FwBuffDesc interfaces)}
    (split : waiting.contents = before ++ (ip, found) :: after) :
    waiting.buffers = before.flatMap Prod.snd ++ (found ++ after.flatMap Prod.snd) := by
  rw [buffers, split, List.flatMap_append, List.flatMap_cons]

theorem WellFormed.push_buffers (formed : waiting.WellFormed)
    (absent : pktWaitingFindNode waiting ip = none)
    (pushed : pktWaitingPush waiting ip buffer = .ok next) :
    (next.buffers : Multiset (FwBuffDesc interfaces)) = ↑waiting.buffers + {buffer} := by
  have contents := (formed.push absent pushed).2
  rw [buffers, contents, add_comm]
  rfl

theorem WellFormed.pushChild_buffers (formed : waiting.WellFormed)
    (found : pktWaitingFindNode waiting ip = some root)
    (pushed : pktWaitingPushChild waiting root buffer = .ok next) :
    (next.buffers : Multiset (FwBuffDesc interfaces)) = ↑waiting.buffers + {buffer} := by
  obtain ⟨before, found, after, split, split'⟩ := (formed.pushChild found pushed).2
  rw [buffers_of_contents split, buffers_of_contents split']
  simp only [← Multiset.coe_add, Multiset.coe_singleton]
  ac_rfl

theorem WellFormed.freeParent_buffers (formed : waiting.WellFormed)
    (found : pktWaitingFindNode waiting ip = some root) :
    (waiting.buffers : Multiset (FwBuffDesc interfaces)) =
      ↑(pktsWaitingFreeParent waiting root).buffers + ↑(waiting.buffersOf root) := by
  obtain ⟨before, after, split, split'⟩ := (formed.freeParent found).2
  rw [buffers_of_contents split, buffers, split', List.flatMap_append]
  simp only [← Multiset.coe_add]
  ac_rfl

end PktsWaiting

/-! ### The places of a buffer -/

namespace Router

variable {added : Multiset (FwBuffDesc interfaces)} {interface outInterface : Fin interfaces}
  {waiting : PktsWaiting interfaces} {response : FwArpRequest}
  {buffers : List (FwBuffDesc interfaces)}

def inFilters (router : Router interfaces) (place : Fin interfaces × Fin fwMaxFilters) :
    Multiset (FwBuffDesc interfaces) :=
  (router.fwFilters place.1 place.2).entries.map fun buffer => buffer.tagged place.1

def inRxFree (router : Router interfaces) (interface : Fin interfaces) :
    Multiset (FwBuffDesc interfaces) :=
  (router.rxFree interface).entries.map fun buffer => buffer.tagged interface

def inTxActive (router : Router interfaces) (outInterface : Fin interfaces) :
    Multiset (FwBuffDesc interfaces) :=
  (router.txActive outInterface).entries

def inWebserver (router : Router interfaces) : Multiset (FwBuffDesc interfaces) :=
  router.webserver.entries

def isWaiting (router : Router interfaces) (outInterface : Fin interfaces) :
    Multiset (FwBuffDesc interfaces) :=
  (router.pktWaitingQueue outInterface).buffers

/-- The buffers the router has disposed of that no consumer has taken yet. -/
def disposed (router : Router interfaces) : Multiset (FwBuffDesc interfaces) :=
  total router.inRxFree + total router.inTxActive + router.inWebserver + total router.isWaiting

/-- The waiting structures are in order. -/
def WaitingSound (router : Router interfaces) : Prop :=
  ∀ outInterface, (router.pktWaitingQueue outInterface).WellFormed

variable {config : FwRouterConfig interfaces} {router next : Router interfaces}

/-! ### One disposal -/

theorem disposed_change (rxFree txActive webserver waiting : Multiset (FwBuffDesc interfaces))
    (inRxFree : total next.inRxFree = total router.inRxFree + rxFree)
    (inTxActive : total next.inTxActive = total router.inTxActive + txActive)
    (inWebserver : next.inWebserver = router.inWebserver + webserver)
    (isWaiting : total next.isWaiting = total router.isWaiting + waiting)
    (sum : rxFree + txActive + webserver + waiting = added) :
    next.disposed = router.disposed + added := by
  rw [disposed, inRxFree, inTxActive, inWebserver, isWaiting, disposed, ← sum]
  ac_rfl

theorem returnBuffer_disposed {buffer : NetBuffDesc}
    (done : router.returnBuffer interface buffer = .ok next) :
    next.disposed = router.disposed + {buffer.tagged interface} := by
  obtain ⟨queue, entries, _, rfl⟩ := returnBuffer_ok done
  refine disposed_change {buffer.tagged interface} 0 0 0 (total_add interface
    (fun other different => ?_) ?_) (add_zero _).symm (add_zero _).symm (add_zero _).symm (by simp)
  · simp only [inRxFree, update_of_ne different]
  · simp only [inRxFree, update_self, entries, List.map_append]
    rfl

theorem transmitPacket_disposed {macAddr : MacAddr}
    (done : transmitPacket config router buffer macAddr outInterface = .ok next) :
    next.disposed = router.disposed + {buffer} := by
  obtain ⟨queue, entries, _, rfl⟩ := transmitPacket_ok done
  refine disposed_change 0 {buffer} 0 0 (add_zero _).symm (total_add outInterface
    (fun other different => ?_) ?_) (add_zero _).symm (add_zero _).symm (by simp)
  · simp only [inTxActive, update_of_ne different]
  · simp only [inTxActive, update_self, entries]
    rfl

theorem transmitWebserver_disposed (done : router.transmitWebserver buffer = .ok next) :
    next.disposed = router.disposed + {buffer} := by
  obtain ⟨queue, entries, _, rfl⟩ := transmitWebserver_ok done
  refine disposed_change 0 0 {buffer} 0 (add_zero _).symm (add_zero _).symm ?_
    (add_zero _).symm (by simp)
  simp only [inWebserver, entries]
  rfl

theorem waiting_changed
    (changed : (waiting.buffers : Multiset (FwBuffDesc interfaces)) =
      router.isWaiting outInterface + added) :
    total (fun other => ((update router.pktWaitingQueue outInterface waiting
        other).buffers : Multiset (FwBuffDesc interfaces))) =
      total router.isWaiting + added := by
  refine total_add outInterface (fun other different => ?_) ?_
  · simp only [isWaiting, update_of_ne different]
  · simp only [update_self, changed]

theorem WaitingSound.update (sound : router.WaitingSound) (formed : waiting.WellFormed)
    (other : Fin interfaces) :
    (update router.pktWaitingQueue outInterface waiting other).WellFormed := by
  by_cases same : other = outInterface
  · rw [same, update_self]
    exact formed
  · rw [update_of_ne same]
    exact sound other

theorem parkPacket_disposed (sound : router.WaitingSound) {nextHop : UInt32T}
    (done : router.parkPacket buffer nextHop outInterface = .ok next) :
    next.disposed = router.disposed + {buffer} ∧ next.WaitingSound := by
  rcases parkPacket_ok done with ⟨root, waiting, found, pushed, rfl⟩ | ⟨request, queue, waiting,
    absent, _, _, _, pushed, rfl⟩
  · exact ⟨disposed_change 0 0 0 {buffer} (add_zero _).symm (add_zero _).symm (add_zero _).symm
      (waiting_changed ((sound outInterface).pushChild_buffers found pushed)) (by simp),
      sound.update ((sound outInterface).pushChild found pushed).1⟩
  · exact ⟨disposed_change 0 0 0 {buffer} (add_zero _).symm (add_zero _).symm (add_zero _).symm
      (waiting_changed ((sound outInterface).push_buffers absent pushed)) (by simp),
      sound.update ((sound outInterface).push absent pushed).1⟩

/-- Routing a packet disposes of its buffer, and of nothing else. -/
theorem routePacket_disposed (sound : router.WaitingSound) {buffer : NetBuffDesc}
    (done : routePacket config router interface buffer = .ok next) :
    next.disposed = router.disposed + {buffer.tagged interface} ∧ next.WaitingSound ∧
      next.inFilters = router.inFilters := by
  obtain ⟨routed, outcome, result⟩ := routeOutcome_of_eq done
  cases outcome with
  | returned icmpQueue notifyIcmp packet =>
    have disposed := returnBuffer_disposed result
    refine ⟨disposed, ?_⟩
    obtain ⟨queue, _, _, rfl⟩ := returnBuffer_ok result
    exact ⟨sound, rfl⟩
  | webserver forWebserver =>
    refine ⟨transmitWebserver_disposed result, ?_⟩
    obtain ⟨queue, _, _, rfl⟩ := transmitWebserver_ok result
    exact ⟨sound, rfl⟩
  | parked outInterface nextHop alive mayPark =>
    have prepared : (router.setPacket interface buffer.ioOrOffset
        (router.data interface buffer.ioOrOffset).decremented).WaitingSound := sound
    obtain ⟨disposed, waitingSound⟩ := parkPacket_disposed prepared result
    refine ⟨disposed, waitingSound, ?_⟩
    rcases parkPacket_ok result with ⟨_, _, _, _, rfl⟩ | ⟨_, _, _, _, _, _, _, _, rfl⟩
    · rfl
    · rfl
  | transmitted outInterface macAddr forNextHop =>
    have disposed := transmitPacket_disposed result
    refine ⟨disposed, ?_⟩
    obtain ⟨queue, _, _, rfl⟩ := transmitPacket_ok result
    exact ⟨sound, rfl⟩

/-! ### Resolving an address -/

/-- The descriptor a buffer has in the queues of its own interface. -/
def untagged (buffer : FwBuffDesc interfaces) : NetBuffDesc :=
  { ioOrOffset := buffer.offset, len := buffer.len }

theorem visitWaiting_disposed
    (done : visitWaiting config outInterface response router buffer = .ok next) :
    next.disposed = router.disposed + {buffer} := by
  unfold visitWaiting at done
  split_ifs at done
  · have disposed := returnBuffer_disposed done
    exact disposed
  · exact transmitPacket_disposed done

theorem visitAll_disposed
    (done : buffers.foldlM (visitWaiting config outInterface response) router = .ok next) :
    next.disposed = router.disposed + ↑buffers ∧
      next.pktWaitingQueue = router.pktWaitingQueue := by
  induction buffers generalizing router with
  | nil =>
    cases done
    exact ⟨(add_zero _).symm, rfl⟩
  | cons buffer rest inductionHypothesis =>
    obtain ⟨middle, visited, done⟩ := Fallible.foldlM_cons_eq_ok done
    obtain ⟨disposed, waiting⟩ := inductionHypothesis done
    refine ⟨?_, waiting.trans (visitWaiting_keeps _ _ _ _ _ visited)⟩
    rw [disposed, visitWaiting_disposed visited, add_assoc]
    rfl

/-- Where the buffers of an address go: back to the pools they came from when it is unreachable,
and out of the interface, in order, otherwise. -/
structure Resolves (outInterface : Fin interfaces) (response : FwArpRequest)
    (buffers : List (FwBuffDesc interfaces)) (router next : Router interfaces) : Prop where
  dropped : response.state = .unreachable → next.txActive = router.txActive ∧
    ∀ interface, (next.rxFree interface).entries = (router.rxFree interface).entries ++
      (buffers.filter fun buffer => buffer.interface = interface).map untagged
  sent : response.state ≠ .unreachable → next.rxFree = router.rxFree ∧
    (∀ other, other ≠ outInterface → next.txActive other = router.txActive other) ∧
    (next.txActive outInterface).entries = (router.txActive outInterface).entries ++ buffers
  webserver : next.webserver = router.webserver
  fwFilters : next.fwFilters = router.fwFilters

theorem Resolves.refl (outInterface : Fin interfaces) (response : FwArpRequest) :
    Resolves outInterface response [] router router where
  dropped _ := ⟨rfl, fun interface => by simp⟩
  sent _ := ⟨rfl, fun _ _ => rfl, by simp⟩
  webserver := rfl
  fwFilters := rfl

theorem Resolves.cons {rest : List (FwBuffDesc interfaces)} {middle : Router interfaces}
    (visited : visitWaiting config outInterface response router buffer = .ok middle)
    (later : Resolves outInterface response rest middle next) :
    Resolves outInterface response (buffer :: rest) router next := by
  unfold visitWaiting at visited
  split_ifs at visited with unreachable
  · obtain ⟨queue, entries, _, rfl⟩ := returnBuffer_ok visited
    refine ⟨fun _ => ⟨(later.dropped unreachable).1, fun interface => ?_⟩,
      fun reachable => absurd unreachable reachable, later.webserver, later.fwFilters⟩
    rw [(later.dropped unreachable).2 interface]
    by_cases same : interface = buffer.interface
    · rw [same, List.filter_cons_of_pos (by simp)]
      simp only [update_self, entries]
      rw [List.append_assoc]
      rfl
    · rw [List.filter_cons_of_neg (by simpa using Ne.symm same)]
      simp only [update_of_ne same]
      rfl
  · obtain ⟨queue, entries, _, rfl⟩ := transmitPacket_ok visited
    refine ⟨fun reachable => absurd reachable unreachable, fun _ =>
      ⟨(later.sent unreachable).1, fun other different => ?_, ?_⟩, later.webserver,
      later.fwFilters⟩
    · rw [(later.sent unreachable).2.1 other different]
      exact update_of_ne different _ _
    · rw [(later.sent unreachable).2.2]
      simp only [update_self, entries]
      rw [List.append_assoc]
      rfl

theorem visitAll_resolves
    (done : buffers.foldlM (visitWaiting config outInterface response) router = .ok next) :
    Resolves outInterface response buffers router next := by
  induction buffers generalizing router with
  | nil =>
    cases done
    exact Resolves.refl outInterface response
  | cons buffer rest inductionHypothesis =>
    obtain ⟨middle, visited, done⟩ := Fallible.foldlM_cons_eq_ok done
    exact (inductionHypothesis done).cons visited

/-- What an ARP response changes: nothing when its address is not waited for; otherwise the
address goes, and exactly its buffers move on. -/
inductive Responds (outInterface : Fin interfaces) (response : FwArpRequest)
    (router next : Router interfaces) : Prop
  | notWaiting (absent : ¬ (router.pktWaitingQueue outInterface).IsWaitingFor response.ip)
    (same : next = router)
  | resolved (before after : List (UInt32T × List (FwBuffDesc interfaces)))
    (buffers : List (FwBuffDesc interfaces))
    (waiting : (router.pktWaitingQueue outInterface).contents =
      before ++ (response.ip, buffers) :: after)
    (left : (next.pktWaitingQueue outInterface).contents = before ++ after)
    (others : ∀ other, other ≠ outInterface →
      next.pktWaitingQueue other = router.pktWaitingQueue other)
    (moved : Resolves outInterface response buffers router next)

/-- Freeing an address takes its buffers away, and no others. -/
theorem freeParent_isWaiting {resolved : Router interfaces}
    (formed : (router.pktWaitingQueue outInterface).WellFormed)
    (found : pktWaitingFindNode (router.pktWaitingQueue outInterface) ip = some root)
    (same : resolved.pktWaitingQueue = router.pktWaitingQueue) :
    total router.isWaiting = total (isWaiting { resolved with
        pktWaitingQueue := update resolved.pktWaitingQueue outInterface
          (pktsWaitingFreeParent (resolved.pktWaitingQueue outInterface) root) }) +
      ((router.pktWaitingQueue outInterface).buffersOf root :
        Multiset (FwBuffDesc interfaces)) := by
  refine total_remove outInterface (fun other different => ?_) ?_
  · simp only [isWaiting, update_of_ne different, same]
  · simp only [isWaiting, update_self, same]
    exact formed.freeParent_buffers found

theorem processArpResponse_responds (sound : router.WaitingSound)
    (done : processArpResponse config router outInterface response = .ok next) :
    Responds outInterface response router next ∧ next.disposed = router.disposed ∧
      next.WaitingSound ∧ next.inFilters = router.inFilters := by
  have formed := sound outInterface
  rcases processArpResponse_ok formed done with ⟨absent, rfl⟩ | ⟨root, resolved, found, visited, rfl⟩
  · exact ⟨.notWaiting (formed.find_eq_none.mp absent) rfl, rfl, sound, rfl⟩
  · obtain ⟨disposed, same⟩ := visitAll_disposed visited
    have moved := visitAll_resolves visited
    obtain ⟨formedNext, before, after, split, left⟩ := formed.freeParent found
    have waitingNext : ∀ other, other ≠ outInterface → update resolved.pktWaitingQueue outInterface
          (pktsWaitingFreeParent (resolved.pktWaitingQueue outInterface) root) other =
        router.pktWaitingQueue other := fun other different => by
      rw [update_of_ne different, same]
    have waitingHere : update resolved.pktWaitingQueue outInterface
          (pktsWaitingFreeParent (resolved.pktWaitingQueue outInterface) root) outInterface =
        pktsWaitingFreeParent (router.pktWaitingQueue outInterface) root := by
      rw [update_self, same]
    refine ⟨.resolved before after _ split ?_ waitingNext ⟨moved.dropped, moved.sent,
      moved.webserver, moved.fwFilters⟩, ?_, fun other => ?_, ?_⟩
    · simp only [waitingHere]
      exact left
    · have removed := freeParent_isWaiting formed found same
      have sameWaiting : total resolved.isWaiting = total router.isWaiting :=
        total_congr fun other => by rw [isWaiting, isWaiting, same]
      refine add_right_cancel (b := ((router.pktWaitingQueue outInterface).buffersOf root :
        Multiset (FwBuffDesc interfaces))) ?_
      rw [← disposed, Router.disposed, Router.disposed, sameWaiting, removed, add_assoc]
      rfl
    · by_cases here : other = outInterface
      · subst here
        simp only [waitingHere]
        exact formedNext
      · simp only [waitingNext other here]
        exact sound other
    · funext place
      simp only [inFilters, moved.fwFilters]

end Router

end LionsOS.Firewall
