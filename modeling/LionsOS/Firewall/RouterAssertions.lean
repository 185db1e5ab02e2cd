/-
This file says when an assertion of the router fails: exactly when the queue it
enqueues to is full. No disposal changes how much room the queues have, so what
decides is how many entries they hold.
-/

import LionsOS.Firewall.RouterLedger

namespace LionsOS.Firewall

variable {interfaces : Nat} {macAddr : MacAddr}

/-! ### When an asserted enqueue fails -/

namespace Router

variable {config : FwRouterConfig interfaces} {router : Router interfaces}

variable {assertion : RouterAssertion} {interface outInterface : Fin interfaces}
  {buffer : FwBuffDesc interfaces} {response : FwArpRequest}

theorem returnBuffer_eq_error {buffer : NetBuffDesc} :
    router.returnBuffer interface buffer = .error assertion ↔ assertion = .rxFreeEnqueued ∧
        (router.rxFree interface).entries.length = (router.rxFree interface).capacity := by
  rw [returnBuffer_eq]
  exact enqueueOr_eq_error

theorem transmitPacket_eq_error :
    transmitPacket config router buffer macAddr outInterface = .error assertion ↔
      assertion = .txActiveEnqueued ∧ (router.txActive outInterface).entries.length =
          (router.txActive outInterface).capacity := by
  rw [transmitPacket_eq]
  exact enqueueOr_eq_error

theorem transmitWebserver_eq_error :
    router.transmitWebserver buffer = .error assertion ↔ assertion = .webserverEnqueued ∧
        router.webserver.entries.length = router.webserver.capacity := by
  rw [transmitWebserver_eq]
  exact enqueueOr_eq_error

theorem parkPacket_error {nextHop : UInt32T}
    (failed : router.parkPacket buffer nextHop outInterface = .error assertion) :
    assertion = .arpRequestEnqueued ∨ assertion = .packetParked := by
  unfold parkPacket at failed
  dsimp only at failed
  split at failed
  case h_1 =>
    split at failed
    case h_1 =>
      cases failed
      exact Or.inr rfl
    case h_2 => cases failed
  case h_2 =>
    split at failed
    case h_1 =>
      cases failed
      exact Or.inl rfl
    case h_2 =>
      split at failed
      case h_1 =>
        cases failed
        exact Or.inr rfl
      case h_2 => cases failed

/-! ### The capacities do not change -/

/-- The queues whose enqueues the router asserts all have room for `size` entries. -/
structure Sized (size : Nat) (router : Router interfaces) : Prop where
  rxFree : ∀ interface, (router.rxFree interface).capacity = size
  txActive : ∀ outInterface, (router.txActive outInterface).capacity = size
  webserver : router.webserver.capacity = size

variable {size : Nat} {next : Router interfaces}

theorem update_capacity {Entry : Type} {queues : Fin interfaces → FwQueue Entry}
    (sized : ∀ interface, (queues interface).capacity = size) {queue : FwQueue Entry}
    (same : queue.capacity = (queues interface).capacity) (other : Fin interfaces) :
    (Function.update queues interface queue other).capacity = size := by
  by_cases here : other = interface
  · rw [here, Function.update_self, same, sized]
  · rw [Function.update_of_ne here, sized]

section

variable (sized : router.Sized size)
include sized

theorem Sized.returnBuffer {buffer : NetBuffDesc}
    (done : router.returnBuffer interface buffer = .ok next) : next.Sized size := by
  obtain ⟨queue, _, capacity, rfl⟩ := returnBuffer_ok done
  exact ⟨update_capacity sized.rxFree capacity, sized.txActive, sized.webserver⟩

theorem Sized.transmitPacket
    (done : transmitPacket config router buffer macAddr outInterface = .ok next) :
    next.Sized size := by
  obtain ⟨queue, _, capacity, rfl⟩ := transmitPacket_ok done
  exact ⟨sized.rxFree, update_capacity sized.txActive capacity, sized.webserver⟩

theorem Sized.routePacket {buffer : NetBuffDesc}
    (done : routePacket config router interface buffer = .ok next) : next.Sized size := by
  obtain ⟨routed, outcome, result⟩ := routeOutcome_of_eq done
  cases outcome with
  | returned icmpQueue notifyIcmp packet =>
    refine Sized.returnBuffer ?_ result
    exact ⟨sized.rxFree, sized.txActive, sized.webserver⟩
  | webserver forWebserver =>
    obtain ⟨queue, _, capacity, rfl⟩ := transmitWebserver_ok result
    exact ⟨sized.rxFree, sized.txActive, capacity.trans sized.webserver⟩
  | parked outInterface nextHop alive mayPark =>
    rcases parkPacket_ok result with ⟨_, _, _, _, rfl⟩ | ⟨_, _, _, _, _, _, _, _, rfl⟩
    · exact ⟨sized.rxFree, sized.txActive, sized.webserver⟩
    · exact ⟨sized.rxFree, sized.txActive, sized.webserver⟩
  | transmitted outInterface macAddr forNextHop =>
    refine Sized.transmitPacket ?_ result
    exact ⟨sized.rxFree, sized.txActive, sized.webserver⟩

theorem Sized.visitWaiting
    (done : visitWaiting config outInterface response router buffer = .ok next) :
    next.Sized size := by
  unfold Router.visitWaiting at done
  split_ifs at done
  · unfold dropWaiting at done
    refine Sized.returnBuffer ?_ done
    exact ⟨sized.rxFree, sized.txActive, sized.webserver⟩
  · exact sized.transmitPacket done

theorem Sized.visitAll {buffers : List (FwBuffDesc interfaces)}
    (done : buffers.foldlM (Router.visitWaiting config outInterface response) router = .ok next) :
    next.Sized size := by
  induction buffers generalizing router with
  | nil =>
    cases done
    exact sized
  | cons buffer rest inductionHypothesis =>
    obtain ⟨middle, visited, done⟩ := Fallible.foldlM_cons_eq_ok done
    exact inductionHypothesis (sized.visitWaiting visited) done

theorem Sized.processArpResponse (formed : (router.pktWaitingQueue outInterface).WellFormed)
    (done : processArpResponse config router outInterface response = .ok next) :
    next.Sized size := by
  rcases processArpResponse_ok formed done with ⟨_, rfl⟩ | ⟨root, resolved, _, visited, rfl⟩
  · exact sized
  · have kept := sized.visitAll visited
    exact ⟨kept.rxFree, kept.txActive, kept.webserver⟩

end

end Router

end LionsOS.Firewall
