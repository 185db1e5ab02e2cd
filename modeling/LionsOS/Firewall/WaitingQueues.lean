/-
This file runs the structure of waiting packets against its purpose, a finite
map from addresses to queues of buffers. The calls are those that `route` and
`process_arp_waiting` make: a push for an address without a root, a push behind
a root that was found, and freeing a root that was found. After any sequence of
them the array holds the map, and every node is on exactly one of its lists.
-/

import LionsOS.Firewall.RouterPlaces
import LionsOS.Lib.KeyedQueues

open Function

namespace LionsOS.Firewall

open StepRun IndexChain KeyedQueues List

variable {interfaces : Nat} {config : FwRouterConfig interfaces} {waiting : PktsWaiting interfaces}

variable {buffer : FwBuffDesc interfaces} {system : RouterSystem interfaces}

/-! ### The calls -/

inductive WaitingCall (interfaces : Nat) where
  | push (ip : UInt32T) (buffer : FwBuffDesc interfaces)
  | pushChild (ip : UInt32T) (buffer : FwBuffDesc interfaces)
  | freeParent (ip : UInt32T)

variable {call : WaitingCall interfaces}

/-- A call as the router makes it. One that fails leaves the structure as it was. -/
inductive WaitingStep (waiting : PktsWaiting interfaces) :
    WaitingCall interfaces → PktsWaiting interfaces → Prop
  | push {ip : UInt32T} {buffer : FwBuffDesc interfaces}
    (noRoot : pktWaitingFindNode waiting ip = none) :
    WaitingStep waiting (.push ip buffer)
      ((pktWaitingPush waiting ip buffer).toOption.getD waiting)
  | pushChild {ip : UInt32T} {buffer : FwBuffDesc interfaces} {root : Nat}
    (found : pktWaitingFindNode waiting ip = some root) :
    WaitingStep waiting (.pushChild ip buffer)
      ((pktWaitingPushChild waiting root buffer).toOption.getD waiting)
  | freeParent {ip : UInt32T} {root : Nat} (found : pktWaitingFindNode waiting ip = some root) :
    WaitingStep waiting (.freeParent ip) (pktsWaitingFreeParent waiting root)

/-- The buffers that wait for each address. -/
abbrev AddressQueues (interfaces : Nat) := KeyedQueues UInt32T (FwBuffDesc interfaces)

/-- What a call does to the map, of which at most `capacity` buffers can be stored. -/
def AddressQueues.next (capacity : Nat) (queues : AddressQueues interfaces) :
    WaitingCall interfaces → AddressQueues interfaces
  | .push ip buffer | .pushChild ip buffer =>
    if queues.stored < capacity then queues.enqueue ip buffer else queues
  | .freeParent ip => queues.drop ip

namespace PktsWaiting

variable {next : PktsWaiting interfaces} {queues : AddressQueues interfaces}

/-- The nodes on the free list. -/
def freeNodes (waiting : PktsWaiting interfaces) : List Nat :=
  walk (fun node => (waiting.packets node).next) (waiting.capacity - waiting.size) waiting.free

/-- The array holds the map, and its lists partition it. -/
structure Refines (waiting : PktsWaiting interfaces) (queues : AddressQueues interfaces) :
    Prop where
  /-- The roots are those of the addresses in the map, each with its buffers in order. -/
  contents : queues.Lists waiting.contents
  findRoot : ∀ ip root, pktWaitingFindNode waiting ip = some root →
    root ∈ waiting.roots ∧ (waiting.packets root).ip = ip ∧
      ∃ nonempty, queues.lookup ip = some ⟨waiting.buffersOf root, nonempty⟩
  findNone : ∀ ip, pktWaitingFindNode waiting ip = none ↔ ip ∉ queues
  rootsBackwards : walk (fun node => (waiting.packets node).prev) waiting.length waiting.tail =
    waiting.roots.reverse
  partition : ((waiting.roots.flatMap waiting.chainOf) ++ waiting.freeNodes).Perm
    (range waiting.capacity)
  size : waiting.size = queues.stored
  length : waiting.length = queues.keys.card
  push_fails : ∀ ip buffer, (∃ err, pktWaitingPush waiting ip buffer = .error err) ↔
    queues.stored = waiting.capacity
  pushChild_fails : ∀ root buffer, (∃ err, pktWaitingPushChild waiting root buffer = .error err) ↔
    queues.stored = waiting.capacity

/-! ### The lists of a well-formed array -/

variable {roots free : List Nat} {children : Nat → List Nat}

section

variable (rep : waiting.Represents roots children free)
include rep

theorem Represents.freeNodes_eq : waiting.freeNodes = free := by
  have room := rep.capacity
  rw [freeNodes, show waiting.capacity - waiting.size = free.length by omega]
  exact rep.freeChain.walk_eq

theorem Represents.partition :
    ((waiting.roots.flatMap waiting.chainOf) ++ waiting.freeNodes).Perm
      (range waiting.capacity) := by
  have used : waiting.roots.flatMap waiting.chainOf = roots.flatMap fun root =>
      root :: children root := by
    rw [rep.roots_eq]
    exact flatMap_congr fun root member => rep.chainOf_eq member
  rw [used, rep.freeNodes_eq]
  refine (subperm_of_subset rep.distinct fun node inside => ?_).perm_of_length_le ?_
  · exact List.mem_range.mpr (rep.inArray node inside)
  · rw [length_range, length_append, ← rep.size, rep.capacity]

theorem Represents.rootsBackwards :
    walk (fun node => (waiting.packets node).prev) waiting.length waiting.tail =
      waiting.roots.reverse := by
  rw [rep.roots_eq, rep.length, ← length_reverse]
  exact rep.prevChain.walk_eq

end

theorem WellFormed.counts (formed : waiting.WellFormed) :
    waiting.size = (waiting.contents.map fun entry => entry.2.length).sum ∧
      waiting.length = waiting.contents.length := by
  obtain ⟨roots, children, free, rep⟩ := formed
  rw [rep.contents_eq, map_map, length_map, rep.size, length_flatMap, rep.length]
  refine ⟨congrArg sum (map_congr_left fun root _ => ?_), rfl⟩
  exact (length_map _).symm

theorem push_eq_error {ip : UInt32T} :
    (∃ err, pktWaitingPush waiting ip buffer = .error err) ↔ waiting.size = waiting.capacity := by
  rw [← beq_iff_eq]
  unfold pktWaitingPush pktWaitingFull
  split_ifs with full
  · simp [full]
  · simp [full]

theorem pushChild_eq_error {root : Nat} :
    (∃ err, pktWaitingPushChild waiting root buffer = .error err) ↔
      waiting.size = waiting.capacity := by
  rw [← beq_iff_eq]
  unfold pktWaitingPushChild pktWaitingFull
  split_ifs with full
  · simp [full]
  · simp [full]

theorem freeChildren_capacity (remaining child : Nat) (waiting : PktsWaiting interfaces) :
    (freeChildren remaining child waiting).capacity = waiting.capacity := by
  induction remaining generalizing child waiting with
  | zero => rfl
  | succ remaining inductionHypothesis =>
    exact inductionHypothesis _ _

theorem freeParent_capacity (waiting : PktsWaiting interfaces) (root : Nat) :
    (pktsWaitingFreeParent waiting root).capacity = waiting.capacity := by
  rw [freeParent_eq, (freeRoot_scalars _ root).1, freeChildren_capacity]

/-! ### The array refines the map -/

section

variable (formed : waiting.WellFormed) (lists : queues.Lists waiting.contents)
include formed lists

theorem WellFormed.refines : waiting.Refines queues := by
  have size : waiting.size = queues.stored := formed.counts.1.trans lists.stored_eq.symm
  constructor
  case contents => exact lists
  case findRoot =>
    intro ip root found
    obtain ⟨sameIp, before, after, split⟩ := formed.find_eq_some found
    refine ⟨?_, sameIp, lists.lookup (by rw [split]; simp)⟩
    obtain ⟨roots, children, free, rep⟩ := formed
    rw [rep.roots_eq]
    exact (rep.find_eq_some.mp found).1
  case findNone =>
    intro ip
    rw [formed.find_eq_none, lists.mem_iff]
    rfl
  case rootsBackwards =>
    obtain ⟨roots, children, free, rep⟩ := formed
    exact rep.rootsBackwards
  case partition =>
    obtain ⟨roots, children, free, rep⟩ := formed
    exact rep.partition
  case size => exact size
  case length => exact formed.counts.2.trans lists.card_keys.symm
  case push_fails =>
    intro ip buffer
    rw [push_eq_error, size]
  case pushChild_fails =>
    intro root buffer
    rw [pushChild_eq_error, size]

theorem size_lt_iff : queues.stored < waiting.capacity ↔ pktWaitingFull waiting = false := by
  obtain ⟨size, _⟩ := formed.counts
  obtain ⟨roots, children, free, rep⟩ := formed
  have total := rep.capacity
  rw [lists.stored_eq, pktWaitingFull, beq_eq_false_iff_ne]
  omega

theorem step_refines (taken : WaitingStep waiting call next) :
    next.WellFormed ∧ (queues.next waiting.capacity call).Lists next.contents ∧
      next.capacity = waiting.capacity := by
  cases taken with
  | @push ip buffer noRoot =>
    unfold AddressQueues.next
    split_ifs with room
    · obtain ⟨next, pushed⟩ :=
        pktWaitingPush_isOk ip buffer ((size_lt_iff formed lists).mp room)
      obtain ⟨formedNext, contents⟩ := formed.push noRoot pushed
      rw [pushed]
      refine ⟨formedNext, ?_, (push_scalars pushed).1⟩
      show Lists _ next.contents
      rw [contents]
      exact lists.enqueue_new ((formed.refines lists).findNone ip |>.mp noRoot) buffer
    · have full := Bool.eq_true_of_not_eq_false (mt (size_lt_iff formed lists).mpr room)
      have refusal : ∃ err, pktWaitingPush waiting ip buffer = .error err :=
        push_eq_error.mpr (beq_iff_eq.mp full)
      obtain ⟨err, refused⟩ := refusal
      rw [refused]
      exact ⟨formed, lists, rfl⟩
  | @pushChild ip buffer root found =>
    unfold AddressQueues.next
    split_ifs with room
    · obtain ⟨next, pushed⟩ :=
        pktWaitingPushChild_isOk root buffer ((size_lt_iff formed lists).mp room)
      obtain ⟨formedNext, before, items, after, old, contents⟩ := formed.pushChild found pushed
      rw [pushed]
      refine ⟨formedNext, ?_, (pushChild_scalars pushed).1⟩
      show Lists _ next.contents
      rw [contents]
      exact (old ▸ lists).enqueue_append buffer
    · have full := Bool.eq_true_of_not_eq_false (mt (size_lt_iff formed lists).mpr room)
      have refusal : ∃ err, pktWaitingPushChild waiting root buffer = .error err :=
        pushChild_eq_error.mpr (beq_iff_eq.mp full)
      obtain ⟨err, refused⟩ := refusal
      rw [refused]
      exact ⟨formed, lists, rfl⟩
  | @freeParent ip root found =>
    obtain ⟨formedNext, before, after, old, contents⟩ := formed.freeParent found
    refine ⟨formedNext, ?_, freeParent_capacity waiting root⟩
    rw [contents]
    exact (old ▸ lists).drop

end

end PktsWaiting

/-- Over every sequence of calls the array stays in order and holds the map. -/
theorem waiting_run_lists (packets : Nat → PktWaitingNode interfaces) (capacity : Nat)
    {calls : List (WaitingCall interfaces)}
    (run : Run WaitingStep (pktWaitingInit packets capacity) calls waiting) :
    waiting.WellFormed ∧ Lists (calls.foldl (AddressQueues.next capacity) ∅) waiting.contents ∧
      waiting.capacity = capacity := by
  induction run with
  | nil =>
    refine ⟨PktsWaiting.wellFormed_init packets capacity, ?_, rfl⟩
    exact lists_empty
  | snoc _ last inductionHypothesis =>
    obtain ⟨formed, lists, sameCapacity⟩ := inductionHypothesis
    obtain ⟨formedNext, listsNext, kept⟩ := PktsWaiting.step_refines formed lists last
    rw [foldl_append]
    rw [sameCapacity] at listsNext
    exact ⟨formedNext, listsNext, kept.trans sameCapacity⟩

/-- Over every sequence of calls that the router can make, the structure of waiting packets is a
finite map from addresses to queues of buffers, of any capacity: a search finds the root of
exactly the addresses in the map, the child links give their buffers in the order of insertion,
the free list, the root list and the child chains partition the array, the counts are those of
the map, and a push fails exactly when the capacity is used up. -/
theorem waiting_refines_queues (packets : Nat → PktWaitingNode interfaces) (capacity : Nat)
    {calls : List (WaitingCall interfaces)} {waiting : PktsWaiting interfaces}
    (run : Run WaitingStep (pktWaitingInit packets capacity) calls waiting) :
    waiting.capacity = capacity ∧
      waiting.Refines (calls.foldl (AddressQueues.next capacity) ∅) := by
  obtain ⟨formed, lists, sameCapacity⟩ := waiting_run_lists packets capacity run
  exact ⟨sameCapacity, formed.refines lists⟩

/-- Two buffers for one address, one for another that is refused, and the first address freed. -/
theorem waiting_refines_queues_sample :
    ∃ waiting : PktsWaiting 1, waiting.capacity = 2 ∧
      waiting.Refines (foldl (AddressQueues.next 2) ∅
        [.push 7 ⟨0, 60, 0⟩, .pushChild 7 ⟨1, 60, 0⟩, .push 9 ⟨2, 60, 0⟩, .freeParent 7]) :=
  ⟨_, waiting_refines_queues (fun _ => ⟨0, 0, 0, 0, 0, 0, ⟨0, 0, 0⟩⟩) 2
    ((((Run.nil.snoc (.push rfl)).snoc (.pushChild rfl)).snoc (.push rfl)).snoc (.freeParent rfl))⟩

/-! ### The router makes these calls -/

namespace Router

variable {router next : Router interfaces}

variable {outInterface : Fin interfaces}

/-- The waiting structures of the one router come from those of the other by calls. -/
def WaitingCalls (router next : Router interfaces) : Prop :=
  ∀ outInterface, ∃ calls,
    Run WaitingStep (router.pktWaitingQueue outInterface) calls (next.pktWaitingQueue outInterface)

theorem WaitingCalls.refl (same : next.pktWaitingQueue = router.pktWaitingQueue) :
    WaitingCalls router next := fun outInterface => by
  rw [same]
  exact ⟨[], Run.nil⟩

theorem WaitingCalls.single (taken : WaitingStep (router.pktWaitingQueue outInterface) call waiting)
    (changed : next.pktWaitingQueue = update router.pktWaitingQueue outInterface waiting) :
    WaitingCalls router next := fun other => by
  rw [changed]
  by_cases same : other = outInterface
  · rw [same, update_self]
    exact ⟨[call], Run.single taken⟩
  · rw [update_of_ne same]
    exact ⟨[], Run.nil⟩

theorem parkPacket_waitingCalls {nextHop : UInt32T}
    (done : router.parkPacket buffer nextHop outInterface = .ok next) :
    WaitingCalls router next := by
  rcases parkPacket_ok done with ⟨root, waiting, found, pushed, rfl⟩ | ⟨_, queue, waiting, absent,
    _, _, _, pushed, rfl⟩
  · have taken : WaitingStep _ (.pushChild nextHop buffer) _ := .pushChild found
    rw [pushed] at taken
    exact WaitingCalls.single taken rfl
  · have taken : WaitingStep _ (.push nextHop buffer) _ := .push absent
    rw [pushed] at taken
    exact WaitingCalls.single taken rfl

theorem routePacket_waitingCalls {interface : Fin interfaces} {buffer : NetBuffDesc}
    (done : routePacket config router interface buffer = .ok next) : WaitingCalls router next := by
  obtain ⟨routed, outcome, result⟩ := routeOutcome_of_eq done
  cases outcome with
  | returned icmpQueue notifyIcmp packet =>
    obtain ⟨queue, _, _, rfl⟩ := returnBuffer_ok result
    exact WaitingCalls.refl rfl
  | webserver forWebserver =>
    obtain ⟨queue, _, _, rfl⟩ := transmitWebserver_ok result
    exact WaitingCalls.refl rfl
  | parked outInterface nextHop alive mayPark =>
    have calls := parkPacket_waitingCalls result
    exact calls
  | transmitted outInterface macAddr forNextHop =>
    obtain ⟨queue, _, _, rfl⟩ := transmitPacket_ok result
    exact WaitingCalls.refl rfl

theorem processArpResponse_waitingCalls (sound : router.WaitingSound) {response : FwArpRequest}
    (done : processArpResponse config router outInterface response = .ok next) :
    WaitingCalls router next := by
  rcases processArpResponse_ok (sound outInterface) done with
    ⟨_, rfl⟩ | ⟨root, resolved, found, visited, rfl⟩
  · exact WaitingCalls.refl rfl
  · have same := (visitAll_disposed visited).2
    refine WaitingCalls.single (.freeParent found) ?_
    rw [same]

end Router

theorem routerStep_waitingCalls {next : RouterSystem interfaces} {event : RouterEvent interfaces}
    (sound : system.router.WaitingSound) (taken : RouterStep config system event next) :
    system.router.WaitingCalls next.router := by
  obtain ⟨result, performs, outcome⟩ := RouterSystem.performs_of_eq taken
  cases performs with
  | route buffer queue entries capacity =>
    obtain ⟨router, done, rfl⟩ := Fallible.map_eq_ok outcome
    have calls := Router.routePacket_waitingCalls done
    exact calls
  | respond response queue dequeued =>
    obtain ⟨router, done, rfl⟩ := Fallible.map_eq_ok outcome
    have calls := Router.processArpResponse_waitingCalls
      (show Router.WaitingSound { system.router with
        arpRespQueue := update system.router.arpRespQueue _ queue } from sound) done
    exact calls
  | _ =>
    cases outcome
    exact Router.WaitingCalls.refl rfl

/-- In every run of the router's system, the structure of waiting packets of each interface
refines some map. -/
theorem router_waiting_refines {start : RouterSystem interfaces}
    {events : List (RouterEvent interfaces)} (initial : start.Initial)
    (run : Run (RouterStep config) start events system) (outInterface : Fin interfaces) :
    ∃ queues, (system.router.pktWaitingQueue outInterface).Refines queues := by
  have calls : start.router.WaitingCalls system.router := by
    induction run with
    | nil => exact Router.WaitingCalls.refl rfl
    | snoc before last inductionHypothesis =>
      intro other
      obtain ⟨first, earlier⟩ := inductionHypothesis other
      obtain ⟨second, later⟩ :=
        routerStep_waitingCalls (initial.run_balanced before).waitingSound last other
      exact ⟨first ++ second, earlier.trans later⟩
  obtain ⟨calls, run⟩ := calls outInterface
  obtain ⟨packets, capacity, started⟩ := initial.waiting outInterface
  rw [started] at run
  obtain ⟨formed, lists, _⟩ := waiting_run_lists packets capacity run
  exact ⟨_, formed.refines lists⟩

open RouterSystem in
theorem router_waiting_refines_of_one : ∃ (system : RouterSystem 1) (queues : _),
    system.dequeued = {sampleBuffer.tagged 0} ∧
      (system.router.pktWaitingQueue 0).Refines queues := by
  have run : Run (RouterStep (sampleConfig 1)) (idle 1 1)
      [.arrive 0 sampleFilter sampleBuffer (fun _ => 0), .route 0 sampleFilter] _ :=
    Run.of_foldlM step_of_next rfl
  obtain ⟨queues, refines⟩ := router_waiting_refines (idle_initial 1 1) run 0
  exact ⟨_, queues, rfl, refines⟩

end LionsOS.Firewall
