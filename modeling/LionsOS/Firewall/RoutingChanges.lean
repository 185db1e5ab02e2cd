/-
This file proves what the changes of the routing table keep: the valid entries
fit the capacity, their addresses are masked, no two of them are for the same
addresses, and a default route has a next hop. Adding a route is refused for a
reason that is read off the table, and removing one deletes the entry at its
index and nothing else.
-/

import LionsOS.Firewall.RoutingTable
import LionsOS.Lib.Runs
import Mathlib.Data.List.Nodup

namespace LionsOS.Firewall

open StepRun List

variable {interfaces : Nat} {table : FwRoutingTable interfaces} {err : FwRoutingErr}
  {nextHop : UInt32T} {subnet : UInt8T} {ip : UInt32T}

variable {routes : List (FwRoutingEntry interfaces)} {interface : Fin interfaces}
  {next : FwRoutingTable interfaces}

/-! ### The invariant -/

/-- The addresses an entry is for. -/
def FwRoutingEntry.destination (entry : FwRoutingEntry interfaces) : UInt32T × UInt8T :=
  (entry.ip, entry.subnet)

open FwRoutingEntry

structure RoutesSound (routes : List (FwRoutingEntry interfaces)) : Prop where
  masked : ∀ entry ∈ routes, subnetMask entry.subnet &&& entry.ip = entry.ip
  distinct : (routes.map destination).Nodup
  defaultHop : ∀ entry ∈ routes, entry.subnet = 0 → entry.nextHop ≠ fwRoutingNonexthop

structure RoutingTableSound (table : FwRoutingTable interfaces) : Prop where
  bounded : table.size ≤ table.capacity
  routes : RoutesSound table.routes

theorem RoutesSound.sublist {fewer : List (FwRoutingEntry interfaces)} (sound : RoutesSound routes)
    (sublist : fewer.Sublist routes) : RoutesSound fewer where
  masked entry member := sound.masked entry (sublist.subset member)
  distinct := sound.distinct.sublist (sublist.map _)
  defaultHop entry member := sound.defaultHop entry (sublist.subset member)

theorem RoutesSound.eq_of_destination (sound : RoutesSound routes)
    {entry other : FwRoutingEntry interfaces} (member : entry ∈ routes)
    (otherMember : other ∈ routes) (same : entry.destination = other.destination) : entry = other :=
  inj_on_of_nodup_map sound.distinct member otherMember same

/-! ### Adding a route -/

/-- The entry that adding a route stores. -/
def storedRoute (interface : Fin interfaces) (ip : UInt32T) (subnet : UInt8T) (nextHop : UInt32T) :
    FwRoutingEntry interfaces :=
  { ip := subnetMask subnet &&& ip, subnet, interface, nextHop }

theorem FwRoutingEntry.clashes_iff (ip : UInt32T) (subnet : UInt8T)
    (entry : FwRoutingEntry interfaces) :
    entry.clashes ip subnet = true ↔ entry.destination = (subnetMask subnet &&& ip, subnet) := by
  unfold clashes destination
  rw [Prod.mk.injEq]
  split_ifs with otherSubnet otherIp
  · exact iff_of_false (by simp) fun same => otherSubnet same.2.symm
  · exact iff_of_false (by simp) fun same => otherIp same.1.symm
  · exact iff_of_true rfl ⟨(not_not.mp otherIp).symm, (not_not.mp otherSubnet).symm⟩

/-- The reason for which a route is refused, if there is one. -/
inductive RouteRefused (table : FwRoutingTable interfaces) (interface : Fin interfaces)
    (ip : UInt32T) (subnet : UInt8T) (nextHop : UInt32T) : FwRoutingErr → Prop
  | invalidRoute (noHop : subnet = 0 ∧ nextHop = fwRoutingNonexthop) :
    RouteRefused table interface ip subnet nextHop .invalidRoute
  | full (valid : ¬ (subnet = 0 ∧ nextHop = fwRoutingNonexthop))
    (noRoom : table.size = table.capacity) : RouteRefused table interface ip subnet nextHop .full
  | duplicate (valid : ¬ (subnet = 0 ∧ nextHop = fwRoutingNonexthop))
    (room : table.size < table.capacity) (entry : FwRoutingEntry interfaces)
    (member : entry ∈ table.routes)
    (same : entry = storedRoute interface ip subnet nextHop) :
    RouteRefused table interface ip subnet nextHop .duplicate
  | clash (valid : ¬ (subnet = 0 ∧ nextHop = fwRoutingNonexthop))
    (room : table.size < table.capacity) (entry : FwRoutingEntry interfaces)
    (member : entry ∈ table.routes)
    (sameDestination : entry.destination = (subnetMask subnet &&& ip, subnet))
    (different : ¬ (entry.interface = interface ∧ entry.nextHop = nextHop)) :
    RouteRefused table interface ip subnet nextHop .clash

theorem RouteRefused.ne_okay (refused : RouteRefused table interface ip subnet nextHop err) :
    err ≠ .okay := by
  cases refused <;> exact FwRoutingErr.noConfusion

/-- The table after a route was added. -/
def FwRoutingTable.withRoute (table : FwRoutingTable interfaces)
    (route : FwRoutingEntry interfaces) : FwRoutingTable interfaces :=
  { table with
    entries := Function.update table.entries table.size route
    size := table.size + 1 }

theorem FwRoutingTable.routes_withRoute (table : FwRoutingTable interfaces)
    (route : FwRoutingEntry interfaces) :
    (table.withRoute route).routes = table.routes ++ [route] :=
  ArrayShift.window_update _ _ _

/-- Everything `fw_routing_table_add_route` can do: refuse the route for a reason and leave the
table as it was, or else store it behind the others. -/
theorem fwRoutingTableAddRoute_cases (bounded : table.size ≤ table.capacity)
    (interface : Fin interfaces) (ip : UInt32T) (subnet : UInt8T) (nextHop : UInt32T) :
    (∃ err, fwRoutingTableAddRoute table interface ip subnet nextHop = (err, table) ∧
        RouteRefused table interface ip subnet nextHop err) ∨
      (fwRoutingTableAddRoute table interface ip subnet nextHop =
          (.okay, table.withRoute (storedRoute interface ip subnet nextHop)) ∧
        ¬ (subnet = 0 ∧ nextHop = fwRoutingNonexthop) ∧ table.size < table.capacity ∧
        ∀ entry ∈ table.routes, entry.destination ≠ (subnetMask subnet &&& ip, subnet)) := by
  unfold fwRoutingTableAddRoute
  by_cases noHop : subnet = 0 ∧ nextHop = fwRoutingNonexthop
  · exact Or.inl ⟨.invalidRoute, by rw [if_pos noHop], .invalidRoute noHop⟩
  rw [if_neg noHop]
  by_cases noRoom : table.capacity ≤ table.size
  · exact Or.inl ⟨.full, by rw [if_pos noRoom], .full noHop (le_antisymm bounded noRoom)⟩
  rw [if_neg noRoom]
  have room : table.size < table.capacity := Nat.lt_of_not_le noRoom
  cases found : table.routes.find? fun entry => entry.clashes ip subnet with
  | some entry =>
    have member := mem_of_find?_eq_some found
    have same := (clashes_iff ip subnet entry).mp (find?_some found)
    by_cases equal : interface = entry.interface ∧ nextHop = entry.nextHop
    · refine Or.inl ⟨.duplicate, by simp only [if_pos equal], .duplicate noHop room entry member ?_⟩
      obtain ⟨sameIp, sameSubnet⟩ := Prod.mk.inj same
      rw [storedRoute, ← sameIp, ← sameSubnet, equal.1, equal.2]
    · refine Or.inl ⟨.clash, by simp only [if_neg equal], .clash noHop room entry member same ?_⟩
      exact fun other => equal ⟨other.1.symm, other.2.symm⟩
  | none =>
    refine Or.inr ⟨rfl, noHop, room, fun entry member same => ?_⟩
    exact find?_eq_none.mp found entry member ((clashes_iff ip subnet entry).mpr same)

theorem RoutingTableSound.withRoute (sound : RoutingTableSound table)
    (valid : ¬ (subnet = 0 ∧ nextHop = fwRoutingNonexthop)) (room : table.size < table.capacity)
    (free : ∀ entry ∈ table.routes, entry.destination ≠ (subnetMask subnet &&& ip, subnet)) :
    RoutingTableSound (table.withRoute (storedRoute interface ip subnet nextHop)) where
  bounded := room
  routes := by
    rw [FwRoutingTable.routes_withRoute]
    refine ⟨?_, ?_, ?_⟩
    · intro entry member
      rcases mem_append.mp member with old | new
      · exact sound.routes.masked entry old
      · rw [mem_singleton.mp new, storedRoute, ← BitVec.and_assoc, BitVec.and_self]
    · rw [map_append, map_singleton, ← concat_eq_append, nodup_concat]
      refine ⟨fun member => ?_, sound.routes.distinct⟩
      obtain ⟨entry, old, same⟩ := mem_map.mp member
      exact free entry old same
    · intro entry member subnetZero
      rcases mem_append.mp member with old | new
      · exact sound.routes.defaultHop entry old subnetZero
      · rw [mem_singleton.mp new] at subnetZero ⊢
        exact fun noHop => valid ⟨subnetZero, noHop⟩

/-- A route is refused for exactly the reason the table gives. -/
theorem fwRoutingTableAddRoute_err (sound : RoutingTableSound table) (interface : Fin interfaces)
    (ip : UInt32T) (subnet : UInt8T) (nextHop : UInt32T) (failure : err ≠ .okay) :
    (fwRoutingTableAddRoute table interface ip subnet nextHop).1 = err ↔
      RouteRefused table interface ip subnet nextHop err := by
  -- One entry decides between a duplicate and a clash, as no other has its destination.
  have unique : ∀ {entry other : FwRoutingEntry interfaces}, entry ∈ table.routes →
      other ∈ table.routes → entry.destination = (subnetMask subnet &&& ip, subnet) →
      other.destination = (subnetMask subnet &&& ip, subnet) → entry = other :=
    fun member otherMember same otherSame =>
      sound.routes.eq_of_destination member otherMember (same.trans otherSame.symm)
  have stored : ∀ {entry : FwRoutingEntry interfaces},
      entry = storedRoute interface ip subnet nextHop →
      entry.destination = (subnetMask subnet &&& ip, subnet) ∧
        entry.interface = interface ∧ entry.nextHop = nextHop := by
    rintro entry rfl
    exact ⟨rfl, rfl, rfl⟩
  rcases fwRoutingTableAddRoute_cases sound.bounded interface ip subnet nextHop with
    ⟨reason, result, refused⟩ | ⟨result, valid, room, free⟩
  · rw [result]
    constructor
    · rintro rfl
      exact refused
    · intro expected
      cases refused with
      | invalidRoute noHop =>
        cases expected with
        | invalidRoute _ => rfl
        | full valid _ | duplicate valid _ _ _ _ | clash valid _ _ _ _ _ => exact absurd noHop valid
      | full valid noRoom =>
        cases expected with
        | invalidRoute noHop => exact absurd noHop valid
        | full _ _ => rfl
        | duplicate _ room _ _ _ | clash _ room _ _ _ _ => exact absurd noRoom (Nat.ne_of_lt room)
      | duplicate valid room entry member same =>
        cases expected with
        | invalidRoute noHop => exact absurd noHop valid
        | full _ noRoom => exact absurd noRoom (Nat.ne_of_lt room)
        | duplicate _ _ _ _ _ => rfl
        | clash _ _ other otherMember sameDestination different =>
          obtain ⟨destination, values⟩ := stored same
          have equal := unique member otherMember destination sameDestination
          exact absurd (equal ▸ values) different
      | clash valid room entry member sameDestination different =>
        cases expected with
        | invalidRoute noHop => exact absurd noHop valid
        | full _ noRoom => exact absurd noRoom (Nat.ne_of_lt room)
        | duplicate _ _ other otherMember same =>
          obtain ⟨destination, values⟩ := stored same
          have equal := unique otherMember member destination sameDestination
          exact absurd (equal ▸ values) different
        | clash _ _ _ _ _ _ => rfl
  · rw [result]
    refine iff_of_false (fun okay => failure okay.symm) fun expected => ?_
    cases expected with
    | invalidRoute noHop => exact valid noHop
    | full _ noRoom => exact absurd noRoom (Nat.ne_of_lt room)
    | duplicate _ _ entry member same => exact free entry member (stored same).1
    | clash _ _ entry member sameDestination _ => exact free entry member sameDestination

/-! ### Removing a route -/

/-- Everything `fw_routing_table_remove_route` can do: refuse an index behind the valid entries,
or delete the entry at the index. -/
theorem fwRoutingTableRemoveRoute_cases (bounded : table.size ≤ table.capacity) (routeId : Nat) :
    (table.size ≤ routeId ∧ fwRoutingTableRemoveRoute table routeId = (.invalidId, table)) ∨
      (routeId < table.size ∧ ∃ next, fwRoutingTableRemoveRoute table routeId = (.okay, next) ∧
        next.capacity = table.capacity ∧ next.size = table.size - 1 ∧
        next.routes = table.routes.eraseIdx routeId) := by
  unfold fwRoutingTableRemoveRoute
  by_cases outside : table.size ≤ routeId
  · exact Or.inl ⟨outside, by rw [if_pos outside]⟩
  · have inside : routeId < table.size := Nat.lt_of_not_le outside
    rw [if_neg outside]
    refine Or.inr ⟨inside, _, rfl, rfl, rfl, ?_⟩
    exact ArrayShift.window_shifted table.entries bounded inside

/-! ### Runs -/

/-- The calls that change the routing table, with the arguments they are given. -/
inductive RouteCall (interfaces : Nat) where
  | addRoute (interface : Fin interfaces) (ip : UInt32T) (subnet : UInt8T) (nextHop : UInt32T)
  | removeRoute (routeId : Nat)

/-- Carry out a call: the error code it returns and the table it leaves. -/
def RouteCall.perform (table : FwRoutingTable interfaces) :
    RouteCall interfaces → FwRoutingErr × FwRoutingTable interfaces
  | .addRoute interface ip subnet nextHop =>
    fwRoutingTableAddRoute table interface ip subnet nextHop
  | .removeRoute routeId => fwRoutingTableRemoveRoute table routeId

/-- A call returns, with any error code. -/
def RouteStep (table : FwRoutingTable interfaces) (call : RouteCall interfaces)
    (next : FwRoutingTable interfaces) : Prop :=
  (call.perform table).2 = next

/-- A call keeps the table sound and its capacity as it is, and keeps the whole table when it
fails. -/
theorem RouteCall.perform_sound (sound : RoutingTableSound table) (call : RouteCall interfaces) :
    RoutingTableSound (call.perform table).2 ∧ (call.perform table).2.capacity = table.capacity ∧
      ((call.perform table).1 ≠ .okay → (call.perform table).2 = table) := by
  cases call with
  | addRoute interface ip subnet nextHop =>
    rcases fwRoutingTableAddRoute_cases sound.bounded interface ip subnet nextHop with
      ⟨err, result, _⟩ | ⟨result, valid, room, free⟩
    · rw [perform, result]
      exact ⟨sound, rfl, fun _ => rfl⟩
    · rw [perform, result]
      exact ⟨sound.withRoute valid room free, rfl, fun failed => absurd rfl failed⟩
  | removeRoute routeId =>
    rcases fwRoutingTableRemoveRoute_cases sound.bounded routeId with
      ⟨_, result⟩ | ⟨inside, next, result, capacity, size, routes⟩
    · rw [perform, result]
      exact ⟨sound, rfl, fun _ => rfl⟩
    · rw [perform, result]
      refine ⟨⟨?_, ?_⟩, capacity, fun failed => absurd rfl failed⟩
      · rw [size, capacity]
        exact (Nat.sub_le _ _).trans sound.bounded
      · rw [routes]
        exact sound.routes.sublist (eraseIdx_sublist _ _)

theorem RouteStep.sound {call : RouteCall interfaces} (taken : RouteStep table call next)
    (sound : RoutingTableSound table) : RoutingTableSound next :=
  taken ▸ (call.perform_sound sound).1

theorem emptyTable_sound (entries : Nat → FwRoutingEntry interfaces) (capacity : Nat) :
    RoutingTableSound { capacity, size := 0, entries } where
  bounded := Nat.zero_le _
  routes := ⟨by nofun, nodup_nil, by nofun⟩

/-- The call that adds a route. -/
def FwRoutingEntry.call (route : FwRoutingEntry interfaces) : RouteCall interfaces :=
  .addRoute route.interface route.ip route.subnet route.nextHop

theorem addInitialRoute_eq_some {route : FwRoutingEntry interfaces}
    {added : FwRoutingTable interfaces} :
    addInitialRoute table route = some added ↔ route.call.perform table = (.okay, added) := by
  unfold addInitialRoute call RouteCall.perform
  constructor
  · intro okay
    split at okay
    · rename_i result
      cases okay
      exact result
    · cases okay
  · intro okay
    dsimp only at okay
    rw [okay]

theorem addInitialRoutes_run (accepted : routes.foldlM addInitialRoute table = some next) :
    Run RouteStep table (routes.map call) next := by
  induction routes generalizing table with
  | nil =>
    cases accepted
    exact Run.nil
  | cons route rest inductionHypothesis =>
    rw [foldlM_cons, Option.bind_eq_bind, Option.bind_eq_some_iff] at accepted
    obtain ⟨middle, added, others⟩ := accepted
    have first : RouteStep table route.call middle :=
      congrArg Prod.snd (addInitialRoute_eq_some.mp added)
    exact (Run.single first).trans (inductionHypothesis others)

theorem fwRoutingTableInit_sound {entries : Nat → FwRoutingEntry interfaces} {capacity : Nat}
    {initialRoutes : List (FwRoutingEntry interfaces)} {start : FwRoutingTable interfaces}
    (started : fwRoutingTableInit entries capacity initialRoutes = some start) :
    RoutingTableSound start :=
  (addInitialRoutes_run started).invariant _ (emptyTable_sound entries capacity)
    fun _ _ _ sound taken => taken.sound sound

/-- From initialisation on, after any sequence of additions and removals: the valid entries fit
the capacity, every address is masked by its subnet, no two entries have the same address and
subnet, and no entry with subnet 0 is without a next hop. A call that fails changes nothing, a
removal succeeds exactly for an index of the table and deletes that entry only, and an addition
is refused exactly for the reasons of `RouteRefused`, and otherwise appends the masked route. -/
theorem routing_table_kept (entries : Nat → FwRoutingEntry interfaces) (capacity : Nat)
    (initialRoutes : List (FwRoutingEntry interfaces)) (start : FwRoutingTable interfaces)
    (started : fwRoutingTableInit entries capacity initialRoutes = some start)
    (calls : List (RouteCall interfaces)) (table : FwRoutingTable interfaces)
    (run : Run RouteStep start calls table) :
    (table.size ≤ table.capacity ∧
        (∀ entry ∈ table.routes, subnetMask entry.subnet &&& entry.ip = entry.ip) ∧
        (table.routes.map fun entry => (entry.ip, entry.subnet)).Nodup ∧
        ∀ entry ∈ table.routes, entry.subnet = 0 → entry.nextHop ≠ fwRoutingNonexthop) ∧
      (∀ call : RouteCall interfaces, (call.perform table).1 ≠ .okay →
        (call.perform table).2 = table) ∧
      (∀ routeId, ((fwRoutingTableRemoveRoute table routeId).1 = .okay ↔ routeId < table.size) ∧
        (routeId < table.size →
          (fwRoutingTableRemoveRoute table routeId).2.routes = table.routes.eraseIdx routeId)) ∧
      ∀ interface ip subnet nextHop,
        (∀ err, err ≠ .okay → ((fwRoutingTableAddRoute table interface ip subnet nextHop).1 = err ↔
          RouteRefused table interface ip subnet nextHop err)) ∧
        ((fwRoutingTableAddRoute table interface ip subnet nextHop).1 = .okay →
          (fwRoutingTableAddRoute table interface ip subnet nextHop).2.routes =
            table.routes ++ [storedRoute interface ip subnet nextHop]) := by
  have sound : RoutingTableSound table :=
    run.invariant _ (fwRoutingTableInit_sound started) fun _ _ _ kept taken => taken.sound kept
  refine ⟨⟨sound.bounded, sound.routes.masked, sound.routes.distinct, sound.routes.defaultHop⟩,
    fun call => (call.perform_sound sound).2.2, ?_, ?_⟩
  · intro routeId
    rcases fwRoutingTableRemoveRoute_cases sound.bounded routeId with
      ⟨outside, result⟩ | ⟨inside, next, result, _, _, routes⟩
    · rw [result]
      refine ⟨iff_of_false FwRoutingErr.noConfusion (Nat.not_lt_of_le outside), fun inside => ?_⟩
      exact absurd inside (Nat.not_lt_of_le outside)
    · rw [result]
      exact ⟨iff_of_true rfl inside, fun _ => routes⟩
  · intro interface ip subnet nextHop
    refine ⟨fun err failure =>
      fwRoutingTableAddRoute_err sound interface ip subnet nextHop failure, fun okay => ?_⟩
    rcases fwRoutingTableAddRoute_cases sound.bounded interface ip subnet nextHop with
      ⟨err, result, refused⟩ | ⟨result, _⟩
    · rw [result] at okay
      exact absurd okay refused.ne_okay
    · rw [result]
      exact FwRoutingTable.routes_withRoute _ _

/-- A direct route, and a default route through a host of it. -/
def directAndDefault : List (FwRoutingEntry 2) :=
  [{ ip := 0x0002a8c0, subnet := 24, interface := 0, nextHop := fwRoutingNonexthop },
    { ip := 0, subnet := 0, interface := 1, nextHop := 0x0102a8c0 }]

/-- Of two routes the first is removed. -/
theorem routing_table_kept_after_removal :
    ∃ start table : FwRoutingTable 2,
      fwRoutingTableInit (fun _ => ⟨0, 0, 0, 0⟩) 3 directAndDefault = some start ∧
      Run RouteStep start [.removeRoute 0] table ∧ table.size = 1 ∧
      (table.routes.map fun entry => (entry.ip, entry.subnet)).Nodup := by
  refine ⟨_, _, rfl, Run.single rfl, rfl, ?_⟩
  exact (routing_table_kept (fun _ => ⟨0, 0, 0, 0⟩) 3 directAndDefault _ rfl [.removeRoute 0] _
    (Run.single rfl)).1.2.2.1

end LionsOS.Firewall
