/-
This file proves what the lookup of the routing table finds. One pass is a
longest-prefix match; it has at most one answer because no two entries have the
same destination. The lookup repeats the match through next hops, a bounded
number of times. Neither depends on the order of the entries, and the order in
which routes are added decides about nothing else.
-/

import LionsOS.Firewall.RoutingChanges
import LionsOS.Firewall.Subnets
import LionsOS.Lib.BestScan

namespace LionsOS.Firewall

open StepRun BestScan List

variable {interfaces : Nat} {lookups : Nat}

variable {entry route : FwRoutingEntry interfaces} {ip : UInt32T}
  {result : UInt32T × Option (UInt8T × Fin interfaces)}
  {others added : List (FwRoutingEntry interfaces)} {table next : FwRoutingTable interfaces}

/-! ### Longest-prefix match -/

/-- The entry is for a subnet that the address is in. -/
def FwRoutingEntry.Covers (entry : FwRoutingEntry interfaces) (ip : UInt32T) : Prop :=
  networkPrefix entry.subnet ip = networkPrefix entry.subnet entry.ip

open FwRoutingEntry

/-- An entry that covers the address, and that no covering entry is longer than. -/
structure LongestMatch (routes : List (FwRoutingEntry interfaces)) (ip : UInt32T)
    (entry : FwRoutingEntry interfaces) : Prop where
  member : entry ∈ routes
  covers : entry.Covers ip
  longest : ∀ other ∈ routes, other.Covers ip → other.subnet.toNat ≤ entry.subnet.toNat

/-- Longest-prefix match iterated at most a number of times: each match replaces the address by
the next hop of the entry, up to the first entry that is directly attached. The first component
of the result is the next hop, the second the subnet and the interface of that entry. -/
inductive Resolves (routes : List (FwRoutingEntry interfaces)) :
    Nat → UInt32T → UInt32T × Option (UInt8T × Fin interfaces) → Prop
  | exhausted (ip : UInt32T) : Resolves routes 0 ip (fwRoutingNonexthop, none)
  | unmatched {lookups : Nat} {ip : UInt32T} (unmatched : ∀ entry ∈ routes, ¬ entry.Covers ip) :
    Resolves routes (lookups + 1) ip (fwRoutingNonexthop, none)
  | attached {lookups : Nat} {ip : UInt32T} {entry : FwRoutingEntry interfaces}
    (longest : LongestMatch routes ip entry) (direct : entry.nextHop = fwRoutingNonexthop) :
    Resolves routes (lookups + 1) ip (ip, some (entry.subnet, entry.interface))
  | forwarded {lookups : Nat} {ip : UInt32T} {entry : FwRoutingEntry interfaces}
    {result : UInt32T × Option (UInt8T × Fin interfaces)} (longest : LongestMatch routes ip entry)
    (indirect : entry.nextHop ≠ fwRoutingNonexthop)
    (others : Resolves routes lookups entry.nextHop result) :
    Resolves routes (lookups + 1) ip result

/-- The entries are sound, and their subnets have at most 32 bits. -/
structure RoutesFit (routes : List (FwRoutingEntry interfaces)) : Prop
    extends RoutesSound routes where
  fits : ∀ entry ∈ routes, entry.subnet.toNat ≤ 32

variable {routes : List (FwRoutingEntry interfaces)}

theorem RoutesFit.covers_iff (fit : RoutesFit routes) (member : entry ∈ routes) (ip : UInt32T) :
    subnetMask entry.subnet &&& ip = entry.ip ↔ entry.Covers ip := by
  have meaning := masked_eq_iff_networkPrefix (fit.fits entry member) ip entry.ip
  rwa [fit.masked entry member] at meaning

theorem routeMatch_eq_lastBest (routes : List (FwRoutingEntry interfaces)) (ip : UInt32T) :
    routeMatch routes ip =
      lastBest (fun entry => decide (subnetMask entry.subnet &&& ip = entry.ip))
        (fun entry => entry.subnet.toNat) routes := by
  unfold routeMatch lastBest
  congr 1
  funext found entry
  cases found with
  | none => simp only [decide_eq_true_eq]
  | some best => simp only [decide_eq_true_eq, BitVec.lt_def]

section

variable (fit : RoutesFit routes)
include fit

theorem RoutesFit.routeMatch_none (ip : UInt32T) :
    routeMatch routes ip = none ↔ ∀ entry ∈ routes, ¬ entry.Covers ip := by
  rw [routeMatch_eq_lastBest, lastBest_eq_none]
  refine forall₂_congr fun entry member => ?_
  rw [decide_eq_false_iff_not, fit.covers_iff member]

theorem RoutesFit.routeMatch_longest (found : routeMatch routes ip = some entry) :
    LongestMatch routes ip entry := by
  rw [routeMatch_eq_lastBest] at found
  obtain ⟨member, hit, greatest⟩ := lastBest_best found
  refine ⟨member, (fit.covers_iff member ip).mp (of_decide_eq_true hit), ?_⟩
  intro other otherMember covers
  exact greatest other otherMember (decide_eq_true ((fit.covers_iff otherMember ip).mpr covers))

/-- Two longest matches have one subnet, so they are for one destination. -/
theorem RoutesFit.longest_unique {other : FwRoutingEntry interfaces}
    (longest : LongestMatch routes ip entry) (otherLongest : LongestMatch routes ip other) :
    entry = other := by
  have sameSubnet : entry.subnet = other.subnet :=
    BitVec.eq_of_toNat_eq
      (le_antisymm (otherLongest.longest entry longest.member longest.covers)
        (longest.longest other otherLongest.member otherLongest.covers))
  refine fit.eq_of_destination longest.member otherLongest.member ?_
  rw [destination, destination, ← (fit.covers_iff longest.member ip).mpr longest.covers,
    ← (fit.covers_iff otherLongest.member ip).mpr otherLongest.covers, sameSubnet]

theorem RoutesFit.routeMatch_some :
    routeMatch routes ip = some entry ↔ LongestMatch routes ip entry := by
  refine ⟨fit.routeMatch_longest, fun longest => ?_⟩
  cases found : routeMatch routes ip with
  | none => exact absurd longest.covers ((fit.routeMatch_none ip).mp found entry longest.member)
  | some other => rw [fit.longest_unique (fit.routeMatch_longest found) longest]

/-! ### The bounded lookup -/

theorem RoutesFit.findRoute_resolves (lookups : Nat) (ip : UInt32T) :
    Resolves routes lookups ip (findRoute routes lookups ip) := by
  induction lookups generalizing ip with
  | zero => exact Resolves.exhausted ip
  | succ lookups inductionHypothesis =>
    rw [findRoute]
    cases found : routeMatch routes ip with
    | none => exact Resolves.unmatched ((fit.routeMatch_none ip).mp found)
    | some entry =>
      have longest := fit.routeMatch_longest found
      dsimp only
      split_ifs with direct
      · exact Resolves.attached longest direct
      · exact Resolves.forwarded longest direct (inductionHypothesis entry.nextHop)

theorem RoutesFit.eq_findRoute (resolves : Resolves routes lookups ip result) :
    findRoute routes lookups ip = result := by
  induction resolves with
  | exhausted ip => rfl
  | unmatched unmatched =>
    rw [findRoute, (fit.routeMatch_none _).mpr unmatched]
  | attached longest direct =>
    rw [findRoute, fit.routeMatch_some.mpr longest]
    exact if_pos direct
  | forwarded longest indirect _ inductionHypothesis =>
    rw [findRoute, fit.routeMatch_some.mpr longest]
    exact (if_neg indirect).trans inductionHypothesis

theorem RoutesFit.findRoute_iff (lookups : Nat) (ip : UInt32T)
    (result : UInt32T × Option (UInt8T × Fin interfaces)) :
    findRoute routes lookups ip = result ↔ Resolves routes lookups ip result :=
  ⟨fun same => same ▸ fit.findRoute_resolves lookups ip, fit.eq_findRoute⟩

end

/-! ### The order of the routes -/

theorem LongestMatch.perm (same : others.Perm routes) (longest : LongestMatch routes ip entry) :
    LongestMatch others ip entry where
  member := same.mem_iff.mpr longest.member
  covers := longest.covers
  longest other member := longest.longest other (same.mem_iff.mp member)

theorem Resolves.perm (same : others.Perm routes) (resolves : Resolves routes lookups ip result) :
    Resolves others lookups ip result := by
  induction resolves with
  | exhausted ip => exact Resolves.exhausted ip
  | unmatched unmatched =>
    exact Resolves.unmatched fun entry member => unmatched entry (same.mem_iff.mp member)
  | attached longest direct => exact Resolves.attached (longest.perm same) direct
  | forwarded longest indirect _ inductionHypothesis =>
    exact Resolves.forwarded (longest.perm same) indirect inductionHypothesis

theorem RoutesFit.findRoute_perm (fit : RoutesFit routes) (otherFit : RoutesFit others)
    (same : others.Perm routes) (lookups : Nat) (ip : UInt32T) :
    findRoute others lookups ip = findRoute routes lookups ip :=
  otherFit.eq_findRoute ((fit.findRoute_resolves lookups ip).perm same)

/-! ### The order of the additions -/

/-- The entry that adding a route stores. -/
def FwRoutingEntry.stored (route : FwRoutingEntry interfaces) : FwRoutingEntry interfaces :=
  storedRoute route.interface route.ip route.subnet route.nextHop

/-- Routes that the table takes one after the other, in whatever order. -/
structure Acceptable (table : FwRoutingTable interfaces)
    (added : List (FwRoutingEntry interfaces)) : Prop where
  valid : ∀ route ∈ added, ¬ (route.subnet = 0 ∧ route.nextHop = fwRoutingNonexthop)
  room : table.size + added.length ≤ table.capacity
  distinct : ((table.routes ++ added.map stored).map
    destination).Nodup

theorem Acceptable.perm (acceptable : Acceptable table added) (same : others.Perm added) :
    Acceptable table others where
  valid route member := acceptable.valid route (same.mem_iff.mp member)
  room := same.length_eq ▸ acceptable.room
  distinct :=
    (((same.map _).append_left _).map _).nodup_iff.mpr acceptable.distinct

/-- A table that takes a route stores it behind the others. -/
theorem addInitialRoute_withRoute {middle : FwRoutingTable interfaces}
    (sound : RoutingTableSound table) (accepted : addInitialRoute table route = some middle) :
    middle = table.withRoute route.stored ∧ RoutingTableSound middle ∧
      ¬ (route.subnet = 0 ∧ route.nextHop = fwRoutingNonexthop) := by
  have performed := addInitialRoute_eq_some.mp accepted
  have kept : RoutingTableSound middle := RouteStep.sound (congrArg Prod.snd performed) sound
  rw [call, RouteCall.perform] at performed
  rcases fwRoutingTableAddRoute_cases sound.bounded route.interface route.ip route.subnet
    route.nextHop with ⟨err, result, refused⟩ | ⟨result, valid, _⟩
  · rw [result] at performed
    exact absurd (congrArg Prod.fst performed) refused.ne_okay
  · rw [result] at performed
    exact ⟨(congrArg Prod.snd performed).symm, kept, valid⟩

/-- A table takes a route with a free destination, if there is room and the route is valid. -/
theorem addInitialRoute_of_free (sound : RoutingTableSound table)
    (valid : ¬ (route.subnet = 0 ∧ route.nextHop = fwRoutingNonexthop))
    (room : table.size < table.capacity)
    (free : ∀ entry ∈ table.routes,
      entry.destination ≠ (subnetMask route.subnet &&& route.ip, route.subnet)) :
    addInitialRoute table route = some (table.withRoute route.stored) := by
  rw [addInitialRoute_eq_some]
  rcases fwRoutingTableAddRoute_cases sound.bounded route.interface route.ip route.subnet
    route.nextHop with ⟨err, result, refused⟩ | ⟨result, _⟩
  · exfalso
    cases refused with
    | invalidRoute noHop => exact valid noHop
    | full _ noRoom => exact absurd noRoom (Nat.ne_of_lt room)
    | duplicate _ _ entry member same => exact free entry member (same ▸ rfl)
    | clash _ _ entry member same _ => exact free entry member same
  · exact result

theorem foldlM_addInitialRoute_routes (sound : RoutingTableSound table)
    (accepted : added.foldlM addInitialRoute table = some next) :
    next.routes = table.routes ++ added.map stored := by
  induction added generalizing table with
  | nil =>
    cases accepted
    exact (append_nil _).symm
  | cons route rest inductionHypothesis =>
    rw [foldlM_cons, Option.bind_eq_bind, Option.bind_eq_some_iff] at accepted
    obtain ⟨middle, first, others⟩ := accepted
    obtain ⟨rfl, kept, _⟩ := addInitialRoute_withRoute sound first
    rw [inductionHypothesis kept others, FwRoutingTable.routes_withRoute, append_assoc,
      singleton_append, map_cons]

theorem acceptable_cons_iff (route : FwRoutingEntry interfaces)
    (rest : List (FwRoutingEntry interfaces)) :
    Acceptable table (route :: rest) ↔ ¬ (route.subnet = 0 ∧ route.nextHop = fwRoutingNonexthop) ∧
        Acceptable (table.withRoute route.stored) rest := by
  have length : table.size + (route :: rest).length = table.size + 1 + rest.length := by
    rw [length_cons, Nat.add_comm rest.length, Nat.add_assoc]
  have stored : table.routes ++ (route :: rest).map stored =
      (table.withRoute route.stored).routes ++ rest.map stored := by
    rw [FwRoutingTable.routes_withRoute, append_assoc, singleton_append, map_cons]
  constructor
  · intro ⟨valid, room, distinct⟩
    exact ⟨valid route mem_cons_self, fun other member =>
      valid other (mem_cons_of_mem _ member), length ▸ room, stored ▸ distinct⟩
  · intro ⟨validFirst, valid, room, distinct⟩
    refine ⟨fun other member => ?_, length ▸ room, stored ▸ distinct⟩
    rcases mem_cons.mp member with rfl | member
    · exact validFirst
    · exact valid other member

theorem Acceptable.free {rest : List (FwRoutingEntry interfaces)}
    (acceptable : Acceptable table (route :: rest)) :
    ∀ entry ∈ table.routes,
      entry.destination ≠ (subnetMask route.subnet &&& route.ip, route.subnet) := by
  have distinct := acceptable.distinct
  rw [map_append, nodup_append] at distinct
  intro entry member same
  refine distinct.2.2 entry.destination (mem_map_of_mem member) route.stored.destination ?_ same
  exact mem_map_of_mem (mem_map_of_mem mem_cons_self)

theorem foldlM_addInitialRoute_isSome (sound : RoutingTableSound table)
    (added : List (FwRoutingEntry interfaces)) :
    (∃ next, added.foldlM addInitialRoute table = some next) ↔ Acceptable table added := by
  induction added generalizing table with
  | nil =>
    refine iff_of_true ⟨table, rfl⟩ ⟨by nofun, sound.bounded, ?_⟩
    rw [map_nil, append_nil]
    exact sound.routes.distinct
  | cons route rest inductionHypothesis =>
    rw [acceptable_cons_iff]
    constructor
    · rintro ⟨next, accepted⟩
      rw [foldlM_cons, Option.bind_eq_bind, Option.bind_eq_some_iff] at accepted
      obtain ⟨middle, first, others⟩ := accepted
      obtain ⟨rfl, kept, valid⟩ := addInitialRoute_withRoute sound first
      exact ⟨valid, (inductionHypothesis kept).mp ⟨next, others⟩⟩
    · rintro ⟨valid, acceptable⟩
      have free := ((acceptable_cons_iff route rest).mpr ⟨valid, acceptable⟩).free
      have room : table.size < table.capacity := by
        have enough : table.size + 1 + rest.length ≤ table.capacity := acceptable.room
        omega
      have kept : RoutingTableSound (table.withRoute route.stored) :=
        sound.withRoute valid room free
      obtain ⟨next, others⟩ := (inductionHypothesis kept).mpr acceptable
      refine ⟨next, ?_⟩
      rw [foldlM_cons, addInitialRoute_of_free sound valid room free]
      exact others

/-! ### Reachable tables -/

/-- The subnet of an added route has at most 32 bits. -/
def RouteCall.Fits : RouteCall interfaces → Prop
  | .addRoute _ _ subnet _ => subnet.toNat ≤ 32
  | .removeRoute _ => True

instance (call : RouteCall interfaces) : Decidable call.Fits :=
  match call with
  | .addRoute _ _ subnet _ => inferInstanceAs (Decidable (subnet.toNat ≤ 32))
  | .removeRoute _ => inferInstanceAs (Decidable True)

/-- A table that initialisation, additions and removals lead to, with subnets of at most 32
bits. -/
def TableReached (table : FwRoutingTable interfaces) : Prop :=
  ∃ entries capacity initialRoutes start calls, (∀ route ∈ initialRoutes, (call route).Fits) ∧
    fwRoutingTableInit entries capacity initialRoutes = some start ∧
    (∀ call ∈ calls, RouteCall.Fits call) ∧ Run RouteStep start calls table

/-- The table is sound, and its subnets have at most 32 bits. -/
structure TableFit (table : FwRoutingTable interfaces) : Prop where
  sound : RoutingTableSound table
  fits : ∀ entry ∈ table.routes, entry.subnet.toNat ≤ 32

theorem TableFit.routesFit (fit : TableFit table) : RoutesFit table.routes :=
  ⟨fit.sound.routes, fit.fits⟩

theorem RouteStep.fit {call : RouteCall interfaces} (taken : RouteStep table call next)
    (fit : TableFit table) (fits : call.Fits) : TableFit next := by
  refine ⟨taken.sound fit.sound, ?_⟩
  subst taken
  cases call with
  | addRoute interface ip subnet nextHop =>
    rw [RouteCall.perform]
    rcases fwRoutingTableAddRoute_cases fit.sound.bounded interface ip subnet nextHop with
      ⟨err, result, _⟩ | ⟨result, _⟩
    · rw [result]
      exact fit.fits
    · rw [result, FwRoutingTable.routes_withRoute]
      intro entry member
      rcases mem_append.mp member with old | new
      · exact fit.fits entry old
      · rw [mem_singleton.mp new]
        exact fits
  | removeRoute routeId =>
    rw [RouteCall.perform]
    rcases fwRoutingTableRemoveRoute_cases fit.sound.bounded routeId with
      ⟨_, result⟩ | ⟨_, next, result, _, _, routes⟩
    · rw [result]
      exact fit.fits
    · rw [result, routes]
      exact fun entry member => fit.fits entry (mem_of_mem_eraseIdx member)

theorem TableFit.run {calls : List (RouteCall interfaces)} (fit : TableFit table)
    (fits : ∀ call ∈ calls, call.Fits) (run : Run RouteStep table calls next) : TableFit next :=
  (run.guarded_of_labels fun call member (_ : FwRoutingTable interfaces) =>
    fits call member).invariant TableFit fit fun _ _ _ kept taken => taken.2.fit kept taken.1

theorem TableFit.addRoutes (fit : TableFit table) (fits : ∀ route ∈ added, route.call.Fits)
    (accepted : added.foldlM addInitialRoute table = some next) : TableFit next := by
  refine fit.run (fun call member => ?_) (addInitialRoutes_run accepted)
  obtain ⟨route, added, rfl⟩ := mem_map.mp member
  exact fits route added

theorem TableReached.fit (reached : TableReached table) : TableFit table := by
  obtain ⟨entries, capacity, initialRoutes, start, calls, initialFits, started, fits, run⟩ :=
    reached
  have empty : TableFit ({ capacity, size := 0, entries } : FwRoutingTable interfaces) :=
    ⟨emptyTable_sound entries capacity, by nofun⟩
  exact (empty.addRoutes initialFits started).run fits run

/-- On every reachable table the lookup returns what iterated longest-prefix match gives. Two
reachable tables with the same routes find the same, in whatever order they hold them; and
routes that a table takes in one order it takes in every order, and then finds the same. -/
theorem routing_lookup_longest_match (table : FwRoutingTable interfaces)
    (reached : TableReached table) :
    (∀ ip result, fwRoutingFindRoute table.routes ip = result ↔
        Resolves table.routes fwRoutingMaxRecursion ip result) ∧
      (∀ other, TableReached other → other.routes.Perm table.routes →
        ∀ ip, fwRoutingFindRoute other.routes ip = fwRoutingFindRoute table.routes ip) ∧
      ∀ (added others : List (FwRoutingEntry interfaces)) (next : FwRoutingTable interfaces),
        (∀ route ∈ added, route.call.Fits) →
        added.foldlM addInitialRoute table = some next → others.Perm added →
        ∃ otherNext, others.foldlM addInitialRoute table = some otherNext ∧
          ∀ ip, fwRoutingFindRoute otherNext.routes ip = fwRoutingFindRoute next.routes ip := by
  have fit := reached.fit
  refine ⟨fun ip result => fit.routesFit.findRoute_iff fwRoutingMaxRecursion ip result, ?_, ?_⟩
  · intro other otherReached same ip
    exact fit.routesFit.findRoute_perm otherReached.fit.routesFit same fwRoutingMaxRecursion ip
  · intro added others next fits accepted same
    have otherFits : ∀ route ∈ others, route.call.Fits :=
      fun route member => fits route (same.mem_iff.mp member)
    have acceptable := (foldlM_addInitialRoute_isSome fit.sound added).mp ⟨next, accepted⟩
    obtain ⟨otherNext, otherAccepted⟩ :=
      (foldlM_addInitialRoute_isSome fit.sound others).mpr (acceptable.perm same)
    refine ⟨otherNext, otherAccepted, fun ip => ?_⟩
    refine (fit.addRoutes fits accepted).routesFit.findRoute_perm
      (fit.addRoutes otherFits otherAccepted).routesFit ?_ fwRoutingMaxRecursion ip
    rw [foldlM_addInitialRoute_routes fit.sound accepted,
      foldlM_addInitialRoute_routes fit.sound otherAccepted]
    exact (same.map _).append_left _

/-- An address outside the direct subnet goes to the host that the default route names. -/
theorem routing_lookup_through_default :
    ∃ start : FwRoutingTable 2,
      fwRoutingTableInit (fun _ => ⟨0, 0, 0, 0⟩) 3 directAndDefault = some start ∧
      Resolves start.routes fwRoutingMaxRecursion 0x08080808 (0x0102a8c0, some (24, 0)) := by
  refine ⟨_, rfl, ?_⟩
  refine ((routing_lookup_longest_match _
    ⟨fun _ => ⟨0, 0, 0, 0⟩, 3, directAndDefault, _, [], ?_, rfl, ?_, Run.nil⟩).1 _ _).mp ?_
  · decide
  · nofun
  · decide

end LionsOS.Firewall
