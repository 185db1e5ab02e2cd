/-
This file embeds the routing table of `routing_table.c`. The lookup works on the
list of the valid entries; adding and removing work on the table itself, whose
valid entries are the first ones of its memory. An entry names an interface of
the router.
-/

import LionsOS.Firewall.Common

namespace LionsOS.Firewall

def fwRoutingNonexthop : UInt32T := 0
def fwRoutingMaxRecursion : Nat := 3

structure FwRoutingEntry (interfaces : Nat) where
  ip : UInt32T
  subnet : UInt8T
  interface : Fin interfaces
  nextHop : UInt32T
  deriving DecidableEq

variable {interfaces : Nat}

/-- One pass over the table: the last of the matching entries with the longest subnet. -/
def routeMatch (table : List (FwRoutingEntry interfaces)) (ip : UInt32T) :
    Option (FwRoutingEntry interfaces) :=
  table.foldl (fun found entry =>
    if subnetMask entry.subnet &&& ip = entry.ip then
      match found with
      | some best => if entry.subnet < best.subnet then found else some entry
      | none => some entry
    else found) none

/-- At most `lookups` more lookups. The first component is what `*ip` ends as, the second what
is written to `*subnet` and `*interface`, if anything. -/
def findRoute (table : List (FwRoutingEntry interfaces)) :
    Nat → UInt32T → UInt32T × Option (UInt8T × Fin interfaces)
  | 0, _ => (fwRoutingNonexthop, none)
  | lookups + 1, ip =>
    match routeMatch table ip with
    | none => (fwRoutingNonexthop, none)
    | some entry =>
      if entry.nextHop = fwRoutingNonexthop then (ip, some (entry.subnet, entry.interface))
      else findRoute table lookups entry.nextHop

/-- Find the next hop of an address. -/
def fwRoutingFindRoute (table : List (FwRoutingEntry interfaces)) (ip : UInt32T) :
    UInt32T × Option (UInt8T × Fin interfaces) :=
  findRoute table fwRoutingMaxRecursion ip

/-! ### Changing the table -/

inductive FwRoutingErr where
  | okay
  | full
  | duplicate
  | clash
  | invalidId
  | invalidRoute
  deriving DecidableEq

structure FwRoutingTable (interfaces : Nat) where
  capacity : Nat
  size : Nat
  entries : Nat → FwRoutingEntry interfaces

/-- The valid entries, in table order. -/
def FwRoutingTable.routes (table : FwRoutingTable interfaces) : List (FwRoutingEntry interfaces) :=
  ArrayShift.window table.entries table.size

/-- Whether none of the tests of the clash loop skips `entry`. -/
def FwRoutingEntry.clashes (ip : UInt32T) (subnet : UInt8T) (entry : FwRoutingEntry interfaces) :
    Bool :=
  if subnet ≠ entry.subnet then false
  else if subnetMask subnet &&& ip ≠ entry.ip then false
  else true

/-- Add a route to the routing table. -/
def fwRoutingTableAddRoute (table : FwRoutingTable interfaces) (interface : Fin interfaces)
    (ip : UInt32T) (subnet : UInt8T) (nextHop : UInt32T) :
    FwRoutingErr × FwRoutingTable interfaces :=
  if subnet = 0 ∧ nextHop = fwRoutingNonexthop then (.invalidRoute, table)
  else if table.capacity ≤ table.size then (.full, table)
  else
    match table.routes.find? fun entry => entry.clashes ip subnet with
    | some entry =>
      if interface = entry.interface ∧ nextHop = entry.nextHop then (.duplicate, table)
      else (.clash, table)
    | none =>
      (.okay, { table with
        entries := Function.update table.entries table.size
          { ip := subnetMask subnet &&& ip, subnet, interface, nextHop }
        size := table.size + 1 })

/-- Remove a route from the routing table. The shift covers the whole array. -/
def fwRoutingTableRemoveRoute (table : FwRoutingTable interfaces) (routeId : Nat) :
    FwRoutingErr × FwRoutingTable interfaces :=
  if table.size ≤ routeId then (.invalidId, table)
  else
    (.okay, { table with
      entries := ArrayShift.shifted table.entries table.capacity routeId
      size := table.size - 1 })

/-- Add one initial route. `none` when the assertion that it was added fails. -/
def addInitialRoute (table : FwRoutingTable interfaces) (route : FwRoutingEntry interfaces) :
    Option (FwRoutingTable interfaces) :=
  match fwRoutingTableAddRoute table route.interface route.ip route.subnet route.nextHop with
  | (.okay, added) => some added
  | _ => none

/-- Initialise the routing table with the configured routes. -/
def fwRoutingTableInit (entries : Nat → FwRoutingEntry interfaces) (capacity : Nat)
    (initialRoutes : List (FwRoutingEntry interfaces)) : Option (FwRoutingTable interfaces) :=
  initialRoutes.foldlM addInitialRoute { capacity, size := 0, entries }

end LionsOS.Firewall
