/-
This file embeds the structure of packets that wait for an ARP response
(`packet_queue.c`): one node array holds a doubly linked list of roots, one per
address, a list of children behind each root, and the free list. What the array
stands for, the addresses with their buffers, is computed from it by following
the links as the code does; `Represents` is the invariant that makes the lists
threaded through the array disjoint and complete.
-/

import LionsOS.Firewall.RoutingTable
import LionsOS.Lib.IndexChain
import Mathlib.Tactic.SplitIfs

namespace LionsOS.Firewall

open IndexChain

variable {interfaces : Nat}

/-! ### The node array -/

structure PktWaitingNode (interfaces : Nat) where
  next : Nat
  prev : Nat
  child : Nat
  numChildren : Nat
  tail : Nat
  ip : UInt32T
  buffer : FwBuffDesc interfaces

structure PktsWaiting (interfaces : Nat) where
  packets : Nat → PktWaitingNode interfaces
  capacity : Nat
  size : Nat
  length : Nat
  head : Nat
  tail : Nat
  free : Nat

/-- Change the node at an index. -/
def PktsWaiting.modify (waiting : PktsWaiting interfaces) (index : Nat)
    (change : PktWaitingNode interfaces → PktWaitingNode interfaces) : PktsWaiting interfaces :=
  { waiting with
    packets := Function.update waiting.packets index (change (waiting.packets index)) }

section

variable (waiting : PktsWaiting interfaces) (index : Nat)
  (change : PktWaitingNode interfaces → PktWaitingNode interfaces)
include waiting index change

theorem PktsWaiting.modify_packets (node : Nat) :
    (waiting.modify index change).packets node =
      if node = index then change (waiting.packets node) else waiting.packets node := by
  show Function.update waiting.packets index (change (waiting.packets index)) node = _
  rw [Function.update_apply]
  split_ifs with same
  · rw [same]
  · rfl

theorem PktsWaiting.modify_free :
    (waiting.modify index change).free = waiting.free := rfl

theorem PktsWaiting.modify_tail :
    (waiting.modify index change).tail = waiting.tail := rfl

end

/-- Thread the free list through the nodes; everything else starts zeroed. -/
def pktWaitingInit (packets : Nat → PktWaitingNode interfaces) (capacity : Nat) :
    PktsWaiting interfaces :=
  { packets := fun i => if i < capacity then { packets i with next := i + 1 } else packets i
    capacity, size := 0, length := 0, head := 0, tail := 0, free := 0 }

def pktWaitingFull (waiting : PktsWaiting interfaces) : Bool :=
  waiting.size == waiting.capacity

/-- The search through the next `remaining` roots. -/
def findNodeFrom (packets : Nat → PktWaitingNode interfaces) (ip : UInt32T) :
    Nat → Nat → Option Nat
  | 0, _ => none
  | remaining + 1, node =>
    if (packets node).ip = ip then some node
    else findNodeFrom packets ip remaining (packets node).next

/-- Find the root of an address. -/
def pktWaitingFindNode (waiting : PktsWaiting interfaces) (ip : UInt32T) : Option Nat :=
  findNodeFrom waiting.packets ip waiting.length waiting.head

def pktsWaitingNextChild (waiting : PktsWaiting interfaces) (node : Nat) : Nat :=
  (waiting.packets node).child

/-- Add a buffer behind a root. -/
def pktWaitingPushChild (waiting : PktsWaiting interfaces) (root : Nat)
    (buffer : FwBuffDesc interfaces) : Except FwRoutingErr (PktsWaiting interfaces) :=
  if pktWaitingFull waiting then .error .full
  else
    let newIdx := waiting.free
    let waiting := waiting.modify newIdx fun node => { node with buffer }
    let waiting := { waiting with free := (waiting.packets newIdx).next }
    let waiting := waiting.modify (waiting.packets root).tail fun node =>
      { node with child := newIdx }
    let waiting := waiting.modify root fun node => { node with tail := newIdx }
    let waiting := waiting.modify root fun node => { node with numChildren := node.numChildren + 1 }
    .ok { waiting with size := waiting.size + 1 }

/-- Add a root for an address. -/
def pktWaitingPush (waiting : PktsWaiting interfaces) (ip : UInt32T)
    (buffer : FwBuffDesc interfaces) : Except FwRoutingErr (PktsWaiting interfaces) :=
  if pktWaitingFull waiting then .error .full
  else
    let newIdx := waiting.free
    let waiting := waiting.modify newIdx fun node =>
      { node with numChildren := 0, ip, buffer, tail := newIdx }
    let waiting := { waiting with free := (waiting.packets newIdx).next }
    let waiting :=
      if waiting.length ≠ 0 then
        let headIdx := waiting.head
        let waiting := waiting.modify newIdx fun node => { node with next := headIdx }
        waiting.modify headIdx fun node => { node with prev := newIdx }
      else { waiting with tail := newIdx }
    .ok { waiting with head := newIdx, length := waiting.length + 1, size := waiting.size + 1 }

/-- Put the next `remaining` children, from `childIdx` on, on the free list. -/
def freeChildren : Nat → Nat → PktsWaiting interfaces → PktsWaiting interfaces
  | 0, _, waiting => waiting
  | remaining + 1, childIdx, waiting =>
    let waiting := waiting.modify childIdx fun node => { node with next := waiting.free }
    let waiting := { waiting with free := childIdx, size := waiting.size - 1 }
    freeChildren remaining (waiting.packets childIdx).child waiting

/-- Free a root and its children. -/
def pktsWaitingFreeParent (waiting : PktsWaiting interfaces) (root : Nat) :
    PktsWaiting interfaces :=
  let waiting := freeChildren (waiting.packets root).numChildren (waiting.packets root).child waiting
  let next := (waiting.packets root).next
  let prev := (waiting.packets root).prev
  let waiting :=
    if root = waiting.head then { waiting with head := next }
    else waiting.modify prev fun node => { node with next }
  let waiting :=
    if root = waiting.tail then { waiting with tail := prev }
    else waiting.modify (waiting.packets root).next fun node => { node with prev }
  let waiting := waiting.modify root fun node => { node with next := waiting.free }
  { waiting with free := root, length := waiting.length - 1, size := waiting.size - 1 }

/-! ### What the array stands for -/

namespace PktsWaiting

/-- The roots, in list order. -/
def roots (waiting : PktsWaiting interfaces) : List Nat :=
  walk (fun node => (waiting.packets node).next) waiting.length waiting.head

/-- A root and its children, as `process_arp_waiting` visits them. -/
def chainOf (waiting : PktsWaiting interfaces) (root : Nat) : List Nat :=
  walk (fun node => (waiting.packets node).child) ((waiting.packets root).numChildren + 1) root

/-- The buffers waiting behind a root. -/
def buffersOf (waiting : PktsWaiting interfaces) (root : Nat) : List (FwBuffDesc interfaces) :=
  (waiting.chainOf root).map fun node => (waiting.packets node).buffer

/-- The address a root stands for, with its buffers. -/
def entryOf (waiting : PktsWaiting interfaces) (root : Nat) :
    UInt32T × List (FwBuffDesc interfaces) :=
  ((waiting.packets root).ip, waiting.buffersOf root)

/-- The addresses waited for, with their buffers. -/
def contents (waiting : PktsWaiting interfaces) : List (UInt32T × List (FwBuffDesc interfaces)) :=
  waiting.roots.map waiting.entryOf

/-- The array holds these roots, each with these children, and this free list. -/
structure Represents (waiting : PktsWaiting interfaces) (roots : List Nat)
    (children : Nat → List Nat) (free : List Nat) : Prop where
  nextChain : Chain (fun node => (waiting.packets node).next) waiting.head roots
  prevChain : Chain (fun node => (waiting.packets node).prev) waiting.tail roots.reverse
  length : waiting.length = roots.length
  childChain : ∀ root ∈ roots,
    Chain (fun node => (waiting.packets node).child) root (root :: children root)
  numChildren : ∀ root ∈ roots, (waiting.packets root).numChildren = (children root).length
  lastChild : ∀ root ∈ roots, (root :: children root).getLast? = some (waiting.packets root).tail
  freeChain : Chain (fun node => (waiting.packets node).next) waiting.free free
  distinct : ((roots.flatMap fun root => root :: children root) ++ free).Nodup
  size : waiting.size = (roots.flatMap fun root => root :: children root).length
  capacity : waiting.size + free.length = waiting.capacity
  inArray : ∀ node ∈ (roots.flatMap fun root => root :: children root) ++ free,
    node < waiting.capacity
  oneRoot : (roots.map fun root => (waiting.packets root).ip).Nodup

/-- The array represents some lists. -/
def WellFormed (waiting : PktsWaiting interfaces) : Prop :=
  ∃ roots children free, waiting.Represents roots children free

end PktsWaiting

end LionsOS.Firewall
