/-
This file proves that the structure of waiting packets is a finite map from
addresses to lists of buffers: the search finds exactly the addresses in the
map, a push adds an address, a push behind a root appends to its buffers, and
freeing a root removes its address. Each operation has one lemma, and they keep
the invariant of the node array.
-/

import LionsOS.Firewall.PacketQueue
import Mathlib.Data.List.Pairwise

open Function

namespace LionsOS.Firewall.PktsWaiting

open IndexChain

variable {interfaces : Nat} {waiting : PktsWaiting interfaces} {roots free : List Nat}
  {children : Nat → List Nat} {buffer : FwBuffDesc interfaces} {next : PktsWaiting interfaces}
  {ip : UInt32T} {root : Nat} {before after : List Nat} {link : Nat → Nat} {nodes : List Nat}
  {start : Nat}

variable {node : Nat}

/-! ### The nodes in use -/

section

variable (rep : waiting.Represents roots children free)
include rep

theorem Represents.roots_nodup : roots.Nodup :=
  rep.oneRoot.of_map _

theorem Represents.apart {other : Nat} (member : root ∈ roots) (otherMember : other ∈ roots)
    (different : root ≠ other) (mine : node ∈ root :: children root) :
    node ∉ other :: children other := by
  have used := (List.nodup_append.mp rep.distinct).1
  have disjoint := (List.nodup_flatMap.mp used).2
  have symmetric : Std.Symm
      (Function.onFun List.Disjoint fun root : Nat => root :: children root) :=
    ⟨fun _ _ disjoint _ theirs mine => disjoint mine theirs⟩
  exact fun theirs => (disjoint.forall member otherMember different) mine theirs

theorem Represents.chain_nodup (member : root ∈ roots) : (root :: children root).Nodup :=
  (List.nodup_flatMap.mp (List.nodup_append.mp rep.distinct).1).1 root member

end

theorem mem_used (member : root ∈ roots) (mine : node ∈ root :: children root) :
    node ∈ roots.flatMap fun root => root :: children root :=
  List.mem_flatMap.mpr ⟨root, member, mine⟩

section

variable (rep : waiting.Represents roots children free)
include rep

theorem Represents.used_not_free (member : root ∈ roots) (mine : node ∈ root :: children root) :
    node ∉ free := by
  intro isFree
  exact (List.nodup_append.mp rep.distinct).2.2 node (mem_used member mine) node isFree rfl

/-! ### Following the links -/

theorem Represents.roots_eq : waiting.roots = roots := by
  unfold PktsWaiting.roots
  rw [rep.length, rep.nextChain.walk_eq]

theorem Represents.chainOf_eq (member : root ∈ roots) :
    waiting.chainOf root = root :: children root := by
  unfold chainOf
  rw [rep.numChildren root member]
  exact (rep.childChain root member).walk_eq

theorem Represents.contents_eq :
    waiting.contents = roots.map fun root => ((waiting.packets root).ip,
      (root :: children root).map fun node => (waiting.packets node).buffer) := by
  rw [contents, rep.roots_eq]
  refine List.map_congr_left fun root member => ?_
  rw [entryOf, buffersOf, rep.chainOf_eq member]

end

theorem findNodeFrom_eq (packets : Nat → PktWaitingNode interfaces) (ip : UInt32T)
    (chain : Chain (fun node => (packets node).next) start nodes) :
    findNodeFrom packets ip nodes.length start =
      nodes.find? fun node => decide ((packets node).ip = ip) := by
  induction nodes generalizing start with
  | nil => rfl
  | cons node rest inductionHypothesis =>
    obtain ⟨rfl, chain⟩ := chain
    rw [List.length_cons, findNodeFrom, List.find?_cons]
    by_cases found : (packets start).ip = ip
    · rw [if_pos found, decide_eq_true found]
    · rw [if_neg found, decide_eq_false found, inductionHypothesis chain]

theorem Represents.find_eq_some (rep : waiting.Represents roots children free) :
    pktWaitingFindNode waiting ip = some root ↔ root ∈ roots ∧ (waiting.packets root).ip = ip := by
  rw [pktWaitingFindNode, rep.length, findNodeFrom_eq waiting.packets ip rep.nextChain]
  constructor
  · intro found
    exact ⟨List.mem_of_find?_eq_some found, by simpa using List.find?_some found⟩
  · rintro ⟨member, rfl⟩
    cases found : roots.find? fun node =>
        decide ((waiting.packets node).ip = (waiting.packets root).ip) with
    | none => exact absurd (List.find?_eq_none.mp found root member) (by simp)
    | some other =>
      have sameIp := List.find?_some found
      rw [decide_eq_true_iff] at sameIp
      rw [List.inj_on_of_nodup_map rep.oneRoot (List.mem_of_find?_eq_some found) member sameIp]

theorem Represents.find_eq_none (rep : waiting.Represents roots children free) :
    pktWaitingFindNode waiting ip = none ↔ ∀ root ∈ roots, (waiting.packets root).ip ≠ ip := by
  rw [← Option.not_isSome_iff_eq_none, Option.isSome_iff_exists]
  simp only [rep.find_eq_some, not_exists, not_and]

/-! ### Initialisation -/

theorem chain_counting (start count : Nat)
    (counts : ∀ node, node < start + count → link node = node + 1) :
    Chain link start (List.range' start count) := by
  induction count generalizing start with
  | zero => trivial
  | succ count inductionHypothesis =>
    refine ⟨rfl, ?_⟩
    rw [counts start (by omega)]
    exact inductionHypothesis (start + 1) fun node inside => counts node (by omega)

theorem represents_init (packets : Nat → PktWaitingNode interfaces) (capacity : Nat) :
    (pktWaitingInit packets capacity).Represents [] (fun _ => []) (List.range' 0 capacity) where
  nextChain := trivial
  prevChain := trivial
  length := rfl
  childChain := by simp
  numChildren := by simp
  lastChild := by simp
  freeChain := by
    refine chain_counting 0 capacity fun node inside => ?_
    show (if node < capacity then { packets node with next := node + 1 }
      else packets node).next = node + 1
    rw [if_pos (by omega)]
  distinct := by simpa using List.nodup_range'
  size := rfl
  capacity := by simp [pktWaitingInit]
  inArray := by simp [pktWaitingInit]
  oneRoot := by simp

/-! ### Adding behind a root -/

theorem Represents.full_eq_false (rep : waiting.Represents roots children free) :
    pktWaitingFull waiting = false ↔ free ≠ [] := by
  have capacity := rep.capacity
  rw [pktWaitingFull, beq_eq_false_iff_ne, ← List.length_pos_iff]
  omega

/-- What `pkt_waiting_push_child` leaves of every node. -/
theorem pushChild_packets {new : Nat} (apart : root ≠ new) (isFree : waiting.free = new)
    (pushed : pktWaitingPushChild waiting root buffer = .ok next) (node : Nat) :
    (next.packets node).next = (waiting.packets node).next ∧
      (next.packets node).prev = (waiting.packets node).prev ∧
      (next.packets node).ip = (waiting.packets node).ip ∧
      (next.packets node).child =
        (if node = (waiting.packets root).tail then new else (waiting.packets node).child) ∧
      (next.packets node).numChildren = (waiting.packets node).numChildren +
        (if node = root then 1 else 0) ∧
      (next.packets node).tail = (if node = root then new else (waiting.packets node).tail) ∧
      (next.packets node).buffer =
        (if node = new then buffer else (waiting.packets node).buffer) := by
  unfold pktWaitingPushChild at pushed
  split at pushed
  · cases pushed
  · cases pushed
    simp only [modify_packets]
    refine ⟨?_, ?_, ?_, ?_, ?_, ?_, ?_⟩ <;> grind

/-- The rest of the structure after `pkt_waiting_push_child`. -/
theorem pushChild_scalars (pushed : pktWaitingPushChild waiting root buffer = .ok next) :
    next.capacity = waiting.capacity ∧ next.size = waiting.size + 1 ∧
      next.length = waiting.length ∧ next.head = waiting.head ∧ next.tail = waiting.tail ∧
      next.free = (waiting.packets waiting.free).next := by
  unfold pktWaitingPushChild at pushed
  split at pushed
  · cases pushed
  · cases pushed
    simp [modify]

/-- The children after one was added behind `root`. -/
def withChild (children : Nat → List Nat) (root new : Nat) : Nat → List Nat :=
  update children root (children root ++ [new])

theorem used_withChild (children : Nat → List Nat) (new : Nat) (member : root ∈ roots)
    (distinct : roots.Nodup) :
    (roots.flatMap fun node => node :: withChild children root new node).Perm
      (new :: roots.flatMap fun node => node :: children node) := by
  obtain ⟨before, after, rfl⟩ := List.append_of_mem member
  rw [List.nodup_middle, List.nodup_cons, List.mem_append, not_or] at distinct
  have other : ∀ nodes : List Nat, root ∉ nodes →
      (nodes.flatMap fun node => node :: withChild children root new node) =
        nodes.flatMap fun node => node :: children node := by
    intro nodes outside
    refine List.flatMap_congr fun node inside => ?_
    rw [withChild, update_of_ne (ne_of_mem_of_not_mem inside outside)]
  have same : withChild children root new root = children root ++ [new] :=
    update_self _ _ _
  rw [List.flatMap_append, List.flatMap_cons, List.flatMap_append, List.flatMap_cons,
    other before distinct.1.1, other after distinct.1.2, same, ← List.cons_append,
    List.append_assoc, List.singleton_append, ← List.append_assoc]
  refine List.perm_middle.trans ?_
  rw [List.append_assoc]

theorem Represents.pushChild (rep : waiting.Represents roots children free) {root : Nat}
    (member : root ∈ roots) {buffer : FwBuffDesc interfaces} {next : PktsWaiting interfaces}
    (pushed : pktWaitingPushChild waiting root buffer = .ok next) :
    ∃ new rest, free = new :: rest ∧
      next.Represents roots (withChild children root new) rest := by
  have notFull : pktWaitingFull waiting = false := by
    unfold pktWaitingPushChild at pushed
    split at pushed
    · cases pushed
    · rename_i notFull
      exact Bool.eq_false_iff.mpr notFull
  obtain ⟨new, rest, rfl⟩ := List.exists_cons_of_ne_nil (rep.full_eq_false.mp notFull)
  obtain ⟨isFree, freeChain⟩ := rep.freeChain
  have rootNotNew : root ≠ new := fun same =>
    rep.used_not_free member List.mem_cons_self (same ▸ List.mem_cons_self)
  have fields := pushChild_packets rootNotNew isFree pushed
  obtain ⟨capacity, size, length, head, tail, nextFree⟩ := pushChild_scalars pushed
  have sameNext : (fun node => (next.packets node).next) = fun node =>
      (waiting.packets node).next := funext fun node => (fields node).1
  have samePrev : (fun node => (next.packets node).prev) = fun node =>
      (waiting.packets node).prev := funext fun node => (fields node).2.1
  have sameIp : (fun node => (next.packets node).ip) = fun node =>
      (waiting.packets node).ip := funext fun node => (fields node).2.2.1
  have child : (fun node => (next.packets node).child) = update
      (fun node => (waiting.packets node).child) (waiting.packets root).tail new := by
    funext node
    rw [(fields node).2.2.2.1, update_apply]
  have last := rep.lastChild root member
  have lastMember : (waiting.packets root).tail ∈ root :: children root :=
    List.mem_of_getLast? last
  have same : withChild children root new root = children root ++ [new] :=
    update_self _ _ _
  have otherChildren : ∀ other, other ≠ root → withChild children root new other = children other :=
    fun other different => update_of_ne different _ _
  have used := used_withChild children new member rep.roots_nodup
  refine ⟨new, rest, rfl, ?_⟩
  constructor
  case nextChain =>
    rw [sameNext, head]
    exact rep.nextChain
  case prevChain =>
    rw [samePrev, tail]
    exact rep.prevChain
  case length => rw [length, rep.length]
  case childChain =>
    intro other otherMember
    rw [child]
    by_cases isRoot : other = root
    · subst isRoot
      obtain ⟨first, split⟩ : ∃ first, other :: children other =
          first ++ [(waiting.packets other).tail] := by
        exact ⟨_, (List.dropLast_append_getLast? _ last).symm⟩
      rw [same, ← List.cons_append, split]
      exact Chain.extend (split ▸ rep.childChain other member) (split ▸ rep.chain_nodup member) new
    · rw [otherChildren other isRoot]
      exact (rep.childChain other otherMember).update
        (rep.apart member otherMember (Ne.symm isRoot) lastMember) new
  case numChildren =>
    intro other otherMember
    rw [(fields other).2.2.2.2.1, rep.numChildren other otherMember]
    by_cases isRoot : other = root
    · rw [if_pos isRoot, isRoot, same, List.length_append, List.length_singleton]
    · rw [if_neg isRoot, otherChildren other isRoot, Nat.add_zero]
  case lastChild =>
    intro other otherMember
    rw [(fields other).2.2.2.2.2.1]
    by_cases isRoot : other = root
    · rw [if_pos isRoot, isRoot, same, ← List.cons_append, List.getLast?_concat]
    · rw [if_neg isRoot, otherChildren other isRoot]
      exact rep.lastChild other otherMember
  case freeChain =>
    rw [sameNext, nextFree, isFree]
    exact freeChain
  case distinct =>
    have distinct := rep.distinct
    rw [List.nodup_middle] at distinct
    exact (List.Perm.nodup_iff (used.append_right rest)).mpr distinct
  case size => rw [size, used.length_eq, rep.size, List.length_cons]
  case capacity =>
    have total := rep.capacity
    rw [List.length_cons] at total
    omega
  case inArray =>
    intro node inside
    rw [capacity]
    refine rep.inArray node ?_
    have inside := (used.append_right rest).mem_iff.mp inside
    simp only [List.mem_cons, List.mem_append] at inside ⊢
    tauto
  case oneRoot =>
    rw [sameIp]
    exact rep.oneRoot

/-! ### Adding a root -/

theorem push_packets {new : Nat} (isFree : waiting.free = new)
    (pushed : pktWaitingPush waiting ip buffer = .ok next) (node : Nat) :
    (next.packets node).next =
        (if waiting.length ≠ 0 ∧ node = new then waiting.head else (waiting.packets node).next) ∧
      (next.packets node).prev =
        (if waiting.length ≠ 0 ∧ node = waiting.head then new else (waiting.packets node).prev) ∧
      (next.packets node).child = (waiting.packets node).child ∧
      (next.packets node).ip = (if node = new then ip else (waiting.packets node).ip) ∧
      (next.packets node).numChildren =
        (if node = new then 0 else (waiting.packets node).numChildren) ∧
      (next.packets node).tail = (if node = new then new else (waiting.packets node).tail) ∧
      (next.packets node).buffer =
        (if node = new then buffer else (waiting.packets node).buffer) := by
  unfold pktWaitingPush at pushed
  split at pushed
  · cases pushed
  · cases pushed
    by_cases first : waiting.length ≠ 0
    · simp only [modify, if_pos first, isFree]
      refine ⟨?_, ?_, ?_, ?_, ?_, ?_, ?_⟩ <;> grind
    · simp only [modify, if_neg first, isFree]
      refine ⟨?_, ?_, ?_, ?_, ?_, ?_, ?_⟩ <;> grind

theorem push_scalars (pushed : pktWaitingPush waiting ip buffer = .ok next) :
    next.capacity = waiting.capacity ∧ next.size = waiting.size + 1 ∧
      next.length = waiting.length + 1 ∧ next.head = waiting.free ∧
      next.tail = (if waiting.length ≠ 0 then waiting.tail else waiting.free) ∧
      next.free = (waiting.packets waiting.free).next := by
  unfold pktWaitingPush at pushed
  split at pushed
  · cases pushed
  · cases pushed
    by_cases first : waiting.length ≠ 0
    · simp [modify, first]
    · simp [modify, first]

theorem Represents.push (rep : waiting.Represents roots children free) {ip : UInt32T}
    (absent : ∀ root ∈ roots, (waiting.packets root).ip ≠ ip) {buffer : FwBuffDesc interfaces}
    {next : PktsWaiting interfaces} (pushed : pktWaitingPush waiting ip buffer = .ok next) :
    ∃ new rest, free = new :: rest ∧
      next.Represents (new :: roots) (update children new []) rest := by
  have notFull : pktWaitingFull waiting = false := by
    unfold pktWaitingPush at pushed
    split at pushed
    · cases pushed
    · rename_i notFull
      exact Bool.eq_false_iff.mpr notFull
  obtain ⟨new, rest, rfl⟩ := List.exists_cons_of_ne_nil (rep.full_eq_false.mp notFull)
  obtain ⟨isFree, freeChain⟩ := rep.freeChain
  have notUsed : ∀ root ∈ roots, new ∉ root :: children root := fun root member mine =>
    rep.used_not_free member mine List.mem_cons_self
  have notRoot : ∀ root ∈ roots, root ≠ new := fun root member same =>
    notUsed root member (same ▸ List.mem_cons_self)
  have fields := push_packets isFree pushed
  obtain ⟨capacity, size, length, head, tail, nextFree⟩ := push_scalars pushed
  have child : (fun node => (next.packets node).child) = fun node =>
      (waiting.packets node).child := funext fun node => (fields node).2.2.1
  have sameNext : ∀ node, node ≠ new → (next.packets node).next = (waiting.packets node).next := by
    intro node different
    rw [(fields node).1, if_neg fun both => different both.2]
  have noChildren : update children new [] new = [] := update_self _ _ _
  have sameChildren : ∀ root ∈ roots, update children new [] root = children root :=
    fun root member => update_of_ne (notRoot root member) _ _
  have used : (roots.flatMap fun root => root :: update children new [] root) =
      roots.flatMap fun root => root :: children root :=
    List.flatMap_congr fun root member => by rw [sameChildren root member]
  have usedNew : ((new :: roots).flatMap fun root =>
      root :: update children new [] root) =
      new :: roots.flatMap fun root => root :: children root := by
    rw [List.flatMap_cons, noChildren, used, List.singleton_append]
  refine ⟨new, rest, rfl, ?_⟩
  constructor
  case nextChain =>
    rw [head, isFree]
    refine ⟨rfl, ?_⟩
    cases roots with
    | nil => trivial
    | cons first others =>
      show Chain _ (next.packets new).next (first :: others)
      rw [(fields new).1, if_pos ⟨by rw [rep.length]; simp, rfl⟩]
      exact rep.nextChain.congr fun node member => sameNext node (notRoot node member)
  case prevChain =>
    rw [tail, isFree, List.reverse_cons]
    cases roots with
    | nil =>
      rw [if_neg (by rw [rep.length]; simp)]
      exact ⟨rfl, trivial⟩
    | cons first others =>
      have linked : waiting.length ≠ 0 := by
        rw [rep.length]
        simp
      have prev : (fun node => (next.packets node).prev) =
          update (fun node => (waiting.packets node).prev) first new := by
        funext node
        rw [(fields node).2.1, update_apply, ← rep.nextChain.1]
        simp only [linked, ne_eq, not_false_eq_true, true_and]
      rw [if_pos linked, prev, List.reverse_cons]
      have distinct := List.nodup_reverse.mpr rep.roots_nodup
      have chain := rep.prevChain
      rw [List.reverse_cons] at distinct chain
      exact chain.extend distinct new
  case length => rw [length, rep.length, List.length_cons]
  case childChain =>
    rw [child]
    intro root member
    rcases List.mem_cons.mp member with rfl | member
    · rw [noChildren]
      exact ⟨rfl, trivial⟩
    · rw [sameChildren root member]
      exact rep.childChain root member
  case numChildren =>
    intro root member
    rw [(fields root).2.2.2.2.1]
    rcases List.mem_cons.mp member with rfl | member
    · rw [if_pos rfl, noChildren, List.length_nil]
    · rw [if_neg (notRoot root member), sameChildren root member, rep.numChildren root member]
  case lastChild =>
    intro root member
    rw [(fields root).2.2.2.2.2.1]
    rcases List.mem_cons.mp member with rfl | member
    · rw [if_pos rfl, noChildren, List.getLast?_singleton]
    · rw [if_neg (notRoot root member), sameChildren root member, rep.lastChild root member]
  case freeChain =>
    rw [nextFree, isFree]
    have distinct := (List.nodup_append.mp rep.distinct).2.1
    rw [List.nodup_cons] at distinct
    exact freeChain.congr fun node member => sameNext node (ne_of_mem_of_not_mem member distinct.1)
  case distinct =>
    have distinct := rep.distinct
    rw [List.nodup_middle] at distinct
    rw [usedNew]
    exact distinct
  case size => rw [size, usedNew, rep.size, List.length_cons]
  case capacity =>
    have total := rep.capacity
    rw [List.length_cons] at total
    omega
  case inArray =>
    intro node inside
    rw [capacity]
    refine rep.inArray node ?_
    rw [usedNew] at inside
    simp only [List.mem_cons, List.mem_append] at inside ⊢
    tauto
  case oneRoot =>
    rw [List.map_cons, List.nodup_cons, (fields new).2.2.2.1, if_pos rfl]
    have sameIp : (roots.map fun root => (next.packets root).ip) =
        roots.map fun root => (waiting.packets root).ip := by
      refine List.map_congr_left fun root member => ?_
      rw [(fields root).2.2.2.1, if_neg (notRoot root member)]
    rw [sameIp]
    refine ⟨fun inside => ?_, rep.oneRoot⟩
    obtain ⟨root, member, same⟩ := List.mem_map.mp inside
    exact absent root member same

/-! ### Freeing a root -/

/-- Freeing children only writes their next links, and puts them in front of the free list. -/
theorem freeChildren_spec :
    ∀ {waiting : PktsWaiting interfaces} {start : Nat} {free : List Nat},
      Chain (fun node => (waiting.packets node).child) start nodes →
      Chain (fun node => (waiting.packets node).next) waiting.free free →
      (nodes ++ free).Nodup →
      let freed := freeChildren nodes.length start waiting
      (∀ node, ∃ link, freed.packets node = { waiting.packets node with next := link } ∧
          (node ∉ nodes → link = (waiting.packets node).next)) ∧
        Chain (fun node => (freed.packets node).next) freed.free (nodes.reverse ++ free) ∧
        freed.size = waiting.size - nodes.length ∧ freed.capacity = waiting.capacity ∧
        freed.length = waiting.length ∧ freed.head = waiting.head ∧ freed.tail = waiting.tail := by
  induction nodes with
  | nil =>
    intro waiting start free _ freeChain _
    exact ⟨fun node => ⟨_, rfl, fun _ => rfl⟩, freeChain, rfl, rfl, rfl, rfl, rfl⟩
  | cons node rest inductionHypothesis =>
    intro waiting start free chain freeChain distinct
    obtain ⟨rfl, chain⟩ := chain
    rw [List.cons_append, List.nodup_cons, List.mem_append, not_or] at distinct
    obtain ⟨⟨notRest, notFree⟩, distinct⟩ := distinct
    -- The state after the first child went to the free list.
    let step : PktsWaiting interfaces :=
      { waiting.modify start fun node => { node with next := waiting.free } with
        free := start, size := waiting.size - 1 }
    have stepPackets : ∀ node, step.packets node =
        if node = start then { waiting.packets node with next := waiting.free }
        else waiting.packets node :=
      waiting.modify_packets start fun node => { node with next := waiting.free }
    have stepChild : ∀ node, (step.packets node).child = (waiting.packets node).child := by
      intro node
      rw [stepPackets]
      split_ifs <;> rfl
    have stepNext : ∀ node, node ≠ start →
        (step.packets node).next = (waiting.packets node).next := by
      intro node different
      rw [stepPackets, if_neg different]
    have stepChain : Chain (fun node => (step.packets node).next) step.free (start :: free) := by
      refine ⟨rfl, ?_⟩
      show Chain _ (step.packets start).next free
      rw [stepPackets, if_pos rfl]
      exact freeChain.congr fun node member => stepNext node (ne_of_mem_of_not_mem member notFree)
    have restChain :
        Chain (fun node => (step.packets node).child) (step.packets start).child rest := by
      rw [stepChild]
      exact chain.congr fun node _ => stepChild node
    obtain ⟨packets, freed, size, capacity, length, head, tail⟩ := inductionHypothesis restChain
      stepChain (List.nodup_middle.mpr (List.nodup_cons.mpr
        ⟨fun inside => (List.mem_append.mp inside).elim notRest notFree, distinct⟩))
    refine ⟨fun node => ?_, ?_, ?_, capacity, length, head, tail⟩
    · obtain ⟨link, same, unchanged⟩ := packets node
      refine ⟨link, ?_, fun outside => ?_⟩
      · show (freeChildren rest.length (step.packets start).child step).packets node = _
        rw [same, stepPackets]
        split_ifs <;> rfl
      · rw [List.mem_cons, not_or] at outside
        rw [unchanged outside.2, stepNext node outside.1]
    · rw [List.reverse_cons, List.append_assoc]
      exact freed
    · show (freeChildren rest.length (step.packets start).child step).size = _
      rw [size, List.length_cons]
      show waiting.size - 1 - rest.length = _
      omega

/-- What `pkts_waiting_free_parent` does after the children are freed. -/
def freeRoot (waiting : PktsWaiting interfaces) (root : Nat) : PktsWaiting interfaces :=
  let next := (waiting.packets root).next
  let prev := (waiting.packets root).prev
  let waiting :=
    if root = waiting.head then { waiting with head := next }
    else waiting.modify prev fun node => { node with next }
  let waiting :=
    if root = waiting.tail then { waiting with tail := prev }
    else waiting.modify (waiting.packets root).next fun node => { node with prev }
  let waiting := waiting.modify root fun node => { node with next := waiting.free }
  { waiting with free := root, length := waiting.length - 1, size := waiting.size - 1 }

theorem freeParent_eq (waiting : PktsWaiting interfaces) (root : Nat) :
    pktsWaitingFreeParent waiting root =
      freeRoot (freeChildren (waiting.packets root).numChildren (waiting.packets root).child waiting)
        root := rfl

theorem freeRoot_packets (linked : root ≠ waiting.head → (waiting.packets root).prev ≠ root)
    (node : Nat) :
    ((freeRoot waiting root).packets node).next =
        (if node = root then waiting.free
        else if root ≠ waiting.head ∧ node = (waiting.packets root).prev then
          (waiting.packets root).next
        else (waiting.packets node).next) ∧
      ((freeRoot waiting root).packets node).prev =
        (if root ≠ waiting.tail ∧ node = (waiting.packets root).next then
          (waiting.packets root).prev
        else (waiting.packets node).prev) ∧
      ((freeRoot waiting root).packets node).child = (waiting.packets node).child ∧
      ((freeRoot waiting root).packets node).ip = (waiting.packets node).ip ∧
      ((freeRoot waiting root).packets node).numChildren = (waiting.packets node).numChildren ∧
      ((freeRoot waiting root).packets node).tail = (waiting.packets node).tail ∧
      ((freeRoot waiting root).packets node).buffer = (waiting.packets node).buffer := by
  unfold freeRoot
  by_cases isHead : root = waiting.head
  · by_cases isTail : root = waiting.tail
    · simp only [modify_packets]
      refine ⟨?_, ?_, ?_, ?_, ?_, ?_, ?_⟩ <;> grind
    · simp only [if_pos isHead, if_neg isTail, modify_packets, modify_free]
      refine ⟨?_, ?_, ?_, ?_, ?_, ?_, ?_⟩ <;> grind
  · by_cases isTail : root = waiting.tail
    · simp only [if_neg isHead, modify_tail, if_pos isTail, modify_packets, modify_free]
      refine ⟨?_, ?_, ?_, ?_, ?_, ?_, ?_⟩ <;> grind
    · simp only [if_neg isHead, modify_tail, if_neg isTail, modify_packets, modify_free]
      refine ⟨?_, ?_, ?_, ?_, ?_, ?_, ?_⟩ <;> grind

theorem freeRoot_scalars (waiting : PktsWaiting interfaces) (root : Nat) :
    (freeRoot waiting root).capacity = waiting.capacity ∧
      (freeRoot waiting root).size = waiting.size - 1 ∧
      (freeRoot waiting root).length = waiting.length - 1 ∧
      (freeRoot waiting root).head =
        (if root = waiting.head then (waiting.packets root).next else waiting.head) ∧
      (freeRoot waiting root).tail =
        (if root = waiting.tail then (waiting.packets root).prev else waiting.tail) ∧
      (freeRoot waiting root).free = root := by
  unfold freeRoot
  by_cases isHead : root = waiting.head
  · simp only [if_pos isHead]
    by_cases isTail : root = waiting.tail
    · simp only [if_pos isTail]
      exact ⟨rfl, rfl, rfl, by trivial, by trivial, by trivial⟩
    · simp only [if_neg isTail]
      exact ⟨rfl, rfl, rfl, by trivial, by trivial, by trivial⟩
  · simp only [if_neg isHead, modify_tail]
    by_cases isTail : root = waiting.tail
    · simp only [if_pos isTail]
      exact ⟨rfl, rfl, rfl, by trivial, by trivial, by trivial⟩
    · simp only [if_neg isTail]
      exact ⟨rfl, rfl, rfl, by trivial, by trivial, by trivial⟩

/-- The chain of a doubly linked list after the node between `before` and `after` was unlinked:
the start moves on if it was the first node, and the node before skips it otherwise. -/
theorem chain_without (chain : Chain link start (before ++ node :: after))
    (distinct : (before ++ node :: after).Nodup) {previous : Nat}
    (isPrevious : ∀ first last, before = first ++ [last] → last = previous) {unlinked : Nat → Nat}
    (same : ∀ other ∈ before ++ after, unlinked other =
      if node ≠ start ∧ other = previous then link node else link other) :
    Chain unlinked (if node = start then link node else start) (before ++ after) := by
  rcases List.eq_nil_or_concat before with rfl | ⟨first, last, rfl⟩
  · obtain ⟨rfl, chain⟩ := chain
    rw [if_pos rfl]
    refine chain.congr fun other member => ?_
    rw [same other member, if_neg fun both => both.1 rfl]
  · rw [List.concat_eq_append] at chain distinct same isPrevious ⊢
    obtain rfl := isPrevious first last rfl
    have notStart : node ≠ start := by
      rintro rfl
      rw [List.nodup_middle, List.nodup_cons] at distinct
      cases first with
      | nil | cons head rest => exact distinct.1 (by simp [chain.1])
    rw [if_neg notStart]
    refine (chain.unlink distinct).congr fun other member => ?_
    rw [same other member, update_apply]
    simp only [notStart, ne_eq, not_false_eq_true, true_and]

theorem Represents.freeParent {before after : List Nat} {root : Nat}
    (rep : waiting.Represents (before ++ root :: after) children free) :
    (∀ node, (∃ link, (pktsWaitingFreeParent waiting root).packets node =
        { waiting.packets node with
          next := link, prev := ((pktsWaitingFreeParent waiting root).packets node).prev })) ∧
      (pktsWaitingFreeParent waiting root).Represents (before ++ after) children
        (root :: ((children root).reverse ++ free)) := by
  have member : root ∈ before ++ root :: after := by simp
  have rootsDistinct := rep.roots_nodup
  have notRoot : ∀ other ∈ before ++ after, other ≠ root := by
    intro other inside
    rw [List.nodup_middle, List.nodup_cons] at rootsDistinct
    exact ne_of_mem_of_not_mem inside rootsDistinct.1
  have stillRoot : ∀ other ∈ before ++ after, other ∈ before ++ root :: after := by
    intro other inside
    rw [List.mem_append, List.mem_cons]
    exact (List.mem_append.mp inside).imp_right Or.inr
  have chainDistinct := List.nodup_cons.mp (rep.chain_nodup member)
  have notChild : ∀ other ∈ before ++ root :: after, other ∉ children root := by
    intro other inside isChild
    by_cases same : other = root
    · exact chainDistinct.1 (same ▸ isChild)
    · exact rep.apart inside member same List.mem_cons_self (List.mem_cons_of_mem _ isChild)
  -- The children first.
  obtain ⟨packets, freed, size, capacity, length, head, tail⟩ :=
    freeChildren_spec (rep.childChain root member).2 rep.freeChain
      (List.nodup_append.mpr ⟨chainDistinct.2, (List.nodup_append.mp rep.distinct).2.1,
        fun node mine other isFree same => rep.used_not_free member
          (List.mem_cons_of_mem _ mine) (same ▸ isFree)⟩)
  rw [freeParent_eq, rep.numChildren root member]
  generalize freeChildren (children root).length (waiting.packets root).child waiting = middle
    at packets freed size capacity length head tail
  have sameNext : ∀ other ∈ before ++ root :: after,
      (middle.packets other).next = (waiting.packets other).next := by
    intro other inside
    obtain ⟨link, same, unchanged⟩ := packets other
    rw [same]
    exact unchanged (notChild other inside)
  have samePrev : ∀ other, (middle.packets other).prev = (waiting.packets other).prev := by
    intro other
    obtain ⟨link, same, _⟩ := packets other
    rw [same]
  -- The neighbours of the root in the root list.
  have forward := rep.nextChain
  have backward := rep.prevChain
  rw [List.reverse_append, List.reverse_cons, List.append_assoc, List.singleton_append] at backward
  have isNext : ∀ first last, after.reverse = first ++ [last] →
      last = (waiting.packets root).next := by
    intro first last split
    have split := congrArg List.reverse split
    rw [List.reverse_reverse, List.reverse_append] at split
    rw [chain_append, split] at forward
    exact forward.2.2.1.symm
  have isPrev : ∀ first last, before = first ++ [last] → last = (waiting.packets root).prev := by
    rintro first last rfl
    rw [chain_append, List.reverse_append] at backward
    exact backward.2.2.1.symm
  have linked : root ≠ middle.head → (middle.packets root).prev ≠ root := by
    intro notHead
    rw [head] at notHead
    rw [samePrev]
    rcases List.eq_nil_or_concat before with rfl | ⟨first, last, rfl⟩
    · exact absurd forward.1.symm notHead
    · rw [List.concat_eq_append] at isPrev notRoot
      rw [← isPrev first last rfl]
      exact notRoot last (by simp)
  have fields := freeRoot_packets linked
  obtain ⟨freeCapacity, freeSize, freeLength, freeHead, freeTail, freeFree⟩ :=
    freeRoot_scalars middle root
  have nextField : ∀ other ∈ before ++ after, ((freeRoot middle root).packets other).next =
      if root ≠ waiting.head ∧ other = (waiting.packets root).prev then
        (waiting.packets root).next
      else (waiting.packets other).next := by
    intro other inside
    rw [(fields other).1, if_neg (notRoot other inside), head, samePrev, sameNext root member,
      sameNext other (stillRoot other inside)]
  have prevField : ∀ other, ((freeRoot middle root).packets other).prev =
      if root ≠ waiting.tail ∧ other = (waiting.packets root).next then
        (waiting.packets root).prev
      else (waiting.packets other).prev := by
    intro other
    rw [(fields other).2.1, tail, samePrev, samePrev, sameNext root member]
  have used : ((before ++ root :: after).flatMap fun root => root :: children root).Perm
      (((before ++ after).flatMap fun root => root :: children root) ++
        root :: (children root).reverse) := by
    rw [List.flatMap_append, List.flatMap_append, List.append_assoc]
    refine List.Perm.append_left _ (List.perm_append_comm.trans ?_)
    exact List.Perm.append_left _ ((List.reverse_perm _).symm.cons root)
  have usedFree := (used.append_right free)
  rw [List.append_assoc] at usedFree
  refine ⟨fun node => ?_, ?_⟩
  · obtain ⟨link, same, _⟩ := packets node
    obtain ⟨_, _, child, ip, numChildren, lastNode, buffer⟩ := fields node
    rw [same] at child ip numChildren lastNode buffer
    refine ⟨((freeRoot middle root).packets node).next, ?_⟩
    generalize (freeRoot middle root).packets node = result at child ip numChildren lastNode buffer
    obtain ⟨_, _, _, _, _, _, _⟩ := result
    simp only [PktWaitingNode.mk.injEq, true_and] at child ip numChildren lastNode buffer ⊢
    exact ⟨child, numChildren, lastNode, ip, buffer⟩
  constructor
  case nextChain =>
    rw [freeHead, head, sameNext root member]
    exact chain_without forward rootsDistinct isPrev nextField
  case prevChain =>
    rw [freeTail, tail, samePrev, List.reverse_append]
    rw [List.nodup_middle] at rootsDistinct
    refine chain_without backward ?_ isNext fun other _ => prevField other
    rw [← List.nodup_reverse, List.reverse_append, List.reverse_cons, List.reverse_reverse,
      List.reverse_reverse, List.append_assoc, List.singleton_append, List.nodup_middle]
    exact rootsDistinct
  case length =>
    rw [freeLength, length, rep.length]
    simp
  case childChain =>
    intro other inside
    have child : (fun node => ((freeRoot middle root).packets node).child) = fun node =>
        (waiting.packets node).child := by
      funext node
      obtain ⟨link, same, _⟩ := packets node
      rw [(fields node).2.2.1, same]
    rw [child]
    exact rep.childChain other (stillRoot other inside)
  case numChildren =>
    intro other inside
    obtain ⟨link, same, _⟩ := packets other
    rw [(fields other).2.2.2.2.1, same]
    exact rep.numChildren other (stillRoot other inside)
  case lastChild =>
    intro other inside
    obtain ⟨link, same, _⟩ := packets other
    rw [(fields other).2.2.2.2.2.1, same]
    exact rep.lastChild other (stillRoot other inside)
  case freeChain =>
    refine ⟨rfl, ?_⟩
    show Chain _ ((freeRoot middle root).packets root).next _
    rw [(fields root).1, if_pos rfl]
    refine freed.congr fun node isFreed => ?_
    have outside : node ≠ root ∧ (root ≠ middle.head → node ≠ (waiting.packets root).prev) := by
      rw [List.mem_append, List.mem_reverse] at isFreed
      refine ⟨?_, ?_⟩
      · rintro rfl
        exact isFreed.elim chainDistinct.1 (rep.used_not_free member List.mem_cons_self)
      · rintro notHead rfl
        rw [head] at notHead
        rcases List.eq_nil_or_concat before with rfl | ⟨first, last, rfl⟩
        · exact notHead forward.1.symm
        · rw [List.concat_eq_append] at isPrev stillRoot
          rw [← isPrev first last rfl] at isFreed
          have lastRoot := stillRoot last (by simp)
          rw [List.concat_eq_append] at notChild rep
          exact isFreed.elim (notChild last lastRoot)
            (rep.used_not_free lastRoot List.mem_cons_self)
    rw [(fields node).1, if_neg outside.1, samePrev, if_neg fun both => outside.2 both.1 both.2]
  case distinct => exact usedFree.nodup_iff.mp rep.distinct
  case size =>
    have total := used.length_eq
    rw [List.length_append, List.length_cons, List.length_reverse] at total
    rw [freeSize, size, rep.size]
    omega
  case capacity =>
    have total := used.length_eq
    have room := rep.capacity
    have counted := rep.size
    rw [List.length_append, List.length_cons, List.length_reverse] at total
    rw [freeSize, size, List.length_cons, List.length_append, List.length_reverse]
    omega
  case inArray =>
    intro node inside
    rw [freeCapacity, capacity]
    exact rep.inArray node (usedFree.mem_iff.mpr inside)
  case oneRoot =>
    have sameIp : ((before ++ after).map fun node => ((freeRoot middle root).packets node).ip) =
        (before ++ after).map fun node => (waiting.packets node).ip := by
      refine List.map_congr_left fun node _ => ?_
      obtain ⟨link, same, _⟩ := packets node
      rw [(fields node).2.2.2.1, same]
    have distinct := rep.oneRoot
    rw [List.map_append, List.map_cons, List.nodup_middle, List.nodup_cons] at distinct
    rw [sameIp, List.map_append]
    exact distinct.2

/-! ### The map -/

/-- The buffers that wait, whatever they wait for. -/
def buffers (waiting : PktsWaiting interfaces) : List (FwBuffDesc interfaces) :=
  waiting.contents.flatMap Prod.snd

/-- The address is waited for. -/
def IsWaitingFor (waiting : PktsWaiting interfaces) (ip : UInt32T) : Prop :=
  ∃ entry ∈ waiting.contents, entry.1 = ip

theorem isWaitingFor_iff : waiting.IsWaitingFor ip ↔ ip ∈ waiting.contents.map Prod.fst :=
  List.mem_map.symm

theorem wellFormed_init (packets : Nat → PktWaitingNode interfaces) (capacity : Nat) :
    (pktWaitingInit packets capacity).WellFormed :=
  ⟨_, _, _, represents_init packets capacity⟩

theorem WellFormed.addresses_nodup (formed : waiting.WellFormed) :
    (waiting.contents.map Prod.fst).Nodup := by
  obtain ⟨roots, children, free, rep⟩ := formed
  rw [rep.contents_eq, List.map_map]
  exact rep.oneRoot

theorem WellFormed.find_eq_none (formed : waiting.WellFormed) :
    pktWaitingFindNode waiting ip = none ↔ ¬ waiting.IsWaitingFor ip := by
  obtain ⟨roots, children, free, rep⟩ := formed
  rw [rep.find_eq_none, IsWaitingFor, rep.contents_eq]
  simp

theorem WellFormed.find_eq_some (formed : waiting.WellFormed)
    (found : pktWaitingFindNode waiting ip = some root) :
    (waiting.packets root).ip = ip ∧ ∃ before after,
      waiting.contents = before ++ (ip, waiting.buffersOf root) :: after := by
  obtain ⟨roots, children, free, rep⟩ := formed
  obtain ⟨member, rfl⟩ := rep.find_eq_some.mp found
  obtain ⟨before, after, rfl⟩ := List.append_of_mem member
  refine ⟨rfl, before.map waiting.entryOf, after.map waiting.entryOf, ?_⟩
  rw [contents, rep.roots_eq, List.map_append]
  rfl

theorem pktWaitingPush_isOk (ip : UInt32T) (buffer : FwBuffDesc interfaces)
    (notFull : pktWaitingFull waiting = false) :
    ∃ next, pktWaitingPush waiting ip buffer = .ok next := by
  unfold pktWaitingPush
  rw [notFull]
  exact ⟨_, rfl⟩

theorem pktWaitingPushChild_isOk (root : Nat) (buffer : FwBuffDesc interfaces)
    (notFull : pktWaitingFull waiting = false) :
    ∃ next, pktWaitingPushChild waiting root buffer = .ok next := by
  unfold pktWaitingPushChild
  rw [notFull]
  exact ⟨_, rfl⟩

/-- A push for an address that is not waited for adds it with one buffer. -/
theorem WellFormed.push (formed : waiting.WellFormed) {ip : UInt32T}
    (absent : pktWaitingFindNode waiting ip = none) {buffer : FwBuffDesc interfaces}
    {next : PktsWaiting interfaces} (pushed : pktWaitingPush waiting ip buffer = .ok next) :
    next.WellFormed ∧ next.contents = (ip, [buffer]) :: waiting.contents := by
  obtain ⟨roots, children, free, rep⟩ := formed
  obtain ⟨new, rest, rfl, repNext⟩ := rep.push (rep.find_eq_none.mp absent) pushed
  refine ⟨⟨_, _, _, repNext⟩, ?_⟩
  have fields := push_packets rep.freeChain.1 pushed
  rw [repNext.contents_eq, rep.contents_eq, List.map_cons, update_self, List.map_singleton,
    (fields new).2.2.2.1, if_pos rfl, (fields new).2.2.2.2.2.2, if_pos rfl]
  refine congrArg _ (List.map_congr_left fun root member => ?_)
  have notNew : ∀ node ∈ root :: children root, node ≠ new := fun node mine same =>
    rep.used_not_free member mine (same ▸ List.mem_cons_self)
  rw [update_of_ne (notNew root List.mem_cons_self), (fields root).2.2.2.1,
    if_neg (notNew root List.mem_cons_self)]
  refine congrArg _ (List.map_congr_left fun node mine => ?_)
  rw [(fields node).2.2.2.2.2.2, if_neg (notNew node mine)]

/-- A push behind the root of an address appends to its buffers. -/
theorem WellFormed.pushChild (formed : waiting.WellFormed) {ip : UInt32T} {root : Nat}
    (found : pktWaitingFindNode waiting ip = some root) {buffer : FwBuffDesc interfaces}
    {next : PktsWaiting interfaces} (pushed : pktWaitingPushChild waiting root buffer = .ok next) :
    next.WellFormed ∧ ∃ before buffers after, waiting.contents = before ++ (ip, buffers) :: after ∧
        next.contents = before ++ (ip, buffers ++ [buffer]) :: after := by
  obtain ⟨roots, children, free, rep⟩ := formed
  obtain ⟨member, rfl⟩ := rep.find_eq_some.mp found
  obtain ⟨new, rest, rfl, repNext⟩ := rep.pushChild member pushed
  refine ⟨⟨_, _, _, repNext⟩, ?_⟩
  have notNew : ∀ other ∈ roots, ∀ node ∈ other :: children other, node ≠ new :=
    fun other inside node mine same => rep.used_not_free inside mine (same ▸ List.mem_cons_self)
  have fields := pushChild_packets (notNew root member root List.mem_cons_self) rep.freeChain.1 pushed
  have sameBuffers : ∀ other ∈ roots, ∀ node ∈ other :: children other,
      (next.packets node).buffer = (waiting.packets node).buffer := fun other inside node mine => by
    rw [(fields node).2.2.2.2.2.2, if_neg (notNew other inside node mine)]
  have distinct := rep.roots_nodup
  obtain ⟨before, after, rfl⟩ := List.append_of_mem member
  rw [List.nodup_middle, List.nodup_cons, List.mem_append, not_or] at distinct
  -- The other roots keep their entries.
  have others : ∀ nodes : List Nat, root ∉ nodes → (∀ node ∈ nodes, node ∈ before ++ root :: after) →
      (nodes.map fun other => ((next.packets other).ip,
        (other :: withChild children root new other).map fun node => (next.packets node).buffer)) =
      nodes.map fun other => ((waiting.packets other).ip,
        (other :: children other).map fun node => (waiting.packets node).buffer) := by
    intro nodes outside inside
    refine List.map_congr_left fun other otherMember => ?_
    rw [withChild, update_of_ne (ne_of_mem_of_not_mem otherMember outside), (fields other).2.2.1]
    exact congrArg _ (List.map_congr_left (sameBuffers other (inside other otherMember)))
  refine ⟨_, _, _, by rw [rep.contents_eq, List.map_append, List.map_cons], ?_⟩
  rw [repNext.contents_eq, List.map_append, List.map_cons,
    others before distinct.1.1 fun node inside => by simp [inside],
    others after distinct.1.2 fun node inside => by simp [inside], (fields root).2.2.1, withChild,
    update_self, ← List.cons_append, List.map_append, List.map_singleton,
    (fields new).2.2.2.2.2.2, if_pos rfl, List.map_congr_left (sameBuffers root member)]

/-- Freeing the root of an address removes it with all its buffers. -/
theorem WellFormed.freeParent (formed : waiting.WellFormed) {ip : UInt32T} {root : Nat}
    (found : pktWaitingFindNode waiting ip = some root) :
    (pktsWaitingFreeParent waiting root).WellFormed ∧ ∃ before after,
      waiting.contents = before ++ (ip, waiting.buffersOf root) :: after ∧
        (pktsWaitingFreeParent waiting root).contents = before ++ after := by
  obtain ⟨roots, children, free, rep⟩ := formed
  obtain ⟨member, rfl⟩ := rep.find_eq_some.mp found
  obtain ⟨before, after, rfl⟩ := List.append_of_mem member
  obtain ⟨packets, repNext⟩ := rep.freeParent
  have entries : ∀ nodes : List Nat, (∀ node ∈ nodes, node ∈ before ++ root :: after) →
      nodes.map waiting.entryOf =
        nodes.map fun other => (((pktsWaitingFreeParent waiting root).packets other).ip,
          (other :: children other).map fun node =>
            ((pktsWaitingFreeParent waiting root).packets node).buffer) := by
    intro nodes inside
    refine List.map_congr_left fun other otherMember => ?_
    have sameBuffer : ∀ node, (waiting.packets node).buffer =
        ((pktsWaitingFreeParent waiting root).packets node).buffer := by
      intro node
      obtain ⟨link, same⟩ := packets node
      rw [same]
    obtain ⟨link, same⟩ := packets other
    rw [entryOf, buffersOf, rep.chainOf_eq (inside other otherMember)]
    simp only [sameBuffer]
    rw [same]
  refine ⟨⟨_, _, _, repNext⟩, before.map waiting.entryOf, after.map waiting.entryOf, ?_, ?_⟩
  · rw [contents, rep.roots_eq, List.map_append]
    rfl
  · rw [repNext.contents_eq, List.map_append, entries before fun node inside => by simp [inside],
      entries after fun node inside => by simp [inside]]

end LionsOS.Firewall.PktsWaiting
