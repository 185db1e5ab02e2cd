/-
This file shows that the invariant of the socket layer holds in every reachable
state. An event changes one slot and the PCB it holds, or one PCB in place, or it
moves a connection from the queue of one slot to another slot; what the other
slots hold stays as it is.
-/

import LionsOS.Lib.Runs
import LionsOS.Sock.Changes

open Function

namespace LionsOS.Sock

open StepRun PcbPhase List

variable {pcb : LwipPcb} {index : Fin maxSockets} {socket : Socket} {tpcb : Pcb} {nextPcb : Pcb}
  {result : CloseResult}

/-! ### What a slot depends on -/

/-- Two PCBs that differ in what the invariant does not say. -/
structure LwipPcb.Alike (pcb other : LwipPcb) : Prop where
  phase : pcb.phase = other.phase
  arg : pcb.arg = other.arg
  errFunc : pcb.errFunc = other.errFunc
  recvFunc : pcb.recvFunc = other.recvFunc
  handedBack : pcb.handedBack = other.handedBack

theorem LwipPcb.Alike.refl (pcb : LwipPcb) : pcb.Alike pcb :=
  ⟨rfl, rfl, rfl, rfl, rfl⟩

theorem LwipPcb.Alike.owned {other : LwipPcb} (alike : pcb.Alike other) (owned : other.Owned index) :
    pcb.Owned index :=
  ⟨alike.arg.trans owned.arg, alike.errFunc.trans owned.errFunc⟩

/-- Two sockets that differ in what the invariant does not say. -/
structure Socket.Alike (socket other : Socket) : Prop where
  state : socket.state = other.state
  sockTpcb : socket.sockTpcb = other.sockTpcb
  acceptQueue : socket.acceptQueue = other.acceptQueue
  rx : other.state = .unallocated → socket.rx = other.rx

open Socket

theorem Socket.Alike.refl (socket : Socket) : socket.Alike socket :=
  ⟨rfl, rfl, rfl, fun _ => rfl⟩

theorem Socket.Alike.references {other : Socket} (alike : socket.Alike other) :
    socket.references = other.references := by
  rw [Socket.references, Socket.references, alike.sockTpcb, alike.acceptQueue]

section

variable {pcbs pcbs' : Pcb → LwipPcb} {nextPcb' : Pcb} {socket' : Socket} {refcount : Int}

theorem Backed.congr (backed : Backed index pcbs socket refcount)
    (sameState : socket'.state = socket.state)
    (sockTpcb : socket'.sockTpcb = socket.sockTpcb)
    (rx : socket.state = .unallocated → socket'.rx = socket.rx)
    (same : ∀ tpcb, socket.sockTpcb = some tpcb → (pcbs' tpcb).Alike (pcbs tpcb)) :
    Backed index pcbs' socket' refcount := by
  cases backed with
  | unallocated state empty closed =>
    exact .unallocated (sameState.trans state) (sockTpcb.trans empty) closed (by rwa [rx state])
  | failed state empty closed =>
    exact .failed (sameState.trans state) (sockTpcb.trans empty) closed
  | unconnected state holds phase owned referenced =>
    exact .unconnected (by rwa [sameState]) (sockTpcb.trans holds)
      ((same _ holds).phase.trans phase) ((same _ holds).owned owned) referenced
  | connecting state holds phase owned referenced =>
    exact .connecting (sameState.trans state) (sockTpcb.trans holds)
      (by rwa [(same _ holds).phase]) ((same _ holds).owned owned) referenced
  | connected state holds phase owned recvFunc referenced =>
    exact .connected (sameState.trans state) (sockTpcb.trans holds)
      (by rwa [(same _ holds).phase]) ((same _ holds).owned owned)
      ((same _ holds).recvFunc.trans recvFunc) referenced
  | closing state holds phase handedBack recvFunc closed =>
    exact .closing (sameState.trans state) (sockTpcb.trans holds)
      (by rwa [(same _ holds).phase]) ((same _ holds).handedBack.trans handedBack)
      (by rwa [(same _ holds).phase, (same _ holds).recvFunc]) closed
  | closedByPeer state holds phase handedBack arg referenced =>
    exact .closedByPeer (sameState.trans state) (sockTpcb.trans holds)
      (by rwa [(same _ holds).phase]) ((same _ holds).handedBack.trans handedBack)
      ((same _ holds).arg.trans arg) referenced
  | error state holds phase referenced =>
    exact .error (sameState.trans state) (sockTpcb.trans holds)
      ((same _ holds).phase.trans phase) referenced
  | listening state holds phase arg referenced =>
    exact .listening (sameState.trans state) (sockTpcb.trans holds)
      ((same _ holds).phase.trans phase) ((same _ holds).arg.trans arg) referenced

theorem Listened.congr (listened : Listened pcbs socket) (alike : socket'.Alike socket)
    (same : ∀ tpcb, socket.sockTpcb = some tpcb → (pcbs' tpcb).Alike (pcbs tpcb)) :
    Listened pcbs' socket' := by
  rcases listened with state | ⟨state, tpcb, holds, phase⟩
  · exact .inl (alike.state.trans state)
  · exact .inr ⟨alike.state.trans state, tpcb, alike.sockTpcb.trans holds,
      (same _ holds).phase.trans phase⟩

theorem SlotSound.congr (sound : SlotSound index pcbs nextPcb socket refcount)
    (alike : socket'.Alike socket)
    (same : ∀ tpcb ∈ socket.references, (pcbs' tpcb).Alike (pcbs tpcb))
    (later : nextPcb ≤ nextPcb') : SlotSound index pcbs' nextPcb' socket' refcount := by
  have held (tpcb : Pcb) (holds : socket.sockTpcb = some tpcb) :=
    same tpcb (mem_references_of_holds holds)
  refine ⟨sound.backed.congr alike.state alike.sockTpcb alike.rx held, ?_, ?_, ?_, ?_, ?_⟩
  · rw [alike.acceptQueue]
    exact sound.wellFormed
  · rw [alike.acceptQueue]
    exact fun waiting => (sound.listened waiting).congr alike held
  · rw [alike.acceptQueue]
    intro tpcb member
    obtain ⟨phase, errFunc, recvFunc⟩ := sound.unaccepted tpcb member
    have alike := same tpcb (mem_references.mpr (.inr member))
    exact ⟨by rwa [alike.phase], alike.errFunc.trans errFunc, alike.recvFunc.trans recvFunc⟩
  · rw [alike.references]
    exact sound.nodup
  · rw [alike.references]
    exact fun tpcb member => (sound.known tpcb member).trans_le later

end

namespace SocketLayer

variable {layer next : SocketLayer}

variable {count : Int} {pcbs : Pcb → LwipPcb} {sockets : Fin maxSockets → Socket}

/-! ### Events that change one slot -/

theorem Becomes.same_refcount (becomes : next.Becomes sockets layer.socketRefcount pcbs nextPcb)
    (index : Fin maxSockets) :
    next.Becomes sockets
      (update layer.socketRefcount index (layer.socketRefcount index)) pcbs nextPcb := by
  rwa [update_eq_self]

theorem Becomes.same_pcbs {count : Fin maxSockets → Int}
    (becomes : next.Becomes sockets count layer.pcbs nextPcb) (tpcb : Pcb) :
    next.Becomes sockets count (update layer.pcbs tpcb (layer.pcbs tpcb)) nextPcb := by
  rwa [update_eq_self]

/-- What holds of a PCB that lwIP knows, told of what the PCB has become. -/
theorem PcbSound.of_pcb (pcbIs : next.pcbs tpcb = pcb)
    (unknown : next.nextPcb ≤ tpcb → pcb.phase = .freed)
    (recvFunc : pcb.recvFunc = true → pcb.errFunc = true)
    (connecting : pcb.phase = .connecting → pcb.errFunc = true)
    (idle : pcb.phase = .idle → pcb.handedBack = false)
    (called : pcb.phase.Active → pcb.errFunc = true → ∀ index, pcb.arg = some index →
      (next.sockets index).sockTpcb = some tpcb) : next.PcbSound tpcb := by
  subst pcbIs
  exact ⟨unknown, recvFunc, connecting, idle, called⟩

theorem PcbSound.of_alike (sound : layer.PcbSound tpcb)
    (sockets : ∀ index, (next.sockets index).sockTpcb = (layer.sockets index).sockTpcb)
    (alike : (next.pcbs tpcb).Alike (layer.pcbs tpcb)) (later : layer.nextPcb ≤ next.nextPcb) :
    next.PcbSound tpcb := by
  obtain ⟨unknown, recvFunc, connecting, idle, called⟩ := sound
  refine ⟨fun fresh => ?_, ?_, ?_, ?_, ?_⟩
  · exact alike.phase.trans (unknown (later.trans fresh))
  · rw [alike.recvFunc, alike.errFunc]
    exact recvFunc
  · rw [alike.phase, alike.errFunc]
    exact connecting
  · rw [alike.phase, alike.handedBack]
    exact idle
  · rw [alike.phase, alike.errFunc, alike.arg]
    intro active errFunc index arg
    exact (sockets index).trans (called active errFunc index arg)

/-- Nothing changes that the invariant is about, except that lwIP may have given out another PCB. -/
theorem Sound.of_alike (sound : layer.Sound)
    (sockets : ∀ index, (next.sockets index).Alike (layer.sockets index))
    (refcount : next.socketRefcount = layer.socketRefcount)
    (pcbs : ∀ tpcb, tpcb < layer.nextPcb → (next.pcbs tpcb).Alike (layer.pcbs tpcb))
    (later : layer.nextPcb ≤ next.nextPcb)
    (new : ∀ tpcb, layer.nextPcb ≤ tpcb → next.PcbSound tpcb) : next.Sound where
  slots index := by
    rw [refcount]
    have slot := sound.slots index
    exact slot.congr (sockets index) (fun tpcb member => pcbs tpcb (slot.known tpcb member)) later
  apart index other tpcb held held' := by
    rw [(sockets _).references] at held held'
    exact sound.apart index other tpcb held held'
  pcbs tpcb := by
    rcases Nat.lt_or_ge tpcb layer.nextPcb with known | fresh
    · exact (sound.pcbs tpcb).of_alike (fun index => (sockets index).sockTpcb) (pcbs tpcb known)
        later
    · exact new tpcb fresh

/-- The same, where lwIP has given out nothing. -/
theorem Sound.of_alike_known (sound : layer.Sound)
    (sockets : ∀ index, (next.sockets index).Alike (layer.sockets index))
    (refcount : next.socketRefcount = layer.socketRefcount)
    (pcbs : ∀ tpcb, (next.pcbs tpcb).Alike (layer.pcbs tpcb))
    (nextPcb : next.nextPcb = layer.nextPcb) : next.Sound :=
  sound.of_alike sockets refcount (fun tpcb _ => pcbs tpcb) nextPcb.ge fun tpcb _ =>
    (sound.pcbs tpcb).of_alike (fun index => (sockets index).sockTpcb) (pcbs tpcb) nextPcb.ge

theorem PcbSound.of_unknown (sound : layer.PcbSound tpcb) (fresh : layer.nextPcb ≤ tpcb)
    (same : next.pcbs tpcb = layer.pcbs tpcb) : next.PcbSound tpcb := by
  refine .of_pcb same (fun _ => sound.unknown fresh) sound.recvFunc sound.connecting sound.idle ?_
  rw [sound.unknown fresh]
  exact not_active_freed.elim

/-- One slot is changed, and of the known PCBs the one it holds or takes. -/
structure Touches (layer next : SocketLayer) (index : Fin maxSockets) (tpcb : Pcb) : Prop where
  sockets : ∀ other, other ≠ index → next.sockets other = layer.sockets other
  refcount : ∀ other, other ≠ index → next.socketRefcount other = layer.socketRefcount other
  pcbs : ∀ other, other ≠ tpcb → other < layer.nextPcb → next.pcbs other = layer.pcbs other
  later : layer.nextPcb ≤ next.nextPcb
  held : ∀ other, (layer.sockets index).sockTpcb = some other → other = tpcb
  foreign : ∀ other, other ≠ index → tpcb ∉ (layer.sockets other).references

theorem Sound.of_touches (sound : layer.Sound) (touches : layer.Touches next index tpcb)
    (slot : SlotSound index next.pcbs next.nextPcb (next.sockets index) (next.socketRefcount index))
    (references : ∀ other ∈ (next.sockets index).references,
      other ∈ (layer.sockets index).references ∨ other = tpcb ∨ layer.nextPcb ≤ other)
    (pcb : next.PcbSound tpcb)
    (new : ∀ other, layer.nextPcb ≤ other → other ≠ tpcb → next.PcbSound other) : next.Sound := by
  have foreign : ∀ other ∈ (next.sockets index).references, ∀ slot, slot ≠ index →
      other ∉ (layer.sockets slot).references := by
    intro other member slot different elsewhere
    rcases references other member with before | rfl | fresh
    · exact different (sound.apart _ _ _ elsewhere before)
    · exact touches.foreign slot different elsewhere
    · exact absurd ((sound.slots slot).known other elsewhere) (Nat.not_lt.mpr fresh)
  refine ⟨fun slot' => ?_, ?_, fun other => ?_⟩
  · by_cases same : slot' = index
    · rw [same]
      exact slot
    · rw [touches.sockets slot' same, touches.refcount slot' same]
      refine (sound.slots slot').congr (Socket.Alike.refl _) (fun other member => ?_) touches.later
      have different : other ≠ tpcb := fun equal => touches.foreign slot' same (equal ▸ member)
      rw [touches.pcbs other different ((sound.slots slot').known other member)]
      exact LwipPcb.Alike.refl _
  · intro first second other held held'
    by_cases atFirst : first = index
    · by_cases atSecond : second = index
      · rw [atFirst, atSecond]
      · rw [touches.sockets second atSecond] at held'
        exact (foreign other (atFirst ▸ held) second atSecond held').elim
    · rw [touches.sockets first atFirst] at held
      by_cases atSecond : second = index
      · exact (foreign other (atSecond ▸ held') first atFirst held).elim
      · rw [touches.sockets second atSecond] at held'
        exact sound.apart first second other held held'
  · by_cases same : other = tpcb
    · rw [same]
      exact pcb
    · rcases Nat.lt_or_ge other layer.nextPcb with known | fresh
      · obtain ⟨_, recvFunc, connecting, idle, called⟩ := sound.pcbs other
        refine .of_pcb (touches.pcbs other same known) (fun beyond => ?_) recvFunc connecting idle ?_
        · exact absurd (known.trans_le touches.later) (Nat.not_lt.mpr beyond)
        · intro active errFunc slot' arg
          have holds := called active errFunc slot' arg
          rw [touches.sockets slot' fun equal => same (touches.held other (equal ▸ holds))]
          exact holds
      · exact new other fresh same

theorem Touches.of_becomes
    (becomes : next.Becomes (update layer.sockets index socket)
      (update layer.socketRefcount index count) pcbs nextPcb)
    (same : ∀ other, other ≠ tpcb → other < layer.nextPcb → pcbs other = layer.pcbs other)
    (later : layer.nextPcb ≤ nextPcb)
    (held : ∀ other, (layer.sockets index).sockTpcb = some other → other = tpcb)
    (foreign : ∀ other, other ≠ index → tpcb ∉ (layer.sockets other).references) :
    layer.Touches next index tpcb where
  sockets _ := becomes.socket_of_ne
  refcount _ := becomes.refcount_of_ne
  pcbs other different known := (congrFun becomes.pcbs other).trans (same other different known)
  later := later.trans_eq becomes.nextPcb.symm
  held := held
  foreign := foreign

/-- The PCB that a slot holds is in no other slot. -/
theorem Sound.touches_held (sound : layer.Sound)
    (holds : (layer.sockets index).sockTpcb = some tpcb)
    (becomes : next.Becomes (update layer.sockets index socket)
      (update layer.socketRefcount index count) pcbs nextPcb)
    (same : ∀ other, other ≠ tpcb → other < layer.nextPcb → pcbs other = layer.pcbs other)
    (later : layer.nextPcb ≤ nextPcb) : layer.Touches next index tpcb :=
  .of_becomes becomes same later (fun _ same => Option.some.inj (same.symm.trans holds))
    fun _ different member =>
      different (sound.apart _ _ _ member (mem_references_of_holds holds))

/-- A slot and the PCB it holds are changed, and the queue of the slot is as it was. -/
theorem Sound.of_held (sound : layer.Sound) (holds : (layer.sockets index).sockTpcb = some tpcb)
    (becomes : next.Becomes (update layer.sockets index socket)
      (update layer.socketRefcount index count)
      (update layer.pcbs tpcb pcb) layer.nextPcb)
    (queue : socket.acceptQueue = (layer.sockets index).acceptQueue)
    (keeps : socket.sockTpcb = some tpcb ∨ socket.sockTpcb = none)
    (backed : ∀ pcbs, pcbs tpcb = pcb → Backed index pcbs socket count)
    (listened : (layer.sockets index).acceptQueue.entries ≠ [] →
      ∀ pcbs, pcbs tpcb = pcb → Listened pcbs socket)
    (known : pcb.recvFunc = true → pcb.errFunc = true)
    (connecting : pcb.phase = .connecting → pcb.errFunc = true)
    (idle : pcb.phase = .idle → pcb.handedBack = false)
    (called : pcb.phase.Active → pcb.errFunc = true → ∀ other, pcb.arg = some other →
      other = index ∧ socket.sockTpcb = some tpcb) : next.Sound := by
  have touches := sound.touches_held holds becomes (fun _ different _ => update_of_ne different _ _)
    le_rfl
  have slot := sound.slots index
  have subset : ∀ other ∈ socket.references, other ∈ (layer.sockets index).references := by
    intro other member
    rw [mem_references, queue] at member
    rw [mem_references]
    rcases member with held | pending
    · rcases keeps with same | none
      · exact .inl (holds.trans (same.symm.trans held))
      · cases none.symm.trans held
    · exact .inr pending
  have socketIs := becomes.socket_self
  have pcbIs := becomes.pcb_self
  have parts : (layer.sockets index).references =
      tpcb :: (layer.sockets index).acceptQueue.entries := by
    rw [references, holds]
    rfl
  have nodup := slot.nodup
  rw [parts] at nodup
  refine sound.of_touches touches ?_ ?_ ?_ ?_
  · rw [socketIs, becomes.refcount_self, becomes.nextPcb]
    refine ⟨backed _ pcbIs, queue ▸ slot.wellFormed,
      fun waiting => listened (queue ▸ waiting) _ pcbIs, ?_, ?_, ?_⟩
    · intro other member
      rw [queue] at member
      have different : other ≠ tpcb := fun same => (nodup_cons.mp nodup).1 (same ▸ member)
      rw [becomes.pcb_of_ne different]
      exact slot.unaccepted other member
    · rcases keeps with same | none
      · rw [references, same, queue]
        exact nodup
      · rw [references, none, queue]
        exact (nodup_cons.mp nodup).2
    · exact fun other member => slot.known other (subset other member)
  · rw [socketIs]
    exact fun other member => .inl (subset other member)
  · refine .of_pcb pcbIs (fun unknown => ?_) known connecting idle ?_
    · rw [becomes.nextPcb] at unknown
      exact absurd (slot.known tpcb (mem_references_of_holds holds)) (Nat.not_lt.mpr unknown)
    · intro active errFunc other arg
      obtain ⟨rfl, held⟩ := called active errFunc other arg
      rw [socketIs, held]
  · exact fun other fresh different =>
      (sound.pcbs other).of_unknown fresh (becomes.pcb_of_ne different)

/-! ### Events that change one PCB in place -/

/-- A connection, or a PCB that nobody is told of, is closed further. -/
structure ClosesFurther (pcb closed : LwipPcb) : Prop where
  live : pcb.phase ≠ .freed
  before : pcb.phase.Opened ∨ pcb.phase = .connecting ∧ pcb.arg = none
  phase : closed.phase.Opened
  active : closed.phase.Active → pcb.phase.Active
  arg : closed.arg = pcb.arg
  errFunc : closed.errFunc = pcb.errFunc
  recvFunc : closed.recvFunc = pcb.recvFunc
  handedBack : pcb.handedBack = true → closed.handedBack = true

theorem Backed.closesFurther {refcount : Int} (closes : ClosesFurther (pcbs tpcb) pcb)
    (backed : Backed index pcbs socket refcount) (holds : socket.sockTpcb = some tpcb) :
    Backed index (update pcbs tpcb pcb) socket refcount := by
  have own (owned : (pcbs tpcb).Owned index) (phase : (pcbs tpcb).phase.Opened → False) : False :=
    closes.before.elim phase fun before => by cases before.2.symm.trans owned.arg
  cases backed with
  | unallocated state empty | failed state empty => cases empty.symm.trans holds
  | unconnected state same phase owned referenced =>
    cases same.symm.trans holds
    exact (own owned fun opened => by rwa [phase] at opened).elim
  | connecting state same phase owned referenced =>
    cases same.symm.trans holds
    refine (own owned fun opened => ?_).elim
    rcases phase with phase | phase <;> rwa [phase] at opened
  | connected state same phase owned recvFunc referenced =>
    cases same.symm.trans holds
    refine .connected state holds ?_ ⟨?_, ?_⟩ ?_ referenced <;> rw [update_self]
    · exact closes.phase
    · exact closes.arg.trans owned.arg
    · exact closes.errFunc.trans owned.errFunc
    · exact closes.recvFunc.trans recvFunc
  | closing state same phase handedBack recvFunc closed =>
    cases same.symm.trans holds
    refine .closing state holds ?_ ?_ ?_ closed <;> rw [update_self]
    · exact closes.phase
    · exact closes.handedBack handedBack
    · exact .inr (closes.recvFunc.trans (recvFunc.resolve_left closes.live))
  | closedByPeer state same phase handedBack arg referenced =>
    cases same.symm.trans holds
    refine .closedByPeer state holds ?_ ?_ ?_ referenced <;> rw [update_self]
    · exact closes.phase
    · exact closes.handedBack handedBack
    · exact closes.arg.trans arg
  | error state same phase referenced =>
    cases same.symm.trans holds
    exact (closes.live phase).elim
  | listening state same phase arg referenced =>
    cases same.symm.trans holds
    rcases closes.before with opened | ⟨_, none⟩
    · rw [phase] at opened
      exact opened.elim
    · cases none.symm.trans arg

theorem Sound.of_closesFurther (sound : layer.Sound) (closes : ClosesFurther (layer.pcbs tpcb) pcb)
    (becomes : next.Becomes layer.sockets layer.socketRefcount
      (update layer.pcbs tpcb pcb) layer.nextPcb) : next.Sound where
  slots index := by
    rw [becomes.sockets, becomes.socketRefcount, becomes.pcbs, becomes.nextPcb]
    have slot := sound.slots index
    refine ⟨?_, slot.wellFormed, fun waiting => ?_, fun other member => ?_, slot.nodup, slot.known⟩
    · by_cases holds : (layer.sockets index).sockTpcb = some tpcb
      · exact Backed.closesFurther closes slot.backed holds
      · refine slot.backed.congr rfl rfl (fun _ => rfl) fun other same => ?_
        rw [update_of_ne fun equal : other = tpcb => holds (equal ▸ same)]
        exact LwipPcb.Alike.refl _
    · rcases slot.listened waiting with state | ⟨state, other, holds, phase⟩
      · exact .inl state
      · refine .inr ⟨state, other, holds, ?_⟩
        rw [update_of_ne fun equal : other = tpcb => closes.live (equal ▸ phase)]
        exact phase
    · by_cases same : other = tpcb
      · obtain ⟨phase, errFunc, recvFunc⟩ := slot.unaccepted other member
        rw [same, update_self]
        rw [same] at errFunc recvFunc
        exact ⟨closes.phase, closes.errFunc.trans errFunc, closes.recvFunc.trans recvFunc⟩
      · rw [update_of_ne same]
        exact slot.unaccepted other member
  apart index other tpcb := by
    rw [becomes.sockets]
    exact sound.apart index other tpcb
  pcbs other := by
    by_cases same : other = tpcb
    · obtain ⟨unknown, recvFunc, _, _, called⟩ := sound.pcbs tpcb
      have opened := closes.phase
      rw [same]
      refine .of_pcb becomes.pcb_self (fun fresh => ?_) ?_ (fun phase => ?_) (fun phase => ?_) ?_
      · rw [becomes.nextPcb] at fresh
        exact (closes.live (unknown fresh)).elim
      · rw [closes.recvFunc, closes.errFunc]
        exact recvFunc
      · rw [phase] at opened
        exact opened.elim
      · rw [phase] at opened
        exact opened.elim
      · rw [closes.errFunc, closes.arg, becomes.sockets]
        exact fun active => called (closes.active active)
    · refine (sound.pcbs other).of_alike (fun _ => by rw [becomes.sockets]) ?_ becomes.nextPcb.ge
      rw [becomes.pcb_of_ne same]
      exact LwipPcb.Alike.refl _

/-! ### Events that move a connection -/

theorem Sound.dequeue (sound : layer.Sound) (oldest : layer.Oldest index tpcb) :
    (layer.dequeue index).Sound ∧ (layer.pcbs tpcb).Unaccepted ∧ tpcb < layer.nextPcb ∧
      ∀ other, tpcb ∉ ((layer.dequeue index).sockets other).references := by
  have becomes : (layer.dequeue index).Becomes _ _ _ _ := ⟨rfl, rfl, rfl, rfl⟩
  have slot := sound.slots index
  have entries := slot.wellFormed.entries_dequeue oldest.waiting
  rw [← oldest.same] at entries
  have listened := slot.listened (entries ▸ cons_ne_nil _ _)
  obtain ⟨held, holds⟩ : ∃ held, (layer.sockets index).sockTpcb = some held := by
    cases slot.backed with
    | unallocated state | failed state =>
      rcases listened with other | ⟨other, _⟩ <;> cases state.symm.trans other
    | unconnected _ holds | connecting _ holds | connected _ holds | closing _ holds
    | closedByPeer _ holds | error _ holds | listening _ holds => exact ⟨_, holds⟩
  have parts : (layer.sockets index).references = held :: tpcb ::
      (layer.sockets index).acceptQueue.dequeue.entries := by
    rw [references, holds, entries]
    rfl
  have nodup := slot.nodup
  rw [parts] at nodup
  have member : tpcb ∈ (layer.sockets index).references := by
    rw [parts]
    exact mem_cons_of_mem _ mem_cons_self
  have socketIs := becomes.socket_self
  have after : ((layer.dequeue index).sockets index).references = held ::
      (layer.sockets index).acceptQueue.dequeue.entries := by
    rw [socketIs, references, holds]
    rfl
  have pcbsSame : (layer.dequeue index).pcbs = layer.pcbs := becomes.pcbs
  refine ⟨?_, slot.unaccepted tpcb (entries ▸ mem_cons_self), slot.known tpcb member, ?_⟩
  · have touches := sound.touches_held holds (becomes.same_refcount index) (fun _ _ _ => rfl) le_rfl
    have kept (other : Pcb) : (layer.dequeue index).PcbSound other := by
      refine (sound.pcbs other).of_alike (fun slot' => ?_) ?_ becomes.nextPcb.ge
      · by_cases same : slot' = index
        · rw [same, socketIs]
        · rw [becomes.socket_of_ne same]
      · exact LwipPcb.Alike.refl _
    refine sound.of_touches touches ?_ (fun other here => .inl ?_) (kept held) fun other _ _ =>
      kept other
    · rw [socketIs, pcbsSame, becomes.nextPcb]
      refine ⟨?_, slot.wellFormed.dequeue, fun _ => ?_, fun other pending => ?_, ?_,
        fun other here => ?_⟩
      · exact slot.backed.congr rfl rfl (fun _ => rfl) fun _ _ => LwipPcb.Alike.refl _
      · exact listened
      · exact slot.unaccepted other (entries ▸ mem_cons_of_mem _ pending)
      · rw [← socketIs, after]
        exact nodup.sublist ((sublist_cons_self _ _).cons_cons held)
      · rw [← socketIs, after] at here
        refine slot.known other ?_
        rw [parts]
        exact ((sublist_cons_self _ _).cons_cons held).subset here
    · rw [after] at here
      rw [parts]
      exact ((sublist_cons_self _ _).cons_cons held).subset here
  · intro other elsewhere
    by_cases same : other = index
    · rw [same, after] at elsewhere
      have apart := nodup_cons.mp nodup
      rcases mem_cons.mp elsewhere with equal | pending
      · exact apart.1 (equal ▸ mem_cons_self)
      · exact (nodup_cons.mp apart.2).1 pending
    · rw [becomes.socket_of_ne same] at elsewhere
      exact same (sound.apart _ _ _ elsewhere member)

/-! ### Every event -/

theorem alike_update (alike : socket.Alike (sockets index)) (other : Fin maxSockets) :
    (update sockets index socket other).Alike (sockets other) := by
  by_cases same : other = index
  · rw [same, update_self]
    exact alike
  · rw [update_of_ne same]
    exact Socket.Alike.refl _

theorem alike_update_pcb (alike : pcb.Alike (pcbs tpcb)) (other : Pcb) :
    (update pcbs tpcb pcb other).Alike (pcbs other) := by
  by_cases same : other = tpcb
  · rw [same, update_self]
    exact alike
  · rw [update_of_ne same]
    exact LwipPcb.Alike.refl _

theorem Sound.not_unallocated (sound : layer.Sound)
    (holds : (layer.sockets index).sockTpcb = some tpcb) :
    (layer.sockets index).state ≠ .unallocated :=
  fun state => by cases (sound.of_unallocated state).1.symm.trans holds

variable {event : Event}

theorem Sound.of_quiet (sound : layer.Sound) (quiet : Quiet layer event next) : next.Sound := by
  have unchanged {index : Fin maxSockets} {waiters : Semaphore → List Blocked} :
      Socket.Alike { layer.sockets index with waiters } (layer.sockets index) :=
    ⟨rfl, rfl, rfl, fun _ => rfl⟩
  have sending {tpcb : Pcb} {sndbuf : Nat} :
      LwipPcb.Alike { layer.pcbs tpcb with sndbuf } (layer.pcbs tpcb) := ⟨rfl, rfl, rfl, rfl, rfl⟩
  cases quiet with
  | same _ becomes | refused _ _ becomes =>
    refine sound.of_alike_known ?_ becomes.socketRefcount ?_ becomes.nextPcb
    · rw [becomes.sockets]
      exact fun _ => Socket.Alike.refl _
    · rw [becomes.pcbs]
      exact fun _ => LwipPcb.Alike.refl _
  | waitsConnect _ _ _ becomes | waitsRecv _ _ becomes | waitsSend _ _ _ _ _ becomes
  | waitsAccept _ _ _ becomes =>
    refine sound.of_alike_known ?_ becomes.socketRefcount ?_ becomes.nextPcb
    · rw [becomes.sockets]
      exact alike_update unchanged
    · rw [becomes.pcbs]
      exact fun _ => LwipPcb.Alike.refl _
  | reads _ holds _ becomes =>
    refine sound.of_alike_known ?_ becomes.socketRefcount ?_ becomes.nextPcb
    · rw [becomes.sockets]
      exact alike_update ⟨rfl, rfl, rfl, fun state => (sound.not_unallocated holds state).elim⟩
    · rw [becomes.pcbs]
      exact fun _ => LwipPcb.Alike.refl _
  | writes _ _ becomes | sentUnnoticed _ _ becomes =>
    refine sound.of_alike_known ?_ becomes.socketRefcount ?_ becomes.nextPcb
    · rw [becomes.sockets]
      exact fun _ => Socket.Alike.refl _
    · rw [becomes.pcbs]
      exact alike_update_pcb sending
  | segment _ _ _ connected _ becomes =>
    refine sound.of_alike_known ?_ becomes.socketRefcount ?_ becomes.nextPcb
    · rw [becomes.sockets]
      exact alike_update ⟨rfl, rfl, rfl, fun state => by cases state.symm.trans connected⟩
    · rw [becomes.pcbs]
      exact fun _ => LwipPcb.Alike.refl _
  | sent _ _ _ _ becomes =>
    refine sound.of_alike_known ?_ becomes.socketRefcount ?_ becomes.nextPcb
    · rw [becomes.sockets]
      exact alike_update unchanged
    · rw [becomes.pcbs]
      exact alike_update_pcb sending

/-- A slot that nobody uses takes a PCB that no slot has. -/
theorem Sound.takes (sound : layer.Sound) {index : Fin maxSockets} {tpcb : Pcb} {nextPcb : Pcb}
    {socket : Socket} {count : Int} {pcb : LwipPcb}
    (state : (layer.sockets index).state = .unallocated)
    (foreign : ∀ other, tpcb ∉ (layer.sockets other).references)
    (becomes : next.Becomes (update layer.sockets index socket)
      (update layer.socketRefcount index count)
      (update layer.pcbs tpcb pcb) nextPcb)
    (later : layer.nextPcb ≤ nextPcb) (known : tpcb < nextPcb)
    (wellFormed : socket.acceptQueue.WellFormed) (entries : socket.acceptQueue.entries = [])
    (holds : socket.sockTpcb = some tpcb)
    (backed : ∀ pcbs, pcbs tpcb = pcb → Backed index pcbs socket count)
    (errFunc : pcb.errFunc = true) (arg : pcb.arg = some index)
    (idle : pcb.phase = .idle → pcb.handedBack = false) : next.Sound := by
  have references : socket.references = [tpcb] := by
    rw [references, holds, entries]
    rfl
  have socketIs := becomes.socket_self
  have pcbIs := becomes.pcb_self
  have touches : layer.Touches next index tpcb :=
    .of_becomes becomes (fun _ different _ => update_of_ne different _ _) later
      (fun other holds => by cases (sound.of_unallocated state).1.symm.trans holds)
      fun other _ => foreign other
  refine sound.of_touches touches ?_ ?_ ?_ ?_
  · rw [socketIs, becomes.refcount_self, becomes.nextPcb]
    refine ⟨backed _ pcbIs, wellFormed, fun waiting => absurd entries waiting, ?_, ?_, ?_⟩
    · rw [entries]
      simp
    · rw [references]
      exact pairwise_singleton _ _
    · rw [references]
      exact fun other member => mem_singleton.mp member ▸ known
  · rw [socketIs, references]
    exact fun other member => .inr (.inl (mem_singleton.mp member))
  · refine .of_pcb pcbIs (fun fresh => ?_) (fun _ => errFunc) (fun _ => errFunc) idle ?_
    · rw [becomes.nextPcb] at fresh
      exact absurd known (Nat.not_lt.mpr fresh)
    · intro _ _ other same
      cases arg.symm.trans same
      exact (congrArg sockTpcb socketIs).trans holds
  · exact fun other fresh different =>
      (sound.pcbs other).of_unknown fresh (becomes.pcb_of_ne different)

/-- Only the reference count of a slot in use changes, and the slot stays in use. -/
theorem Sound.recount (sound : layer.Sound) (referenced : 0 < layer.socketRefcount index)
    (referenced' : 0 < count)
    (becomes : next.Becomes layer.sockets (update layer.socketRefcount index count)
      layer.pcbs layer.nextPcb) : next.Sound where
  slots other := by
    rw [becomes.sockets, becomes.socketRefcount, becomes.pcbs, becomes.nextPcb]
    by_cases same : other = index
    · rw [same, update_self]
      obtain ⟨backed, wellFormed, listened, unaccepted, nodup, known⟩ := sound.slots index
      refine ⟨?_, wellFormed, listened, unaccepted, nodup, known⟩
      cases backed with
      | unallocated _ _ closed | closing _ _ _ _ _ closed => exact absurd closed referenced.ne'
      | failed _ _ closed => exact absurd closed referenced.not_gt
      | unconnected state holds phase owned => exact .unconnected state holds phase owned referenced'
      | connecting state holds phase owned => exact .connecting state holds phase owned referenced'
      | connected state holds phase owned recvFunc =>
        exact .connected state holds phase owned recvFunc referenced'
      | closedByPeer state holds phase handedBack arg =>
        exact .closedByPeer state holds phase handedBack arg referenced'
      | error state holds phase => exact .error state holds phase referenced'.le
      | listening state holds phase arg => exact .listening state holds phase arg referenced'
    · rw [update_of_ne same]
      exact sound.slots other
  apart first second tpcb := by
    rw [becomes.sockets]
    exact sound.apart first second tpcb
  pcbs tpcb := by
    refine (sound.pcbs tpcb).of_alike ?_ ?_ becomes.nextPcb.ge
    · rw [becomes.sockets]
      exact fun _ => rfl
    · rw [becomes.pcbs]
      exact LwipPcb.Alike.refl _

theorem Sound.openFailed (sound : layer.Sound) {index : Fin maxSockets}
    (state : (layer.sockets index).state = .unallocated)
    (becomes : next.Becomes
      (update layer.sockets index
        { layer.sockets index with state := .allocated, sockTpcb := none })
      (update layer.socketRefcount index (layer.socketRefcount index - 1))
      layer.pcbs layer.nextPcb) : next.Sound := by
  obtain ⟨empty, unreferenced⟩ := sound.of_unallocated state
  have socketIs := becomes.socket_self
  have references : (next.sockets index).references = (layer.sockets index).references := by
    rw [socketIs, references, references, empty]
  have kept (tpcb : Pcb) : next.PcbSound tpcb := by
    refine (sound.pcbs tpcb).of_alike (fun other => ?_) ?_ becomes.nextPcb.ge
    · by_cases same : other = index
      · rw [same, socketIs, empty]
      · rw [becomes.socket_of_ne same]
    · rw [becomes.pcbs]
      exact LwipPcb.Alike.refl _
  have touches : layer.Touches next index layer.nextPcb :=
    .of_becomes becomes (fun _ _ _ => rfl) le_rfl
      (fun other holds => by cases empty.symm.trans holds)
      fun other _ member => lt_irrefl _ ((sound.slots other).known _ member)
  have slot := sound.slots index
  have entries : (layer.sockets index).acceptQueue.entries = [] :=
    sound.entries_eq_nil (by rw [state]; decide) (by rw [state]; decide)
  refine sound.of_touches touches ?_ (fun other member => .inl (references ▸ member)) (kept _)
    fun other _ _ => kept other
  rw [becomes.refcount_self, becomes.pcbs, becomes.nextPcb, unreferenced]
  refine ⟨?_, ?_, ?_, ?_, references ▸ slot.nodup, references ▸ slot.known⟩
  · rw [socketIs]
    exact .failed rfl rfl (by decide)
  · rw [socketIs]
    exact slot.wellFormed
  · rw [socketIs]
    exact fun waiting => absurd entries waiting
  · rw [socketIs]
    exact slot.unaccepted

/-- A slot exchanges its PCB for one that listens. -/
theorem Sound.listens (sound : layer.Sound) {index : Fin maxSockets} {tpcb : Pcb}
    (referenced : 0 < layer.socketRefcount index)
    (holds : (layer.sockets index).sockTpcb = some tpcb)
    (phase : (layer.pcbs tpcb).phase = .idle)
    (becomes : next.Becomes
      (update layer.sockets index
        { layer.sockets index with sockTpcb := some layer.nextPcb, state := .listening })
      layer.socketRefcount
      (update (update layer.pcbs tpcb (layer.pcbs tpcb).free) layer.nextPcb
        (LwipPcb.fresh .listening (layer.pcbs tpcb).arg 0))
      (layer.nextPcb + 1)) : next.Sound := by
  have slot := sound.slots index
  have owned : (layer.pcbs tpcb).Owned index := by
    cases slot.backed with
    | unallocated _ empty | failed _ empty => cases empty.symm.trans holds
    | unconnected _ same _ owned | connecting _ same _ owned | connected _ same _ owned =>
      cases same.symm.trans holds
      exact owned
    | closing _ same opened | closedByPeer _ same opened =>
      cases same.symm.trans holds
      rw [phase] at opened
      exact opened.elim
    | error _ same freed =>
      cases same.symm.trans holds
      cases phase.symm.trans freed
    | listening _ same listening =>
      cases same.symm.trans holds
      cases phase.symm.trans listening
  have socketIs := becomes.socket_self
  have newIs := becomes.pcb_self
  have known := slot.known tpcb (mem_references_of_holds holds)
  have oldIs : next.pcbs tpcb = (layer.pcbs tpcb).free := by
    rw [becomes.pcb_of_ne known.ne, update_self]
  have others (other : Pcb) (fresh : other ≠ layer.nextPcb) (different : other ≠ tpcb) :
      next.pcbs other = layer.pcbs other := by
    rw [becomes.pcb_of_ne fresh, update_of_ne different]
  have parts : (layer.sockets index).references =
      tpcb :: (layer.sockets index).acceptQueue.entries := by
    rw [references, holds]
    rfl
  have parts' : (next.sockets index).references =
      layer.nextPcb :: (layer.sockets index).acceptQueue.entries := by
    rw [socketIs]
    rfl
  have nodup := slot.nodup
  rw [parts] at nodup
  have pending (other : Pcb) (member : other ∈ (layer.sockets index).acceptQueue.entries) :
      other < layer.nextPcb ∧ other ≠ tpcb := by
    refine ⟨slot.known other (mem_references.mpr (.inr member)), ?_⟩
    exact fun same => (nodup_cons.mp nodup).1 (same ▸ member)
  have touches := sound.touches_held holds (becomes.same_refcount index) (fun other different old =>
    (update_of_ne old.ne _ _).trans (update_of_ne different _ _)) (Nat.le_succ _)
  refine sound.of_touches touches ?_ ?_ ?_ ?_
  · rw [becomes.socketRefcount, becomes.nextPcb]
    refine ⟨?_, ?_, fun _ => ?_, fun other member => ?_, ?_, fun other member => ?_⟩
    · rw [socketIs]
      refine .listening rfl rfl ?_ ?_ referenced <;> rw [newIs]
      · rfl
      · exact owned.arg
    · rw [socketIs]
      exact slot.wellFormed
    · rw [socketIs]
      exact .inl rfl
    · rw [socketIs] at member
      obtain ⟨old, different⟩ := pending other member
      rw [others other old.ne different]
      exact slot.unaccepted other member
    · rw [parts']
      refine nodup_cons.mpr ⟨fun member => ?_, (nodup_cons.mp nodup).2⟩
      exact lt_irrefl _ (pending _ member).1
    · rw [parts'] at member
      rcases mem_cons.mp member with rfl | member
      · exact Nat.lt_succ_self _
      · exact (pending other member).1.trans (Nat.lt_succ_self _)
  · intro other member
    rw [parts'] at member
    rcases mem_cons.mp member with rfl | member
    · exact .inr (.inr le_rfl)
    · exact .inl (parts ▸ mem_cons_of_mem _ member)
  · exact .of_pcb oldIs (fun _ => rfl) (sound.pcbs tpcb).recvFunc (by rintro ⟨⟩) (by rintro ⟨⟩)
      not_active_freed.elim
  · intro other fresh different
    by_cases same : other = layer.nextPcb
    · rw [same]
      refine .of_pcb newIs (fun later => ?_) (by rintro ⟨⟩) (by rintro ⟨⟩) (by rintro ⟨⟩)
        fun active => active.elim
      rw [becomes.nextPcb] at later
      exact absurd later (Nat.not_le.mpr (Nat.lt_succ_self _))
    · exact (sound.pcbs other).of_unknown fresh (others other same different)

/-- A connection is queued. -/
theorem Sound.queued (sound : layer.Sound) {index : Fin maxSockets} {sndbuf : Nat} {socket : Socket}
    (state : (layer.sockets index).state = .listening)
    (room : ((layer.sockets index).acceptQueue.head + 1) % maxListenBacklog ≠
      (layer.sockets index).acceptQueue.tail)
    (queue : socket.acceptQueue = (layer.sockets index).acceptQueue.enqueue layer.nextPcb)
    (sameState : socket.state = (layer.sockets index).state)
    (sockTpcb : socket.sockTpcb = (layer.sockets index).sockTpcb)
    (becomes : next.Becomes (update layer.sockets index socket) layer.socketRefcount
      (update layer.pcbs layer.nextPcb (LwipPcb.fresh .established (some index) sndbuf))
      (layer.nextPcb + 1)) : next.Sound := by
  have slot := sound.slots index
  have entries : socket.acceptQueue.entries =
      (layer.sockets index).acceptQueue.entries ++ [layer.nextPcb] := by
    rw [queue, slot.wellFormed.entries_enqueue room]
  have references : socket.references = (layer.sockets index).references ++ [layer.nextPcb] := by
    rw [references, references, sockTpcb, entries, append_assoc]
  have socketIs := becomes.socket_self
  have newIs := becomes.pcb_self
  obtain ⟨held, holds, _⟩ := sound.of_listening state
  have heldKnown := slot.known held (mem_references_of_holds holds)
  have slots (other : Fin maxSockets) :
      (next.sockets other).sockTpcb = (layer.sockets other).sockTpcb := by
    by_cases same : other = index
    · rw [same, socketIs, sockTpcb]
    · rw [becomes.socket_of_ne same]
  have touches := sound.touches_held holds (becomes.same_refcount index)
    (fun _ _ old => update_of_ne old.ne _ _) (Nat.le_succ _)
  refine sound.of_touches touches ?_ ?_ ?_ ?_
  · rw [socketIs, becomes.socketRefcount, becomes.nextPcb]
    refine ⟨?_, ?_, fun _ => .inl (sameState.trans state), fun other member => ?_, ?_,
      fun other member => ?_⟩
    · refine slot.backed.congr sameState sockTpcb (fun free => by cases state.symm.trans free) ?_
      intro other same
      cases holds.symm.trans same
      rw [becomes.pcb_of_ne heldKnown.ne]
      exact LwipPcb.Alike.refl _
    · rw [queue]
      exact slot.wellFormed.enqueue _
    · rw [entries, mem_append, mem_singleton] at member
      rcases member with before | rfl
      · have old := slot.known other (mem_references.mpr (.inr before))
        rw [becomes.pcb_of_ne old.ne]
        exact slot.unaccepted other before
      · rw [newIs]
        exact ⟨trivial, rfl, rfl⟩
    · rw [references]
      refine nodup_append.mpr ⟨slot.nodup, pairwise_singleton _ _, ?_⟩
      intro other member new fresh
      rw [mem_singleton.mp fresh]
      exact (slot.known other member).ne
    · rw [references, mem_append, mem_singleton] at member
      rcases member with before | rfl
      · exact (slot.known other before).trans (Nat.lt_succ_self _)
      · exact Nat.lt_succ_self _
  · intro other member
    rw [socketIs, references, mem_append, mem_singleton] at member
    exact member.imp_right fun same => .inr same.ge
  · exact (sound.pcbs held).of_alike slots (becomes.pcb_of_ne heldKnown.ne ▸ LwipPcb.Alike.refl _)
      (becomes.nextPcb ▸ Nat.le_succ _)
  · intro other fresh _
    by_cases same : other = layer.nextPcb
    · rw [same]
      refine .of_pcb newIs (fun later => ?_) (by rintro ⟨⟩) (by rintro ⟨⟩) (by rintro ⟨⟩)
        (by rintro _ ⟨⟩)
      rw [becomes.nextPcb] at later
      exact absurd later (Nat.not_le.mpr (Nat.lt_succ_self _))
    · exact (sound.pcbs other).of_unknown fresh (becomes.pcb_of_ne same)

theorem Transfers.active (transfers : layer.Transfers tpcb) :
    (layer.pcbs tpcb).phase.Active ∧ (layer.pcbs tpcb).phase.Opened := by
  rcases transfers with phase | phase <;> rw [phase] <;> exact ⟨trivial, trivial⟩

theorem Sound.refcount_nonneg (sound : layer.Sound)
    (holds : (layer.sockets index).sockTpcb = some tpcb) : 0 ≤ layer.socketRefcount index := by
  cases (sound.slots index).backed with
  | unallocated _ empty | failed _ empty => cases empty.symm.trans holds
  | unconnected _ _ _ _ referenced | connecting _ _ _ _ referenced
  | connected _ _ _ _ _ referenced | closedByPeer _ _ _ _ _ referenced
  | listening _ _ _ _ referenced => exact referenced.le
  | closing _ _ _ _ _ closed => exact closed.ge
  | error _ _ _ referenced => exact referenced

theorem closesFurther_close (live : pcb.phase ≠ .freed) (opened : pcb.phase.Opened)
    (result : CloseResult) : ClosesFurther pcb (pcb.close result) := by
  have phase : pcb.phase = .established ∨ pcb.phase = .closing := by
    cases same : pcb.phase with
    | established => exact .inl rfl
    | closing => exact .inr rfl
    | freed => exact (live same).elim
    | idle | listening | connecting =>
      rw [same] at opened
      exact opened.elim
  obtain ⟨after, handedBack, arg, errFunc, recvFunc⟩ := close_opened phase result
  refine ⟨live, .inl opened, after, fun _ => ?_, arg, errFunc, recvFunc, fun _ => handedBack⟩
  rcases phase with phase | phase <;> rw [phase] <;> trivial

/-- The oldest connection of a queue is closed, because there is no slot for it. -/
theorem Sound.dropped (sound : layer.Sound) {index : Fin maxSockets} {tpcb : Pcb}
    {result : CloseResult}
    (oldest : layer.Oldest index tpcb)
    (live : layer.Live tpcb)
    (becomes : next.Becomes (layer.dequeue index).sockets layer.socketRefcount
      (update layer.pcbs tpcb ((layer.pcbs tpcb).close result)) layer.nextPcb) :
    next.Sound := by
  obtain ⟨sound', unaccepted, _, _⟩ := sound.dequeue oldest
  exact sound'.of_closesFurther (closesFurther_close live unaccepted.phase result)
    ⟨becomes.sockets, becomes.socketRefcount, becomes.pcbs, becomes.nextPcb⟩

/-- The oldest connection of a queue gets a slot of its own. -/
theorem Sound.accepted (sound : layer.Sound) {index new : Fin maxSockets} {tpcb : Pcb}
    (oldest : layer.Oldest index tpcb)
    (different : new ≠ index) (state : (layer.sockets new).state = .unallocated)
    (becomes : next.Becomes
      (update (layer.dequeue index).sockets new ((layer.sockets new).taking tpcb))
      (update layer.socketRefcount new (layer.socketRefcount new + 1))
      (update layer.pcbs tpcb
        { layer.pcbs tpcb with errFunc := true, recvFunc := true, arg := some new })
      layer.nextPcb) : next.Sound := by
  obtain ⟨sound', unaccepted, known, foreign⟩ := sound.dequeue oldest
  have free : ((layer.dequeue index).sockets new).state = .unallocated := by
    rwa [setSocket_sockets_of_ne different]
  have becomes' : next.Becomes (update (layer.dequeue index).sockets new _)
      (update (layer.dequeue index).socketRefcount new _)
      (update (layer.dequeue index).pcbs tpcb _) (layer.dequeue index).nextPcb :=
    ⟨becomes.sockets, becomes.socketRefcount, becomes.pcbs, becomes.nextPcb⟩
  refine sound'.takes free foreign becomes' le_rfl known (sound.slots new).wellFormed ?_ rfl ?_ rfl
    rfl (sound.pcbs tpcb).idle
  · exact sound.entries_eq_nil (by rw [state]; decide) (by rw [state]; decide)
  · intro pcbs same
    refine .connected rfl rfl ?_ ⟨?_, ?_⟩ ?_ ?_
    · rw [same]
      exact unaccepted.phase
    · rw [same]
    · rw [same]
    · rw [same]
    · rw [(sound.of_unallocated state).2]
      decide

theorem close_of_listening (phase : pcb.phase = .listening) (result : CloseResult) :
    pcb.close result = { pcb with phase := .freed, handedBack := true } := by
  obtain ⟨_, _, _, _, _, _, _⟩ := pcb
  cases phase
  cases result <;> rfl

theorem closesFurther_free (active : pcb.phase.Active)
    (unnoticed : pcb.phase = .connecting → pcb.arg = none) : ClosesFurther pcb pcb.free := by
  refine ⟨active.not_freed, ?_, trivial, not_active_freed.elim, rfl, rfl, rfl, id⟩
  cases phase : pcb.phase with
  | connecting => exact .inr ⟨rfl, unnoticed phase⟩
  | established | closing => exact .inl trivial
  | idle | listening | freed =>
    rw [phase] at active
    exact active.elim

theorem Sound.closed (sound : layer.Sound) {index : Fin maxSockets} {tpcb : Pcb}
    {result : CloseResult}
    (state : (layer.sockets index).state = .listening ∨ (layer.sockets index).state = .connected)
    (holds : (layer.sockets index).sockTpcb = some tpcb) (live : layer.Live tpcb)
    (becomes : next.Becomes
      (update layer.sockets index { layer.sockets index with state := .closing })
      (update layer.socketRefcount index 0)
      (update layer.pcbs tpcb ((layer.pcbs tpcb).close result)) layer.nextPcb) :
    next.Sound := by
  rcases state with state | state
  · have phase : (layer.pcbs tpcb).phase = .listening := by
      obtain ⟨own, same, phase, _⟩ := sound.of_listening state
      cases same.symm.trans holds
      exact phase
    have closed := close_of_listening phase result
    rw [closed] at becomes
    refine sound.of_held holds becomes rfl (.inl holds) ?_ ?_ (sound.pcbs tpcb).recvFunc
      (by simp) (by simp) not_active_freed.elim
    · intro pcbs same
      exact .closing rfl holds (by rw [same]; trivial) (by rw [same]) (.inl (by rw [same])) rfl
    · intro _ pcbs same
      exact .inr ⟨rfl, tpcb, holds, by rw [same]⟩
  · obtain ⟨own, same, opened, owned, recvFunc, _⟩ := sound.of_connected state
    cases same.symm.trans holds
    have closes := closesFurther_close live opened result
    have handedBack : ((layer.pcbs tpcb).close result).handedBack = true := by
      unfold LwipPcb.close
      split <;> rfl
    have errFunc := closes.errFunc.trans owned.errFunc
    refine sound.of_held holds becomes rfl (.inl holds) ?_ ?_ (fun _ => errFunc) (fun _ => errFunc)
      (fun idle => ?_) ?_
    · intro pcbs same
      refine .closing rfl holds ?_ ?_ (.inr ?_) rfl <;> rw [same]
      · exact closes.phase
      · exact handedBack
      · exact closes.recvFunc.trans recvFunc
    · exact fun waiting => absurd (sound.entries_eq_nil (by rw [state]; decide)
        (by rw [state]; decide)) waiting
    · have after := closes.phase
      rw [idle] at after
      exact after.elim
    · intro _ _ other arg
      exact ⟨Option.some.inj (arg.symm.trans (closes.arg.trans owned.arg)), holds⟩

theorem Sound.released (sound : layer.Sound) {index : Fin maxSockets}
    (last : layer.socketRefcount index = 1)
    (state : (layer.sockets index).state = .allocated ∨ (layer.sockets index).state = .bound ∨
      (layer.sockets index).state = .error ∨ (layer.sockets index).state = .closedByPeer)
    (becomes : next.Becomes (update layer.sockets index (layer.sockets index).release)
      (update layer.socketRefcount index 0) layer.pcbs layer.nextPcb) : next.Sound := by
  obtain ⟨tpcb, holds, called⟩ : ∃ tpcb, (layer.sockets index).sockTpcb = some tpcb ∧
      ((layer.pcbs tpcb).phase.Active → (layer.pcbs tpcb).arg = none) := by
    cases (sound.slots index).backed with
    | unallocated _ _ closed | failed _ _ closed | closing _ _ _ _ _ closed => omega
    | unconnected _ holds phase =>
      exact ⟨_, holds, by rw [phase]; exact fun active => active.elim⟩
    | closedByPeer _ holds _ _ arg => exact ⟨_, holds, fun _ => arg⟩
    | error _ holds phase => exact ⟨_, holds, by rw [phase]; exact fun active => active.elim⟩
    | connecting other | connected other | listening other =>
      rcases state with state | state | state | state <;> cases state.symm.trans other
  refine sound.of_held holds (becomes.same_pcbs tpcb) rfl (.inr rfl) ?_ ?_
    (sound.pcbs tpcb).recvFunc (sound.pcbs tpcb).connecting (sound.pcbs tpcb).idle ?_
  · exact fun pcbs _ => .unallocated rfl rfl rfl ⟨rfl, rfl⟩
  · refine fun waiting => absurd (sound.entries_eq_nil ?_ ?_) waiting <;>
      rcases state with state | state | state | state <;> rw [state] <;> decide
  · exact fun active _ other same => by cases (called active).symm.trans same

theorem Sound.failed (sound : layer.Sound) {index : Fin maxSockets} {tpcb : Pcb}
    {lastError : Option Errno} (active : (layer.pcbs tpcb).phase.Active)
    (errFunc : (layer.pcbs tpcb).errFunc = true) (arg : (layer.pcbs tpcb).arg = some index)
    (becomes : next.Becomes
      (update layer.sockets index
        (if (layer.sockets index).state = .connecting then
          ({ layer.sockets index with state := .error, lastError } : Socket).signal .connectSem
        else { layer.sockets index with state := .error, lastError }))
      layer.socketRefcount (update layer.pcbs tpcb (layer.pcbs tpcb).free)
      layer.nextPcb) : next.Sound := by
  have holds := (sound.pcbs tpcb).called active errFunc index arg
  have queue : (layer.sockets index).acceptQueue.entries = [] := by
    by_contra waiting
    rcases (sound.slots index).listened waiting with state | ⟨_, other, same, freed⟩
    · obtain ⟨own, same, phase, _⟩ := sound.of_listening state
      cases same.symm.trans holds
      rw [phase] at active
      exact active.elim
    · cases same.symm.trans holds
      exact active.not_freed freed
  have referenced := sound.refcount_nonneg holds
  split at becomes
  · refine sound.of_held holds (becomes.same_refcount _) rfl (.inl holds) ?_
      (fun waiting => absurd queue waiting) (sound.pcbs tpcb).recvFunc (by rintro ⟨⟩)
      (by rintro ⟨⟩) not_active_freed.elim
    exact fun pcbs same => .error rfl holds (by rw [same]; rfl) referenced
  · refine sound.of_held holds (becomes.same_refcount _) rfl (.inl holds) ?_
      (fun waiting => absurd queue waiting) (sound.pcbs tpcb).recvFunc (by rintro ⟨⟩)
      (by rintro ⟨⟩) not_active_freed.elim
    exact fun pcbs same => .error rfl holds (by rw [same]; rfl) referenced

theorem Sound.of_change (sound : layer.Sound) (change : Change layer event next) : next.Sound := by
  cases change with
  | quiet quiet => exact sound.of_quiet quiet
  | opened _ state becomes =>
    refine sound.takes state ?_ becomes (Nat.le_succ _) (Nat.lt_succ_self _)
      (AcceptQueue.wellFormed_reset _) (AcceptQueue.entries_reset _) rfl ?_ rfl rfl fun _ => rfl
    · exact fun other member => lt_irrefl _ ((sound.slots other).known _ member)
    · intro pcbs same
      refine .unconnected (.inl rfl) rfl (by rw [same]; rfl) (by rw [same]; exact ⟨rfl, rfl⟩) ?_
      rw [(sound.of_unallocated state).2]
      decide
  | openFailed _ state becomes => exact sound.openFailed state becomes
  | bound _ state holds becomes =>
    obtain ⟨idle, owned, referenced⟩ := sound.of_unconnected (.inl state) holds
    refine sound.of_held holds ((becomes.same_refcount _).same_pcbs _) rfl (.inl holds) ?_ ?_
      (sound.pcbs _).recvFunc (sound.pcbs _).connecting (sound.pcbs _).idle ?_
    · intro pcbs same
      exact .unconnected (.inr rfl) holds (by rwa [same]) (by rwa [same]) referenced
    · exact fun waiting => absurd (sound.entries_eq_nil (by rw [state]; decide)
        (by rw [state]; decide)) waiting
    · rw [idle]
      exact fun active => active.elim
  | @connects index tpcb phase waiters _ state holds started becomes =>
    obtain ⟨idle, owned, referenced⟩ := sound.of_unconnected state.symm holds
    have phases : phase = .idle ∨ phase = .connecting := started.symm.imp (·.1) (·.1)
    refine sound.of_held holds (becomes.same_refcount _) rfl (.inl holds) ?_ ?_
      (fun _ => owned.errFunc) (fun _ => owned.errFunc) (fun _ => (sound.pcbs tpcb).idle idle) ?_
    · intro pcbs same
      exact .connecting rfl holds (by rwa [same]) (by rw [same]; exact ⟨owned.arg, owned.errFunc⟩)
        referenced
    · refine fun waiting => absurd (sound.entries_eq_nil ?_ ?_) waiting <;>
        rcases state with state | state <;> rw [state] <;> decide
    · intro _ _ other arg
      exact ⟨Option.some.inj (arg.symm.trans owned.arg), holds⟩
  | listens _ referenced holds phase becomes => exact sound.listens referenced holds phase becomes
  | dropped _ oldest live becomes => exact sound.dropped oldest live becomes
  | accepted _ oldest different state _ becomes =>
    exact sound.accepted oldest different state becomes
  | duplicated _ referenced becomes => exact sound.recount referenced (by omega) becomes
  | closedShared _ shared becomes => exact sound.recount (by omega) (by omega) becomes
  | closed _ _ state holds live becomes => exact sound.closed state holds live becomes
  | @aborted index tpcb _ _ _ state holds becomes =>
    refine sound.of_held holds becomes rfl (.inr rfl) ?_ ?_ (sound.pcbs tpcb).recvFunc ?_ ?_ ?_
    · exact fun pcbs _ => .unallocated rfl rfl rfl ⟨rfl, rfl⟩
    · exact fun waiting => absurd (sound.entries_eq_nil (by rw [state]; decide)
        (by rw [state]; decide)) waiting
    · rintro ⟨⟩
    · rintro ⟨⟩
    · exact fun active => active.elim
  | released _ last state becomes => exact sound.released last state becomes
  | @connected index tpcb _ phase arg state becomes =>
    have errFunc := (sound.pcbs tpcb).connecting phase
    have holds := (sound.pcbs tpcb).called (by rw [phase]; trivial) errFunc index arg
    refine sound.of_held holds (becomes.same_refcount _) rfl (.inl holds) ?_ ?_
      (fun _ => errFunc) (fun _ => errFunc) (by simp) ?_
    · intro pcbs same
      refine .connected rfl holds ?_ ⟨?_, ?_⟩ ?_ ?_
      · rw [same]
        trivial
      · rw [same]
        exact arg
      · rw [same]
        exact errFunc
      · rw [same]
      · obtain ⟨_, _, _, _, referenced⟩ := sound.of_connecting state
        exact referenced
    · exact fun waiting => absurd (sound.entries_eq_nil (by rw [state]; decide)
        (by rw [state]; decide)) waiting
    · intro _ _ other same
      exact ⟨Option.some.inj (same.symm.trans arg), holds⟩
  | @failed index tpcb _ lastError _ active errFunc arg becomes =>
    exact sound.failed active errFunc arg becomes
  | @failedUnnoticed tpcb _ _ active unnoticed becomes =>
    exact sound.of_closesFurther (closesFurther_free active fun phase =>
      unnoticed ((sound.pcbs tpcb).connecting phase)) becomes
  | queued _ _ state room becomes =>
    refine sound.queued state room ?_ ?_ ?_ becomes <;> rfl
  | @turnedAway index tpcb _ pcb _ _ _ _ freed recvFunc becomes =>
    refine sound.of_alike ?_ becomes.socketRefcount
      (fun other old => becomes.pcb_of_ne old.ne ▸ LwipPcb.Alike.refl _)
      (becomes.nextPcb ▸ Nat.le_succ _) fun other fresh => ?_
    · rw [becomes.sockets]
      exact alike_update ⟨rfl, rfl, rfl, fun _ => rfl⟩
    · by_cases same : other = layer.nextPcb
      · rw [same]
        refine .of_pcb becomes.pcb_self (fun _ => freed) (by simp [recvFunc]) (by simp [freed])
          (by simp [freed]) ?_
        rw [freed]
        exact not_active_freed.elim
      · exact (sound.pcbs other).of_unknown fresh (becomes.pcb_of_ne same)
  | @ended index tpcb _ pcb _ recvFunc transfers arg state _ closed becomes =>
    have errFunc := (sound.pcbs tpcb).recvFunc recvFunc
    have holds := (sound.pcbs tpcb).called transfers.active.1 errFunc index arg
    obtain ⟨opened, handedBack, forgotten, errFunc'⟩ := closed
    refine sound.of_held holds (becomes.same_refcount _) rfl (.inl holds) ?_ ?_
      (fun _ => errFunc') (fun _ => errFunc') (fun idle => ?_) ?_
    · intro pcbs same
      refine .closedByPeer rfl holds (by rwa [same]) (by rwa [same]) (by rwa [same]) ?_
      obtain ⟨_, _, _, _, _, referenced⟩ := sound.of_connected state
      exact referenced
    · exact fun waiting => absurd (sound.entries_eq_nil (by rw [state]; decide)
        (by rw [state]; decide)) waiting
    · rw [idle] at opened
      exact opened.elim
    · exact fun _ _ other same => by cases forgotten.symm.trans same
  | @endedClosing index tpcb _ _ recvFunc transfers arg state becomes =>
    have errFunc := (sound.pcbs tpcb).recvFunc recvFunc
    have holds := (sound.pcbs tpcb).called transfers.active.1 errFunc index arg
    refine sound.of_held holds (becomes.same_refcount _) rfl (.inr rfl) ?_ ?_
      (sound.pcbs tpcb).recvFunc (sound.pcbs tpcb).connecting (sound.pcbs tpcb).idle ?_
    · refine fun pcbs _ => .unallocated rfl rfl ?_ ⟨rfl, rfl⟩
      obtain ⟨_, _, _, _, _, closed⟩ := sound.of_closing state
      exact closed
    · intro waiting
      rcases (sound.slots index).listened waiting with other | ⟨_, other, same, freed⟩
      · cases state.symm.trans other
      · cases same.symm.trans holds
        exact (transfers.active.1.not_freed freed).elim
    · exact fun _ _ other same => by cases same
  | @endedUnnoticed tpcb _ pcb _ recvFunc transfers closed becomes =>
    obtain ⟨opened, handedBack, arg, errFunc, recvFunc'⟩ := closed
    exact sound.of_closesFurther ⟨transfers.active.1.not_freed, .inl transfers.active.2, opened,
      fun _ => transfers.active.1, arg, errFunc, recvFunc'.trans recvFunc.symm,
      fun _ => handedBack⟩ becomes
  | @freed tpcb _ phase becomes =>
    refine sound.of_closesFurther (closesFurther_free ?_ fun other => ?_) becomes
    · rw [phase]
      trivial
    · cases phase.symm.trans other

theorem step_sound (sound : layer.Sound) (step : LayerStep layer event next) : next.Sound := by
  rcases step_cases sound step with ⟨fault, _, rfl⟩ | ⟨change, _⟩
  · exact ⟨sound.slots, sound.apart, fun tpcb =>
      (sound.pcbs tpcb).of_alike (fun _ => rfl) (LwipPcb.Alike.refl _) le_rfl⟩
  · exact sound.of_change change

theorem zeroed_sound : zeroed.Sound := by
  have nothing (index : Fin maxSockets) : (zeroed.sockets index).references = [] := by
    rw [references, append_eq_nil_iff]
    exact ⟨rfl, AcceptQueue.entries_reset _⟩
  refine ⟨fun index => ?_, fun index _ tpcb member => ?_, fun tpcb => ?_⟩
  · refine ⟨.unallocated rfl rfl rfl ⟨rfl, rfl⟩, AcceptQueue.wellFormed_reset _,
      fun waiting => ?_, fun tpcb member => ?_, ?_, fun tpcb member => ?_⟩
    · exact absurd (AcceptQueue.entries_reset _) waiting
    · exact absurd (mem_references.mpr (.inr member)) (nothing index ▸ not_mem_nil)
    · rw [nothing index]
      exact List.Pairwise.nil
    · exact absurd member (nothing index ▸ not_mem_nil)
  · exact absurd member (nothing index ▸ not_mem_nil)
  · exact ⟨fun _ => rfl, by rintro ⟨⟩, by rintro ⟨⟩, by rintro ⟨⟩, not_active_freed.elim⟩

theorem Sound.state_of_connecting (sound : layer.Sound)
    (phase : (layer.pcbs tpcb).phase = .connecting) (arg : (layer.pcbs tpcb).arg = some index) :
    (layer.sockets index).state = .connecting := by
  have holds := (sound.pcbs tpcb).called (by rw [phase]; trivial)
    ((sound.pcbs tpcb).connecting phase) index arg
  cases (sound.slots index).backed with
  | connecting state => exact state
  | unallocated _ empty | failed _ empty => cases empty.symm.trans holds
  | unconnected _ same other | error _ same other | listening _ same other =>
    cases same.symm.trans holds
    cases phase.symm.trans other
  | connected _ same opened | closing _ same opened | closedByPeer _ same opened =>
    cases same.symm.trans holds
    rw [phase] at opened
    exact opened.elim

theorem run_sound {events : List Event} (run : Run LayerStep zeroed events layer) : layer.Sound :=
  run.invariant Sound zeroed_sound fun _ _ _ sound step => step_sound sound step

end SocketLayer

end LionsOS.Sock
