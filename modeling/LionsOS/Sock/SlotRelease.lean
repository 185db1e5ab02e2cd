/-
This file is about slots that nobody refers to any more. Once lwIP has freed the
PCB of such a slot, the slot has to be free as well. It is, except when lwIP frees
the PCB without the peer having closed: at once, as it does with a PCB that
listens, or later and for an error. Nobody is left then who could release the
slot.
-/

import LionsOS.Sock.Invariant

open Function

namespace LionsOS.Sock

open StepRun

namespace SocketLayer

variable {layer next : SocketLayer} {event : Event} {socket : Socket} {index : Fin maxSockets}

variable {other : Fin maxSockets} {count : Int} {pcb : LwipPcb} {tpcb nextPcb : Pcb}
  {result : CloseResult}

/-- If nobody refers to a slot, and it holds no PCB that lwIP has not freed, the slot is free. A count
below 0 says as well that nobody refers to the slot. -/
def SlotReleased (layer : SocketLayer) (index : Fin maxSockets) : Prop :=
  layer.socketRefcount index ≤ 0 →
    (∀ tpcb, (layer.sockets index).sockTpcb = some tpcb → ¬ layer.Live tpcb) →
    (layer.sockets index).state = .unallocated ∧ (layer.sockets index).sockTpcb = none ∧
      (layer.sockets index).rx.rxHead = 0 ∧ (layer.sockets index).rx.rxLen = 0

def EverySlotReleased (layer : SocketLayer) : Prop :=
  ∀ index, layer.SlotReleased index

/-- Somebody can still release the slot. -/
structure Releasable (layer : SocketLayer) (index : Fin maxSockets) : Prop where
  referenced : (layer.sockets index).state = .error ∨ (layer.sockets index).state = .allocated →
    0 < layer.socketRefcount index
  closing : (layer.sockets index).state = .closing →
    ∀ tpcb, (layer.sockets index).sockTpcb = some tpcb → layer.Live tpcb

theorem Releasable.of_state (error : (layer.sockets index).state ≠ .error)
    (allocated : (layer.sockets index).state ≠ .allocated)
    (closing : (layer.sockets index).state ≠ .closing) : layer.Releasable index :=
  ⟨fun state => (state.elim error allocated).elim, fun state => (closing state).elim⟩

theorem Sound.slotReleased_iff (sound : layer.Sound) :
    layer.SlotReleased index ↔ layer.Releasable index := by
  cases (sound.slots index).backed with
  | unallocated state empty _ rx =>
    refine iff_of_true (fun _ _ => ⟨state, empty, rx⟩) (.of_state ?_ ?_ ?_) <;>
      rw [state] <;> simp
  | failed state empty closed =>
    refine iff_of_false (fun released => ?_) fun releasable => ?_
    · have free := released closed.le fun tpcb held => by cases empty.symm.trans held
      cases state.symm.trans free.1
    · exact absurd (releasable.referenced (.inr state)) closed.not_gt
  | unconnected state _ _ _ referenced =>
    refine iff_of_true (fun closed => absurd referenced closed.not_gt) ⟨fun _ => referenced, ?_⟩
    exact fun other => by rcases state with state | state <;> cases state.symm.trans other
  | connecting state _ _ _ referenced | connected state _ _ _ _ referenced
  | closedByPeer state _ _ _ _ referenced | listening state _ _ _ referenced =>
    refine iff_of_true (fun closed => absurd referenced closed.not_gt) (.of_state ?_ ?_ ?_) <;>
      rw [state] <;> simp
  | @closing tpcb state holds _ _ _ closed =>
    constructor
    · intro released
      refine ⟨fun other => ?_, fun _ other same => ?_⟩
      · rcases other with other | other <;> cases state.symm.trans other
      · by_contra dead
        have free := released closed.le fun tpcb held =>
          Option.some.inj (same.symm.trans held) ▸ dead
        cases state.symm.trans free.1
    · exact fun releasable _ dead => (dead tpcb holds (releasable.closing state tpcb holds)).elim
  | @error tpcb state holds freed referenced =>
    constructor
    · intro released
      refine ⟨fun _ => ?_, fun other => by cases state.symm.trans other⟩
      by_contra closed
      have free := released (Int.not_lt.mp closed) fun other same =>
        not_not_intro (Option.some.inj (holds.symm.trans same) ▸ freed)
      cases state.symm.trans free.1
    · exact fun releasable closed =>
        absurd (releasable.referenced (.inl state)) closed.not_gt

theorem Sound.everySlotReleased_iff (sound : layer.Sound) :
    layer.EverySlotReleased ↔ ∀ index, layer.Releasable index :=
  forall_congr' fun _ => sound.slotReleased_iff

/-! ### Steps that keep slots releasable -/

/-- What happens to a slot that an event does not change. -/
theorem Releasable.of_same (releasable : layer.Releasable index)
    (state : (next.sockets index).state = (layer.sockets index).state)
    (sockTpcb : (next.sockets index).sockTpcb = (layer.sockets index).sockTpcb)
    (refcount : 0 < layer.socketRefcount index → 0 < next.socketRefcount index)
    (live : ∀ tpcb, (layer.sockets index).sockTpcb = some tpcb →
      (layer.sockets index).state = .closing → layer.Live tpcb → next.Live tpcb) :
    next.Releasable index := by
  refine ⟨fun opened => ?_, fun closing tpcb holds => ?_⟩
  · rw [state] at opened
    exact refcount (releasable.referenced opened)
  · rw [state] at closing
    rw [sockTpcb] at holds
    exact live tpcb holds closing (releasable.closing closing tpcb holds)

/-- Only how many descriptors a slot has is changed, and one is left if there was one. -/
theorem Releasable.of_counted (releasable : layer.Releasable other)
    (becomes : next.Becomes layer.sockets (update layer.socketRefcount index count)
      layer.pcbs layer.nextPcb) (left : 0 < layer.socketRefcount index → 0 < count) :
    next.Releasable other := by
  refine releasable.of_same ?_ ?_ ?_ fun _ _ _ => ?_
  · rw [becomes.sockets]
  · rw [becomes.sockets]
  · rw [becomes.socketRefcount]
    by_cases same : other = index
    · rw [same, update_self]
      exact left
    · rw [update_of_ne same]
      exact id
  · rw [Live, Live, becomes.pcbs]
    exact id

/-- A slot keeps its state and its PCB when an event changes something else of it. -/
theorem kept_of_update (sockets : next.sockets = update layer.sockets index socket)
    (state : socket.state = (layer.sockets index).state)
    (sockTpcb : socket.sockTpcb = (layer.sockets index).sockTpcb) (other : Fin maxSockets) :
    (next.sockets other).state = (layer.sockets other).state ∧
      (next.sockets other).sockTpcb = (layer.sockets other).sockTpcb := by
  by_cases same : other = index
  · rw [sockets, same, update_self]
    exact ⟨state, sockTpcb⟩
  · rw [sockets, update_of_ne same]
    exact ⟨rfl, rfl⟩

theorem live_of_update {held : Pcb} (pcbs : next.pcbs = update layer.pcbs tpcb pcb)
    (different : held ≠ tpcb) (live : layer.Live held) : next.Live held := by
  rwa [Live, pcbs, update_of_ne different]

/-- A slot is as it was when an event changes another slot and a PCB that this one does not hold. -/
theorem Releasable.of_other (releasable : layer.Releasable other) (different : other ≠ index)
    (becomes : next.Becomes (update layer.sockets index socket)
      (update layer.socketRefcount index count)
      (update layer.pcbs tpcb pcb) nextPcb) (foreign : (layer.sockets other).sockTpcb ≠ some tpcb) :
    next.Releasable other := by
  refine releasable.of_same ?_ ?_ ?_ fun held holds _ live => ?_
  · rw [becomes.sockets, update_of_ne different]
  · rw [becomes.sockets, update_of_ne different]
  · rw [becomes.socketRefcount, update_of_ne different]
    exact id
  · have same : held ≠ tpcb := fun equal => foreign (equal ▸ holds)
    rwa [Live, becomes.pcbs, update_of_ne same]

/-- A slot is released, and no other loses its PCB. -/
theorem releasable_of_release (releasable : ∀ index, layer.Releasable index)
    (sockets : next.sockets = update layer.sockets index (layer.sockets index).release)
    (refcount : ∀ other, other ≠ index → next.socketRefcount other = layer.socketRefcount other)
    (live : ∀ held, layer.Live held → next.Live held) (other : Fin maxSockets) :
    next.Releasable other := by
  by_cases same : other = index
  · rw [same]
    refine .of_state ?_ ?_ ?_ <;> rw [sockets, update_self] <;> rintro ⟨⟩
  · refine (releasable other).of_same ?_ ?_ ?_ fun held _ _ => live held
    · rw [sockets, update_of_ne same]
    · rw [sockets, update_of_ne same]
    · rw [refcount other same]
      exact id

/-- A PCB that no closed slot waits for is freed. -/
theorem releasable_of_free (releasable : ∀ index, layer.Releasable index)
    (becomes : next.Becomes layer.sockets layer.socketRefcount (update layer.pcbs tpcb pcb) nextPcb)
    (foreign : ∀ index, (layer.sockets index).state = .closing →
      (layer.sockets index).sockTpcb ≠ some tpcb) (other : Fin maxSockets) :
    next.Releasable other := by
  refine (releasable other).of_same ?_ ?_ ?_ fun held holds state live => ?_
  · rw [becomes.sockets]
  · rw [becomes.sockets]
  · rw [becomes.socketRefcount]
    exact id
  · exact live_of_update becomes.pcbs (fun equal => foreign other state (equal ▸ holds)) live

/-- The slot whose state an event changes, and the others. -/
theorem Sound.releasable_of_held (sound : layer.Sound)
    (releasable : ∀ index, layer.Releasable index)
    (holds : (layer.sockets index).sockTpcb = some tpcb)
    (becomes : next.Becomes (update layer.sockets index socket)
      (update layer.socketRefcount index count)
      (update layer.pcbs tpcb pcb) nextPcb)
    (referenced : socket.state = .error ∨ socket.state = .allocated → 0 < count)
    (closing : socket.state = .closing → socket.sockTpcb = some tpcb ∧ pcb.phase ≠ .freed)
    (other : Fin maxSockets) : next.Releasable other := by
  by_cases same : other = index
  · rw [same]
    refine ⟨?_, ?_⟩
    · rw [becomes.sockets, becomes.socketRefcount, update_self, update_self]
      exact referenced
    · rw [becomes.sockets, update_self]
      intro state held holds'
      obtain ⟨mine, live⟩ := closing state
      rw [Live, becomes.pcbs, ← Option.some.inj (mine.symm.trans holds'), update_self]
      exact live
  · exact (releasable other).of_other same becomes (sound.holds_unique holds same)

theorem releasable_of_quiet (releasable : ∀ index, layer.Releasable index)
    (quiet : Quiet layer event next) (index : Fin maxSockets) : next.Releasable index := by
  have live {tpcb : Pcb} {sndbuf : Nat}
      (pcbs : next.pcbs = update layer.pcbs tpcb { layer.pcbs tpcb with sndbuf })
      (other : Pcb) (before : layer.Live other) : next.Live other := by
    unfold Live at *
    rw [pcbs]
    by_cases same : other = tpcb
    · rwa [same, update_self, ← same]
    · rwa [update_of_ne same]
  cases quiet with
  | same _ becomes | refused _ _ becomes =>
    refine (releasable index).of_same ?_ ?_ ?_ fun _ _ _ => ?_
    · rw [becomes.sockets]
    · rw [becomes.sockets]
    · rw [becomes.socketRefcount]
      exact id
    · rw [Live, Live, becomes.pcbs]
      exact id
  | waitsConnect _ _ _ becomes | waitsRecv _ _ becomes | waitsSend _ _ _ _ _ becomes
  | waitsAccept _ _ _ becomes | reads _ _ _ becomes | segment _ _ _ _ _ becomes =>
    obtain ⟨state, sockTpcb⟩ := kept_of_update becomes.sockets rfl rfl index
    refine (releasable index).of_same state sockTpcb ?_ fun _ _ _ => ?_
    · rw [becomes.socketRefcount]
      exact id
    · rw [Live, Live, becomes.pcbs]
      exact id
  | writes _ _ becomes | sentUnnoticed _ _ becomes =>
    refine (releasable index).of_same ?_ ?_ ?_ fun other _ _ => live becomes.pcbs other
    · rw [becomes.sockets]
    · rw [becomes.sockets]
    · rw [becomes.socketRefcount]
      exact id
  | sent _ _ _ _ becomes =>
    obtain ⟨state, sockTpcb⟩ := kept_of_update becomes.sockets rfl rfl index
    refine (releasable index).of_same state sockTpcb ?_ fun other _ _ => live becomes.pcbs other
    rw [becomes.socketRefcount]
    exact id

/-! ### Which steps lose a slot -/

/-- The event is none of these: an open that fails, with a slot for it; the last close of a socket
whose PCB is freed at once; and the end of a PCB whose socket has been closed and waits for the
peer. -/
structure LeavesReleasable (layer : SocketLayer) (event : Event) : Prop where
  opens : ∀ result, event = .socket none result → ∀ index,
    (layer.sockets index).state ≠ .unallocated
  close : ∀ index result, event = .close index result → layer.socketRefcount index = 1 →
    (layer.sockets index).state ≠ .listening ∧
      ((layer.sockets index).state = .connected → ∀ tpcb,
        (layer.sockets index).sockTpcb = some tpcb → (layer.pcbs tpcb).phase = .established →
          result ≠ .frees)
  err : ∀ tpcb err, event = .lwipErr tpcb err → ∀ index, (layer.sockets index).state = .closing →
    (layer.sockets index).sockTpcb ≠ some tpcb
  free : ∀ tpcb, event = .lwipFree tpcb → ∀ index, (layer.sockets index).state = .closing →
    (layer.sockets index).sockTpcb ≠ some tpcb

theorem close_live (opened : pcb.phase.Opened) (live : pcb.phase ≠ .freed)
    (keeps : pcb.phase = .established → result ≠ .frees) : (pcb.close result).phase ≠ .freed := by
  unfold LwipPcb.close
  cases phase : pcb.phase with
  | established =>
    cases result with
    | keeps => rintro ⟨⟩
    | frees => exact (keeps phase rfl).elim
    | fails => rintro ⟨⟩
  | closing => rintro ⟨⟩
  | freed => exact (live phase).elim
  | idle | listening | connecting =>
    rw [phase] at opened
    exact opened.elim

theorem Sound.referenced_of_active (sound : layer.Sound)
    (holds : (layer.sockets index).sockTpcb = some tpcb) (active : (layer.pcbs tpcb).phase.Active)
    (inUse : (layer.sockets index).state ≠ .closing) : 0 < layer.socketRefcount index := by
  cases (sound.slots index).backed with
  | unallocated _ empty | failed _ empty => cases empty.symm.trans holds
  | unconnected _ _ _ _ referenced | connecting _ _ _ _ referenced
  | connected _ _ _ _ _ referenced | closedByPeer _ _ _ _ _ referenced
  | listening _ _ _ _ referenced => exact referenced
  | closing state => exact (inUse state).elim
  | error _ same freed =>
    cases same.symm.trans holds
    exact (active.not_freed freed).elim

theorem Change.releasable (sound : layer.Sound) (releasable : ∀ index, layer.Releasable index)
    (condition : layer.LeavesReleasable event) (change : Change layer event next)
    (other : Fin maxSockets) : next.Releasable other := by
  cases change with
  | quiet quiet => exact releasable_of_quiet releasable quiet other
  | @opened index _ _ state becomes =>
    by_cases same : other = index
    · rw [same]
      refine ⟨fun _ => ?_, ?_⟩
      · rw [becomes.socketRefcount, update_self, (sound.of_unallocated state).2]
        decide
      · rw [becomes.sockets]
        simp
    · exact (releasable other).of_other same becomes (sound.not_holds_next other)
  | openFailed happened state => exact (condition.opens _ happened _ state).elim
  | bound _ _ holds becomes =>
    exact sound.releasable_of_held releasable holds ((becomes.same_refcount _).same_pcbs _)
      (by simp) (by simp) other
  | connects _ _ holds _ becomes =>
    exact sound.releasable_of_held releasable holds (becomes.same_refcount _) (by simp)
      (by simp) other
  | @listens index tpcb _ _ holds _ becomes =>
    by_cases same : other = index
    · rw [same]
      refine .of_state ?_ ?_ ?_ <;> rw [becomes.sockets, update_self] <;>
        simp
    · refine (releasable other).of_same ?_ ?_ ?_ fun held holds' _ live => ?_
      · rw [becomes.sockets, update_of_ne same]
      · rw [becomes.sockets, update_of_ne same]
      · rw [becomes.socketRefcount]
        exact id
      · have old : held ≠ tpcb := fun equal => sound.holds_unique holds same (equal ▸ holds')
        have known : held ≠ layer.nextPcb := fun equal => sound.not_holds_next other (equal ▸ holds')
        rwa [Live, becomes.pcbs, update_of_ne known, update_of_ne old]
  | @dropped index tpcb _ _ oldest _ becomes =>
    have foreign := sound.not_holds_oldest oldest
    obtain ⟨state, sockTpcb⟩ := kept_of_update becomes.sockets rfl rfl other
    refine (releasable other).of_same state sockTpcb ?_ fun held holds _ live => ?_
    · rw [becomes.socketRefcount]
      exact id
    · exact live_of_update becomes.pcbs (fun equal => foreign other (equal ▸ holds)) live
  | @accepted index new tpcb _ oldest _ _ _ becomes =>
    have foreign := sound.not_holds_oldest oldest
    by_cases same : other = new
    · rw [same]
      refine .of_state ?_ ?_ ?_ <;> rw [becomes.sockets, update_self] <;>
        simp
    · obtain ⟨kept, held, _⟩ := layer.dequeue_alike index other
      refine (releasable other).of_same ?_ ?_ ?_ fun held holds _ live => ?_
      · rw [becomes.sockets, update_of_ne same]
        exact kept
      · rw [becomes.sockets, update_of_ne same]
        exact held
      · rw [becomes.socketRefcount, update_of_ne same]
        exact id
      · exact live_of_update becomes.pcbs (fun equal => foreign other (equal ▸ holds)) live
  | @duplicated index _ referenced becomes =>
    exact (releasable other).of_counted becomes fun _ => Int.lt_add_one_of_le referenced.le
  | @closedShared index _ _ shared becomes =>
    exact (releasable other).of_counted becomes fun _ => Int.sub_pos_of_lt shared
  | @closed index tpcb result happened last state holds live becomes =>
    obtain ⟨listening, keeps⟩ := condition.close index result happened last
    have connected := state.resolve_left listening
    obtain ⟨own, holds', opened, _⟩ := sound.of_connected connected
    cases holds.symm.trans holds'
    have live' := close_live opened live (keeps connected tpcb holds)
    refine sound.releasable_of_held releasable holds becomes ?_ (fun _ => ⟨holds, live'⟩) other
    exact fun state => by rcases state with state | state <;> cases state
  | aborted _ _ _ holds becomes =>
    exact sound.releasable_of_held releasable holds becomes (by simp [Socket.release])
      (by rintro ⟨⟩) other
  | released _ _ _ becomes =>
    refine releasable_of_release releasable becomes.sockets (fun _ different => ?_) (fun _ => ?_)
      other
    · rw [becomes.socketRefcount, update_of_ne different]
    · rw [Live, Live, becomes.pcbs]
      exact id
  | @connected index tpcb _ phase arg _ becomes =>
    have errFunc := (sound.pcbs tpcb).connecting phase
    have holds := (sound.pcbs tpcb).called (by rw [phase]; trivial) errFunc index arg
    exact sound.releasable_of_held releasable holds (becomes.same_refcount _)
      (by simp [Socket.signal]) (by rintro ⟨⟩) other
  | @failed index tpcb err _ happened active errFunc arg becomes =>
    have holds := (sound.pcbs tpcb).called active errFunc index arg
    have referenced := sound.referenced_of_active holds active fun state =>
      condition.err _ _ happened _ state holds
    refine sound.releasable_of_held releasable holds (becomes.same_refcount _)
      (fun _ => referenced) ?_ other
    split <;> rintro ⟨⟩
  | failedUnnoticed happened _ _ becomes =>
    exact releasable_of_free releasable becomes (condition.err _ _ happened) other
  | freed happened _ becomes =>
    exact releasable_of_free releasable becomes (condition.free _ happened) other
  | queued _ _ _ _ becomes | turnedAway _ _ _ _ _ _ becomes =>
    obtain ⟨state, sockTpcb⟩ := kept_of_update becomes.sockets rfl rfl other
    refine (releasable other).of_same state sockTpcb ?_ fun held holds _ live => ?_
    · rw [becomes.socketRefcount]
      exact id
    · exact live_of_update becomes.pcbs
        (fun equal => sound.not_holds_next other (equal ▸ holds)) live
  | @ended index tpcb _ _ _ recvFunc transfers arg _ _ _ becomes =>
    have holds := (sound.pcbs tpcb).called transfers.active.1
      ((sound.pcbs tpcb).recvFunc recvFunc) index arg
    exact sound.releasable_of_held releasable holds (becomes.same_refcount _)
      (by simp [Socket.signal]) (by rintro ⟨⟩) other
  | @endedClosing index tpcb _ _ _ _ _ _ becomes =>
    refine releasable_of_release releasable becomes.sockets (fun _ _ => ?_) (fun held live => ?_)
      other
    · rw [becomes.socketRefcount]
    · by_cases same : held = tpcb
      · rw [Live, becomes.pcbs, same, update_self]
        exact same ▸ live
      · exact live_of_update becomes.pcbs same live
  | @endedUnnoticed tpcb _ _ _ recvFunc transfers _ becomes =>
    refine releasable_of_free releasable becomes (fun index state holds => ?_) other
    obtain ⟨own, holds', _, _, freed | registered, _⟩ := sound.of_closing state
    · cases holds.symm.trans holds'
      exact transfers.active.1.not_freed freed
    · cases holds.symm.trans holds'
      cases recvFunc.symm.trans registered

/-! ### Steps that lose a slot -/

theorem step_openFailed (sound : layer.Sound) (step : LayerStep layer (.socket none result) next)
    (state : (layer.sockets index).state = .unallocated) :
    ∃ lost, next.socketRefcount lost = -1 ∧ (next.sockets lost).state = .allocated := by
  rcases sound.socketAllocate_cases with ⟨_, none_free⟩ | ⟨lost, allocated⟩
  · exact (none_free index state).elim
  · obtain ⟨closed, performed, becomes⟩ := openSocket_none result sound allocated
    obtain ⟨_, _, rfl⟩ := step
    rw [perform, performed]
    refine ⟨lost, ?_, ?_⟩
    · show closed.socketRefcount lost = -1
      rw [becomes.socketRefcount, update_self,
        (sound.of_unallocated (state_of_socketAllocate allocated)).2]
      rfl
    · show (closed.sockets lost).state = .allocated
      rw [becomes.sockets, update_self]

/-- The last close of a socket that listens or is connected. -/
theorem step_close_opened (step : LayerStep layer (.close index result) next)
    (last : layer.socketRefcount index = 1)
    (state : (layer.sockets index).state = .listening ∨ (layer.sockets index).state = .connected)
    (holds : (layer.sockets index).sockTpcb = some tpcb) (live : layer.Live tpcb) :
    (next.sockets index).state = .closing ∧ (next.sockets index).sockTpcb = some tpcb ∧
      next.pcbs tpcb = (layer.pcbs tpcb).close result := by
  have closes : (layer.setRefcount index 0).tcpSocketCloseInt index result = .ok _ :=
    tcpSocketCloseInt_opened state holds live
  obtain ⟨_, _, rfl⟩ := step
  rw [perform, tcpSocketClose_of_last last, closes]
  have socket : (((layer.setRefcount index 0).setState index .closing).sockets index) =
      { layer.sockets index with state := .closing } := setState_sockets_self
  exact ⟨congrArg Socket.state socket, (congrArg Socket.sockTpcb socket).trans holds,
    setPcb_pcbs_self⟩

/-- The error callback changes the state of a slot, and wakes a call. -/
theorem socketErrFunc_cases (arg : Option (Fin maxSockets)) (err : LwipErr)
    (index : Fin maxSockets) :
    (layer.socketErrFunc arg err).pcbs = layer.pcbs ∧
      (layer.socketErrFunc arg err).socketRefcount = layer.socketRefcount ∧
      ((layer.socketErrFunc arg err).sockets index).sockTpcb = (layer.sockets index).sockTpcb ∧
      (((layer.socketErrFunc arg err).sockets index).state = (layer.sockets index).state ∨
        ((layer.socketErrFunc arg err).sockets index).state = .error) := by
  cases arg with
  | none => exact ⟨rfl, rfl, rfl, .inl rfl⟩
  | some slot =>
    unfold socketErrFunc
    dsimp only
    by_cases same : index = slot
    · subst same
      split <;> refine ⟨rfl, rfl, ?_⟩ <;> simp [signal, Socket.signal]
    · split <;> refine ⟨rfl, rfl, ?_⟩ <;> simp [signal, setSocket_sockets_of_ne same]

/-- lwIP frees a PCB because of an error, and the error callback sees to its slot. -/
theorem step_err {err : LwipErr} (step : LayerStep layer (.lwipErr tpcb err) next)
    (index : Fin maxSockets) :
    (next.pcbs tpcb).phase = .freed ∧ next.socketRefcount = layer.socketRefcount ∧
      (next.sockets index).sockTpcb = (layer.sockets index).sockTpcb ∧
      ((next.sockets index).state = (layer.sockets index).state ∨
        (next.sockets index).state = .error) := by
  have freed : ((layer.setPcb tpcb (layer.pcbs tpcb).free).pcbs tpcb).phase = .freed := by
    rw [setPcb_pcbs_self]
    rfl
  obtain ⟨_, _, rfl⟩ := step
  unfold perform
  dsimp only
  split
  · obtain ⟨pcbs, refcount, sockTpcb, state⟩ := socketErrFunc_cases (layer.pcbs tpcb).arg err index
    exact ⟨(congrArg (fun pcbs => (pcbs tpcb).phase) pcbs).trans freed, refcount, sockTpcb, state⟩
  · exact ⟨freed, rfl, rfl, .inl rfl⟩

/-- A closed slot that waits for a PCB which is freed, or has failed, is lost. -/
theorem not_releasable
    (state : (next.sockets index).state = .closing ∨
      (next.sockets index).state = .error ∧ next.socketRefcount index = 0)
    (holds : (next.sockets index).sockTpcb = some tpcb) (freed : (next.pcbs tpcb).phase = .freed) :
    ¬ next.Releasable index := by
  intro releasable
  rcases state with state | ⟨state, closed⟩
  · exact releasable.closing state tpcb holds freed
  · exact absurd (releasable.referenced (.inl state)) closed.le.not_gt

theorem step_released_iff (sound : layer.Sound) (released : layer.EverySlotReleased)
    (step : LayerStep layer event next) :
    next.EverySlotReleased ↔ layer.LeavesReleasable event := by
  rw [(step_sound sound step).everySlotReleased_iff]
  rw [sound.everySlotReleased_iff] at released
  constructor
  · intro releasable
    refine ⟨?_, ?_, ?_, ?_⟩
    · rintro result rfl index state
      obtain ⟨lost, counted, failed⟩ := step_openFailed sound step state
      have referenced := (releasable lost).referenced (.inr failed)
      omega
    · rintro index result rfl last
      refine ⟨fun state => ?_, fun state tpcb holds phase frees => ?_⟩
      · obtain ⟨tpcb, holds, phase, _⟩ := sound.of_listening state
        have live : layer.Live tpcb := by
          rw [Live, phase]
          simp
        obtain ⟨state', holds', pcb⟩ := step_close_opened step last (.inl state) holds live
        refine not_releasable (.inl state') holds' ?_ (releasable index)
        rw [pcb, close_of_listening phase]
      · have live : layer.Live tpcb := by
          rw [Live, phase]
          simp
        obtain ⟨state', holds', pcb⟩ := step_close_opened step last (.inr state) holds live
        refine not_releasable (.inl state') holds' ?_ (releasable index)
        rw [pcb, frees]
        unfold LwipPcb.close
        rw [phase]
    · rintro tpcb err rfl index state holds
      obtain ⟨_, _, _, _, _, closed⟩ := sound.of_closing state
      obtain ⟨freed, refcount, sockTpcb, same | failed⟩ := step_err step index
      · exact not_releasable (.inl (same.trans state)) (sockTpcb.trans holds) freed
          (releasable index)
      · exact not_releasable (.inr ⟨failed, by rw [refcount, closed]⟩) (sockTpcb.trans holds)
          freed (releasable index)
    · rintro tpcb rfl index state holds
      obtain ⟨_, _, rfl⟩ := step
      refine @not_releasable (layer.after (layer.perform (.lwipFree tpcb))) index tpcb (.inl state)
        holds ?_ (releasable index)
      have pcb : (layer.setPcb tpcb (layer.pcbs tpcb).free).pcbs tpcb = (layer.pcbs tpcb).free :=
        setPcb_pcbs_self
      exact congrArg LwipPcb.phase pcb
  · intro condition
    rcases step_cases sound step with ⟨fault, _, rfl⟩ | ⟨change, _⟩
    · exact fun index => ⟨(released index).referenced, (released index).closing⟩
    · exact Change.releasable sound released condition change

end SocketLayer

open SocketLayer

/-- However the calls of applications and the callbacks of lwIP are interleaved, every slot that
nobody refers to and whose PCB lwIP has freed is free, exactly as long as no open fails that had a
slot, no socket is closed for the last time whose PCB lwIP frees at once, and lwIP frees no PCB that
a closed socket waits for before its peer has closed. -/
theorem slots_released_iff {layer : SocketLayer} {events : List Event} :
    Run (Within EverySlotReleased LayerStep) zeroed events layer ↔
      Run (Guarded LeavesReleasable LayerStep) zeroed events layer := by
  refine run_within_iff_guarded Sound zeroed_sound ?_ ?_ ?_
  · exact fun _ _ _ => ⟨rfl, rfl, rfl, rfl⟩
  · exact fun _ _ _ sound step => step_sound sound step
  · exact fun _ _ _ sound released step => step_released_iff sound released step

/-- A socket is opened, made to listen and closed. lwIP has freed its PCB, and the slot stays
closing. -/
theorem slot_lost : ∃ layer,
    Run LayerStep zeroed [.socket (some 0) .keeps, .listen 0 true, .close 0 .keeps] layer ∧
      layer.fault = none ∧ ¬ layer.EverySlotReleased := by
  refine ⟨_, Run.of_foldlM (fun _ _ => layerStep_of_stepTo) rfl, ?_⟩
  refine ⟨rfl, fun released => ?_⟩
  have free := released 0 (le_refl 0) fun tpcb holds live => ?_
  · cases free.1
  · cases holds
    exact live rfl

end LionsOS.Sock
