/-
This file is about who refers to the PCBs of lwIP. A PCB that has not been freed
and has not been closed is in exactly one place, a slot or the queue of one: it
moves from the queue of the slot that listens to a slot of its own, and from a
slot to the PCB that listens in its stead. The one step that loses a PCB is the
last close of a socket that is not connected, which forgets its PCB without
closing it.
-/

import LionsOS.Sock.Invariant
import Mathlib.Data.List.Nodup

open Function

namespace LionsOS.Sock

open StepRun Socket

namespace SocketLayer

variable {layer next : SocketLayer} {event : Event} {socket : Socket} {pcb : LwipPcb}

variable {tpcb : Pcb} {index : Fin maxSockets}

/-! ### Places -/

/-- Exactly one slot refers to a PCB, and it does so once. -/
def HasOnePlace (layer : SocketLayer) (tpcb : Pcb) : Prop :=
  ∃ index, (layer.sockets index).references.count tpcb = 1 ∧
    ∀ other, other ≠ index → tpcb ∉ (layer.sockets other).references

/-- Every PCB that is live and has not been closed has exactly one place. -/
def EveryPcbOwned (layer : SocketLayer) : Prop :=
  ∀ tpcb, layer.Live tpcb → (layer.pcbs tpcb).handedBack = false → layer.HasOnePlace tpcb

/-- Some slot refers to a PCB. -/
def Placed (layer : SocketLayer) (tpcb : Pcb) : Prop :=
  ∃ index, tpcb ∈ (layer.sockets index).references

/-- A PCB that somebody has to close. -/
def Unclosed (layer : SocketLayer) (tpcb : Pcb) : Prop :=
  layer.Live tpcb ∧ (layer.pcbs tpcb).handedBack = false

theorem Sound.hasOnePlace_iff (sound : layer.Sound) :
    layer.HasOnePlace tpcb ↔ layer.Placed tpcb := by
  constructor
  · rintro ⟨index, once, _⟩
    exact ⟨index, List.one_le_count_iff.mp once.ge⟩
  · rintro ⟨index, member⟩
    refine ⟨index, List.count_eq_one_of_mem (sound.slots index).nodup member, ?_⟩
    exact fun other different elsewhere => different (sound.apart _ _ _ elsewhere member)

theorem Sound.everyPcbOwned_iff (sound : layer.Sound) :
    layer.EveryPcbOwned ↔ ∀ tpcb, layer.Unclosed tpcb → layer.Placed tpcb := by
  constructor
  · exact fun owned tpcb unclosed => sound.hasOnePlace_iff.mp (owned tpcb unclosed.1 unclosed.2)
  · exact fun placed tpcb live open' => sound.hasOnePlace_iff.mpr (placed tpcb ⟨live, open'⟩)

/-! ### Steps that lose nothing -/

/-- A step loses no PCB that it does not close. -/
def KeepsPcbs (layer next : SocketLayer) : Prop :=
  ∀ tpcb, next.Unclosed tpcb → (layer.Unclosed tpcb → layer.Placed tpcb) → next.Placed tpcb

theorem KeepsPcbs.of_same (sockets : next.sockets = layer.sockets)
    (pcbs : ∀ tpcb, next.Unclosed tpcb → layer.Unclosed tpcb) : KeepsPcbs layer next := by
  intro tpcb unclosed placed
  obtain ⟨index, member⟩ := placed (pcbs tpcb unclosed)
  exact ⟨index, by rwa [sockets]⟩

/-- One slot is changed that refers to no less than before. -/
theorem KeepsPcbs.of_slot (sockets : next.sockets = update layer.sockets index socket)
    (references : (layer.sockets index).references ⊆ socket.references)
    (pcbs : ∀ tpcb, next.Unclosed tpcb → layer.Unclosed tpcb ∨ tpcb ∈ socket.references) :
    KeepsPcbs layer next := by
  have here (tpcb : Pcb) (member : tpcb ∈ socket.references) : next.Placed tpcb :=
    ⟨index, by rwa [sockets, update_self]⟩
  intro tpcb unclosed placed
  rcases pcbs tpcb unclosed with before | member
  · obtain ⟨other, member⟩ := placed before
    by_cases same : other = index
    · exact here tpcb (references (same ▸ member))
    · exact ⟨other, by rwa [sockets, update_of_ne same]⟩
  · exact here tpcb member

/-- One slot lets go of its PCB, which is closed or freed. -/
theorem KeepsPcbs.of_release (holds : (layer.sockets index).sockTpcb = some tpcb)
    (sockets : next.sockets = update layer.sockets index (layer.sockets index).release)
    (pcbs : ∀ other, next.Unclosed other → layer.Unclosed other) (closed : ¬ next.Unclosed tpcb) :
    KeepsPcbs layer next := by
  intro other unclosed placed
  obtain ⟨slot, member⟩ := placed (pcbs other unclosed)
  by_cases same : slot = index
  · rw [same, mem_references] at member
    rcases member with held | pending
    · cases held.symm.trans holds
      exact (closed unclosed).elim
    · refine ⟨index, ?_⟩
      rw [sockets, update_self, mem_references]
      exact .inr pending
  · exact ⟨slot, by rwa [sockets, update_of_ne same]⟩

theorem unclosed_of_update (pcbs : next.pcbs = update layer.pcbs tpcb pcb)
    (closes : pcb.phase ≠ .freed → pcb.handedBack = false → layer.Unclosed tpcb) (other : Pcb)
    (unclosed : next.Unclosed other) : layer.Unclosed other := by
  unfold Unclosed Live at unclosed
  rw [pcbs] at unclosed
  by_cases same : other = tpcb
  · rw [same, update_self] at unclosed
    rw [same]
    exact closes unclosed.1 unclosed.2
  · rwa [update_of_ne same] at unclosed

theorem unclosed_of_same (pcbs : next.pcbs = layer.pcbs) (tpcb : Pcb)
    (unclosed : next.Unclosed tpcb) : layer.Unclosed tpcb := by
  unfold Unclosed Live at *
  rwa [pcbs] at unclosed

theorem handedBack_close (pcb : LwipPcb) (result : CloseResult) :
    (pcb.close result).handedBack = true := by
  unfold LwipPcb.close
  split <;> rfl

theorem Quiet.keepsPcbs (quiet : Quiet layer event next) : KeepsPcbs layer next := by
  cases quiet with
  | same _ becomes | refused _ _ becomes =>
    exact .of_same becomes.sockets (unclosed_of_same becomes.pcbs)
  | waitsConnect _ _ _ becomes | waitsRecv _ _ becomes | waitsSend _ _ _ _ _ becomes
  | waitsAccept _ _ _ becomes | reads _ _ _ becomes | segment _ _ _ _ _ becomes =>
    exact .of_slot becomes.sockets (List.Subset.refl _) fun tpcb unclosed =>
      .inl (unclosed_of_same becomes.pcbs tpcb unclosed)
  | writes _ _ becomes | sentUnnoticed _ _ becomes =>
    exact .of_same becomes.sockets (unclosed_of_update becomes.pcbs And.intro)
  | sent _ _ _ _ becomes =>
    exact .of_slot becomes.sockets (List.Subset.refl _) fun tpcb unclosed =>
      .inl (unclosed_of_update becomes.pcbs And.intro tpcb unclosed)

/-! ### Which steps lose a PCB -/

/-- The event is not the last close of a socket that has been neither connected nor made to
listen. -/
def ForgetsNoPcb (layer : SocketLayer) (event : Event) : Prop :=
  ∀ index result, event = .close index result → layer.socketRefcount index = 1 →
    (layer.sockets index).state ≠ .allocated ∧ (layer.sockets index).state ≠ .bound

/-- The last close of a socket that is not connected only clears the slot. -/
theorem step_close_unconnected {result : CloseResult}
    (step : LayerStep layer (.close index result) next) (last : layer.socketRefcount index = 1)
    (state : (layer.sockets index).state = .allocated ∨ (layer.sockets index).state = .bound) :
    next.sockets = update layer.sockets index (layer.sockets index).release ∧
      next.pcbs = layer.pcbs := by
  obtain ⟨_, _, rfl⟩ := step
  have zero : layer.socketRefcount index - 1 = 0 := by rw [last]; rfl
  simp only [perform, tcpSocketClose, if_pos zero, tcpSocketCloseInt, setRefcount]
  rcases state with state | state <;> rw [state] <;> exact ⟨rfl, rfl⟩

/-- After the last close of a socket that is not connected, nobody has its PCB. -/
theorem Sound.lost (sound : layer.Sound) (last : layer.socketRefcount index = 1)
    (state : (layer.sockets index).state = .allocated ∨ (layer.sockets index).state = .bound)
    (sockets : next.sockets = update layer.sockets index (layer.sockets index).release)
    (pcbs : next.pcbs = layer.pcbs) : ¬ ∀ tpcb, next.Unclosed tpcb → next.Placed tpcb := by
  obtain ⟨tpcb, holds⟩ := sound.holds_of_referenced (by omega) state
  have idle := (sound.of_unconnected state holds).1
  intro placed
  have unclosed : next.Unclosed tpcb := by
    unfold Unclosed Live
    rw [pcbs, idle]
    exact ⟨by simp, (sound.pcbs tpcb).idle idle⟩
  obtain ⟨other, member⟩ := placed tpcb unclosed
  have mine := mem_references_of_holds holds
  by_cases same : other = index
  · have empty : (layer.sockets index).acceptQueue.entries = [] := by
      apply sound.entries_eq_nil <;> rcases state with state | state <;> rw [state] <;> decide
    rw [same, sockets, update_self, mem_references] at member
    rcases member with held | pending
    · cases held
    · exact List.not_mem_nil (empty ▸ pending)
  · rw [sockets, update_of_ne same] at member
    exact same (sound.apart _ _ _ member mine)

theorem KeepsPcbs.of_listens (holds : (layer.sockets index).sockTpcb = some tpcb)
    (sockets : next.sockets = update layer.sockets index socket)
    (sockTpcb : socket.sockTpcb = some layer.nextPcb)
    (queue : socket.acceptQueue = (layer.sockets index).acceptQueue)
    (pcbs : next.pcbs = update (update layer.pcbs tpcb (layer.pcbs tpcb).free) layer.nextPcb pcb) :
    KeepsPcbs layer next := by
  intro other unclosed placed
  by_cases fresh : other = layer.nextPcb
  · refine ⟨index, ?_⟩
    rw [sockets, update_self, mem_references]
    exact .inl (sockTpcb.trans (congrArg some fresh.symm))
  · unfold Unclosed Live at unclosed
    rw [pcbs, update_of_ne fresh] at unclosed
    by_cases old : other = tpcb
    · rw [old, update_self] at unclosed
      exact (unclosed.1 rfl).elim
    · rw [update_of_ne old] at unclosed
      obtain ⟨slot, member⟩ := placed unclosed
      by_cases same : slot = index
      · rw [same, mem_references] at member
        rcases member with held | pending
        · exact (old (Option.some.inj (held.symm.trans holds))).elim
        · refine ⟨index, ?_⟩
          rw [sockets, update_self, mem_references, queue]
          exact .inr pending
      · exact ⟨slot, by rwa [sockets, update_of_ne same]⟩

theorem Sound.placed_dequeue (sound : layer.Sound) {other : Pcb}
    (oldest : layer.Oldest index tpcb) (different : other ≠ tpcb)
    (placed : layer.Placed other) : (layer.dequeue index).Placed other := by
  obtain ⟨slot, member⟩ := placed
  refine ⟨slot, ?_⟩
  by_cases same : slot = index
  · rw [same, mem_references,
      (sound.slots index).wellFormed.entries_dequeue oldest.waiting, ← oldest.same] at member
    rw [same, setSocket_sockets_self, mem_references]
    exact member.imp_right fun pending => (List.mem_cons.mp pending).resolve_left different
  · rwa [setSocket_sockets_of_ne same]

theorem Change.keepsPcbs (sound : layer.Sound) (change : Change layer event next)
    (condition : layer.ForgetsNoPcb event) : KeepsPcbs layer next := by
  cases change with
  | quiet quiet => exact Quiet.keepsPcbs quiet
  | @opened index sndbuf _ state becomes =>
    have empty := (sound.of_unallocated state).1
    have entries : (layer.sockets index).acceptQueue.entries = [] :=
      sound.entries_eq_nil (by rw [state]; decide) (by rw [state]; decide)
    refine .of_slot becomes.sockets ?_ fun tpcb unclosed => ?_
    · rw [Socket.references, empty, entries]
      exact List.nil_subset _
    · by_cases same : tpcb = layer.nextPcb
      · exact .inr (Socket.mem_references.mpr (.inl (congrArg some same.symm)))
      · refine .inl ?_
        unfold Unclosed Live at *
        rwa [becomes.pcbs, update_of_ne same] at unclosed
  | openFailed _ state becomes =>
    refine .of_slot becomes.sockets ?_ fun tpcb unclosed =>
      .inl (unclosed_of_same becomes.pcbs tpcb unclosed)
    rw [Socket.references, (sound.of_unallocated state).1]
    exact List.Subset.refl _
  | bound _ _ _ becomes =>
    exact .of_slot becomes.sockets (List.Subset.refl _) fun tpcb unclosed =>
      .inl (unclosed_of_same becomes.pcbs tpcb unclosed)
  | connects _ state holds _ becomes =>
    refine .of_slot becomes.sockets (List.Subset.refl _) fun tpcb unclosed =>
      .inl (unclosed_of_update becomes.pcbs (fun _ open' => ⟨?_, open'⟩) tpcb unclosed)
    rw [Live, (sound.of_unconnected state.symm holds).1]
    simp
  | listens _ _ holds _ becomes => exact .of_listens holds becomes.sockets rfl rfl becomes.pcbs
  | @dropped index tpcb _ _ oldest _ becomes =>
    intro other unclosed placed
    have different : other ≠ tpcb := by
      rintro rfl
      have open' := unclosed.2
      rw [becomes.pcbs, update_self, handedBack_close] at open'
      cases open'
    have before : layer.Unclosed other := by
      unfold Unclosed Live at *
      rwa [becomes.pcbs, update_of_ne different] at unclosed
    obtain ⟨slot, member⟩ := sound.placed_dequeue oldest different (placed before)
    exact ⟨slot, by rwa [becomes.sockets]⟩
  | @accepted index new tpcb _ oldest different state _ becomes =>
    intro other unclosed placed
    by_cases moved : other = tpcb
    · refine ⟨new, ?_⟩
      rw [becomes.sockets, update_self, moved]
      exact Socket.mem_references.mpr (.inl rfl)
    · have before : layer.Unclosed other := by
        unfold Unclosed Live at *
        rwa [becomes.pcbs, update_of_ne moved] at unclosed
      obtain ⟨slot, member⟩ := sound.placed_dequeue oldest moved (placed before)
      refine ⟨slot, ?_⟩
      by_cases same : slot = new
      · rw [same, setSocket_sockets_of_ne different, Socket.mem_references, (sound.of_unallocated
          state).1, sound.entries_eq_nil (by rw [state]; decide) (by rw [state]; decide)] at member
        rcases member with held | pending
        · cases held
        · cases pending
      · rwa [becomes.sockets, update_of_ne same]
  | duplicated _ _ becomes | closedShared _ _ becomes =>
    exact .of_same becomes.sockets (unclosed_of_same becomes.pcbs)
  | closed _ _ _ _ _ becomes =>
    refine .of_slot becomes.sockets (List.Subset.refl _) fun tpcb unclosed =>
      .inl (unclosed_of_update becomes.pcbs (fun _ open' => ?_) tpcb unclosed)
    cases (handedBack_close _ _).symm.trans open'
  | aborted _ _ _ holds becomes =>
    refine .of_release holds becomes.sockets
      (unclosed_of_update becomes.pcbs fun live => (live rfl).elim) fun unclosed => ?_
    have live := unclosed.1
    rw [Live, becomes.pcbs, update_self] at live
    exact live rfl
  | @released index result happened last state becomes =>
    have connected := condition index result happened last
    obtain ⟨tpcb, holds, closed⟩ : ∃ tpcb, (layer.sockets index).sockTpcb = some tpcb ∧
        ¬ layer.Unclosed tpcb := by
      cases (sound.slots index).backed with
      | error _ holds phase => exact ⟨_, holds, fun unclosed => unclosed.1 phase⟩
      | closedByPeer _ holds _ handedBack =>
        exact ⟨_, holds, fun unclosed => by cases handedBack.symm.trans unclosed.2⟩
      | unconnected other => exact (other.elim connected.1 connected.2).elim
      | failed other => exact (connected.1 other).elim
      | _ other => rcases state with state | state | state | state <;>
          cases state.symm.trans other
    exact .of_release holds becomes.sockets (unclosed_of_same becomes.pcbs) fun unclosed =>
      closed (unclosed_of_same becomes.pcbs _ unclosed)
  | connected _ phase _ _ becomes =>
    refine .of_slot becomes.sockets (List.Subset.refl _) fun tpcb unclosed =>
      .inl (unclosed_of_update becomes.pcbs (fun _ open' => ⟨?_, open'⟩) tpcb unclosed)
    rw [Live, phase]
    simp
  | failed _ _ _ _ becomes =>
    split at becomes <;>
      exact .of_slot becomes.sockets (List.Subset.refl _) fun tpcb unclosed =>
        .inl (unclosed_of_update becomes.pcbs (fun live => (live rfl).elim) tpcb unclosed)
  | failedUnnoticed _ _ _ becomes | freed _ _ becomes =>
    exact .of_same becomes.sockets (unclosed_of_update becomes.pcbs fun live => (live rfl).elim)
  | @queued index _ _ _ _ _ room becomes =>
    have entries := (sound.slots index).wellFormed.entries_enqueue room layer.nextPcb
    refine .of_slot becomes.sockets ?_ fun tpcb unclosed => ?_
    · intro tpcb member
      rw [Socket.mem_references] at member
      rw [Socket.mem_references]
      refine member.imp_right fun pending => ?_
      rw [Socket.signal, entries]
      exact List.mem_append_left _ pending
    · by_cases same : tpcb = layer.nextPcb
      · refine .inr (Socket.mem_references.mpr (.inr ?_))
        rw [Socket.signal, entries, same]
        exact List.mem_append_right _ (List.mem_singleton_self _)
      · refine .inl ?_
        unfold Unclosed Live at *
        rwa [becomes.pcbs, update_of_ne same] at unclosed
  | turnedAway _ _ _ _ freed _ becomes =>
    exact .of_slot becomes.sockets (List.Subset.refl _) fun tpcb unclosed =>
      .inl (unclosed_of_update becomes.pcbs (fun live => (live freed).elim) tpcb unclosed)
  | ended _ _ _ _ _ _ closed becomes =>
    exact .of_slot becomes.sockets (List.Subset.refl _) fun tpcb unclosed =>
      .inl (unclosed_of_update becomes.pcbs
        (fun _ open' => by cases closed.2.1.symm.trans open') tpcb unclosed)
  | @endedClosing index tpcb _ _ recvFunc transfers arg state becomes =>
    have holds := (sound.pcbs tpcb).called transfers.active.1
      ((sound.pcbs tpcb).recvFunc recvFunc) index arg
    have handedBack : (layer.pcbs tpcb).handedBack = true := by
      obtain ⟨own, same, _, handedBack, _⟩ := sound.of_closing state
      cases same.symm.trans holds
      exact handedBack
    refine .of_release holds becomes.sockets
      (unclosed_of_update becomes.pcbs fun live open' => ⟨live, open'⟩) fun unclosed => ?_
    have open' := unclosed.2
    rw [becomes.pcbs, update_self] at open'
    cases handedBack.symm.trans open'
  | endedUnnoticed _ _ _ closed becomes =>
    exact .of_same becomes.sockets (unclosed_of_update becomes.pcbs
      fun _ open' => by cases closed.2.1.symm.trans open')

theorem step_owned_iff (sound : layer.Sound) (owned : layer.EveryPcbOwned)
    (step : LayerStep layer event next) : next.EveryPcbOwned ↔ layer.ForgetsNoPcb event := by
  rw [(step_sound sound step).everyPcbOwned_iff]
  constructor
  · rintro owned' index result rfl last
    by_contra unconnected
    rw [not_and_or, not_not, not_not] at unconnected
    obtain ⟨sockets, pcbs⟩ := step_close_unconnected step last unconnected
    exact sound.lost last unconnected sockets pcbs owned'
  · intro condition
    rw [sound.everyPcbOwned_iff] at owned
    rcases step_cases sound step with ⟨fault, _, rfl⟩ | ⟨change, _⟩
    · exact owned
    · exact fun tpcb unclosed =>
        Change.keepsPcbs sound change condition tpcb unclosed (owned tpcb)

end SocketLayer

open SocketLayer

/-- However the calls of applications and the callbacks of lwIP are interleaved, every PCB that is
live and has not been closed is in exactly one slot or queue, exactly as long as no socket is closed
for the last time that has neither been connected nor made to listen. -/
theorem pcbs_owned_iff {layer : SocketLayer} {events : List Event} :
    Run (Within EveryPcbOwned LayerStep) zeroed events layer ↔
      Run (Guarded ForgetsNoPcb LayerStep) zeroed events layer := by
  refine run_within_iff_guarded Sound zeroed_sound ?_ ?_ ?_
  · exact fun tpcb live => (live rfl).elim
  · exact fun _ _ _ sound step => step_sound sound step
  · exact fun _ _ _ sound owned step => step_owned_iff sound owned step

/-- A socket is opened and closed. lwIP still has its PCB, and no slot refers to it. -/
theorem pcb_forgotten : ∃ layer,
    Run LayerStep zeroed [.socket (some 0) .keeps, .close 0 .keeps] layer ∧
      layer.fault = none ∧ ¬ layer.EveryPcbOwned := by
  refine ⟨_, Run.of_foldlM (fun _ _ => layerStep_of_stepTo) rfl, ?_⟩
  refine ⟨rfl, fun owned => ?_⟩
  obtain ⟨index, once, _⟩ := owned 0 (by decide : PcbPhase.idle ≠ .freed) rfl
  revert index
  decide

end LionsOS.Sock
