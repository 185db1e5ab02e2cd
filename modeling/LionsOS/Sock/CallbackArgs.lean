/-
This file is about the argument that lwIP passes to the callbacks of a PCB. It is
the slot that holds the PCB as long as the PCB connects or listens, and as long as
the peer may still send. Behind the FIN of the peer it may be `NULL`.
-/

import LionsOS.Sock.Invariant

open Function

namespace LionsOS.Sock

open StepRun

/-! ### One PCB -/

theorem PcbPhase.Opened.not_listening {phase : PcbPhase} (opened : phase.Opened) :
    phase ≠ .listening := by
  rintro rfl
  exact opened

/-- A PCB that connects, or over which the peer may still send to a slot, has a slot. -/
structure LwipPcb.KnowsSlot (pcb : LwipPcb) : Prop where
  connecting : pcb.phase = .connecting → pcb.arg ≠ none
  receiving : pcb.phase.Active → pcb.recvFunc = true → pcb.finReceived = false → pcb.arg ≠ none

namespace LwipPcb.KnowsSlot

variable {pcb : LwipPcb}

theorem of_inactive (inactive : ¬ pcb.phase.Active) : pcb.KnowsSlot where
  connecting phase := (inactive (by rw [phase]; trivial)).elim
  receiving active := (inactive active).elim

theorem of_freed (phase : pcb.phase = .freed) : pcb.KnowsSlot :=
  of_inactive fun active => active.not_freed phase

theorem of_arg {index : Fin maxSockets} (arg : pcb.arg = some index) : pcb.KnowsSlot where
  connecting _ := arg ▸ nofun
  receiving _ _ _ := arg ▸ nofun

theorem of_deaf (opened : pcb.phase.Opened) (deaf : pcb.recvFunc = false) : pcb.KnowsSlot where
  connecting phase := by
    rw [phase] at opened
    exact opened.elim
  receiving _ hears := nomatch deaf.symm.trans hears

theorem of_ended (opened : pcb.phase.Opened) (ended : pcb.finReceived = true) :
    pcb.KnowsSlot where
  connecting phase := by
    rw [phase] at opened
    exact opened.elim
  receiving _ _ ongoing := nomatch ended.symm.trans ongoing

theorem close (knows : pcb.KnowsSlot) (result : CloseResult) : (pcb.close result).KnowsSlot := by
  unfold LwipPcb.close
  split
  · rename_i phase
    exact ⟨nofun, fun _ => knows.receiving (by rw [phase]; trivial)⟩
  · exact ⟨knows.connecting, knows.receiving⟩
  · exact ⟨knows.connecting, knows.receiving⟩
  · exact of_freed rfl

end LwipPcb.KnowsSlot

namespace SocketLayer

variable {layer next : SocketLayer} {event : Event} {tpcb : Pcb} {index : Fin maxSockets}
  {socket : Socket} {pcb : LwipPcb}

/-! ### The invariant -/

structure Called (layer : SocketLayer) : Prop where
  knows : ∀ tpcb, (layer.pcbs tpcb).KnowsSlot
  listening : ∀ tpcb, (layer.pcbs tpcb).phase = .listening → ∃ index,
    (layer.pcbs tpcb).arg = some index ∧ (layer.sockets index).state = .listening ∧
      (layer.sockets index).sockTpcb = some tpcb

theorem zeroed_called : zeroed.Called where
  knows _ := .of_freed rfl
  listening _ := nofun

/-- Nothing starts or ceases to listen. -/
structure KeepsListeners (layer next : SocketLayer) : Prop where
  slots : ∀ index, (layer.sockets index).state = .listening →
    (next.sockets index).state = .listening ∧
      (next.sockets index).sockTpcb = (layer.sockets index).sockTpcb
  pcbs : ∀ tpcb, (next.pcbs tpcb).phase = .listening →
    (layer.pcbs tpcb).phase = .listening ∧ (next.pcbs tpcb).arg = (layer.pcbs tpcb).arg

theorem Called.of_keeps (called : layer.Called) (keeps : KeepsListeners layer next)
    (knows : ∀ tpcb, (next.pcbs tpcb).KnowsSlot) : next.Called where
  knows := knows
  listening tpcb phase := by
    obtain ⟨before, arg⟩ := keeps.pcbs tpcb phase
    obtain ⟨index, mine, state, holds⟩ := called.listening tpcb before
    obtain ⟨stays, same⟩ := keeps.slots index state
    exact ⟨index, arg.trans mine, stays, same.trans holds⟩

section

variable {sockets : Fin maxSockets → Socket} {pcbs : Pcb → LwipPcb}

/-- One slot is changed that does not listen, or goes on to. -/
theorem listeners_of_slot (changed : sockets = update layer.sockets index socket)
    (stays : (layer.sockets index).state = .listening → socket.state = .listening ∧
      socket.sockTpcb = (layer.sockets index).sockTpcb) (other : Fin maxSockets)
    (state : (layer.sockets other).state = .listening) :
    (sockets other).state = .listening ∧
      (sockets other).sockTpcb = (layer.sockets other).sockTpcb := by
  rw [changed]
  by_cases same : other = index
  · rw [same, update_self]
    exact stays (same ▸ state)
  · rw [update_of_ne same]
    exact ⟨state, rfl⟩

/-- One PCB is changed, and does not come to listen. -/
theorem listeners_of_pcb (changed : pcbs = update layer.pcbs tpcb pcb)
    (stays : pcb.phase = .listening → (layer.pcbs tpcb).phase = .listening ∧
      pcb.arg = (layer.pcbs tpcb).arg) (other : Pcb) (phase : (pcbs other).phase = .listening) :
    (layer.pcbs other).phase = .listening ∧ (pcbs other).arg = (layer.pcbs other).arg := by
  rw [changed] at phase ⊢
  by_cases same : other = tpcb
  · rw [same, update_self] at phase ⊢
    exact stays phase
  · rw [update_of_ne same] at phase ⊢
    exact ⟨phase, rfl⟩

theorem Called.knows_update (called : layer.Called)
    (changed : pcbs = update layer.pcbs tpcb pcb) (knows : pcb.KnowsSlot) (other : Pcb) :
    (pcbs other).KnowsSlot := by
  rw [changed]
  by_cases same : other = tpcb
  · rw [same, update_self]
    exact knows
  · rw [update_of_ne same]
    exact called.knows other

end

/-- A step that changes no PCB, and no slot that listens. -/
theorem Called.of_slot (called : layer.Called)
    (sockets : next.sockets = update layer.sockets index socket) (pcbs : next.pcbs = layer.pcbs)
    (stays : (layer.sockets index).state = .listening → socket.state = .listening ∧
      socket.sockTpcb = (layer.sockets index).sockTpcb) : next.Called := by
  refine called.of_keeps ⟨listeners_of_slot sockets stays, fun tpcb phase => ?_⟩ fun tpcb => ?_
  · rw [pcbs] at phase ⊢
    exact ⟨phase, rfl⟩
  · rw [pcbs]
    exact called.knows tpcb

theorem Called.of_pcb (called : layer.Called) (sockets : next.sockets = layer.sockets)
    (pcbs : next.pcbs = update layer.pcbs tpcb pcb)
    (stays : pcb.phase = .listening → (layer.pcbs tpcb).phase = .listening ∧
      pcb.arg = (layer.pcbs tpcb).arg) (knows : pcb.KnowsSlot) : next.Called := by
  refine called.of_keeps ⟨fun index state => ?_, listeners_of_pcb pcbs stays⟩
    (called.knows_update pcbs knows)
  rw [sockets]
  exact ⟨state, rfl⟩

theorem Called.of_slot_pcb (called : layer.Called)
    (sockets : next.sockets = update layer.sockets index socket)
    (pcbs : next.pcbs = update layer.pcbs tpcb pcb)
    (slot : (layer.sockets index).state = .listening → socket.state = .listening ∧
      socket.sockTpcb = (layer.sockets index).sockTpcb)
    (stays : pcb.phase = .listening → (layer.pcbs tpcb).phase = .listening ∧
      pcb.arg = (layer.pcbs tpcb).arg) (knows : pcb.KnowsSlot) : next.Called :=
  called.of_keeps ⟨listeners_of_slot sockets slot, listeners_of_pcb pcbs stays⟩
    (called.knows_update pcbs knows)

theorem Called.of_same (called : layer.Called) (sockets : next.sockets = layer.sockets)
    (pcbs : next.pcbs = layer.pcbs) : next.Called where
  knows := pcbs ▸ called.knows
  listening := by
    rw [pcbs, sockets]
    exact called.listening

/-! ### What steps keep -/

theorem Quiet.called (called : layer.Called) (quiet : Quiet layer event next) : next.Called := by
  cases quiet with
  | same _ becomes | refused _ _ becomes => exact called.of_same becomes.sockets becomes.pcbs
  | waitsConnect _ _ _ becomes | waitsRecv _ _ becomes | waitsSend _ _ _ _ _ becomes
  | waitsAccept _ _ _ becomes | reads _ _ _ becomes | segment _ _ _ _ _ becomes =>
    exact called.of_slot becomes.sockets becomes.pcbs fun state => ⟨state, rfl⟩
  | writes _ _ becomes | sentUnnoticed _ _ becomes =>
    have knows := called.knows
    exact called.of_pcb becomes.sockets becomes.pcbs (fun phase => ⟨phase, rfl⟩)
      ⟨(knows _).connecting, (knows _).receiving⟩
  | sent _ _ _ _ becomes =>
    have knows := called.knows
    exact called.of_slot_pcb becomes.sockets becomes.pcbs (fun state => ⟨state, rfl⟩)
      (fun phase => ⟨phase, rfl⟩) ⟨(knows _).connecting, (knows _).receiving⟩

/-- A slot that does not listen may change as it likes. -/
theorem listens_elim {state : SocketState} (now : (layer.sockets index).state = state)
    (other : state ≠ .listening) (listening : (layer.sockets index).state = .listening) :
    socket.state = .listening ∧ socket.sockTpcb = (layer.sockets index).sockTpcb :=
  (other (now.symm.trans listening)).elim

theorem close_not_listening (pcb : LwipPcb) (result : CloseResult) :
    (pcb.close result).phase ≠ .listening := by
  unfold LwipPcb.close
  split
  · exact nofun
  · rename_i phase
    exact phase ▸ nofun
  · rename_i phase
    exact phase ▸ nofun
  · exact nofun

section

variable (called : layer.Called) (holds : (layer.sockets index).sockTpcb = some tpcb)
include called holds

/-- The PCB of a slot is exchanged for one that listens. -/
theorem Called.of_listens (arg : pcb.arg = some index) (state : socket.state = .listening)
    (sockTpcb : socket.sockTpcb = some layer.nextPcb)
    (sockets : next.sockets = update layer.sockets index socket)
    (pcbs : next.pcbs = update (update layer.pcbs tpcb (layer.pcbs tpcb).free) layer.nextPcb pcb) :
    next.Called where
  knows other := by
    rw [pcbs]
    by_cases new : other = layer.nextPcb
    · rw [new, update_self]
      exact .of_arg arg
    · rw [update_of_ne new]
      exact called.knows_update rfl (.of_freed rfl) other
  listening other listens := by
    rw [pcbs] at listens ⊢
    by_cases new : other = layer.nextPcb
    · refine ⟨index, ?_⟩
      rw [new, update_self, sockets, update_self]
      exact ⟨arg, state, sockTpcb⟩
    · rw [update_of_ne new] at listens ⊢
      by_cases old : other = tpcb
      · rw [old, update_self] at listens
        cases listens
      · rw [update_of_ne old] at listens ⊢
        obtain ⟨slot, mine, stateOf, held⟩ := called.listening other listens
        have different : slot ≠ index := by
          rintro rfl
          exact old (Option.some.inj (held.symm.trans holds))
        refine ⟨slot, mine, ?_⟩
        rw [sockets, update_of_ne different]
        exact ⟨stateOf, held⟩

theorem Called.of_closed (knows : pcb.KnowsSlot) (phase : pcb.phase ≠ .listening)
    (sockets : next.sockets = update layer.sockets index socket)
    (pcbs : next.pcbs = update layer.pcbs tpcb pcb) : next.Called where
  knows := called.knows_update pcbs knows
  listening other listens := by
    rw [pcbs] at listens ⊢
    by_cases own : other = tpcb
    · rw [own, update_self] at listens
      exact (phase listens).elim
    · rw [update_of_ne own] at listens ⊢
      obtain ⟨slot, mine, stateOf, held⟩ := called.listening other listens
      have different : slot ≠ index := by
        rintro rfl
        exact own (Option.some.inj (held.symm.trans holds))
      refine ⟨slot, mine, ?_⟩
      rw [sockets, update_of_ne different]
      exact ⟨stateOf, held⟩

end

theorem Change.called (sound : layer.Sound) (called : layer.Called)
    (change : Change layer event next)
    (noted : ∀ tpcb result, event = .lwipFin tpcb result →
      (next.pcbs tpcb).finReceived = true) : next.Called := by
  cases change with
  | quiet quiet => exact Quiet.called called quiet
  | opened _ state becomes =>
    exact called.of_slot_pcb becomes.sockets becomes.pcbs (listens_elim state nofun) nofun
      (.of_arg rfl)
  | openFailed _ state becomes | bound _ state _ becomes =>
    exact called.of_slot becomes.sockets becomes.pcbs (listens_elim state nofun)
  | @connects index tpcb phase waiters _ state holds started becomes =>
    have unconnected := sound.of_unconnected state.symm holds
    refine called.of_slot_pcb becomes.sockets becomes.pcbs (fun listening => ?_) (fun listening => ?_)
      (.of_arg unconnected.2.1.arg)
    · rcases state with state | state <;> cases state.symm.trans listening
    · rcases started with ⟨rfl, _⟩ | ⟨rfl, _⟩ <;> cases listening
  | @listens index tpcb _ referenced holds phase becomes =>
    have arg : (layer.pcbs tpcb).arg = some index := by
      cases (sound.slots index).backed with
      | unallocated _ empty | failed _ empty => cases empty.symm.trans holds
      | unconnected _ same _ owned | connecting _ same _ owned | connected _ same _ owned =>
        cases same.symm.trans holds
        exact owned.arg
      | closing _ same opened | closedByPeer _ same opened =>
        cases same.symm.trans holds
        rw [phase] at opened
        exact opened.elim
      | error _ same other | listening _ same other =>
        cases same.symm.trans holds
        cases phase.symm.trans other
    refine called.of_listens holds ?_ rfl rfl becomes.sockets becomes.pcbs
    exact arg
  | dropped _ _ _ becomes =>
    exact called.of_slot_pcb becomes.sockets becomes.pcbs (fun state => ⟨state, rfl⟩)
      (fun phase => (close_not_listening _ _ phase).elim) ((called.knows _).close _)
  | @accepted index new tpcb _ oldest different state live becomes =>
    obtain ⟨_, unaccepted, _⟩ := sound.dequeue oldest
    have taken : Called (layer.dequeue index) :=
      called.of_slot rfl rfl fun state => ⟨state, rfl⟩
    refine taken.of_slot_pcb becomes.sockets becomes.pcbs (fun listening => ?_)
      (fun phase => (unaccepted.phase.not_listening phase).elim) (.of_arg rfl)
    rw [setSocket_sockets_of_ne different, state] at listening
    cases listening
  | duplicated _ _ becomes | closedShared _ _ becomes =>
    exact called.of_same becomes.sockets becomes.pcbs
  | closed _ _ _ holds _ becomes =>
    exact called.of_closed holds ((called.knows _).close _) (close_not_listening _ _)
      becomes.sockets becomes.pcbs
  | aborted _ _ _ holds becomes =>
    exact called.of_closed holds (.of_freed rfl) (show PcbPhase.freed ≠ .listening from nofun)
      becomes.sockets becomes.pcbs
  | released _ _ state becomes =>
    refine called.of_slot becomes.sockets becomes.pcbs fun listening => ?_
    rcases state with state | state | state | state <;> cases state.symm.trans listening
  | connected _ _ arg state becomes =>
    exact called.of_slot_pcb becomes.sockets becomes.pcbs (listens_elim state nofun) nofun
      (.of_arg arg)
  | @failed index tpcb err lastError _ active errFunc arg becomes =>
    have holds := (sound.pcbs tpcb).called active errFunc index arg
    exact called.of_closed holds (.of_freed rfl) (show PcbPhase.freed ≠ .listening from nofun)
      becomes.sockets becomes.pcbs
  | failedUnnoticed _ _ _ becomes | freed _ _ becomes =>
    exact called.of_pcb becomes.sockets becomes.pcbs nofun (.of_freed rfl)
  | queued _ _ _ _ becomes =>
    exact called.of_slot_pcb becomes.sockets becomes.pcbs (fun state => ⟨state, rfl⟩) nofun
      (.of_arg rfl)
  | turnedAway _ _ _ _ freed _ becomes =>
    exact called.of_slot_pcb becomes.sockets becomes.pcbs (fun state => ⟨state, rfl⟩)
      (fun phase => nomatch freed.symm.trans phase) (.of_freed freed)
  | @ended index tpcb result pcb happened _ _ _ state _ closed becomes =>
    have fin := noted tpcb result happened
    rw [becomes.pcbs, update_self] at fin
    exact called.of_slot_pcb becomes.sockets becomes.pcbs (listens_elim state nofun)
      (fun phase => (closed.1.not_listening phase).elim) (.of_ended closed.1 fin)
  | endedClosing _ _ transfers _ state becomes =>
    exact called.of_slot_pcb becomes.sockets becomes.pcbs (listens_elim state nofun)
      (fun phase => (transfers.active.2.not_listening phase).elim)
      (.of_ended transfers.active.2 rfl)
  | endedUnnoticed _ _ _ closed becomes =>
    exact called.of_pcb becomes.sockets becomes.pcbs
      (fun phase => (closed.1.not_listening phase).elim) (.of_deaf closed.1 closed.2.2.2.2)

/-! ### Every step -/

theorem finReceived_close (pcb : LwipPcb) (result : CloseResult) :
    (pcb.close result).finReceived = pcb.finReceived := by
  unfold LwipPcb.close
  split <;> rfl

theorem finReceived_forget (layer : SocketLayer) (own tpcb : Pcb) :
    ((layer.setPcb own { layer.pcbs own with arg := none }).pcbs tpcb).finReceived =
      (layer.pcbs tpcb).finReceived := by
  show (update layer.pcbs own _ tpcb).finReceived = _
  by_cases same : tpcb = own
  · rw [same, update_self]
  · rw [update_of_ne same]

theorem finReceived_of_perform {result : CloseResult} {outcome : Outcome}
    (performed : layer.perform (.lwipFin tpcb result) = .ok (outcome, next)) :
    (next.pcbs tpcb).finReceived = true := by
  have noted : ((layer.setPcb tpcb { layer.pcbs tpcb with finReceived := true }).pcbs
      tpcb).finReceived = true := by
    rw [setPcb_pcbs_self]
  simp only [perform, socketRecvFin] at performed
  split at performed
  · split at performed
    · cases performed
    · split at performed
      · obtain ⟨own, same, _, performed⟩ := alive_bind_eq_ok.mp performed
        cases same
        obtain ⟨own, _, _, performed⟩ := alive_bind_eq_ok.mp performed
        cases performed
        refine (finReceived_forget _ own tpcb).trans ?_
        rw [setPcb_pcbs_self, finReceived_close]
        exact noted
      · obtain ⟨own, _, _, performed⟩ := alive_bind_eq_ok.mp performed
        cases performed
        exact (finReceived_forget _ own tpcb).trans noted
      · obtain ⟨own, _, _, performed⟩ := alive_bind_eq_ok.mp performed
        cases performed
        exact (finReceived_forget _ own tpcb).trans noted
      · cases performed
  · cases performed
    rw [setPcb_pcbs_self, finReceived_close]
    exact noted

theorem step_called (sound : layer.Sound) (called : layer.Called)
    (step : LayerStep layer event next) : next.Called := by
  rcases step_cases sound step with ⟨fault, _, rfl⟩ | ⟨change, _, ⟨_, after⟩, performed⟩
  · exact ⟨called.knows, called.listening⟩
  · refine Change.called sound called change fun tpcb close happened => ?_
    subst happened
    have noted := finReceived_of_perform performed
    rw [step.2.2, performed]
    exact noted

/-! ### What a callback is given -/

theorem Called.of_connecting (called : layer.Called) (sound : layer.Sound)
    (phase : (layer.pcbs tpcb).phase = .connecting) :
    ∃ index, (layer.pcbs tpcb).arg = some index ∧ (layer.sockets index).state = .connecting := by
  obtain ⟨index, arg⟩ := Option.ne_none_iff_exists'.mp ((called.knows tpcb).connecting phase)
  exact ⟨index, arg, sound.state_of_connecting phase arg⟩

/-- What the peer sends comes to a slot that is connected or closing. -/
theorem Called.of_receiving (called : layer.Called) (sound : layer.Sound)
    (transfers : layer.Transfers tpcb) (recvFunc : (layer.pcbs tpcb).recvFunc = true)
    (ongoing : (layer.pcbs tpcb).finReceived = false) :
    ∃ index, (layer.pcbs tpcb).arg = some index ∧
      ((layer.sockets index).state = .connected ∨ (layer.sockets index).state = .closing) := by
  obtain ⟨active, opened⟩ := transfers.active
  obtain ⟨index, arg⟩ := Option.ne_none_iff_exists'.mp
    ((called.knows tpcb).receiving active recvFunc ongoing)
  have holds := (sound.pcbs tpcb).called active ((sound.pcbs tpcb).recvFunc recvFunc) index arg
  refine ⟨index, arg, ?_⟩
  cases (sound.slots index).backed with
  | connected state => exact .inl state
  | closing state => exact .inr state
  | unallocated _ empty | failed _ empty => cases empty.symm.trans holds
  | unconnected _ same other | error _ same other | listening _ same other =>
    cases same.symm.trans holds
    rw [other] at active
    exact active.elim
  | connecting _ same other =>
    cases same.symm.trans holds
    rcases other with other | other <;> rw [other] at opened <;> exact opened.elim
  | closedByPeer _ same _ _ none =>
    cases same.symm.trans holds
    cases arg.symm.trans none

end SocketLayer

end LionsOS.Sock
