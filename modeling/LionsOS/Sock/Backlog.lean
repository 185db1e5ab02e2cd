/-
This file is about the connections that wait at a slot that listens. lwIP puts the
connections that it has made into the ring of the slot, and the calls that accept
take them out again. The ring is a queue that holds one connection less than it has
places; one that finds it full is closed, and every one that comes wakes a call that
waits.
-/

import LionsOS.Sock.Invariant

open Function

namespace LionsOS.Sock

open StepRun SocketLayer List

/-! ### What happens on a slot that listens -/

/-- A new connection of the slot comes, a call accepts one, or it is to listen again. -/
def OnListener (index : Fin maxSockets) (layer : SocketLayer) : Event → Prop
  | .lwipAccept tpcb _ _ => (layer.pcbs tpcb).arg = some index
  | .accept other _ _ | .listen other _ => other = index
  | .resume position _ => layer.woken[position]? = some (index, .accept)
  | _ => False

/-- A call of `tcp_socket_accept`, or one that goes on. -/
def Event.Accepts : Event → Prop
  | .accept _ _ _ | .resume _ _ => True
  | _ => False

namespace SocketLayer

/-- The connections that wait at a slot, the oldest first. -/
def backlog (layer : SocketLayer) (index : Fin maxSockets) : List Pcb :=
  (layer.sockets index).acceptQueue.entries

/-- A call that waits to accept is woken, if there is one. -/
structure WakesAccept (layer next : SocketLayer) (index : Fin maxSockets) : Prop where
  waiters : (next.sockets index).waiters .acceptSem =
    ((layer.sockets index).waiters .acceptSem).drop 1
  woken : next.woken = layer.woken ++
    (((layer.sockets index).waiters .acceptSem).take 1).map fun call => (index, call)

/-- What an event does to the backlog: the connections that it stores and those that it hands to a
call. -/
inductive BacklogEffect (index : Fin maxSockets) (layer next : SocketLayer) :
    Event → List Pcb → List Pcb → Prop
  | stored {tpcb : Pcb} {sndbuf : Nat}
    (room : (layer.backlog index).length < maxListenBacklog - 1)
    (backlog : next.backlog index = layer.backlog index ++ [layer.nextPcb])
    (wakes : layer.WakesAccept next index) :
    BacklogEffect index layer next (.lwipAccept tpcb sndbuf none) [layer.nextPcb] []
  | closed {tpcb : Pcb} {sndbuf : Nat}
    (full : (layer.backlog index).length = maxListenBacklog - 1)
    (backlog : next.backlog index = layer.backlog index)
    (closed : (next.pcbs layer.nextPcb).phase = .freed ∧
      (next.pcbs layer.nextPcb).handedBack = true)
    (wakes : layer.WakesAccept next index) :
    BacklogEffect index layer next (.lwipAccept tpcb sndbuf none) [] []
  | failed {tpcb : Pcb} {sndbuf : Nat} {err : LwipErr}
    (backlog : next.backlog index = layer.backlog index) :
    BacklogEffect index layer next (.lwipAccept tpcb sndbuf (some err)) [] []
  /-- The connection gets a slot. -/
  | handed {event : Event} {tpcb : Pcb} {new : Fin maxSockets} (accepts : event.Accepts)
    (backlog : layer.backlog index = tpcb :: next.backlog index)
    (state : (next.sockets new).state = .connected)
    (holds : (next.sockets new).sockTpcb = some tpcb) :
    BacklogEffect index layer next event [] [tpcb]
  /-- There is no slot for the connection, and the call closes it. -/
  | dropped {event : Event} {tpcb : Pcb} (accepts : event.Accepts)
    (backlog : layer.backlog index = tpcb :: next.backlog index)
    (full : ∀ other, (layer.sockets other).state ≠ .unallocated)
    (closed : (next.pcbs tpcb).handedBack = true) :
    BacklogEffect index layer next event [] [tpcb]
  | empty {event : Event} (accepts : event.Accepts) (before : layer.backlog index = [])
    (backlog : next.backlog index = []) : BacklogEffect index layer next event [] []
  /-- lwIP has freed the connection. -/
  | dead {event : Event} {tpcb : Pcb} {rest : List Pcb} (accepts : event.Accepts)
    (oldest : layer.backlog index = tpcb :: rest) (dead : ¬ layer.Live tpcb)
    (fault : next = { layer with fault := some .deadPcb }) :
    BacklogEffect index layer next event [] []
  /-- lwIP does not listen twice. -/
  | listens {memory : Bool} (fault : next = { layer with fault := some .assertion }) :
    BacklogEffect index layer next (.listen index memory) [] []

variable {layer next : SocketLayer} {event : Event} {index : Fin maxSockets}
  {stored taken : List Pcb}

theorem BacklogEffect.balance (effect : BacklogEffect index layer next event stored taken) :
    layer.backlog index ++ stored = taken ++ next.backlog index := by
  cases effect with
  | stored _ backlog => rw [backlog, nil_append]
  | closed _ backlog | failed backlog => rw [backlog, append_nil, nil_append]
  | handed _ backlog | dropped _ backlog => rw [backlog, append_nil, singleton_append]
  | empty _ before backlog => rw [before, backlog, append_nil]
  | dead _ _ _ fault | listens fault =>
    rw [fault, append_nil, nil_append]
    rfl

theorem BacklogEffect.stored_eq (effect : BacklogEffect index layer next event stored taken) :
    stored = [] ∨ stored = [layer.nextPcb] ∧ layer.nextPcb ∈ next.backlog index := by
  cases effect with
  | stored _ backlog => exact .inr ⟨rfl, by simp [backlog]⟩
  | _ => exact .inl rfl

/-! ### One event -/

theorem length_entries (queue : AcceptQueue) : queue.entries.length = queue.count := by
  rw [AcceptQueue.entries, length_map, length_range]

theorem backlog_le (layer : SocketLayer) (index : Fin maxSockets) :
    (layer.backlog index).length ≤ maxListenBacklog - 1 := by
  rw [backlog, length_entries]
  exact Nat.le_sub_one_of_lt (Nat.mod_lt _ (by decide))

section

variable (sound : layer.Sound)
include sound

theorem Sound.full_iff :
    ((layer.sockets index).acceptQueue.head + 1) % maxListenBacklog =
      (layer.sockets index).acceptQueue.tail ↔
        (layer.backlog index).length = maxListenBacklog - 1 := by
  obtain ⟨head, tail⟩ := (sound.slots index).wellFormed
  rw [backlog, length_entries, AcceptQueue.count]
  unfold maxListenBacklog at *
  omega

/-- A connection that comes is stored where there is room, and closed otherwise. -/
theorem Sound.arrives {tpcb : Pcb} {sndbuf : Nat}
    (listens : (layer.sockets index).state = .listening) (arg : (layer.pcbs tpcb).arg = some index) :
    ∃ stored, BacklogEffect index layer (layer.after (layer.acceptConnection tpcb sndbuf))
        (.lwipAccept tpcb sndbuf none) stored [] ∧
      ((layer.after (layer.acceptConnection tpcb sndbuf)).sockets index).state = .listening := by
  have arrives := layer.acceptConnection_arrives tpcb sndbuf
  generalize layer.acceptConnection tpcb sndbuf = called at arrives ⊢
  cases arrives with
  | unheard unheard => exact (unheard index arg listens).elim
  | full same _ full =>
    cases arg.symm.trans same
    refine ⟨[], .closed (sound.full_iff.mp full) ?_ ⟨?_, ?_⟩ ⟨?_, rfl⟩, ?_⟩ <;>
      simp [after, backlog, signal, Socket.signal, setSocket, newPcb, setPcb, LwipPcb.fresh, listens]
  | room same _ room =>
    cases arg.symm.trans same
    have few := lt_of_le_of_ne (layer.backlog_le index) (mt sound.full_iff.mpr room)
    refine ⟨_, .stored few ?_ ⟨?_, ?_⟩, ?_⟩
    · rw [backlog, backlog, ← (sound.slots index).wellFormed.entries_enqueue room]
      simp [after, signal, Socket.signal, setSocket, newPcb, setPcb]
    all_goals simp [after, signal, Socket.signal, setSocket, newPcb, setPcb, listens]

/-- A call that accepts takes the oldest connection. -/
theorem Sound.takesOldest (listens : (layer.sockets index).state = .listening)
    (result : CloseResult) (accepts : event.Accepts)
    (sockets : next.sockets = (layer.after (layer.acceptEnd index result)).sockets)
    (pcbs : next.pcbs = (layer.after (layer.acceptEnd index result)).pcbs)
    (fault : ∀ fault, layer.acceptEnd index result = .error fault →
      next = { layer with fault := some fault }) :
    ∃ taken, BacklogEffect index layer next event [] taken ∧
      (next.sockets index).state = .listening := by
  have ends := sound.acceptEnds index result
  generalize layer.acceptEnd index result = called at ends sockets pcbs fault
  have wellFormed := (sound.slots index).wellFormed
  cases ends with
  | empty empty =>
    have none := wellFormed.entries_eq_nil_iff.mpr empty
    exact ⟨[], .empty accepts none (by rwa [backlog, sockets]), by rwa [sockets]⟩
  | dead oldest dead =>
    exact ⟨[], .dead accepts (wellFormed.entries_dequeue oldest.waiting) (oldest.same ▸ dead) (fault _ rfl),
      by rwa [sockets]⟩
  | @dropped tpcb after oldest live full becomes =>
    have slot : next.sockets index = (layer.dequeue index).sockets index := by
      rw [sockets, ← becomes.sockets]
      rfl
    refine ⟨[tpcb], .dropped accepts ?_ full ?_, ?_⟩
    · rw [backlog, backlog, wellFormed.entries_dequeue oldest.waiting, ← oldest.same, slot,
        setSocket_sockets_self]
    · rw [pcbs]
      show (after.pcbs tpcb).handedBack = true
      rw [becomes.pcb_self]
      unfold LwipPcb.close
      split <;> rfl
    · rwa [slot, (layer.dequeue_alike index index).1]
  | @accepted tpcb new after oldest live different state becomes =>
    have slot : next.sockets index = (layer.dequeue index).sockets index := by
      rw [sockets, ← becomes.socket_of_ne different.symm]
      rfl
    have connected : next.sockets new = after.sockets new := congrFun sockets new
    refine ⟨[tpcb], @BacklogEffect.handed _ _ _ _ _ new accepts ?_ ?_ ?_, ?_⟩
    · rw [backlog, backlog, wellFormed.entries_dequeue oldest.waiting, ← oldest.same, slot,
        setSocket_sockets_self]
    · rw [connected, becomes.socket_self]
    · rw [connected, becomes.socket_self]
    · rwa [slot, (layer.dequeue_alike index index).1]

theorem Sound.backlogEffect (listens : (layer.sockets index).state = .listening)
    (concerns : OnListener index layer event) (step : LayerStep layer event next) :
    ∃ stored taken, BacklogEffect index layer next event stored taken ∧
      (next.sockets index).state = .listening := by
  obtain ⟨_, enabled, rfl⟩ := step
  cases event with
  | lwipAccept tpcb sndbuf err =>
    cases err with
    | none =>
      obtain ⟨stored, effect⟩ := sound.arrives listens concerns
      exact ⟨stored, [], effect⟩
    | some err =>
      have arg : (layer.pcbs tpcb).arg = some index := concerns
      simp only [perform, tcpSocketAcceptCb, arg, listens]
      exact ⟨[], [], .failed rfl, listens⟩
  | accept other nonblock result =>
    cases concerns
    refine ⟨[], ?_⟩
    simp only [perform, tcpSocketAccept, listens, ne_eq, not_true_eq_false, if_false]
    split_ifs with empty
    · have none := (sound.slots index).wellFormed.entries_eq_nil_iff.mpr empty
      exact ⟨[], .empty trivial none none, listens⟩
    · have none := (sound.slots index).wellFormed.entries_eq_nil_iff.mpr empty
      refine ⟨[], .empty trivial none ?_, ?_⟩
      · rwa [backlog, after, wait, setSocket_sockets_self]
      · rwa [after, wait, setSocket_sockets_self]
    · exact sound.takesOldest listens result trivial rfl rfl fun _ failed => by rw [failed]; rfl
  | resume position answers =>
    refine ⟨[], ?_⟩
    have resumed : layer.perform (.resume position answers) =
        (layer.acceptEnd index answers.close).map fun result =>
          (result.1, { result.2 with woken := result.2.woken.eraseIdx position }) := by
      simp only [perform, show layer.woken[position]? = some (index, .accept) from concerns, resume]
    rw [resumed]
    refine sound.takesOldest listens answers.close trivial ?_ ?_ fun _ failed => ?_
    · cases layer.acceptEnd index answers.close <;> rfl
    · cases layer.acceptEnd index answers.close <;> rfl
    · rw [failed]
      rfl
  | listen other memory =>
    cases concerns
    obtain ⟨tpcb, holds, phase, _⟩ := sound.of_listening listens
    have live : layer.alive (some tpcb) = .ok tpcb :=
      if_pos fun freed => by cases phase.symm.trans freed
    simp only [perform, tcpSocketListen, holds, live, bind, Except.bind, phase]
    exact ⟨[], [], .listens rfl, listens⟩
  | _ => exact concerns.elim

theorem Sound.nextPcb_le (step : LayerStep layer event next) : layer.nextPcb ≤ next.nextPcb := by
  rcases step_cases sound step with ⟨_, _, rfl⟩ | ⟨change, _⟩
  · exact le_rfl
  · cases change with
    | quiet quiet => cases quiet <;> exact ‹next.Becomes _ _ _ _›.nextPcb.ge
    | _ =>
      refine le_of_le_of_eq ?_ ‹next.Becomes _ _ _ _›.nextPcb.symm
      first | exact le_rfl | exact Nat.le_succ _

end

end SocketLayer

/-! ### Runs -/

/-- The layer, with the connections that were stored at a slot and those that were handed to a
call. -/
structure Ledger where
  layer : SocketLayer
  stored : List Pcb
  taken : List Pcb

def LedgerStep (index : Fin maxSockets) (ledger : Ledger) (event : Event) (next : Ledger) : Prop :=
  LayerStep ledger.layer event next.layer ∧
    ∃ stored taken, SocketLayer.BacklogEffect index ledger.layer next.layer event stored taken ∧
      next.stored = ledger.stored ++ stored ∧ next.taken = ledger.taken ++ taken

/-- What holds after every event. -/
structure Ledger.Balanced (ledger : Ledger) (index : Fin maxSockets) : Prop where
  sound : ledger.layer.Sound
  listens : (ledger.layer.sockets index).state = .listening
  inOrder : ledger.stored = ledger.taken ++ ledger.layer.backlog index
  once : ledger.stored.Nodup
  known : ∀ tpcb ∈ ledger.stored, tpcb < ledger.layer.nextPcb

theorem Ledger.Balanced.step {index : Fin maxSockets} {ledger : Ledger} {event : Event}
    {layer : SocketLayer} (balanced : ledger.Balanced index)
    (concerns : OnListener index ledger.layer event) (step : LayerStep ledger.layer event layer) :
    ∃ next, LedgerStep index ledger event next ∧ next.layer = layer ∧ next.Balanced index := by
  obtain ⟨sound, listens, inOrder, once, known⟩ := balanced
  obtain ⟨stored, taken, effect, listens'⟩ := sound.backlogEffect listens concerns step
  have sound' := step_sound sound step
  refine ⟨⟨layer, ledger.stored ++ stored, ledger.taken ++ taken⟩,
    ⟨step, stored, taken, effect, rfl, rfl⟩, rfl, sound', listens', ?_, ?_, ?_⟩
  · rw [inOrder, append_assoc, effect.balance, append_assoc]
  · rcases effect.stored_eq with rfl | ⟨rfl, _⟩
    · rwa [append_nil]
    · exact nodup_append.mpr ⟨once, by simp, fun old member new isNew =>
        mem_singleton.mp isNew ▸ (known old member).ne⟩
  · refine forall_mem_append.mpr
      ⟨fun tpcb member => (known tpcb member).trans_le (sound.nextPcb_le step), ?_⟩
    rcases effect.stored_eq with rfl | ⟨rfl, waits⟩
    · exact nofun
    · exact forall_mem_singleton.mpr
        ((sound'.slots index).known _ (Socket.mem_references.mpr (.inr waits)))

/-- However new connections, calls that accept and calls to listen again are interleaved on a slot
that listens, its connections wait in a queue of a bounded length: every one that is stored is taken
at most once, in the order in which they came, one that finds the queue full is closed, and each that
comes wakes a call. -/
theorem backlog_is_queue {index : Fin maxSockets} {start layer : SocketLayer}
    {earlier events : List Event} (reached : Run LayerStep zeroed earlier start)
    (listens : (start.sockets index).state = .listening)
    (run : Run (Guarded (OnListener index) LayerStep) start events layer) :
    ∃ stored taken,
      Run (LedgerStep index) ⟨start, start.backlog index, []⟩ events ⟨layer, stored, taken⟩ ∧
      stored = taken ++ layer.backlog index ∧ stored.Nodup ∧
      (layer.backlog index).length ≤ maxListenBacklog - 1 := by
  have sound := run_sound reached
  have balanced : ∃ ledger, Run (LedgerStep index) ⟨start, start.backlog index, []⟩ events ledger ∧
      ledger.layer = layer ∧ ledger.Balanced index := by
    induction run with
    | nil =>
      have slot := sound.slots index
      refine ⟨_, Run.nil, rfl, sound, listens, rfl, ?_, fun tpcb member => ?_⟩
      · exact slot.nodup.sublist (sublist_append_right ..)
      · exact slot.known tpcb (Socket.mem_references.mpr (.inr member))
    | snoc _ last inductionHypothesis =>
      obtain ⟨ledger, before, rfl, balanced⟩ := inductionHypothesis
      obtain ⟨next, step, rfl, after⟩ := balanced.step last.1 last.2
      exact ⟨next, before.snoc step, rfl, after⟩
  obtain ⟨ledger, ledgerRun, rfl, balanced⟩ := balanced
  exact ⟨_, _, ledgerRun, balanced.inOrder, balanced.once, ledger.layer.backlog_le index⟩

/-- A connection comes to a socket that listens and is accepted. -/
theorem backlog_is_queue_sample : ∃ layer stored taken start,
    Run (LedgerStep 0) ⟨start, start.backlog 0, []⟩
      [.lwipAccept 1 0 none, .accept 0 true .keeps] ⟨layer, stored, taken⟩ ∧
    stored = taken ++ layer.backlog 0 ∧ stored.Nodup ∧
      (layer.backlog 0).length ≤ maxListenBacklog - 1 := by
  let next (layer : SocketLayer) (event : Event) := layer.after (layer.perform event)
  let start := next (next zeroed (.socket (some 0) .keeps)) (.listen 0 true)
  let filled := next start (.lwipAccept 1 0 none)
  have opened : Run LayerStep zeroed [.socket (some 0) .keeps, .listen 0 true] start :=
    Run.of_foldlM (fun _ _ => layerStep_of_stepTo) rfl
  have comes : Guarded (OnListener 0) LayerStep start (.lwipAccept 1 0 none) filled :=
    ⟨rfl, layerStep_of_stepTo _ rfl⟩
  have accepts : Guarded (OnListener 0) LayerStep filled (.accept 0 true .keeps)
      (next filled (.accept 0 true .keeps)) := ⟨rfl, layerStep_of_stepTo _ rfl⟩
  obtain ⟨stored, taken, result⟩ := backlog_is_queue opened rfl ((Run.single comes).snoc accepts)
  exact ⟨_, stored, taken, _, result⟩

end LionsOS.Sock
