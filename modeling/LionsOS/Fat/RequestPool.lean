/-
This file follows the slots of the request pool. A slot is in use from the time a
command is accepted until its completion is written. While it is, a worker holds
it, or the loop has yet to find it finished; so a request is only ever set up in
a slot that is free, and the requests in flight change by exactly those that are
accepted and completed.
-/

import LionsOS.Fat.EventLoop
import LionsOS.Lib.Places

open Function

namespace LionsOS.Fat

open LionsOS.Fs

/-- At this stage the request of this slot may be finished and not yet completed. -/
def Stage.MayBeFinished : Stage → Fin fatThreadNum → Prop
  | .yielding, _ => True
  | .reaping slots, slot => slot ∈ slots
  | _, _ => False

namespace FatServer

variable {slot index : Fin fatThreadNum} {call : NotifiedCall} {handle : Fin fatThreadNum}

/-! ### The invariant of the pool -/

/-- No call is going on and no request is in flight. -/
structure Initial (server : FatServer) : Prop where
  idle : server.call = none
  free : ∀ slot, (server.requestPool slot).stat = .free
  running : server.cothread eventThread = .running
  workers : ∀ handle, handle ≠ eventThread → server.cothread handle = .notActive

/-- The slots that are in use are those of the workers, and of the requests the loop has yet to
find finished. -/
structure PoolSound (server : FatServer) : Prop where
  running : server.cothread eventThread = .running
  own : ∀ slot, (server.requestPool slot).stat = .inuse → (server.requestPool slot).handle = slot
  held : ∀ handle, server.cothread handle = .ready ∨ server.cothread handle = .blocked →
    (server.requestPool handle).stat = .inuse
  active : ∀ slot, (server.requestPool slot).stat = .inuse →
    server.cothread slot = .notActive →
      ∃ call, server.call = some call ∧ call.stage.MayBeFinished slot

/-- The id of the request in a slot that is in use. -/
def requestsIn (server : FatServer) (slot : Fin fatThreadNum) : Multiset UInt64T :=
  if (server.requestPool slot).stat = .inuse then {(server.requestPool slot).requestId} else 0

/-- The ids of the requests that were accepted and not yet completed. -/
def inFlight (server : FatServer) : Multiset UInt64T :=
  Places.total server.requestsIn

variable {server next : FatServer} {event : FatEvent}

theorem Initial.poolSound (initial : server.Initial) : server.PoolSound where
  running := initial.running
  own slot used := by
    rw [initial.free slot] at used
    cases used
  held handle active := by
    by_cases zero : handle = eventThread
    · subst zero
      rw [initial.running] at active
      rcases active with ready | blocked
      · cases ready
      · cases blocked
    · rw [initial.workers handle zero] at active
      rcases active with ready | blocked
      · cases ready
      · cases blocked
  active slot used := by
    rw [initial.free slot] at used
    cases used

theorem nothingInFlight_of_free (free : ∀ slot, (server.requestPool slot).stat = .free) :
    server.inFlight = 0 := by
  have nothing : ∀ slot, server.requestsIn slot = 0 := fun slot => by
    rw [requestsIn, free slot, if_neg (by decide)]
  have total : Places.total server.requestsIn = 0 := Finset.sum_eq_zero fun slot _ => nothing slot
  exact total

theorem Initial.nothingInFlight (initial : server.Initial) : server.inFlight = 0 :=
  nothingInFlight_of_free initial.free

/-! ### What changes the requests in flight -/

theorem inFlight_congr
    (same : ∀ slot, (next.requestPool slot).stat = (server.requestPool slot).stat ∧
      (next.requestPool slot).requestId = (server.requestPool slot).requestId) :
    next.inFlight = server.inFlight :=
  Places.total_congr fun slot => by rw [requestsIn, requestsIn, (same slot).1, (same slot).2]

theorem inFlight_setResult (index : Fin fatThreadNum) (status result : UInt64T) :
    (server.setResult index status result).inFlight = server.inFlight := by
  refine inFlight_congr fun slot => ?_
  by_cases here : slot = index
  · subst here
    simp only [setResult, update_self, and_self]
  · simp only [setResult, update_of_ne here, and_self]

theorem inFlight_respond (call : NotifiedCall) (used : (server.requestPool slot).stat = .inuse) :
    server.inFlight = (server.respond call slot).inFlight +
      {(server.requestPool slot).requestId} := by
  refine Places.total_remove slot (fun other different => ?_) ?_
  · simp only [requestsIn, respond, update_of_ne different]
  · simp only [requestsIn, respond, update_self, used, if_true, reduceCtorEq, if_false, zero_add]

theorem inFlight_setupRequest (unused : (server.requestPool index).stat = .free) (message : FsCmd) :
    (server.setupRequest index message).inFlight = server.inFlight + {message.id} := by
  refine Places.total_add index (fun other different => ?_) ?_
  · simp only [requestsIn, setupRequest, update_of_ne different]
  · simp only [requestsIn, setupRequest, update_self, unused, if_true, reduceCtorEq,
      if_false, zero_add]

theorem stat_of_finished (finished : server.finished slot = true) :
    (server.requestPool slot).stat = .inuse := by
  simp only [FatServer.finished, Bool.and_eq_true, beq_iff_eq] at finished
  exact finished.2

/-! ### The invariant is kept -/

section

variable (sound : server.PoolSound)
include sound

theorem PoolSound.free_of_popping (current : server.call = some call)
    (stage : call.stage = .popping) (available : server.cothread index = .notActive) :
    (server.requestPool index).stat = .free := by
  cases stat : (server.requestPool index).stat with
  | free => rfl
  | inuse =>
    obtain ⟨other, same, mayBe⟩ := sound.active index stat available
    rw [current, Option.some.injEq] at same
    rw [← same, stage] at mayBe
    cases mayBe

/-- Only the stage has changed, and the same requests may be finished. -/
theorem PoolSound.of_same (samePool : next.requestPool = server.requestPool)
    (sameCothread : next.cothread = server.cothread)
    (stays : ∀ slot, (server.requestPool slot).stat = .inuse → server.cothread slot = .notActive →
      (∃ call, server.call = some call ∧ call.stage.MayBeFinished slot) →
      ∃ call, next.call = some call ∧ call.stage.MayBeFinished slot) : next.PoolSound where
  running := sameCothread ▸ sound.running
  own := samePool ▸ sound.own
  held := by
    rw [samePool, sameCothread]
    exact sound.held
  active slot := by
    rw [samePool, sameCothread]
    exact fun used inactive => stays slot used inactive (sound.active slot used inactive)

theorem PoolSound.of_settled (current : server.call = some call)
    (settled : ∀ slot, ¬ call.stage.MayBeFinished slot)
    (samePool : next.requestPool = server.requestPool)
    (sameCothread : next.cothread = server.cothread) : next.PoolSound := by
  refine sound.of_same samePool sameCothread ?_
  rintro slot _ _ ⟨before, same, mayBe⟩
  rw [current, Option.some.injEq] at same
  exact absurd (same ▸ mayBe) (settled slot)

theorem PoolSound.setCothread {state : CoState}
    (worked : server.cothread handle = .ready ∨ server.cothread handle = .blocked)
    (works : state = .ready ∨ state = .blocked) : (server.setCothread handle state).PoolSound := by
  have notEventThread : handle ≠ eventThread := by
    rintro rfl
    rw [sound.running] at worked
    rcases worked with ready | blocked
    · cases ready
    · cases blocked
  refine ⟨?_, sound.own, fun other active => ?_, fun slot used inactive => ?_⟩
  · exact (update_of_ne (Ne.symm notEventThread) _ _).trans sound.running
  · by_cases here : other = handle
    · subst here
      exact sound.held other worked
    · rw [setCothread_of_ne _ _ here] at active
      exact sound.held other active
  · by_cases here : slot = handle
    · subst here
      rw [setCothread_self] at inactive
      rcases works with rfl | rfl
      · cases inactive
      · cases inactive
    · rw [setCothread_of_ne _ _ here] at inactive
      exact sound.active slot used inactive

end

theorem PoolSound.finish (sound : server.PoolSound) {call : NotifiedCall}
    (current : server.call = some call) (stage : call.stage = .yielding) {handle : Fin fatThreadNum}
    (ready : server.cothread handle = .ready) (status result : UInt64T) :
    ((server.setResult handle status result).setCothread handle .notActive).PoolSound := by
  have notEventThread : handle ≠ eventThread := by
    rintro rfl
    rw [sound.running] at ready
    cases ready
  have same : ∀ slot, ((server.setResult handle status result).requestPool slot).stat =
      (server.requestPool slot).stat ∧
      ((server.setResult handle status result).requestPool slot).handle =
        (server.requestPool slot).handle := fun slot => by
    by_cases here : slot = handle
    · subst here
      simp only [setResult, update_self, and_self]
    · simp only [setResult, update_of_ne here, and_self]
  refine ⟨?_, fun slot used => ?_, fun other active => ?_, fun slot used inactive => ?_⟩
  · exact (update_of_ne (Ne.symm notEventThread) _ _).trans sound.running
  · exact (same slot).2.trans (sound.own slot ((same slot).1.symm.trans used))
  · by_cases here : other = handle
    · subst here
      rw [setCothread_self] at active
      rcases active with ready | blocked
      · cases ready
      · cases blocked
    · rw [setCothread_of_ne _ _ here] at active
      exact (same other).1.trans (sound.held other active)
  · refine ⟨call, current, ?_⟩
    rw [stage]
    trivial

theorem PoolSound.respond (sound : server.PoolSound) {call : NotifiedCall}
    (current : server.call = some call) {slot : Fin fatThreadNum} {rest : List (Fin fatThreadNum)}
    (stage : call.stage = .reaping (slot :: rest)) (finished : server.finished slot = true) :
    (server.respond { call with stage := .reaping rest } slot).PoolSound := by
  have used := stat_of_finished finished
  have inactive : server.cothread slot = .notActive := by
    simp only [FatServer.finished, Bool.and_eq_true, beq_iff_eq] at finished
    exact sound.own slot used ▸ finished.1
  have freed : ((server.respond { call with stage := .reaping rest } slot).requestPool slot).stat =
      .free := by
    simp only [FatServer.respond, update_self]
  have others : ∀ other, other ≠ slot →
      (server.respond { call with stage := .reaping rest } slot).requestPool other =
        server.requestPool other := fun other different => by
    simp only [FatServer.respond, update_of_ne different]
  refine ⟨sound.running, fun other usedOther => ?_, fun other active => ?_,
    fun other usedOther inactiveOther => ?_⟩
  · by_cases here : other = slot
    · subst here
      rw [freed] at usedOther
      cases usedOther
    · rw [others other here] at usedOther ⊢
      exact sound.own other usedOther
  · by_cases here : other = slot
    · subst here
      have active : server.cothread other = .ready ∨ server.cothread other = .blocked := active
      rw [inactive] at active
      rcases active with ready | blocked
      · cases ready
      · cases blocked
    · rw [others other here]
      exact sound.held other active
  · by_cases here : other = slot
    · subst here
      rw [freed] at usedOther
      cases usedOther
    · rw [others other here] at usedOther
      obtain ⟨before, same, mayBe⟩ := sound.active other usedOther inactiveOther
      rw [current, Option.some.injEq] at same
      rw [← same, stage] at mayBe
      exact ⟨_, rfl, (List.mem_cons.mp mayBe).resolve_left here⟩

theorem PoolSound.setupRequest (sound : server.PoolSound)
    (available : server.cothread index = .notActive) (message : FsCmd) :
    (server.setupRequest index message).PoolSound := by
  have notEventThread : index ≠ eventThread := by
    rintro rfl
    rw [sound.running] at available
    cases available
  refine ⟨?_, fun slot used => ?_, fun handle active => ?_, fun slot used inactive => ?_⟩
  · exact (update_of_ne (Ne.symm notEventThread) _ _).trans sound.running
  · by_cases here : slot = index
    · subst here
      simp only [FatServer.setupRequest, update_self]
    · simp only [FatServer.setupRequest, update_of_ne here] at used ⊢
      exact sound.own slot used
  · by_cases here : handle = index
    · subst here
      simp only [FatServer.setupRequest, update_self]
    · simp only [FatServer.setupRequest, update_of_ne here] at active ⊢
      exact sound.held handle active
  · by_cases here : slot = index
    · subst here
      simp only [FatServer.setupRequest, update_self] at inactive
      cases inactive
    · simp only [FatServer.setupRequest, update_of_ne here] at used inactive
      exact sound.active slot used inactive

theorem step_poolSound (sound : server.PoolSound) (step : FatStep server event next) :
    next.PoolSound := by
  cases acts step with
  | putCommand | publishCommands
  | consumeCompletions published => exact ⟨sound.running, sound.own, sound.held, sound.active⟩
  | notified idle =>
    refine sound.of_same rfl rfl ?_
    rintro slot _ _ ⟨before, current, _⟩
    rw [idle] at current
    cases current
  | blkResponse current stage blocked =>
    exact sound.setCothread (Or.inr blocked) (Or.inl rfl)
  | yield current stage => exact sound.of_same rfl rfl fun slot _ _ _ => ⟨_, rfl, trivial⟩
  | block current stage ready =>
    have waits := sound.setCothread (Or.inl ready) (Or.inr rfl)
    exact ⟨waits.running, waits.own, waits.held, waits.active⟩
  | finish current stage ready => exact sound.finish current stage ready _ _
  | resume current stage settled =>
    refine sound.of_same rfl rfl fun slot used inactive _ => ⟨_, rfl, ?_⟩
    refine (mem_workerSlots slot).mpr ?_
    rintro rfl
    rw [sound.running] at inactive
    cases inactive
  | reaped current stage =>
    refine sound.of_settled current (fun slot mayBe => ?_) rfl rfl
    rw [stage] at mayBe
    cases mayBe
  | respond current stage finished => exact sound.respond current stage finished
  | skip current stage unfinished =>
    refine sound.of_same rfl rfl ?_
    rintro slot used inactive ⟨before, same, mayBe⟩
    rw [current, Option.some.injEq] at same
    rw [← same, stage] at mayBe
    refine ⟨_, rfl, (List.mem_cons.mp mayBe).resolve_left ?_⟩
    rintro rfl
    simp [FatServer.finished, sound.own slot used, inactive, used] at unfinished
  | readCommandQueueSize current stage unknown available | readCompletionQueueSize current stage =>
    exact sound.of_settled current (fun slot mayBe => by rw [stage] at mayBe; cases mayBe) rfl rfl
  | @pop call index current stage known available more =>
    have settled : ∀ slot, ¬ call.stage.MayBeFinished slot := fun slot mayBe => by
      rw [stage] at mayBe
      cases mayBe
    unfold FatServer.pop
    dsimp only
    split_ifs
    · exact sound.of_settled current settled rfl rfl
    · have setUp := sound.setupRequest available (server.nextCommand call)
      exact setUp.of_settled current settled rfl rfl
  | stop current stage done | publish current stage =>
    exact sound.of_settled current (fun slot mayBe => by rw [stage] at mayBe; cases mayBe) rfl rfl

/-! ### The requests in flight -/

/-- An event writes the completion of a slot. -/
def Completes (server : FatServer) (event : FatEvent) (slot : Fin fatThreadNum) : Prop :=
  event = .reap ∧ server.finished slot = true ∧
    ∃ call rest, server.call = some call ∧ call.stage = .reaping (slot :: rest)

/-- An event dequeues a command. -/
def Dequeues (server : FatServer) (event : FatEvent) (command : FsCmd) : Prop :=
  ∃ call index, event = .pop index ∧ server.call = some call ∧ command = server.nextCommand call

/-- What an event does to the requests in flight: one is completed, or a command is dequeued and,
if its type is one of the protocol, accepted; or nothing. -/
inductive Changes (server : FatServer) (event : FatEvent) (next : FatServer) : Prop
  | completes (slot : Fin fatThreadNum) (completes : server.Completes event slot)
    (fewer : server.inFlight = next.inFlight + {(server.requestPool slot).requestId})
  | accepts (command : FsCmd) (dequeues : server.Dequeues event command)
    (known : command.type < fsNumCommands) (more : next.inFlight = server.inFlight + {command.id})
  | rejects (command : FsCmd) (dequeues : server.Dequeues event command)
    (unknown : fsNumCommands ≤ command.type) (same : next.inFlight = server.inFlight)
  | nothing (completesNone : ∀ slot, ¬ server.Completes event slot)
    (dequeuesNone : ∀ command, ¬ server.Dequeues event command)
    (same : next.inFlight = server.inFlight)

theorem Changes.of_other (notReap : event ≠ .reap) (notPop : ∀ index, event ≠ .pop index)
    (same : next.inFlight = server.inFlight) : server.Changes event next :=
  Changes.nothing (fun _ completes => notReap completes.1)
    (fun _ ⟨_, index, popped, _⟩ => notPop index popped) same

theorem step_changes (sound : server.PoolSound) (step : FatStep server event next) :
    server.Changes event next := by
  have neverPops : ∀ command, ¬ server.Dequeues .reap command := by
    rintro command ⟨_, _, impossible, _⟩
    cases impossible
  cases acts step with
  | respond current stage finished =>
    exact Changes.completes _ ⟨rfl, finished, _, _, current, stage⟩
      (inFlight_respond _ (stat_of_finished finished))
  | @skip call slot rest current stage unfinished =>
    refine Changes.nothing ?_ neverPops rfl
    rintro other ⟨_, finished, call', rest', current', stage'⟩
    rw [current, Option.some.injEq] at current'
    subst current'
    rw [stage, Stage.reaping.injEq, List.cons.injEq] at stage'
    rw [stage'.1, finished] at unfinished
    cases unfinished
  | @reaped call current stage =>
    refine Changes.nothing ?_ neverPops rfl
    rintro other ⟨_, _, call', rest', current', stage'⟩
    rw [current, Option.some.injEq] at current'
    subst current'
    rw [stage] at stage'
    cases stage'
  | @pop call index current stage known available more =>
    have unused := sound.free_of_popping current stage available
    have dequeues : server.Dequeues (.pop index) (server.nextCommand call) :=
      ⟨call, index, rfl, current, rfl⟩
    unfold FatServer.pop
    dsimp only
    split_ifs with unknown
    · exact Changes.rejects _ dequeues unknown rfl
    · exact Changes.accepts _ dequeues (BitVec.not_le.mp unknown) (inFlight_setupRequest unused _)
  | finish current stage ready =>
    refine Changes.of_other (fun same => by cases same) (fun _ same => by cases same) ?_
    exact inFlight_setResult _ _ _
  | _ => exact Changes.of_other (fun same => by cases same) (fun _ same => by cases same) rfl

end FatServer

end LionsOS.Fat
