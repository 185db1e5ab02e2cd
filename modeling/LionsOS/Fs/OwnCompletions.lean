/-
This file settles when calls of `fs_command_blocking` go right. Each returns the
completion of its own command; the only assertion that may fire is the one that
there is a place in the command queue, when the server has completed commands
and not yet published that it has consumed them. A server that always publishes
their consumption first leaves a place for every request id.
-/

import LionsOS.Fs.RequestIds
import LionsOS.Lib.Counting

open Function

namespace LionsOS.Fs

open StepRun FsSystem Multiset

namespace FsSystem

variable {system next : FsSystem} {event : ClientEvent} {request : Fin fsQueueCapacity}

/-! ### What goes right -/

/-- No assertion has fired, and every call that has returned has returned its own completion. -/
structure Correct (system : FsSystem) : Prop where
  asserted : system.failed = false
  own : system.OwnCompletions

/-- A command is only issued when the server has published that it has consumed at least one of the
last `fsQueueCapacity` commands. -/
def RoomWhenIssued (system : FsSystem) (event : ClientEvent) : Prop :=
  ∀ cmd, event = .fsCommandBlocking cmd → system.commandQueue.length < fsQueueCapacity

theorem own_of_same (own : system.OwnCompletions) (sameResults : next.results = system.results)
    (sameAnswers : next.answers = system.answers) : next.OwnCompletions := by
  unfold OwnCompletions
  rw [sameResults, sameAnswers]
  exact own

/-- A call that returns returns the completion of its own command. -/
theorem Sound.own_collected (sound : system.Sound) (own : system.OwnCompletions) {call : Nat}
    (waits : system.waiting call = some request)
    (complete : (system.requestMetadata request).complete = true) :
    (system.collected call request).OwnCompletions := by
  intro other completion result
  have result : update system.results call
    (some (system.requestMetadata request).completion) other = some completion := result
  by_cases same : other = call
  · subst same
    rw [update_self] at result
    rw [← result]
    rcases sound.tracked.settled other request waits with inFlight | ⟨_, answered⟩
    · obtain ⟨token, member, same⟩ := mem_map.mp inFlight
      obtain ⟨shared, waitsToo, _, incomplete⟩ := sound.tracked.known token member
      rw [same, waits, Option.some.injEq] at waitsToo
      rw [← waitsToo, complete] at incomplete
      cases incomplete
    · exact answered
  · rw [update_of_ne same] at result
    exact own other completion result

theorem Sound.own_completed (sound : system.Sound) (own : system.OwnCompletions)
    {cmd : OfCall FsCmd} (accepted : cmd ∈ system.inServer) (answer : FsCmpl) :
    OwnCompletions { system with
      answers := update system.answers cmd.call (some answer) } := by
  intro other completion result
  have token : (⟨cmd.call, cmd.message.id⟩ : OfCall UInt64T) ∈ system.inFlight :=
    mem_add.mpr (Or.inl (mem_add.mpr (Or.inr (mem_tokens accepted))))
  obtain ⟨request, waits, _⟩ := sound.tracked.known _ token
  refine (update_of_ne (fun same => ?_) _ _).trans (own other completion result)
  rw [← same, (sound.allocated.returned other completion result).2] at waits
  cases waits

theorem step_correct_iff (sound : system.Sound) (correct : system.Correct)
    (step : ClientStep system event next) : next.Correct ↔ system.RoomWhenIssued event := by
  have acts := acts step
  have always : next.Correct → (∀ cmd, event ≠ .fsCommandBlocking cmd) →
      (next.Correct ↔ system.RoomWhenIssued event) := fun right other =>
    ⟨fun _ cmd same => absurd same (other cmd), fun _ => right⟩
  cases acts with
  | @fsCommandBlocking request cmd allocated =>
    rw [beginCall_eq]
    split_ifs with room
    · refine ⟨fun _ _ _ => Nat.lt_of_le_of_ne sound.counted.queued room, fun _ => ?_⟩
      exact ⟨correct.asserted, own_of_same correct.own rfl rfl⟩
    · refine ⟨fun right => ?_, fun roomWhenIssued => ?_⟩
      · have fired := right.asserted
        cases fired
      · exact absurd (roomWhenIssued cmd rfl).ne room
  | waits => exact always correct fun _ same => by cases same
  | returns waits complete =>
    refine always ?_ fun _ same => by cases same
    rw [endCall_eq _ complete (sound.allocated.used _ _ waits)]
    exact ⟨correct.asserted, sound.own_collected correct.own waits complete⟩
  | fsProcessCompletions idle =>
    exact always ⟨correct.asserted, own_of_same correct.own rfl rfl⟩ fun _ same => by cases same
  | @processCompletion processing completion current more found =>
    refine always ?_ fun _ same => by cases same
    have unchanged : (system.store completion.message).failed = system.failed ∧
        (system.store completion.message).results = system.results ∧
        (system.store completion.message).answers = system.answers := by
      unfold store
      split
      · exact ⟨rfl, rfl, rfl⟩
      · exact ⟨rfl, rfl, rfl⟩
    exact ⟨unchanged.1.trans correct.asserted, own_of_same correct.own unchanged.2.1 unchanged.2.2⟩
  | completionsProcessed current all | readCommand found | publishConsumption readAll =>
    exact always ⟨correct.asserted, own_of_same correct.own rfl rfl⟩ fun _ same => by cases same
  | complete accepted =>
    refine always ⟨correct.asserted, ?_⟩ fun _ same => by cases same
    exact own_of_same (sound.own_completed correct.own (List.mem_of_getElem? accepted) _) rfl rfl

/-- Nothing was ever called. -/
structure Initial (system : FsSystem) : Prop where
  free : ∀ request, (system.requestMetadata request).used = false ∧
    (system.requestMetadata request).complete = false
  waiting : ∀ call, system.waiting call = none
  results : ∀ call, system.results call = none
  processing : system.processing = none
  commandQueue : system.commandQueue = []
  read : system.read = 0
  inServer : system.inServer = []
  completionQueue : system.completionQueue = []
  failed : system.failed = false

theorem Initial.sound (initial : system.Initial) : system.Sound := by
  have empty : system.inFlight = 0 := by
    rw [inFlight, initial.commandQueue, initial.inServer, initial.completionQueue, List.drop_nil,
      List.drop_nil]
    rfl
  have nobody : ∀ call request, system.waiting call ≠ some request := fun call request waits => by
    rw [initial.waiting call] at waits
    cases waits
  refine ⟨⟨?_, ?_, ?_⟩, ⟨?_, ?_, ?_, ?_, ?_⟩, ⟨?_, ?_, ?_, ?_⟩⟩
  · rw [initial.commandQueue]
    exact Nat.zero_le _
  · rw [initial.read]
    exact Nat.zero_le _
  · intro processing current
    rw [initial.processing] at current
    cases current
  · exact fun call request waits => absurd waits (nobody call request)
  · intro call completion result
    rw [initial.results call] at result
    cases result
  · exact fun call request waits => absurd waits (nobody call request)
  · exact fun call _ request waits => absurd waits (nobody call request)
  · exact fun request _ => (initial.free request).2
  · rw [empty]
    exact nodup_zero
  · intro token member
    rw [empty] at member
    exact absurd member (notMem_zero _)
  · exact fun call request waits => absurd waits (nobody call request)
  · intro completion member
    rw [initial.completionQueue, List.drop_nil] at member
    exact absurd member List.not_mem_nil

theorem Initial.correct (initial : system.Initial) : system.Correct where
  asserted := initial.failed
  own call completion result := by
    rw [initial.results call] at result
    cases result

/-- The client as it starts, with zeroed tables and empty queues. -/
def started : FsSystem where
  requestMetadata _ :=
    { command := { id := 0, type := 0, params := fun _ => 0 }
      completion := { id := 0, status := 0, data := 0 }
      used := false
      complete := false }
  waiting _ := none
  calls := 0
  processing := none
  commandQueue := []
  read := 0
  inServer := []
  completionQueue := []
  answers _ := none
  results _ := none
  failed := false

theorem started_initial : started.Initial where
  free _ := ⟨rfl, rfl⟩
  waiting _ := rfl
  results _ := rfl
  processing := rfl
  commandQueue := rfl
  read := rfl
  inServer := rfl
  completionQueue := rfl
  failed := rfl

theorem exists_allocated (free : (system.requestMetadata request).used = false) :
    ∃ found, system.fsRequestAllocate = some found := by
  rw [← Option.isSome_iff_exists, fsRequestAllocate, List.find?_isSome]
  exact ⟨request, List.mem_finRange request, by rw [free, Bool.not_false]⟩

end FsSystem

namespace FsSystem

variable {system : FsSystem} {count : Nat}

/-! ### A full queue -/

/-- This many calls wait, and the server has done nothing yet. -/
structure Filled (count : Nat) (system : FsSystem) : Prop where
  sound : system.Sound
  used : Counting.count (fun metadata : RequestMetadata => metadata.used = true)
    system.requestMetadata = count
  queued : system.commandQueue.length = count
  read : system.read = 0
  inServer : system.inServer = []
  completionQueue : system.completionQueue = []
  processing : system.processing = none
  failed : system.failed = false

theorem Filled.call (filled : system.Filled count) (room : count < fsQueueCapacity) (cmd : FsCmd) :
    ∃ next, ClientStep system (.fsCommandBlocking cmd) next ∧
      next.Filled (count + 1) := by
  have few : Counting.count (fun metadata : RequestMetadata => metadata.used = true)
      system.requestMetadata < Fintype.card (Fin fsQueueCapacity) := by
    rw [filled.used, Fintype.card_fin]
    exact room
  obtain ⟨free, unused⟩ := Counting.count_lt_card_iff.mp few
  obtain ⟨request, allocated⟩ := exists_allocated (Bool.eq_false_of_not_eq_true unused)
  have begun : system.beginCall request cmd = system.issued request cmd := by
    rw [beginCall_eq, if_pos]
    rw [filled.queued]
    exact room.ne
  have step : ClientStep system (.fsCommandBlocking cmd) (system.issued request cmd) := by
    refine ⟨filled.failed, ?_⟩
    simp only [perform, allocated, Option.map_some, begun]
  refine ⟨_, step, step_sound filled.sound step, ?_, ?_, filled.read, filled.inServer,
    filled.completionQueue, filled.processing, filled.failed⟩
  · show Counting.count _ (update system.requestMetadata request _) = _
    rw [Counting.count_update_of_comes, filled.used]
    · rw [unused_of_allocated allocated]
      exact Bool.false_ne_true
    · rfl
  · exact List.length_append.trans (congrArg (· + 1) filled.queued)

end FsSystem

namespace FsSystem

variable {system next : FsSystem} {event : ClientEvent}

/-! ### A server that publishes first -/

/-- The server completes commands only when it has published that it has consumed all it has
read. -/
def PublishesFirst (system : FsSystem) (event : ClientEvent) : Prop :=
  ∀ index status data, event = .complete index status data → system.read = 0

/-- The server has not completed the commands it has yet to publish as consumed. -/
def Held (system : FsSystem) : Prop :=
  (system.commandQueue.take system.read).Subperm system.inServer

theorem step_held (held : system.Held) (sound : system.Sound)
    (publishesFirst : system.PublishesFirst event) (step : ClientStep system event next) :
    next.Held := by
  unfold Held at held ⊢
  cases acts step with
  | fsCommandBlocking allocated =>
    rw [beginCall_eq]
    split_ifs
    · show ((system.commandQueue ++ [_]).take system.read).Subperm system.inServer
      rw [List.take_append_of_le_length sound.counted.read]
      exact held
    · exact held
  | waits => exact held
  | returns waits complete =>
    rw [endCall_eq _ complete (sound.allocated.used _ _ waits)]
    exact held
  | fsProcessCompletions idle => exact held
  | @processCompletion processing completion current more found =>
    have unchanged : (system.store completion.message).commandQueue = system.commandQueue ∧
        (system.store completion.message).read = system.read ∧
        (system.store completion.message).inServer = system.inServer := by
      unfold store
      split
      · exact ⟨rfl, rfl, rfl⟩
      · exact ⟨rfl, rfl, rfl⟩
    rw [unchanged.1, unchanged.2.1, unchanged.2.2]
    exact held
  | completionsProcessed current all => exact held
  | @readCommand cmd found =>
    rw [List.take_add_one, found]
    refine ((List.subperm_append_right [cmd]).mpr held).trans ?_
    exact (List.perm_append_singleton cmd system.inServer).subperm
  | @publishConsumption amount readAll =>
    rw [← List.drop_take]
    exact (List.drop_sublist _ _).subperm.trans held
  | complete accepted =>
    rw [publishesFirst _ _ _ rfl]
    exact List.nil_subperm

theorem Held.room (held : system.Held) (sound : system.Sound) {request : Fin fsQueueCapacity}
    (free : (system.requestMetadata request).used = false) :
    system.commandQueue.length < fsQueueCapacity := by
  have inServer : tokens FsCmd.id (system.commandQueue.take system.read) ≤
      tokens FsCmd.id system.inServer := map_le_map (coe_le.mpr held)
  have queued : tokens FsCmd.id system.commandQueue ≤ system.inFlight := by
    rw [← List.take_append_drop system.read system.commandQueue, tokens_append, add_comm]
    exact (add_le_add_right inServer _).trans (le_add_right _ _)
  have nodup : (system.inFlight.map OfCall.message).Nodup := by
    refine Multiset.Nodup.map_on ?_ (Multiset.Nodup.of_map _ sound.tracked.once)
    intro first memberFirst second memberSecond same
    obtain ⟨request, waits, id, _⟩ := sound.tracked.known first memberFirst
    obtain ⟨other, waitsOther, idOther, _⟩ := sound.tracked.known second memberSecond
    have sameRequest := requestIdOf_injective (id.symm.trans (same.trans idOther))
    have sameCall := sound.allocated.own _ _ request waits (sameRequest ▸ waitsOther)
    exact congrArg₂ OfCall.mk sameCall same
  have used : (system.inFlight.map OfCall.message).toFinset ⊆
      (Finset.univ.filter fun request => (system.requestMetadata request).used = true).image
        requestIdOf := by
    intro id member
    obtain ⟨token, inFlight, rfl⟩ := mem_map.mp (mem_toFinset.mp member)
    obtain ⟨request, waits, id, _⟩ := sound.tracked.known token inFlight
    exact Finset.mem_image.mpr ⟨request, Finset.mem_filter.mpr
      ⟨Finset.mem_univ _, sound.allocated.used _ request waits⟩, id.symm⟩
  have few : Counting.count (fun metadata : RequestMetadata => metadata.used = true)
      system.requestMetadata < fsQueueCapacity := by
    have notAll : ∃ request, ¬ (system.requestMetadata request).used = true :=
      ⟨request, by rw [free]; exact Bool.false_ne_true⟩
    refine Nat.lt_of_lt_of_eq ?_ (Fintype.card_fin fsQueueCapacity)
    exact Counting.count_lt_card_iff.mpr notAll
  calc system.commandQueue.length
      = card (tokens FsCmd.id system.commandQueue) := (List.length_map _).symm
    _ ≤ card (system.inFlight.map OfCall.message) := by
        rw [card_map]
        exact card_le_card queued
    _ = (system.inFlight.map OfCall.message).toFinset.card :=
        (toFinset_card_of_nodup nodup).symm
    _ ≤ _ := (Finset.card_le_card used).trans Finset.card_image_le
    _ < fsQueueCapacity := few

end FsSystem

/-- With a server that publishes the consumption of commands before their completions, no assertion
ever fires, and every call returns the completion of its own command. -/
theorem correct_of_publishesFirst {start system : FsSystem} {events : List ClientEvent}
    (initial : start.Initial)
    (run : Run (Guarded FsSystem.PublishesFirst ClientStep) start events system) :
    Run (Within FsSystem.Correct ClientStep) start events system := by
  have held : start.Held := by
    rw [FsSystem.Held, initial.commandQueue, List.take_nil]
    exact List.nil_subperm
  refine run.mono_of_invariant (fun system => (system.Sound ∧ system.Held) ∧ system.Correct)
    ⟨⟨initial.sound, held⟩, initial.correct⟩ ?_
  rintro system event next ⟨⟨sound, held⟩, correct⟩ ⟨publishesFirst, step⟩
  have room : system.RoomWhenIssued event := by
    rintro cmd rfl
    cases acts step with
    | fsCommandBlocking allocated =>
      exact held.room sound (unused_of_allocated allocated)
  have right := (step_correct_iff sound correct step).mpr room
  exact ⟨⟨⟨step_sound sound step, step_held held sound publishesFirst step⟩, right⟩,
    correct, step, right⟩

theorem correct_of_publishesFirst_of_one : ∃ cmd system,
    Run (Within FsSystem.Correct ClientStep) started [.fsCommandBlocking cmd] system := by
  let cmd : FsCmd := { id := 0, type := 0, params := fun _ => 0 }
  obtain ⟨request, allocated⟩ := @exists_allocated started ⟨0, by decide⟩ rfl
  have step : ClientStep started (.fsCommandBlocking cmd) (started.beginCall request cmd) := by
    refine ⟨rfl, ?_⟩
    simp only [perform, allocated, Option.map_some]
  have publishesFirst : started.PublishesFirst (.fsCommandBlocking cmd) := by
    rintro _ _ _ ⟨⟩
  exact ⟨cmd, _, correct_of_publishesFirst started_initial (.single ⟨publishesFirst, step⟩)⟩

end LionsOS.Fs
