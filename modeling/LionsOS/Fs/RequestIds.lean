/-
This file follows the request ids of the calls of `fs_command_blocking`. While a
call waits, its command is in flight once: in the command queue, in the server,
or, as its completion, in the completion queue. From then on its completion is
stored under its id, and the id is only given to another call after this one has
collected it.
-/

import LionsOS.Fs.BlockingCommands
import Mathlib.Algebra.Order.Group.Multiset

open Function

namespace LionsOS.Fs

open Multiset

namespace FsSystem

variable {system next : FsSystem} {event : ClientEvent} {Msg : Type} {index : Nat}

variable {completion : OfCall FsCmpl} {processing : Processing} {cmd : OfCall FsCmd}
  {request : Fin fsQueueCapacity} {call : Nat}

/-! ### Messages in flight -/

/-- A message, as the call it belongs to and its request id. -/
def tokens {Msg : Type} (requestId : Msg → UInt64T) (messages : List (OfCall Msg)) :
    Multiset (OfCall UInt64T) :=
  (messages.map fun message => ⟨message.call, requestId message.message⟩ : List (OfCall UInt64T))

/-- How many of the completions in the queue have been stored. -/
def stored (system : FsSystem) : Nat :=
  system.processing.elim 0 Processing.i

/-- The calls whose commands are issued and whose completions are not stored. -/
def inFlight (system : FsSystem) : Multiset (OfCall UInt64T) :=
  tokens FsCmd.id (system.commandQueue.drop system.read) + tokens FsCmd.id system.inServer +
    tokens FsCmpl.id (system.completionQueue.drop system.stored)

/-- What holds of the counters of the queues. -/
structure Counted (system : FsSystem) : Prop where
  queued : system.commandQueue.length ≤ fsQueueCapacity
  read : system.read ≤ system.commandQueue.length
  processing : ∀ processing, system.processing = some processing →
    processing.i ≤ processing.toConsume ∧ processing.toConsume ≤ system.completionQueue.length

/-- Each call that waits has a request of its own, and a request that is not used is not
complete. -/
structure Allocated (system : FsSystem) : Prop where
  begun : ∀ call request, system.waiting call = some request → call < system.calls
  returned : ∀ call completion, system.results call = some completion →
    call < system.calls ∧ system.waiting call = none
  used : ∀ call request, system.waiting call = some request →
    (system.requestMetadata request).used = true
  own : ∀ call other request, system.waiting call = some request →
    system.waiting other = some request → call = other
  unused : ∀ request, (system.requestMetadata request).used = false →
    (system.requestMetadata request).complete = false

/-- The command of a call that waits is in flight once, under the call's request id, or the answer
to it is stored under this id. -/
structure Tracked (system : FsSystem) : Prop where
  once : (system.inFlight.map OfCall.call).Nodup
  known : ∀ token ∈ system.inFlight, ∃ request, system.waiting token.call = some request ∧
    token.message = requestIdOf request ∧ (system.requestMetadata request).complete = false
  settled : ∀ call request, system.waiting call = some request →
    call ∈ system.inFlight.map OfCall.call ∨
      (system.requestMetadata request).complete = true ∧
        system.answers call = some (system.requestMetadata request).completion
  answered : ∀ completion ∈ system.completionQueue.drop system.stored,
    system.answers completion.call = some completion.message

/-- Every call that has returned has returned the completion of its own command. -/
def OwnCompletions (system : FsSystem) : Prop :=
  ∀ call completion, system.results call = some completion → system.answers call = some completion

/-! ### What a step does to the messages in flight -/

theorem tokens_cons (requestId : Msg → UInt64T) (message : OfCall Msg)
    (messages : List (OfCall Msg)) :
    tokens requestId (message :: messages) =
      {⟨message.call, requestId message.message⟩} + tokens requestId messages :=
  rfl

theorem tokens_append (requestId : Msg → UInt64T) (first second : List (OfCall Msg)) :
    tokens requestId (first ++ second) = tokens requestId first + tokens requestId second := by
  rw [tokens, List.map_append]
  rfl

theorem Counted.stored_le (counted : system.Counted) :
    system.stored ≤ system.completionQueue.length := by
  unfold stored
  cases current : system.processing with
  | none => exact Nat.zero_le _
  | some processing =>
    obtain ⟨begun, queued⟩ := counted.processing processing current
    exact begun.trans queued

theorem inFlight_issued (counted : system.Counted) (request : Fin fsQueueCapacity) (cmd : FsCmd) :
    (system.issued request cmd).inFlight =
      {⟨system.calls, requestIdOf request⟩} + system.inFlight := by
  have queued : (system.issued request cmd).commandQueue.drop system.read =
      system.commandQueue.drop system.read ++
        [⟨system.calls, { cmd with id := requestIdOf request }⟩] :=
    List.drop_append_of_le_length counted.read
  have one : tokens FsCmd.id [(⟨system.calls, { cmd with id := requestIdOf request }⟩ :
      OfCall FsCmd)] = {⟨system.calls, requestIdOf request⟩} := rfl
  show tokens _ ((system.issued request cmd).commandQueue.drop system.read) + _ + _ = _
  rw [queued, tokens_append, one, inFlight]
  ac_rfl

/-- The completion that is stored next leaves the messages in flight. -/
theorem inFlight_stored (current : system.processing = some processing)
    (found : system.completionQueue[processing.i]? = some completion)
    (requestMetadata : Fin fsQueueCapacity → RequestMetadata) :
    system.inFlight = {⟨completion.call, completion.message.id⟩} + inFlight { system with
        requestMetadata
        processing := some { processing with i := processing.i + 1 } } := by
  obtain ⟨inside, value⟩ := List.getElem?_eq_some_iff.mp found
  have here : system.stored = processing.i := by
    rw [stored, current]
    rfl
  show _ + tokens _ (system.completionQueue.drop system.stored) =
    _ + (tokens FsCmd.id (system.commandQueue.drop system.read) + tokens FsCmd.id system.inServer +
      tokens _ (system.completionQueue.drop (processing.i + 1)))
  rw [here, List.drop_eq_getElem_cons inside, value, tokens_cons]
  ac_rfl

theorem inFlight_read (found : system.commandQueue[system.read]? = some cmd) :
    inFlight { system with read := system.read + 1, inServer := cmd :: system.inServer } =
      system.inFlight := by
  obtain ⟨inside, value⟩ := List.getElem?_eq_some_iff.mp found
  show tokens _ (system.commandQueue.drop (system.read + 1)) + tokens _ (cmd :: system.inServer) +
    tokens _ (system.completionQueue.drop system.stored) =
    tokens _ (system.commandQueue.drop system.read) + _ + _
  rw [List.drop_eq_getElem_cons inside, value, tokens_cons, tokens_cons]
  ac_rfl

/-- A command that is completed stays in flight, as its completion. -/
theorem inFlight_completed (counted : system.Counted)
    (accepted : system.inServer[index]? = some cmd) (completion : FsCmpl)
    (same : completion.id = cmd.message.id) (answers : Nat → Option FsCmpl) :
    inFlight { system with
      inServer := system.inServer.eraseIdx index
      completionQueue := system.completionQueue ++ [⟨cmd.call, completion⟩]
      answers } = system.inFlight := by
  have inServer : tokens FsCmd.id system.inServer =
      {⟨cmd.call, cmd.message.id⟩} + tokens FsCmd.id (system.inServer.eraseIdx index) := by
    obtain ⟨inside, value⟩ := List.getElem?_eq_some_iff.mp accepted
    rw [← tokens_cons FsCmd.id cmd]
    refine Quotient.sound (List.Perm.map _ ?_)
    rw [← value]
    exact (List.getElem_cons_eraseIdx_perm inside).symm
  have one : tokens FsCmpl.id [(⟨cmd.call, completion⟩ : OfCall FsCmpl)] =
      {⟨cmd.call, cmd.message.id⟩} := by
    rw [← same]
    rfl
  show tokens _ (system.commandQueue.drop system.read) + tokens _ (system.inServer.eraseIdx index) +
    tokens FsCmpl.id ((system.completionQueue ++ [(⟨cmd.call, completion⟩ : OfCall FsCmpl)]).drop
      system.stored) =
    _ + tokens FsCmd.id system.inServer + _
  rw [List.drop_append_of_le_length counted.stored_le, tokens_append, inServer, one]
  ac_rfl

/-! ### Calls that wait -/

section

variable (allocated : system.Allocated)
include allocated

theorem Allocated.of_same (sameWaiting : next.waiting = system.waiting)
    (sameMetadata : next.requestMetadata = system.requestMetadata)
    (sameCalls : next.calls = system.calls) (sameResults : next.results = system.results) :
    next.Allocated := by
  obtain ⟨begun, returned, used, own, unused⟩ := allocated
  refine ⟨?_, ?_, ?_, ?_, ?_⟩
  · rwa [sameWaiting, sameCalls]
  · rwa [sameResults, sameCalls, sameWaiting]
  · rwa [sameWaiting, sameMetadata]
  · rwa [sameWaiting]
  · rwa [sameMetadata]

/-- After a change of one request, a request that is not used is not complete if this holds of the
changed one. -/
theorem Allocated.unused_update {other : Fin fsQueueCapacity} {metadata : RequestMetadata}
    (own : metadata.used = false → metadata.complete = false)
    (unused : (update system.requestMetadata request metadata other).used = false) :
    (update system.requestMetadata request metadata other).complete = false := by
  by_cases same : other = request
  · subst same
    rw [update_self] at unused ⊢
    exact own unused
  · rw [update_of_ne same] at unused ⊢
    exact allocated.unused other unused

theorem Allocated.issued (free : (system.requestMetadata request).used = false) (cmd : FsCmd) :
    (system.issued request cmd).Allocated where
  begun call other waits := by
    by_cases new : call = system.calls
    · exact Nat.lt_succ_of_le new.le
    · have before : update system.waiting system.calls (some request) call = some other :=
        waits
      rw [update_of_ne new] at before
      exact Nat.lt_succ_of_lt (allocated.begun call other before)
  returned call completion results := by
    obtain ⟨begun, returned⟩ := allocated.returned call completion results
    exact ⟨Nat.lt_succ_of_lt begun, (update_of_ne begun.ne _ _).trans returned⟩
  used call other waits := by
    have waits : update system.waiting system.calls (some request) call = some other :=
      waits
    show (update system.requestMetadata request _ other).used = true
    by_cases same : other = request
    · subst same
      rw [update_self]
    · rw [update_of_ne same]
      by_cases new : call = system.calls
      · subst new
        rw [update_self, Option.some.injEq] at waits
        exact absurd waits.symm same
      · rw [update_of_ne new] at waits
        exact allocated.used call other waits
  own call other shared waits waitsOther := by
    have waits : update system.waiting system.calls (some request) call = some shared :=
      waits
    have waitsOther : update system.waiting system.calls (some request) other =
      some shared := waitsOther
    -- no call that waited before has the request of the new one
    have apart : ∀ old, system.waiting old = some request → False := fun old before => by
      have used := allocated.used old request before
      rw [free] at used
      cases used
    by_cases new : call = system.calls
    · by_cases newOther : other = system.calls
      · exact new.trans newOther.symm
      · rw [new, update_self] at waits
        rw [update_of_ne newOther, ← waits] at waitsOther
        exact (apart other waitsOther).elim
    · rw [update_of_ne new] at waits
      by_cases newOther : other = system.calls
      · rw [newOther, update_self] at waitsOther
        rw [← waitsOther] at waits
        exact (apart call waits).elim
      · rw [update_of_ne newOther] at waitsOther
        exact allocated.own call other shared waits waitsOther
  unused _ unused := allocated.unused_update (fun free => nomatch free) unused

section

variable (waits : system.waiting call = some request)
include waits

theorem Allocated.waits_of_collected {other : Nat} {requestOther : Fin fsQueueCapacity}
    (stillWaits : (system.collected call request).waiting other = some requestOther) :
    other ≠ call ∧ system.waiting other = some requestOther ∧ requestOther ≠ request := by
  have before : update system.waiting call none other = some requestOther := stillWaits
  have different : other ≠ call := by
    rintro rfl
    rw [update_self] at before
    cases before
  rw [update_of_ne different] at before
  exact ⟨different, before, fun same =>
    different (allocated.own other call request (same ▸ before) waits)⟩

theorem Allocated.collected : (system.collected call request).Allocated where
  begun other requestOther stillWaits :=
    allocated.begun other requestOther (allocated.waits_of_collected waits stillWaits).2.1
  returned other completion results := by
    have results : update system.results call _ other = some completion := results
    show other < system.calls ∧ update system.waiting call none other = none
    by_cases same : other = call
    · subst same
      exact ⟨allocated.begun other request waits, update_self _ _ _⟩
    · rw [update_of_ne same] at results ⊢
      exact allocated.returned other completion results
  used other requestOther stillWaits := by
    obtain ⟨_, before, different⟩ := allocated.waits_of_collected waits stillWaits
    show (update system.requestMetadata request _ requestOther).used = true
    rw [update_of_ne different]
    exact allocated.used other requestOther before
  own first second shared waitsFirst waitsSecond :=
    allocated.own first second shared (allocated.waits_of_collected waits waitsFirst).2.1
      (allocated.waits_of_collected waits waitsSecond).2.1
  unused _ unused := allocated.unused_update (fun _ => rfl) unused

theorem Allocated.setRequest (completion : FsCmpl) :
    (system.setRequest request
      { system.requestMetadata request with completion, complete := true }).Allocated where
  begun := allocated.begun
  returned := allocated.returned
  used other requestOther waitsOther := by
    show (update system.requestMetadata request _ requestOther).used = true
    by_cases same : requestOther = request
    · subst same
      rw [update_self]
      exact allocated.used other requestOther waitsOther
    · rw [update_of_ne same]
      exact allocated.used other requestOther waitsOther
  own := allocated.own
  unused _ unused := allocated.unused_update
    (fun free => nomatch (allocated.used call request waits).symm.trans free) unused

end

end

/-! ### Messages in flight -/

theorem mem_tokens {requestId : Msg → UInt64T} {messages : List (OfCall Msg)} {message : OfCall Msg}
    (member : message ∈ messages) :
    (⟨message.call, requestId message.message⟩ : OfCall UInt64T) ∈ tokens requestId messages :=
  mem_coe.mpr (List.mem_map.mpr ⟨message, member, rfl⟩)

theorem calls_of_completions (queued : completion ∈ system.completionQueue.drop system.stored) :
    (⟨completion.call, completion.message.id⟩ : OfCall UInt64T) ∈ system.inFlight :=
  Multiset.mem_add.mpr (Or.inr (mem_tokens queued))

theorem Tracked.apart (tracked : system.Tracked) (accepted : cmd ∈ system.inServer)
    (queued : completion ∈ system.completionQueue.drop system.stored) :
    completion.call ≠ cmd.call := by
  intro same
  have once := tracked.once
  rw [inFlight, Multiset.map_add, Multiset.nodup_add] at once
  obtain ⟨_, _, disjoint⟩ := once
  have left : cmd.call ∈ (tokens FsCmd.id (system.commandQueue.drop system.read) +
      tokens FsCmd.id system.inServer).map OfCall.call :=
    Multiset.mem_map.mpr ⟨_, Multiset.mem_add.mpr (Or.inr (mem_tokens accepted)), rfl⟩
  have right : cmd.call ∈ (tokens FsCmpl.id (system.completionQueue.drop system.stored)).map
      OfCall.call := Multiset.mem_map.mpr ⟨_, mem_tokens queued, same⟩
  exact Multiset.disjoint_left.mp disjoint left right

theorem inFlight_congr
    (sameCommands : next.commandQueue.drop next.read = system.commandQueue.drop system.read)
    (sameServer : next.inServer = system.inServer)
    (sameCompletions : next.completionQueue.drop next.stored =
      system.completionQueue.drop system.stored) : next.inFlight = system.inFlight := by
  rw [inFlight, inFlight, sameCommands, sameServer, sameCompletions]

section

variable (tracked : system.Tracked)
include tracked

/-- Nothing has changed for the messages in flight but where they are. -/
theorem Tracked.of_same (sameInFlight : next.inFlight = system.inFlight)
    (sameWaiting : next.waiting = system.waiting)
    (sameMetadata : next.requestMetadata = system.requestMetadata)
    (sameAnswers : next.answers = system.answers)
    (sameCompletions : next.completionQueue.drop next.stored =
      system.completionQueue.drop system.stored) : next.Tracked where
  once := sameInFlight ▸ tracked.once
  known := by
    rw [sameInFlight, sameWaiting, sameMetadata]
    exact tracked.known
  settled := by
    rw [sameInFlight, sameWaiting, sameMetadata, sameAnswers]
    exact tracked.settled
  answered := by
    rw [sameAnswers, sameCompletions]
    exact tracked.answered

theorem Tracked.issued (allocated : system.Allocated) (counted : system.Counted)
    (free : (system.requestMetadata request).used = false) (cmd : FsCmd) :
    (system.issued request cmd).Tracked := by
  have inFlight := inFlight_issued counted request cmd
  have sameComplete : ∀ other, ((system.issued request cmd).requestMetadata other).complete =
      (system.requestMetadata other).complete ∧
      ((system.issued request cmd).requestMetadata other).completion =
        (system.requestMetadata other).completion := fun other => by
    by_cases same : other = request
    · subst same
      simp only [FsSystem.issued, update_self, and_self]
    · simp only [FsSystem.issued, update_of_ne same, and_self]
  have waited : ∀ call other, system.waiting call = some other →
      (system.issued request cmd).waiting call = some other := fun call other waits =>
    (update_of_ne (allocated.begun call other waits).ne _ _).trans waits
  refine ⟨?_, fun token member => ?_, fun call other waits => ?_, tracked.answered⟩
  · rw [inFlight, map_add, map_singleton, singleton_add, nodup_cons]
    refine ⟨fun member => ?_, tracked.once⟩
    obtain ⟨token, found, same⟩ := mem_map.mp member
    obtain ⟨other, waits, _⟩ := tracked.known token found
    exact absurd same (allocated.begun _ other waits).ne
  · rw [inFlight, singleton_add, mem_cons] at member
    rcases member with rfl | before
    · refine ⟨request, update_self _ _ _, rfl, ?_⟩
      rw [(sameComplete request).1]
      exact allocated.unused request free
    · obtain ⟨other, waits, id, incomplete⟩ := tracked.known token before
      exact ⟨other, waited _ other waits, id, (sameComplete other).1.trans incomplete⟩
  · rw [inFlight, map_add, map_singleton, singleton_add,
      mem_cons, (sameComplete other).1, (sameComplete other).2]
    by_cases new : call = system.calls
    · exact Or.inl (Or.inl new)
    · have before : update system.waiting system.calls (some request) call = some other :=
        waits
      rw [update_of_ne new] at before
      exact (tracked.settled call other before).imp Or.inr id

theorem Tracked.collected (allocated : system.Allocated)
    (waits : system.waiting call = some request)
    (complete : (system.requestMetadata request).complete = true) :
    (system.collected call request).Tracked := by
  have others : ∀ other, other ≠ request →
      (system.collected call request).requestMetadata other = system.requestMetadata other :=
    fun other different => update_of_ne different _ _
  refine ⟨tracked.once, fun token member => ?_, fun other requestOther stillWaits => ?_,
    tracked.answered⟩
  · obtain ⟨other, waitsOther, id, incomplete⟩ := tracked.known token member
    have different : other ≠ request := by
      rintro rfl
      exact absurd (complete.symm.trans incomplete) (by decide)
    refine ⟨other, ?_, id, ?_⟩
    · refine (update_of_ne (fun same => different ?_) _ _).trans waitsOther
      rw [same, waits] at waitsOther
      exact (Option.some.inj waitsOther).symm
    · rw [others other different]
      exact incomplete
  · obtain ⟨_, before, different⟩ := allocated.waits_of_collected waits stillWaits
    rw [others requestOther different]
    exact tracked.settled other requestOther before

/-- A completion is stored under the id of the call it belongs to. -/
theorem Tracked.stored (allocated : system.Allocated)
    (current : system.processing = some processing)
    (found : system.completionQueue[processing.i]? = some completion)
    (waits : system.waiting completion.call = some request) :
    Tracked { system.setRequest request { system.requestMetadata request with
        completion := completion.message, complete := true } with
      processing := some { processing with i := processing.i + 1 } } := by
  have inFlight := inFlight_stored current found (update system.requestMetadata request
    { system.requestMetadata request with completion := completion.message, complete := true })
  have here : system.stored = processing.i := by
    rw [FsSystem.stored, current]
    rfl
  obtain ⟨inside, value⟩ := List.getElem?_eq_some_iff.mp found
  have split : system.completionQueue.drop system.stored =
      completion :: system.completionQueue.drop (processing.i + 1) := by
    rw [here, List.drop_eq_getElem_cons inside, value]
  have once := tracked.once
  rw [inFlight, map_add, map_singleton, singleton_add, nodup_cons] at once
  have others : ∀ other, other ≠ request → (update system.requestMetadata request
      { system.requestMetadata request with completion := completion.message, complete := true }
      other) = system.requestMetadata other :=
    fun other different => update_of_ne different _ _
  refine ⟨once.2, fun token member => ?_, fun call other waitsOther => ?_, fun later queued => ?_⟩
  · have before : token ∈ system.inFlight := by
      rw [inFlight]
      exact mem_add.mpr (Or.inr member)
    obtain ⟨other, waitsOther, id, incomplete⟩ := tracked.known token before
    refine ⟨other, waitsOther, id, ?_⟩
    refine (congrArg RequestMetadata.complete (others other ?_)).trans incomplete
    rintro rfl
    have same := allocated.own _ _ other waitsOther waits
    exact once.1 (same ▸ mem_map_of_mem OfCall.call member)
  · show _ ∨ (update system.requestMetadata request _ other).complete = true ∧
      system.answers call = some (update system.requestMetadata request _ other).completion
    by_cases same : other = request
    · subst same
      have sameCall := allocated.own _ _ other waitsOther waits
      rw [update_self, sameCall]
      exact Or.inr ⟨rfl, tracked.answered completion (split ▸ List.mem_cons_self)⟩
    · rw [update_of_ne same]
      refine (tracked.settled call other waitsOther).imp_left fun before => ?_
      rw [inFlight, map_add, map_singleton, singleton_add, mem_cons] at before
      refine before.resolve_left fun sameCall => same ?_
      rw [sameCall] at waitsOther
      exact Option.some.inj (waitsOther.symm.trans waits)
  · exact tracked.answered later (split ▸ List.mem_cons_of_mem _ queued)

theorem Tracked.completed (counted : system.Counted) (accepted : system.inServer[index]? = some cmd)
    (completion : FsCmpl) (same : completion.id = cmd.message.id) :
    Tracked { system with
      inServer := system.inServer.eraseIdx index
      completionQueue := system.completionQueue ++ [⟨cmd.call, completion⟩]
      answers := update system.answers cmd.call (some completion) } := by
  have inFlight := inFlight_completed counted accepted completion same
    (update system.answers cmd.call (some completion))
  have member := List.mem_of_getElem? accepted
  have token : (⟨cmd.call, cmd.message.id⟩ : OfCall UInt64T) ∈ system.inFlight :=
    Multiset.mem_add.mpr (Or.inl (Multiset.mem_add.mpr (Or.inr (mem_tokens member))))
  obtain ⟨request, waits, _, incomplete⟩ := tracked.known _ token
  refine ⟨?_, ?_, fun call other waitsOther => ?_, fun other queued => ?_⟩
  · rw [inFlight]
    exact tracked.once
  · rw [inFlight]
    exact tracked.known
  · rw [inFlight]
    refine (tracked.settled call other waitsOther).imp_right fun ⟨complete, answer⟩ =>
      ⟨complete, (update_of_ne ?_ _ _).trans answer⟩
    rintro rfl
    have sameRequest : request = other := Option.some.inj (waits.symm.trans waitsOther)
    exact absurd (complete.symm.trans (sameRequest ▸ incomplete)) (by decide)
  · have queued : other ∈ (system.completionQueue ++
      [(⟨cmd.call, completion⟩ : OfCall FsCmpl)]).drop system.stored := queued
    show update system.answers cmd.call (some completion) other.call = some other.message
    rw [List.drop_append_of_le_length counted.stored_le, List.mem_append,
      List.mem_singleton] at queued
    rcases queued with before | rfl
    · rw [update_of_ne (tracked.apart member before)]
      exact tracked.answered other before
    · exact update_self _ _ _

end

/-! ### Every step -/

/-- The invariant of the system. -/
structure Sound (system : FsSystem) : Prop where
  counted : system.Counted
  allocated : system.Allocated
  tracked : system.Tracked

/-- The request under which a completion that is in flight is stored. -/
theorem Sound.store_eq (sound : system.Sound)
    (queued : completion ∈ system.completionQueue.drop system.stored) :
    ∃ request, system.waiting completion.call = some request ∧
      system.store completion.message = system.setRequest request
        { system.requestMetadata request with
          completion := completion.message, complete := true } := by
  obtain ⟨request, waits, id, _⟩ := sound.tracked.known _ (calls_of_completions queued)
  refine ⟨request, waits, ?_⟩
  have found : requestOf completion.message.id = some request := by
    have id : completion.message.id = requestIdOf request := id
    rw [id, requestOf_requestIdOf]
  rw [store, found]

theorem Counted.issued (counted : system.Counted)
    (room : system.commandQueue.length ≠ fsQueueCapacity)
    (request : Fin fsQueueCapacity) (cmd : FsCmd) : (system.issued request cmd).Counted := by
  have more : (system.issued request cmd).commandQueue.length = system.commandQueue.length + 1 :=
    List.length_append
  refine ⟨?_, ?_, counted.processing⟩
  · rw [more]
    exact Nat.lt_of_le_of_ne counted.queued room
  · rw [more]
    exact Nat.le_succ_of_le counted.read

theorem Sound.issued (sound : system.Sound) (room : system.commandQueue.length ≠ fsQueueCapacity)
    (free : (system.requestMetadata request).used = false) (cmd : FsCmd) :
    (system.issued request cmd).Sound where
  counted := sound.counted.issued room request cmd
  allocated := sound.allocated.issued free cmd
  tracked := sound.tracked.issued sound.allocated sound.counted free cmd

theorem Sound.collected (sound : system.Sound) (waits : system.waiting call = some request)
    (complete : (system.requestMetadata request).complete = true) :
    (system.collected call request).Sound where
  counted := ⟨sound.counted.queued, sound.counted.read, sound.counted.processing⟩
  allocated := sound.allocated.collected waits
  tracked := sound.tracked.collected sound.allocated waits complete

theorem step_sound (sound : system.Sound) (step : ClientStep system event next) : next.Sound := by
  obtain ⟨counted, allocated, tracked⟩ := sound
  cases acts step with
  | fsCommandBlocking found =>
    rw [beginCall_eq]
    split_ifs with room
    · exact Sound.issued ⟨counted, allocated, tracked⟩ room (unused_of_allocated found) _
    · exact ⟨⟨counted.queued, counted.read, counted.processing⟩, allocated.of_same rfl rfl rfl rfl,
        tracked.of_same rfl rfl rfl rfl rfl⟩
  | waits => exact ⟨counted, allocated, tracked⟩
  | returns waits complete =>
    rw [endCall_eq _ complete (allocated.used _ _ waits)]
    exact Sound.collected ⟨counted, allocated, tracked⟩ waits complete
  | fsProcessCompletions idle =>
    have same : system.stored = 0 := by
      rw [stored, idle]
      rfl
    have sameCompletions : system.completionQueue.drop 0 =
        system.completionQueue.drop system.stored := by rw [same]
    refine ⟨⟨counted.queued, counted.read, ?_⟩, allocated.of_same rfl rfl rfl rfl,
      tracked.of_same (inFlight_congr rfl rfl sameCompletions) rfl rfl rfl sameCompletions⟩
    rintro processing ⟨⟩
    exact ⟨Nat.zero_le _, le_rfl⟩
  | @processCompletion processing completion current more found =>
    obtain ⟨inside, value⟩ := List.getElem?_eq_some_iff.mp found
    have here : system.stored = processing.i := by
      rw [stored, current]
      rfl
    have queued : completion ∈ system.completionQueue.drop system.stored := by
      rw [here, List.drop_eq_getElem_cons inside, value]
      exact List.mem_cons_self
    obtain ⟨request, waits, storedAs⟩ :=
      Sound.store_eq ⟨counted, allocated, tracked⟩ queued
    rw [storedAs]
    refine ⟨⟨counted.queued, counted.read, ?_⟩,
      (allocated.setRequest waits completion.message).of_same rfl rfl rfl
      rfl, tracked.stored allocated current found waits⟩
    rintro processing ⟨⟩
    exact ⟨more, (counted.processing _ current).2⟩
  | @completionsProcessed processing current all =>
    have here : system.stored = processing.toConsume := by
      rw [stored, current]
      exact Nat.le_antisymm (counted.processing _ current).1 all
    have sameCompletions : (system.completionQueue.drop processing.toConsume).drop 0 =
        system.completionQueue.drop system.stored := by rw [here, List.drop_zero]
    refine ⟨⟨counted.queued, counted.read, ?_⟩, allocated.of_same rfl rfl rfl rfl,
      tracked.of_same (inFlight_congr rfl rfl sameCompletions) rfl rfl rfl sameCompletions⟩
    rintro processing ⟨⟩
  | readCommand found =>
    obtain ⟨inside, _⟩ := List.getElem?_eq_some_iff.mp found
    exact ⟨⟨counted.queued, inside, counted.processing⟩, allocated.of_same rfl rfl rfl rfl,
      tracked.of_same (inFlight_read found) rfl rfl rfl rfl⟩
  | @publishConsumption amount readAll =>
    have sameCommands : (system.commandQueue.drop amount).drop (system.read - amount) =
        system.commandQueue.drop system.read := by
      rw [List.drop_drop, Nat.add_sub_cancel' readAll]
    have fewer : (system.commandQueue.drop amount).length = system.commandQueue.length - amount :=
      List.length_drop
    refine ⟨⟨?_, ?_, counted.processing⟩, allocated.of_same rfl rfl rfl rfl,
      tracked.of_same (inFlight_congr sameCommands rfl rfl) rfl rfl rfl rfl⟩
    · exact fewer.le.trans ((Nat.sub_le _ _).trans counted.queued)
    · exact (Nat.sub_le_sub_right counted.read amount).trans fewer.ge
  | @complete index status data cmd accepted =>
    refine ⟨⟨counted.queued, counted.read, fun processing current => ?_⟩,
      allocated.of_same rfl rfl rfl rfl,
      tracked.completed counted accepted _ rfl⟩
    obtain ⟨begun, queued⟩ := counted.processing processing current
    refine ⟨begun, queued.trans ?_⟩
    rw [List.length_append]
    exact Nat.le_add_right _ _

end FsSystem

end LionsOS.Fs
