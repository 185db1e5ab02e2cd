/-
This file compares the completions the server produces with the commands it
dequeues. A command whose type is not one of the protocol is dequeued and not
answered. All others are: when no request is in flight, the ids of the
completions are those of the commands dequeued exactly if there was no such
command among them.
-/

import LionsOS.Fat.CompletionRoom

namespace LionsOS.Fat

open LionsOS.Fs StepRun FatServer Option

namespace FatServer

/-! ### What an event produces and what it dequeues -/

/-- The completion an event writes. -/
def completionOf (server : FatServer) : FatEvent → Option FsCmpl
  | .reap =>
    match server.call.map NotifiedCall.stage with
    | some (.reaping (slot :: _)) =>
      if server.finished slot then some (fillClientResponse (server.requestPool slot)) else none
    | _ => none
  | _ => none

/-- The command an event dequeues. -/
def commandOf (server : FatServer) : FatEvent → Option FsCmd
  | .pop _ => server.call.map server.nextCommand
  | _ => none

variable {server next : FatServer} {event : FatEvent} {completion : FsCmpl} {command : FsCmd}

theorem completionOf_of_completes {slot : Fin fatThreadNum}
    (completes : server.Completes event slot) :
    server.completionOf event = some (fillClientResponse (server.requestPool slot)) := by
  obtain ⟨rfl, finished, call, rest, current, stage⟩ := completes
  simp only [completionOf, current, map_some, stage, finished, if_true]

theorem completes_of_completionOf (produces : server.completionOf event = some completion) :
    ∃ slot, server.Completes event slot := by
  unfold completionOf at produces
  split at produces
  · split at produces
    · rename_i slot rest stage
      split_ifs at produces with finished
      obtain ⟨call, current, reaping⟩ := map_eq_some_iff.mp stage
      exact ⟨slot, rfl, finished, call, rest, current, reaping⟩
    · cases produces
  · cases produces

theorem commandOf_eq_some_iff :
    server.commandOf event = some command ↔ server.Dequeues event command := by
  constructor
  · intro dequeues
    cases event with
    | pop index =>
      obtain ⟨call, current, same⟩ := map_eq_some_iff.mp dequeues
      exact ⟨call, index, rfl, current, same.symm⟩
    | _ => cases dequeues
  · rintro ⟨call, index, rfl, current, rfl⟩
    simp only [commandOf, current, map_some]

theorem completionOf_of_dequeues (dequeues : server.Dequeues event command) :
    server.completionOf event = none := by
  obtain ⟨call, index, popped, _⟩ := dequeues
  rw [popped]
  rfl

end FatServer

/-! ### The books -/

/-- The server, with all completions it has produced and all commands it has dequeued. -/
structure Books where
  server : FatServer
  produced : Multiset FsCmpl
  dequeued : Multiset FsCmd

namespace Books

def opening (server : FatServer) : Books where
  server := server
  produced := 0
  dequeued := 0

def perform (books : Books) (event : FatEvent) : Option Books :=
  (books.server.perform event).map fun next =>
    { server := next
      produced := books.produced + (books.server.completionOf event).elim 0 ({·})
      dequeued := books.dequeued + (books.server.commandOf event).elim 0 ({·}) }

end Books

def BooksStep (books : Books) (event : FatEvent) (next : Books) : Prop :=
  books.perform event = some next

namespace Books

/-- The commands that were dequeued and are not of the protocol. -/
def unknown (books : Books) : Multiset FsCmd :=
  books.dequeued.filter fun command => fsNumCommands ≤ command.type

/-- The requests of all commands that were dequeued and are of the protocol are completed or in
flight. -/
structure Balanced (books : Books) : Prop where
  sound : books.server.PoolSound
  balance : books.dequeued.map FsCmd.id =
    books.produced.map FsCmpl.id + books.server.inFlight + books.unknown.map FsCmd.id

variable {books next : Books} {event : FatEvent}

theorem opening_balanced {server : FatServer} (initial : server.Initial) :
    (opening server).Balanced where
  sound := initial.poolSound
  balance := by
    show (0 : Multiset FsCmd).map FsCmd.id = (0 : Multiset FsCmpl).map FsCmpl.id + server.inFlight +
      ((0 : Multiset FsCmd).filter _).map FsCmd.id
    rw [initial.nothingInFlight]
    rfl

/-- A step of the books is a step of the server, with what it produces and dequeues written down. -/
theorem step_books (step : BooksStep books event next) :
    FatStep books.server event next.server ∧
      next.produced = books.produced + (books.server.completionOf event).elim 0 ({·}) ∧
      next.dequeued = books.dequeued + (books.server.commandOf event).elim 0 ({·}) := by
  obtain ⟨server, performed, same⟩ := map_eq_some_iff.mp step
  subst same
  exact ⟨performed, rfl, rfl⟩

theorem step_balanced (balanced : books.Balanced) (step : BooksStep books event next) :
    next.Balanced := by
  obtain ⟨taken, produced, dequeued⟩ := step_books step
  refine ⟨step_poolSound balanced.sound taken, ?_⟩
  have before := balanced.balance
  unfold unknown at before ⊢
  cases step_changes balanced.sound taken with
  | completes slot completes fewer =>
    have dequeuesNone : books.server.commandOf event = none := by
      rw [completes.1]
      rfl
    rw [dequeuesNone] at dequeued
    rw [completionOf_of_completes completes] at produced
    simp only [dequeued, produced, before, fewer, elim_none, elim_some, add_zero, Multiset.map_add]
    ac_rfl
  | accepts command dequeues known more =>
    rw [commandOf_eq_some_iff.mpr dequeues] at dequeued
    rw [completionOf_of_dequeues dequeues] at produced
    rw [dequeued, produced, more]
    simp only [elim_some, Multiset.map_add, Multiset.map_singleton, Multiset.filter_add,
      Multiset.filter_singleton, BitVec.not_le.mpr known, if_false, before]
    ac_rfl
  | rejects command dequeues unknown same =>
    rw [commandOf_eq_some_iff.mpr dequeues] at dequeued
    rw [completionOf_of_dequeues dequeues] at produced
    rw [dequeued, produced, same]
    simp only [elim_none, elim_some, Multiset.map_add, Multiset.filter_add,
      Multiset.filter_singleton, unknown, if_true, before]
    ac_rfl
  | nothing completesNone dequeuesNone same =>
    have producesNone : books.server.completionOf event = none := by
      by_contra produces
      obtain ⟨completion, some⟩ := ne_none_iff_exists'.mp produces
      obtain ⟨slot, completes⟩ := completes_of_completionOf some
      exact completesNone slot completes
    have dequeuesNone : books.server.commandOf event = none := by
      by_contra dequeues
      obtain ⟨command, some⟩ := ne_none_iff_exists'.mp dequeues
      exact dequeuesNone command (commandOf_eq_some_iff.mp some)
    rw [dequeuesNone] at dequeued
    rw [producesNone] at produced
    simp only [dequeued, produced, same, elim_none, add_zero]
    exact before

end Books

/-- When all request slots are free, the ids of the completions produced are those of the commands
dequeued exactly if every command that was dequeued had a type of the protocol. -/
theorem completion_ids_eq_dequeued_iff {start : FatServer} {events : List FatEvent} {books : Books}
    (initial : start.Initial) (run : Run BooksStep (Books.opening start) events books)
    (free : ∀ slot, (books.server.requestPool slot).stat = .free) :
    books.produced.map FsCmpl.id = books.dequeued.map FsCmd.id ↔
      ∀ command ∈ books.dequeued, command.type < fsNumCommands := by
  have balanced := run.invariant Books.Balanced (Books.opening_balanced initial)
    fun _ _ _ before step => Books.step_balanced before step
  rw [balanced.balance, nothingInFlight_of_free free, add_zero, left_eq_add,
    Multiset.map_eq_zero, Books.unknown,
    Multiset.filter_eq_nil]
  exact forall₂_congr fun command _ => BitVec.not_le

/-- A command of the first type that is no command, in the first slot. -/
def wrongCommand : FsCmd where
  id := 7
  type := fsNumCommands
  params _ := 0

/-- A command of a wrong type is dequeued and never answered. -/
theorem wrong_command_unanswered :
    started.Initial ∧ ∃ events books, Run BooksStep (Books.opening started) events books ∧
      books.server.call = none ∧ (∀ slot, (books.server.requestPool slot).stat = .free) ∧
      books.produced.map FsCmpl.id = 0 ∧ books.dequeued.map FsCmd.id = {7} := by
  refine ⟨started_initial, .putCommand ⟨0, by decide⟩ wrongCommand :: openingEvents ++
    [.pop firstWorker, .stop, .publish], ?_⟩
  refine ⟨_, Run.of_foldlM (fun _ _ _ performed => performed) rfl, rfl, ?_, ?_, ?_⟩
  · decide
  · rfl
  · rfl

/-- A command that is answered. -/
theorem completion_ids_eq_dequeued_iff_of_one :
    ∃ books, Run BooksStep (Books.opening started) (openingEvents ++
        [.pop firstWorker, .stop, .yield, .finish firstWorker 0 0, .resume, .reap]) books ∧
      books.dequeued.map FsCmd.id = {0} ∧
      (books.produced.map FsCmpl.id = books.dequeued.map FsCmd.id ↔
        ∀ command ∈ books.dequeued, command.type < fsNumCommands) := by
  obtain ⟨books, run, free, one⟩ : ∃ books, Run BooksStep (Books.opening started)
      (openingEvents ++ [.pop firstWorker, .stop, .yield,
        .finish firstWorker 0 0, .resume, .reap]) books ∧
      (∀ slot, (books.server.requestPool slot).stat = .free) ∧
      books.dequeued.map FsCmd.id = {0} := by
    refine ⟨_, Run.of_foldlM (fun _ _ _ performed => performed) rfl, ?_, ?_⟩
    · decide
    · rfl
  exact ⟨books, run, one, completion_ids_eq_dequeued_iff started_initial run free⟩

end LionsOS.Fat
