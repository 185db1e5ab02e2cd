/-
This file is about how often a slot of the socket layer is counted. The count is
kept in `tcp.c`, and which descriptors stand for a slot is kept in `sock.c`; every
call that makes, duplicates or closes a descriptor has to change both. They agree,
and a slot that no descriptor stands for is free or on its way to be, except where
a call closes what was never counted, or a connection fails that was closed.
-/

import LionsOS.Lib.Counting
import LionsOS.Posix.Calls
import LionsOS.Sock.Refcounts

open Function

namespace LionsOS.Posix

open Sock StepRun Counting SocketLayer

/-! ### Counts and descriptors -/

section Tallies

variable {maxFds : Nat} {refcount : Fin maxSockets → Int}
  {fdSocket : Fin maxFds → Option (Fin maxSockets)} {fd : Fin maxFds} {index : Fin maxSockets}

/-- How many descriptors are mapped to a slot. -/
def held (fdSocket : Fin maxFds → Option (Fin maxSockets)) (index : Fin maxSockets) : Nat :=
  count (fun slot => slot = some index) fdSocket

/-- A slot is counted once for each descriptor, or it has no descriptor and a count below 0. -/
def Tallies (refcount : Fin maxSockets → Int) (fdSocket : Fin maxFds → Option (Fin maxSockets)) :
    Prop :=
  ∀ index, refcount index = held fdSocket index ∨ refcount index < 0 ∧ held fdSocket index = 0

theorem held_pos (mapped : fdSocket fd = some index) : 0 < held fdSocket index :=
  Finset.card_pos.mpr ⟨fd, Finset.mem_filter.mpr ⟨Finset.mem_univ fd, mapped⟩⟩

theorem held_map (free : fdSocket fd = none) :
    held (update fdSocket fd (some index)) index = held fdSocket index + 1 :=
  count_update_of_comes (fun mapped => nomatch free.symm.trans mapped) rfl

theorem held_unmap (mapped : fdSocket fd = some index) :
    held (update fdSocket fd none) index + 1 = held fdSocket index :=
  count_update_of_goes mapped (nomatch ·)

theorem held_update_of_ne {value : Option (Fin maxSockets)}
    (before : fdSocket fd ≠ some index) (after : value ≠ some index) :
    held (update fdSocket fd value) index = held fdSocket index :=
  count_update_of_same (iff_of_false after before)

namespace Tallies

section

variable (tallies : Tallies refcount fdSocket)
include tallies

theorem referenced (mapped : fdSocket fd = some index) : 0 < refcount index := by
  have positive := held_pos mapped
  rcases tallies index with counted | ⟨_, none_held⟩
  · rw [counted]
    exact Int.natCast_pos.mpr positive
  · exact absurd none_held positive.ne'

theorem map (free : fdSocket fd = none) (nonneg : 0 ≤ refcount index) :
    Tallies (update refcount index (refcount index + 1)) (update fdSocket fd (some index)) := by
  intro other
  by_cases same : other = index
  · have counted := (tallies index).resolve_right fun lost => absurd lost.1 nonneg.not_gt
    rw [same, update_self, held_map free, counted]
    exact .inl rfl
  · rw [update_of_ne same, held_update_of_ne]
    · exact tallies other
    · rw [free]
      exact (nomatch ·)
    · exact fun equal => same (Option.some.inj equal).symm

theorem unmap (mapped : fdSocket fd = some index) :
    Tallies (update refcount index (refcount index - 1)) (update fdSocket fd none) := by
  intro other
  by_cases same : other = index
  · have counted := (tallies index).resolve_right fun lost => (held_pos mapped).ne' lost.2
    have fewer := held_unmap mapped
    rw [same, update_self]
    omega
  · rw [update_of_ne same, held_update_of_ne]
    · exact tallies other
    · rw [mapped]
      exact fun equal => same (Option.some.inj equal).symm
    · exact (nomatch ·)

theorem lose (unreferenced : refcount index = 0) :
    Tallies (update refcount index (refcount index - 1)) fdSocket := by
  intro other
  by_cases same : other = index
  · have lost := tallies index
    rw [same, update_self]
    omega
  · rw [update_of_ne same]
    exact tallies other

end

end Tallies

end Tallies

/-! ### Descriptors of sockets -/

section Mapped

variable {maxFds : Nat} {fds next : FdTable maxFds}
  {fdSocket : Fin maxFds → Option (Fin maxSockets)} {fd : Fin maxFds}

/-- Only a descriptor with the functions of sockets is mapped to a slot. -/
def Mapped (fds : FdTable maxFds) (fdSocket : Fin maxFds → Option (Fin maxSockets)) : Prop :=
  ∀ fd, fdSocket fd ≠ none → fds.fdActive fd = true ∧ (fds.fdTable fd).functions = .sock

namespace Mapped

section

variable (mapped : Mapped fds fdSocket)
include mapped

theorem free_of_inactive (inactive : fds.fdActive fd = false) : fdSocket fd = none := by
  by_contra other
  exact nomatch inactive.symm.trans (mapped fd other).1

theorem free_of_functions (functions : (fds.fdTable fd).functions ≠ .sock) :
    fdSocket fd = none := by
  by_contra other
  exact functions (mapped fd other).2

theorem setEntry {entry : FdEntry} (functions : fdSocket fd ≠ none → entry.functions = .sock) :
    Mapped (fds.setEntry fd entry) fdSocket := by
  intro other taken
  refine ⟨(mapped other taken).1, ?_⟩
  show (update fds.fdTable fd entry other).functions = .sock
  by_cases same : other = fd
  · rw [same, update_self]
    exact functions (same ▸ taken)
  · rw [update_of_ne same]
    exact (mapped other taken).2

theorem allocate (allocated : fds.posixFdAllocate = some (fd, next)) :
    Mapped next fdSocket ∧ fdSocket fd = none ∧ next.fdActive fd = true := by
  obtain ⟨inactive, active, table⟩ := FdTable.posixFdAllocate_eq_some allocated
  have free := mapped.free_of_inactive inactive
  refine ⟨fun other taken => ?_, free, by rw [active, update_self]⟩
  have different : other ≠ fd := fun same => taken (same ▸ free)
  rw [active, table, update_of_ne different]
  exact mapped other taken

theorem deallocate (free : fdSocket fd = none) : Mapped (fds.posixFdDeallocate fd) fdSocket := by
  intro other taken
  have different : other ≠ fd := fun same => taken (same ▸ free)
  rw [FdTable.fdActive_posixFdDeallocate, FdTable.fdTable_posixFdDeallocate_of_ne different,
    update_of_ne different]
  exact mapped other taken

theorem unmap : Mapped fds (update fdSocket fd none) := by
  intro other taken
  have different : other ≠ fd := by
    rintro rfl
    exact taken (update_self _ _ _)
  rw [update_of_ne different] at taken
  exact mapped other taken

theorem map {slot : Option (Fin maxSockets)} (active : fds.fdActive fd = true)
    (functions : (fds.fdTable fd).functions = .sock) : Mapped fds (update fdSocket fd slot) := by
  intro other taken
  by_cases same : other = fd
  · rw [same]
    exact ⟨active, functions⟩
  · rw [update_of_ne same] at taken
    exact mapped other taken

theorem copyEntry {old : Fin maxFds} (free : fdSocket fd = none) :
    Mapped (fds.copyEntry old fd) fdSocket := by
  intro other taken
  have different : other ≠ fd := fun same => taken (same ▸ free)
  rw [(FdTable.copyEntry_of_ne different).1, (FdTable.copyEntry_of_ne different).2]
  exact mapped other taken

/-- A descriptor that was free is made one of a socket, and is not mapped yet. -/
theorem enter (allocated : fds.posixFdAllocate = some (fd, next)) :
    Mapped (next.setEntry fd .socket) fdSocket ∧ fdSocket fd = none ∧
      (next.setEntry fd .socket).fdActive fd = true ∧
      ((next.setEntry fd .socket).fdTable fd).functions = .sock := by
  obtain ⟨mapped, free, active⟩ := mapped.allocate allocated
  refine ⟨mapped.setEntry fun taken => (taken free).elim, free, active, ?_⟩
  show (update next.fdTable fd .socket fd).functions = .sock
  rw [update_self]
  rfl

end

end Mapped

end Mapped

/-! ### Calls and the events of the socket layer -/

/-- Events that leave nothing behind: not an open without memory for its PCB, and not a failure of a
connection. -/
def HarmlessEvent : Event → Prop
  | .socket none _ | .lwipErr _ _ => False
  | _ => True

namespace Libc

variable {maxFds : Nat} {libc next : Libc maxFds} {event : Event} {outcome : Outcome}
  {oldfd newfd : Fin maxFds} {new : Fin maxSockets} {closes : Bool}

variable {fd : Fin maxFds} {result closing : CloseResult} {answer : SysResult} {layer : SocketLayer}
  {call : Syscall}

/-- The invariant of the tables and the socket layer. -/
structure Sound (libc : Libc maxFds) : Prop where
  layer : libc.layer.Sound
  working : libc.layer.fault = none
  mapped : Mapped libc.fds libc.fdSocket
  tallies : Tallies libc.layer.socketRefcount libc.fdSocket

/-- A call keeps the invariant, and the events that it asks the socket layer for are harmless. -/
structure Follows (libc next : Libc maxFds) : Prop where
  sound : next.Sound
  asked : ∃ events, Run LayerStep libc.layer events next.layer ∧
    ∀ event ∈ events, HarmlessEvent event

theorem Follows.refl (sound : libc.Sound) : libc.Follows libc :=
  ⟨sound, [], .nil, fun _ => (nomatch ·)⟩

theorem Follows.trans {last : Libc maxFds} (first : libc.Follows next)
    (second : next.Follows last) : libc.Follows last := by
  obtain ⟨before, run, harmless⟩ := first.asked
  obtain ⟨after, rest, harmless'⟩ := second.asked
  refine ⟨second.sound, before ++ after, run.trans rest, fun event member => ?_⟩
  exact (List.mem_append.mp member).elim (harmless event) (harmless' event)

theorem Follows.cons {middle : Libc maxFds} (step : LayerStep libc.layer event middle.layer)
    (harmless : HarmlessEvent event) (rest : middle.Follows next) : libc.Follows next := by
  obtain ⟨events, run, others⟩ := rest.asked
  refine ⟨rest.sound, event :: events, (Run.single step).trans run, fun other member => ?_⟩
  rcases List.mem_cons.mp member with rfl | member
  · exact harmless
  · exact others other member

theorem Follows.of_sound (sound : next.Sound) (layer : next.layer = libc.layer) :
    libc.Follows next :=
  ⟨sound, [], layer ▸ .nil, fun _ => (nomatch ·)⟩

theorem Sound.follows (sound : libc.Sound) (mapped : Mapped next.fds libc.fdSocket)
    (fdSocket : next.fdSocket = libc.fdSocket) (layer : next.layer = libc.layer) :
    libc.Follows next := by
  refine .of_sound ⟨layer ▸ sound.layer, layer ▸ sound.working, fdSocket ▸ mapped, ?_⟩ layer
  rw [layer, fdSocket]
  exact sound.tallies

/-- Asking the socket layer is a step of it, and keeps the invariant when the tables are right for
the counts that it leaves. -/
theorem sound_of_ask (asked : libc.ask event = some (outcome, next)) (layer : libc.layer.Sound)
    (working : libc.layer.fault = none) (mapped : Mapped libc.fds libc.fdSocket)
    (enabled : libc.layer.Enabled event)
    (tallies : ∀ called, libc.layer.perform event = .ok (outcome, called) →
      Tallies called.socketRefcount libc.fdSocket) :
    next.Sound ∧ LayerStep libc.layer event next.layer := by
  obtain ⟨called, performed, rfl⟩ := ask_eq_some asked
  have step : LayerStep libc.layer event { called with fault := none } :=
    ⟨working, enabled, by rw [performed]; rfl⟩
  exact ⟨⟨step_sound layer step, rfl, mapped, tallies called performed⟩, step⟩

theorem Follows.of_step (step : next.Sound ∧ LayerStep libc.layer event next.layer)
    (harmless : HarmlessEvent event) : libc.Follows next :=
  ⟨step.1, [event], .single step.2, fun _ member => List.mem_singleton.mp member ▸ harmless⟩

/-- An event that changes no count. -/
theorem Sound.ask_keeps (sound : libc.Sound) (asked : libc.ask event = some (outcome, next))
    (enabled : libc.layer.Enabled event)
    (keeps : libc.layer.KeepsCounts (libc.layer.perform event)) :
    next.Sound ∧ LayerStep libc.layer event next.layer := by
  refine sound_of_ask asked sound.layer sound.working sound.mapped enabled fun _ performed => ?_
  rw [keeps _ _ performed]
  exact sound.tallies

/-- A slot was taken and counted, and has no descriptor yet. -/
structure Taken (libc : Libc maxFds) (new : Fin maxSockets) : Prop where
  layer : libc.layer.Sound
  working : libc.layer.fault = none
  mapped : Mapped libc.fds libc.fdSocket
  counted : ∃ refcount : Fin maxSockets → Int, Tallies refcount libc.fdSocket ∧
    refcount new = 0 ∧ libc.layer.socketRefcount = update refcount new (refcount new + 1)

/-- What an event that takes slots leads to. -/
inductive TakesDescriptor (next : Libc maxFds) (outcome : Outcome) : Prop
  | taken {new : Fin maxSockets} (returned : outcome = .returns new) (taken : next.Taken new)
  | failed (returned : ∀ value, outcome ≠ .returns value) (sound : next.Sound)

theorem Sound.ask_takes (sound : libc.Sound) (asked : libc.ask event = some (outcome, next))
    (enabled : libc.layer.Enabled event)
    (takes : ∀ called, libc.layer.perform event = .ok (outcome, called) →
      libc.layer.TakesSlot called outcome) :
    next.TakesDescriptor outcome ∧ LayerStep libc.layer event next.layer := by
  obtain ⟨called, performed, rfl⟩ := ask_eq_some asked
  have step : LayerStep libc.layer event { called with fault := none } :=
    ⟨sound.working, enabled, by rw [performed]; rfl⟩
  have layer := step_sound sound.layer step
  refine ⟨?_, step⟩
  cases takes called performed with
  | takes returned unreferenced counted =>
    exact .taken returned ⟨layer, rfl, sound.mapped, _, sound.tallies, unreferenced, counted⟩
  | fails returned counted =>
    refine .failed returned ⟨layer, rfl, sound.mapped, ?_⟩
    rw [counted]
    exact sound.tallies

theorem Taken.enter (taken : libc.Taken new) (free : libc.fdSocket fd = none)
    (active : libc.fds.fdActive fd = true) (functions : (libc.fds.fdTable fd).functions = .sock) :
    Sound { libc with fdSocket := update libc.fdSocket fd (some new) } := by
  obtain ⟨refcount, tallies, unreferenced, counted⟩ := taken.counted
  refine ⟨taken.layer, taken.working, taken.mapped.map active functions, ?_⟩
  rw [counted]
  exact tallies.map free unreferenced.ge

theorem Taken.close (taken : libc.Taken new)
    (asked : libc.ask (.close new result) = some (outcome, next)) : libc.Follows next := by
  obtain ⟨refcount, tallies, unreferenced, counted⟩ := taken.counted
  have once : libc.layer.socketRefcount new = refcount new + 1 := by
    rw [counted, update_self]
  have referenced : 0 < libc.layer.socketRefcount new := by
    rw [once, unreferenced]
    exact Int.zero_lt_one
  refine .of_step (sound_of_ask asked taken.layer taken.working taken.mapped referenced
    fun called performed => ?_) trivial
  rw [tcpSocketClose_counts performed, once, Int.add_sub_cancel, counted,
    update_idem, update_eq_self]
  exact tallies

/-! ### Each call -/

theorem sockClose_follows (sound : libc.Sound)
    (closed : libc.sockClose fd result = some (answer, next)) : libc.Follows next := by
  obtain ⟨index, outcome, mapped, asked⟩ := sockClose_eq_some closed
  have step := sound_of_ask asked sound.layer sound.working
    (sound.mapped.unmap.deallocate (update_self _ _ _))
    (sound.tallies.referenced mapped) fun called performed => by
      rw [tcpSocketClose_counts performed]
      exact sound.tallies.unmap mapped
  exact .of_step step trivial

/-- The new descriptor has the functions of a socket, and is not mapped yet. -/
theorem sockDup3_follows (sound : libc.Sound) (active : libc.fds.fdActive newfd = true)
    (functions : (libc.fds.fdTable newfd).functions = .sock) (free : libc.fdSocket newfd = none)
    (duplicated : libc.sockDup3 oldfd newfd = some (answer, next)) : libc.Follows next := by
  obtain ⟨index, outcome, mapped, asked⟩ := sockDup3_eq_some duplicated
  have referenced := sound.tallies.referenced mapped
  have step := sound_of_ask asked sound.layer sound.working
    (sound.mapped.map active functions) referenced fun called performed => by
      rw [tcpSocketDup_counts performed]
      exact sound.tallies.map free referenced.le
  exact .of_step step trivial

/-- An open of a socket, as far as it asks the socket layer. -/
theorem sysSocket_cases {inet stream : Bool} {memory : Option Nat} (sound : libc.Sound)
    (opened : libc.sysSocket inet stream memory result = some (answer, next)) :
    libc.Follows next ∧ (inet = true → stream = true → ∀ fd, libc.fds.fdActive fd = true) ∨
      inet = true ∧ stream = true ∧ (∃ fd, libc.fds.fdActive fd = false) ∧
        next.Sound ∧ LayerStep libc.layer (.socket memory result) next.layer := by
  unfold sysSocket at opened
  split_ifs at opened with address type
  · cases opened
    exact .inl ⟨.refl sound, fun inet => nomatch address.symm.trans inet⟩
  · cases opened
    exact .inl ⟨.refl sound, fun _ stream => nomatch type.symm.trans stream⟩
  split at opened
  · rename_i full
    cases opened
    exact .inl ⟨.refl sound, fun _ _ => FdTable.posixFdAllocate_eq_none_iff.mp full⟩
  · rename_i fd fds allocated
    refine .inr ⟨Bool.not_eq_false _ ▸ address, Bool.not_eq_false _ ▸ type,
      ⟨fd, (FdTable.posixFdAllocate_eq_some allocated).1⟩, ?_⟩
    obtain ⟨mapped, free, active, functions⟩ := sound.mapped.enter allocated
    have entered : Sound (({ libc with fds } : Libc maxFds).enterSocket fd) :=
      ⟨sound.layer, sound.working, mapped, sound.tallies⟩
    split at opened
    · cases opened
    · rename_i handle next asked
      cases opened
      obtain ⟨takes, step⟩ := entered.ask_takes asked trivial fun _ performed =>
        (openSocket_takes entered.layer performed).resolve_right fun other =>
          nomatch other.2.1
      obtain ⟨called, _, rfl⟩ := ask_eq_some asked
      cases takes with
      | @taken new returned taken =>
        cases returned
        rw [Fin.ofNat_val_eq_self]
        exact ⟨taken.enter free active functions, step⟩
      | failed returned => exact (returned handle rfl).elim
    · rename_i outcome next notReturned asked
      cases opened
      have tallies (called : SocketLayer) (performed : libc.layer.perform (.socket memory result) =
          .ok (outcome, called)) : Tallies called.socketRefcount libc.fdSocket := by
        rcases openSocket_takes sound.layer performed with
          takes | ⟨_, _, index, state, counted⟩
        · cases takes with
          | takes returned => exact (notReturned _ returned).elim
          | fails _ counted => exact counted ▸ sound.tallies
        · exact counted ▸ sound.tallies.lose (sound.layer.of_unallocated state).2
      obtain ⟨failed, step⟩ := sound_of_ask asked sound.layer sound.working mapped trivial tallies
      obtain ⟨called, _, rfl⟩ := ask_eq_some asked
      exact ⟨⟨failed.layer, failed.working, mapped.deallocate free, failed.tallies⟩, step⟩

theorem acceptReturned_follows (takes : libc.TakesDescriptor outcome)
    (returned : libc.acceptReturned outcome result = some (answer, next)) : libc.Follows next := by
  cases takes with
  | @taken new same taken =>
    cases same
    simp only [acceptReturned, Fin.ofNat_val_eq_self] at returned
    split at returned
    · obtain ⟨⟨closing, closed⟩, asked, same⟩ := Option.map_eq_some_iff.mp returned
      cases same
      exact taken.close asked
    · rename_i fd fds allocated
      cases returned
      obtain ⟨mapped, free, active, functions⟩ := taken.mapped.enter allocated
      have entered : Taken (({ libc with fds } : Libc maxFds).enterSocket fd) new :=
        ⟨taken.layer, taken.working, mapped, taken.counted⟩
      exact .of_sound (entered.enter free active functions) rfl
  | failed notReturned sound =>
    unfold acceptReturned at returned
    split at returned
    · exact (notReturned _ rfl).elim
    · cases returned
      exact .refl sound

theorem sysAccept_follows {sockfd : Int} {accepting : CloseResult} (sound : libc.Sound)
    (accepted : libc.sysAccept sockfd accepting closing = some (answer, next)) :
    libc.Follows next := by
  unfold sysAccept at accepted
  split at accepted
  · cases accepted
    exact .refl sound
  · rename_i fd index found
    split at accepted
    · cases accepted
    · rename_i outcome middle asked
      obtain ⟨takes, step⟩ := sound.ask_takes asked
        (sound.tallies.referenced (socketOf_eq_ok found))
        fun _ performed => tcpSocketAccept_takes sound.layer performed
      exact .cons step trivial (acceptReturned_follows takes accepted)

theorem resume_follows {position : Nat} {answers : LwipAnswers} (sound : libc.Sound)
    (enabled : position < libc.layer.woken.length)
    (resumed : libc.resume position answers closing = some (answer, next)) : libc.Follows next := by
  unfold resume at resumed
  split at resumed
  · cases resumed
  rename_i outcome middle asked
  obtain ⟨⟨index, call⟩, found⟩ : ∃ own, libc.layer.woken[position]? = some own :=
    ⟨_, List.getElem?_eq_getElem enabled⟩
  have called {outcome : Outcome} {called : SocketLayer}
      (performed : libc.layer.perform (.resume position answers) = .ok (outcome, called)) :
      ∃ layer, libc.layer.resume index answers call = .ok (outcome, layer) ∧
        called.socketRefcount = layer.socketRefcount := by
    simp only [SocketLayer.perform, found] at performed
    cases computed : libc.layer.resume index answers call with
    | error fault =>
      rw [computed] at performed
      cases performed
    | ok result =>
      rw [computed] at performed
      cases performed
      exact ⟨_, rfl, rfl⟩
  rw [found] at resumed
  by_cases accepts : call = .accept
  · subst accepts
    obtain ⟨takes, step⟩ := sound.ask_takes asked enabled fun next performed => by
      obtain ⟨layer, ends, same⟩ := called performed
      cases SocketLayer.acceptEnd_takes sound.layer ends with
      | takes returned unreferenced counted =>
        exact .takes returned unreferenced (same.trans counted)
      | fails returned counted => exact .fails returned (same.trans counted)
    exact .cons step trivial (acceptReturned_follows takes resumed)
  · have step := sound.ask_keeps asked enabled fun _ _ performed => by
      obtain ⟨layer, ends, same⟩ := called performed
      exact same.trans (SocketLayer.resume_keeps accepts _ _ ends)
    cases call with
    | accept => exact (accepts rfl).elim
    | _ =>
      cases resumed
      exact .of_step step trivial

theorem call_keeps (index : Fin maxSockets) (nonblock : Bool) (call : SocketCall) :
    layer.KeepsCounts (layer.perform (call.event index nonblock)) := by
  cases call with
  | bind found answer => exact tcpSocketBind_keeps index found answer
  | connect answer => exact tcpSocketConnect_keeps index answer nonblock
  | listen memory => exact tcpSocketListen_keeps index memory
  | sendto len dontwait answers =>
    exact tcpSocketWrite_keeps index len (nonblock || dontwait) answers
  | recvfrom len dontwait => exact recvEnd_keeps index len _

theorem sysSocketCall_follows {fd : Int} {call : SocketCall} (sound : libc.Sound)
    (called : libc.sysSocketCall fd call = some (answer, next)) : libc.Follows next := by
  unfold sysSocketCall at called
  split at called
  · cases called
    exact .refl sound
  · rename_i entry index found
    obtain ⟨⟨outcome, next⟩, asked, same⟩ := Option.map_eq_some_iff.mp called
    cases same
    have referenced := sound.tallies.referenced (socketOf_eq_ok found)
    have enabled : libc.layer.Enabled (call.event index (libc.fds.fdTable entry).nonblock) := by
      cases call <;> exact referenced
    refine .of_step (sound.ask_keeps asked enabled (call_keeps index _ call)) ?_
    cases call <;> trivial

theorem callback_keeps (callback : IsCallback event) : layer.KeepsCounts (layer.perform event) := by
  cases event with
  | lwipConnected tpcb => exact SocketLayer.socketConnected_keeps (layer.pcbs tpcb).arg tpcb
  | lwipErr tpcb err =>
    refine .ok ?_
    split_ifs
    · exact SocketLayer.socketErrFunc_keeps (layer.pcbs tpcb).arg err
    · rfl
  | lwipAccept tpcb sndbuf err =>
    cases err with
    | some err => exact SocketLayer.tcpSocketAcceptCb_keeps _ layer.nextPcb (some err)
    | none => exact SocketLayer.acceptConnection_keeps tpcb sndbuf
  | lwipRecv tpcb p =>
    unfold SocketLayer.perform
    dsimp only
    split_ifs
    · exact SocketLayer.socketRecvSegment_keeps _ p
    · exact .ok rfl
  | lwipFin tpcb result =>
    unfold SocketLayer.perform
    dsimp only
    split_ifs
    · exact SocketLayer.socketRecvFin_keeps _ tpcb result
    · exact .ok rfl
  | lwipSent tpcb len =>
    unfold SocketLayer.perform
    dsimp only
    split_ifs
    · exact SocketLayer.socketSentCallback_keeps _
    · exact .ok rfl
  | lwipFree tpcb => exact .ok rfl
  | _ => exact callback.elim

/-! ### Files and calls on any descriptor -/

theorem Sound.setEntry_follows {entry : FdEntry} (sound : libc.Sound)
    (functions : entry.functions = (libc.fds.fdTable fd).functions) :
    libc.Follows { libc with fds := libc.fds.setEntry fd entry } :=
  sound.follows
    (sound.mapped.setEntry fun taken => functions.trans (sound.mapped fd taken).2) rfl rfl

theorem sysOpenat_follows {dirfd : DirFd} {path : List UInt8T} {flags : OpenFlags}
    {answers : OpenAnswers} (sound : libc.Sound)
    (opened : libc.sysOpenat dirfd path flags answers = some (answer, next)) :
    libc.Follows next := by
  rcases sysOpenat_cases opened with rfl | ⟨fd, fds, fullPath, _, allocated, opens⟩
  · exact .refl sound
  · obtain ⟨mapped, free, _⟩ := sound.mapped.allocate allocated
    cases opens with
    | refused same | notTruncated _ same =>
      exact same ▸ sound.follows (mapped.deallocate free) rfl rfl
    | opened _ same =>
      exact same ▸ sound.follows (mapped.setEntry fun taken => (taken free).elim) rfl rfl

theorem closeEntry_follows (sound : libc.Sound)
    (closed : libc.closeEntry fd result closes = some (answer, next)) : libc.Follows next := by
  rcases closeEntry_cases closed with ⟨_, closed⟩ | ⟨functions, rfl⟩
  · exact sockClose_follows sound closed
  · have free : libc.fdSocket fd = none := sound.mapped.free_of_functions (by simp [functions])
    exact sound.follows (sound.mapped.deallocate free) rfl rfl

theorem dup3Valid_follows (sound : libc.Sound) (different : oldfd ≠ newfd)
    (duplicated : libc.dup3Valid oldfd newfd result closes = some (answer, next)) :
    libc.Follows next := by
  obtain ⟨closed, clears, _, duplicated⟩ := dup3Valid_cases different duplicated
  have first : libc.Follows closed := by
    rcases clears with ⟨_, rfl⟩ | ⟨_, _, closes⟩
    · exact .refl sound
    · exact closeEntry_follows sound closes
  have free := first.sound.mapped.free_of_inactive clears.free
  have mapped : Mapped (closed.fds.copyEntry oldfd newfd) closed.fdSocket :=
    first.sound.mapped.copyEntry free
  have entered : Sound { closed with fds := closed.fds.copyEntry oldfd newfd } :=
    ⟨first.sound.layer, first.sound.working, mapped, first.sound.tallies⟩
  refine first.trans ?_
  rcases dup3Entry_cases duplicated with ⟨functions, duplicated⟩ | ⟨_, rfl⟩
  · have second := sockDup3_follows entered (update_self _ _ _) functions free duplicated
    exact ⟨second.sound, second.asked⟩
  · exact first.sound.follows mapped rfl rfl

/-! ### What a call leads to -/

/-- How many active descriptors stand for a slot. -/
def fdCount (libc : Libc maxFds) (index : Fin maxSockets) : Nat :=
  (Finset.univ.filter fun fd =>
    libc.fds.fdActive fd = true ∧ libc.fdSocket fd = some index).card

structure CountsDescriptors (libc : Libc maxFds) : Prop where
  counted : ∀ index, libc.layer.socketRefcount index = libc.fdCount index
  nonneg : ∀ index, 0 ≤ libc.layer.socketRefcount index
  unreferenced : ∀ index,
    (∀ fd, libc.fds.fdActive fd = true → libc.fdSocket fd ≠ some index) →
      (libc.layer.sockets index).state = .unallocated ∨
        (libc.layer.sockets index).state = .closing

/-- The call is none of these: an open that finds no memory for a PCB, with a descriptor and a slot
for it, and the failure of a connection whose socket has been closed. -/
structure KeepsCounts (libc : Libc maxFds) (call : Syscall) : Prop where
  opens : ∀ result, call = .socket true true none result → (∃ fd, libc.fds.fdActive fd = false) →
    ∀ index, (libc.layer.sockets index).state ≠ .unallocated
  err : ∀ tpcb err, call = .callback (.lwipErr tpcb err) →
    (libc.layer.pcbs tpcb).errFunc = true → ∀ index, (libc.layer.pcbs tpcb).arg = some index →
      (libc.layer.sockets index).state ≠ .closing

theorem KeepsCounts.of_other (opens : ∀ result, call ≠ .socket true true none result)
    (err : ∀ tpcb err, call ≠ .callback (.lwipErr tpcb err)) : libc.KeepsCounts call :=
  ⟨fun result same => (opens result same).elim, fun tpcb own same => (err tpcb own same).elim⟩

/-- The call is neither an open of a socket nor a callback. -/
def PlainCall : Syscall → Prop
  | .socket _ _ _ _ | .callback _ => False
  | _ => True

theorem plain_follows (performed : libc.perform call = some (answer, next)) (plain : PlainCall call)
    (sound : libc.Sound) (enabled : libc.Enabled call) : libc.Follows next := by
  cases call with
  | socket | callback => exact plain.elim
  | accept sockfd accepting closing => exact sysAccept_follows sound performed
  | socketCall fd call => exact sysSocketCall_follows sound performed
  | resume position answers closing => exact resume_follows sound enabled performed
  | openat dirfd path flags answers => exact sysOpenat_follows sound performed
  | read fd len buffer moves =>
    rcases sysRead_cases performed with rfl | asked | ⟨fd, filePtr, rfl⟩
    · exact .refl sound
    · exact sysSocketCall_follows sound asked
    · exact sound.setEntry_follows rfl
  | write fd len answers buffer moves =>
    rcases sysWrite_cases performed with rfl | asked | ⟨fd, filePtr, rfl⟩
    · exact .refl sound
    · exact sysSocketCall_follows sound asked
    · exact sound.setEntry_follows rfl
  | fstat fd =>
    cases sysFstat_same performed
    exact .refl sound
  | fcntlSetfl number nonblock =>
    rcases sysFcntlSetfl_cases performed with rfl | ⟨fd, rfl⟩
    · exact .refl sound
    · exact sound.setEntry_follows rfl
  | dup3 oldfd newfd validFlags result closes =>
    rcases sysDup3_cases performed with rfl | ⟨old, new, _, _, _, different, duplicated⟩
    · exact .refl sound
    · exact dup3Valid_follows sound different duplicated
  | close fd result closes =>
    rcases sysClose_cases performed with rfl | ⟨fd, _, closed⟩
    · exact .refl sound
    · exact closeEntry_follows sound closed

theorem callback_step (sound : libc.Sound) (enabled : libc.Enabled (.callback event))
    (called : libc.perform (.callback event) = some (answer, next)) :
    next.Sound ∧ LayerStep libc.layer event next.layer := by
  obtain ⟨⟨outcome, next⟩, asked, same⟩ := Option.map_eq_some_iff.mp called
  cases same
  exact sound.ask_keeps asked enabled.2 (callback_keeps enabled.1)

/-- A call asks for harmless events only, or it is an open without memory, or a connection fails. -/
theorem step_cases (sound : libc.Sound) (step : SyscallStep libc call next) :
    libc.Follows next ∧ libc.KeepsCounts call ∨
      (∃ result, call = .socket true true none result ∧
        (∃ fd, libc.fds.fdActive fd = false) ∧ next.Sound ∧
        LayerStep libc.layer (.socket none result) next.layer) ∨
      ∃ tpcb err, call = .callback (.lwipErr tpcb err) ∧ next.Sound ∧
        LayerStep libc.layer (.lwipErr tpcb err) next.layer := by
  obtain ⟨enabled, answer, performed⟩ := step
  have other (follows : libc.Follows next) (opens : ∀ result, call ≠ .socket true true none result)
      (err : ∀ tpcb err, call ≠ .callback (.lwipErr tpcb err)) :
      libc.Follows next ∧ libc.KeepsCounts call := ⟨follows, .of_other opens err⟩
  cases call with
  | socket inet stream memory result =>
    rcases sysSocket_cases sound performed with ⟨follows, full⟩ | ⟨rfl, rfl, free, asks⟩
    · refine .inl ⟨follows, ⟨fun _ same free => ?_, fun _ _ => (nomatch ·)⟩⟩
      cases same
      obtain ⟨fd, inactive⟩ := free
      exact nomatch inactive.symm.trans (full rfl rfl fd)
    · cases memory with
      | none => exact .inr (.inl ⟨result, rfl, free, asks⟩)
      | some sndbuf =>
        exact .inl (other (.of_step asks trivial) (fun _ => (nomatch ·)) fun _ _ => (nomatch ·))
  | callback event =>
    have asks := callback_step sound enabled performed
    cases event with
    | lwipErr tpcb err => exact .inr (.inr ⟨tpcb, err, rfl, asks⟩)
    | socket => exact enabled.1.elim
    | _ => exact .inl (other (.of_step asks trivial) (fun _ => (nomatch ·)) fun _ _ => (nomatch ·))
  | _ =>
    have follows := plain_follows performed trivial sound enabled
    exact .inl (other follows (fun _ => (nomatch ·)) fun _ _ => (nomatch ·))

theorem step_sound (sound : libc.Sound) (step : SyscallStep libc call next) : next.Sound := by
  rcases step_cases sound step with ⟨follows, _⟩ | ⟨_, _, _, sound, _⟩ | ⟨_, _, _, sound, _⟩
  · exact follows.sound
  · exact sound
  · exact sound

theorem initial_sound : (initial : Libc maxFds).Sound where
  layer := zeroed_sound
  working := rfl
  mapped _ taken := (taken rfl).elim
  tallies _ := .inl (congrArg Nat.cast (count_eq_zero fun _ => (nomatch ·)).symm)

theorem run_layer {calls : List Syscall} (run : Run SyscallStep initial calls libc) :
    libc.Sound ∧ ∃ events, Run LayerStep .zeroed events libc.layer := by
  induction run with
  | nil => exact ⟨initial_sound, [], .nil⟩
  | snoc _ last inductionHypothesis =>
    obtain ⟨sound, events, before⟩ := inductionHypothesis
    rcases step_cases sound last with ⟨follows, _⟩ | ⟨_, _, _, sound, step⟩ | ⟨_, _, _, sound, step⟩
    · obtain ⟨more, rest, _⟩ := follows.asked
      exact ⟨follows.sound, _, before.trans rest⟩
    · exact ⟨sound, _, before.snoc step⟩
    · exact ⟨sound, _, before.snoc step⟩

/-- The first socket is opened. -/
theorem run_layer_of_open : ∃ libc : Libc 128,
    libc.fds.fdActive 0 = true ∧ libc.Sound ∧ ∃ events, Run LayerStep .zeroed events libc.layer :=
  have run : Run SyscallStep initial [.socket true true (some 0) .keeps] _ :=
    .single ⟨trivial, _, rfl⟩
  ⟨_, rfl, run_layer run⟩

/-! ### Which calls keep the counts right -/

theorem Sound.fdCount_eq_held (sound : libc.Sound) (index : Fin maxSockets) :
    libc.fdCount index = held libc.fdSocket index := by
  unfold fdCount held count
  congr 1
  ext fd
  rw [Finset.mem_filter, Finset.mem_filter, and_congr_right_iff]
  refine fun _ => and_iff_right_of_imp fun mapped => (sound.mapped fd ?_).1
  rw [mapped]
  exact (nomatch ·)

theorem Sound.countsDescriptors_iff (sound : libc.Sound) :
    libc.CountsDescriptors ↔ ∀ index, libc.layer.Referenced index := by
  constructor
  · intro counts index state
    by_contra closed
    have zero : libc.fdCount index = 0 := by
      have counted := counts.counted index
      omega
    have free := counts.unreferenced index fun fd active mapped => ?_
    · rcases free with free | free <;> rw [free] at state <;> rcases state with state | state <;>
        cases state
    · refine (Finset.card_pos.mpr ⟨fd, ?_⟩).ne' zero
      exact Finset.mem_filter.mpr ⟨Finset.mem_univ fd, active, mapped⟩
  · intro referenced
    have counted (index : Fin maxSockets) :
        libc.layer.socketRefcount index = libc.fdCount index := by
      rw [sound.fdCount_eq_held]
      refine (sound.tallies index).resolve_right fun lost => ?_
      -- only a slot whose open failed has a count below 0
      cases (sound.layer.slots index).backed with
      | failed state => exact absurd (referenced index (.inr state)) lost.1.not_gt
      | unallocated _ _ closed | closing _ _ _ _ _ closed => exact lost.1.ne closed
      | unconnected _ _ _ _ positive | connecting _ _ _ _ positive
      | connected _ _ _ _ _ positive | closedByPeer _ _ _ _ _ positive
      | listening _ _ _ _ positive => exact lost.1.not_gt positive
      | error _ _ _ nonneg => exact lost.1.not_ge nonneg
    refine ⟨counted, fun index => ?_, fun index unmapped => ?_⟩
    · rw [counted]
      exact Int.natCast_nonneg _
    · have zero : libc.layer.socketRefcount index = 0 := by
        rw [counted, fdCount, Finset.filter_false_of_mem fun fd _ mapped =>
          unmapped fd mapped.1 mapped.2]
        rfl
      cases (sound.layer.slots index).backed with
      | unallocated state => exact .inl state
      | closing state => exact .inr state
      | failed _ _ lost => exact (lost.ne zero).elim
      | unconnected _ _ _ _ positive | connecting _ _ _ _ positive
      | connected _ _ _ _ _ positive | closedByPeer _ _ _ _ _ positive
      | listening _ _ _ _ positive => exact (positive.ne' zero).elim
      | error state => exact ((referenced index (.inl state)).ne' zero).elim

/-- Harmless events keep every slot referenced. -/
theorem run_referenced {later : SocketLayer} {events : List Event} (sound : layer.Sound)
    (referenced : ∀ index, layer.Referenced index) (run : Run LayerStep layer events later)
    (harmless : ∀ event ∈ events, HarmlessEvent event) : ∀ index, later.Referenced index := by
  induction run with
  | nil => exact referenced
  | snoc before last inductionHypothesis =>
    have still := inductionHypothesis fun event member =>
      harmless event (List.mem_append_left _ member)
    have own := harmless _ (List.mem_append_right _ (List.mem_singleton_self _))
    refine (SocketLayer.step_referenced_iff ?_ still last).mpr ⟨?_, ?_⟩
    · exact before.invariant _ sound fun _ _ _ => SocketLayer.step_sound
    · rintro result rfl
      exact own.elim
    · rintro tpcb err rfl
      exact own.elim

theorem step_counts_iff (sound : libc.Sound) (counts : libc.CountsDescriptors)
    (step : SyscallStep libc call next) : next.CountsDescriptors ↔ libc.KeepsCounts call := by
  rw [(step_sound sound step).countsDescriptors_iff]
  rw [sound.countsDescriptors_iff] at counts
  rcases step_cases sound step with
    ⟨follows, keeps⟩ | ⟨result, rfl, free, _, asks⟩ | ⟨tpcb, err, rfl, _, asks⟩
  · obtain ⟨events, run, harmless⟩ := follows.asked
    exact iff_of_true (run_referenced sound.layer counts run harmless) keeps
  · rw [step_referenced_iff sound.layer counts asks]
    constructor
    · exact fun leaves => ⟨fun _ _ _ => leaves.opens result rfl, fun _ _ => (nomatch ·)⟩
    · refine fun keeps => ⟨fun _ _ => keeps.opens result rfl free, fun _ _ => (nomatch ·)⟩
  · rw [step_referenced_iff sound.layer counts asks]
    constructor
    · rintro leaves
      refine ⟨fun _ => (nomatch ·), fun tpcb' err' same => ?_⟩
      cases same
      exact leaves.err tpcb err rfl
    · intro keeps
      refine ⟨fun _ => (nomatch ·), fun tpcb' err' same => ?_⟩
      cases same
      exact keeps.err tpcb err rfl

end Libc

/-- However the system calls and the callbacks of lwIP are interleaved, and wherever a call fails,
every slot is counted as often as there are active descriptors for it, and one without descriptors
is free or closing, exactly as long as no open finds no memory for a PCB when there is a descriptor
and a slot for it, and no connection fails whose socket has been closed. -/
theorem socket_counts_iff {maxFds : Nat} {libc : Libc maxFds} {calls : List Syscall} :
    Run (Within Libc.CountsDescriptors SyscallStep) .initial calls libc ↔
      Run (Guarded Libc.KeepsCounts SyscallStep) .initial calls libc := by
  refine run_within_iff_guarded Libc.Sound Libc.initial_sound ?_ ?_ ?_
  · rw [Libc.initial_sound.countsDescriptors_iff]
    exact fun _ state => by rcases state with state | state <;> cases state
  · exact fun _ _ _ sound step => Libc.step_sound sound step
  · exact fun _ _ _ sound counts step => Libc.step_counts_iff sound counts step

/-- lwIP has no memory for the PCB of the first socket. Its slot was never counted, and is counted
down. -/
theorem open_uncounted : ∃ libc : Libc 128,
    Run SyscallStep .initial [.socket true true none .keeps] libc ∧ ¬ libc.CountsDescriptors := by
  refine ⟨_, .single ⟨trivial, _, rfl⟩, fun counts => ?_⟩
  exact absurd (counts.nonneg 0) (by decide)

end LionsOS.Posix
