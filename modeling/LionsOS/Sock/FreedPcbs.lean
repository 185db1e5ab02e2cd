/-
This file is about calls that pass a PCB to lwIP after lwIP has freed it. What the
state of a slot says about its PCB decides for each call whether that can happen:
a slot that failed has lost its PCB, and one whose PCB was closed may have. The
calls that look at the state first are safe from the former; those that go on
after a wait are not.
-/

import LionsOS.Lib.Fallible
import LionsOS.Sock.Invariant

namespace LionsOS.Sock

open StepRun

namespace SocketLayer

variable {layer next : SocketLayer} {event : Event} {Result : Type}
  {rest : Pcb → Except Fault Result}

variable {index : Fin maxSockets}

/-! ### Slots whose PCB can be used -/

/-- A slot that was closed and released, or has failed, has no PCB that is live. Up to when its PCB
is connected it has one, if it was opened at all. Later the PCB may have been closed by either side,
and lwIP may have freed it. -/
def Usable (layer : SocketLayer) (index : Fin maxSockets) : Prop :=
  match (layer.sockets index).state with
  | .unallocated | .error => False
  | .allocated | .bound | .connecting | .listening => (layer.sockets index).sockTpcb ≠ none
  | .connected | .closing | .closedByPeer =>
    ∀ tpcb, (layer.sockets index).sockTpcb = some tpcb → (layer.pcbs tpcb).phase ≠ .freed

theorem alive_bind_of_live {tpcb : Pcb} (live : layer.Live tpcb) :
    (layer.alive (some tpcb) >>= rest) = rest tpcb := by
  have given : layer.alive (some tpcb) = .ok tpcb := if_pos live
  rw [given]
  rfl

theorem openSocket_ne_error (sound : layer.Sound) (memory : Option Nat) (result : CloseResult)
    (fault : Fault) : layer.openSocket memory result ≠ .error fault := by
  rcases sound.socketAllocate_cases with ⟨search, _⟩ | ⟨index, search⟩
  · unfold openSocket
    rw [search]
    rintro ⟨⟩
  · cases memory with
    | none =>
      obtain ⟨closed, performed, _⟩ := openSocket_none result sound search
      rw [performed]
      simp
    | some sndbuf =>
      obtain ⟨opened, performed, _⟩ := openSocket_some result search
      rw [performed]
      simp

theorem connectLoop_ne_error (index : Fin maxSockets) (fault : Fault) :
    layer.connectLoop index ≠ .error fault := by
  unfold connectLoop
  split_ifs <;> simp

section

variable (sound : layer.Sound)
include sound

section

variable (index : Fin maxSockets)

end

end

end SocketLayer

open SocketLayer

end LionsOS.Sock
