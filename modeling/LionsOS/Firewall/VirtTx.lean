/-
This file embeds the transmit virtualiser of `firewall_network_virt_tx.c`. It
passes the buffers that its network and firewall clients want to transmit to the
driver, as IO addresses, and returns each address that the driver is done with to
the free queue of the client whose region it lies in. One event is one turn of one
of its loops; the clients and the driver act in between. The queues shared with
the driver and with network clients are not part of the repository; they are
bounded queues like those of the firewall. Signals and the cleaning of the cache
are left out.
-/

import LionsOS.Firewall.Queue
import LionsOS.Lib.Shares
import LionsOS.Lib.Runs

open Function

namespace LionsOS.Firewall

open StepRun

def netBufferSize : Nat := 2048

/-- A region of buffers: its IO address and how many buffers it has. -/
@[ext]
structure DataRegion where
  ioAddr : Nat
  capacity : Nat
  deriving DecidableEq

/-- The IO addresses of a region. -/
def DataRegion.range (region : DataRegion) : Bytes.Range where
  start := region.ioAddr
  length := region.capacity * netBufferSize

/-- The configurations of the virtualiser, that of its network clients and that of its firewall
clients. -/
structure VirtTxConfig where
  numClients : Nat
  /-- The region of each network client, with as many buffers as its queues have entries. -/
  clients : Fin numClients → DataRegion
  numActiveClients : Nat
  /-- The capacity of the queue of each active firewall client. -/
  activeClients : Fin numActiveClients → Nat
  numDataRegions : Nat
  dataRegions : Fin numDataRegions → DataRegion
  numFreeClients : Nat
  /-- The region of each free firewall client, with as many buffers as its queue has entries. -/
  freeClients : Fin numFreeClients → DataRegion

/-- Whose buffers a region has: those of a network client, or those of a free firewall client. -/
inductive Owner (config : VirtTxConfig) where
  | net (client : Fin config.numClients)
  | fw (client : Fin config.numFreeClients)
  deriving DecidableEq

def VirtTxConfig.region (config : VirtTxConfig) : Owner config → DataRegion
  | .net client => config.clients client
  | .fw client => config.freeClients client

/-- The regions of all owners lie apart in the IO address space, and each data region is that of
exactly one free firewall client. -/
structure VirtTxConfig.WellFormed (config : VirtTxConfig) : Prop where
  disjoint : ∀ owner other, owner ≠ other →
    (config.region owner).range.Disjoint (config.region other).range
  dataRegions : ∀ index, ∃! client, config.freeClients client = config.dataRegions index

variable {config : VirtTxConfig}

/-! ### The search for a client -/

/-- The first client whose region has an IO address, with the offset there. The end of a region is
computed as a machine word. -/
def extractOffset {clients : Nat} (regions : Fin clients → DataRegion) (phys : Nat) :
    Option (Fin clients × Nat) :=
  ((List.finRange clients).find? fun client =>
    decide ((regions client).ioAddr ≤ phys) &&
      decide (phys < ((regions client).ioAddr + (regions client).capacity * netBufferSize) %
        2 ^ 64)).map fun client => (client, phys - (regions client).ioAddr)

def extractOffsetNetClient (config : VirtTxConfig) (phys : Nat) :
    Option (Fin config.numClients × Nat) :=
  extractOffset config.clients phys

def extractOffsetFwClient (config : VirtTxConfig) (phys : Nat) :
    Option (Fin config.numFreeClients × Nat) :=
  extractOffset config.freeClients phys

/-! ### State -/

inductive VirtTxAssertion where
  /-- A firewall client provides an offset or an interface that is out of range. -/
  | buffer
  /-- A queue has no room. -/
  | enqueue
  /-- An address lies in no client's region. -/
  | client
  deriving DecidableEq

/-- The virtualiser's queues. An interface is a machine byte. -/
structure VirtTx (config : VirtTxConfig) where
  drvActive : FwQueue NetBuffDesc
  drvFree : FwQueue NetBuffDesc
  clientActive : Fin config.numClients → FwQueue NetBuffDesc
  clientFree : Fin config.numClients → FwQueue NetBuffDesc
  fwActiveClients : Fin config.numActiveClients → FwQueue (FwBuffDesc 256)
  fwFreeClients : Fin config.numFreeClients → FwQueue NetBuffDesc

/-- The virtualiser among the others, with what happened so far. -/
structure VirtTxSystem (config : VirtTxConfig) where
  virt : VirtTx config
  /-- The IO addresses that the driver has taken and not given back. -/
  held : Multiset Nat
  /-- The buffers passed to the driver, as regions and offsets. -/
  passed : Multiset (DataRegion × Nat)
  /-- The offsets that network clients provided and that were refused. -/
  refused : Owner config → Multiset Nat
  /-- The offsets put in the free queue of each owner. -/
  freed : Owner config → Multiset Nat
  failure : Option VirtTxAssertion

inductive VirtTxEvent (config : VirtTxConfig) where
  | sendNet (client : Fin config.numClients) (buffer : NetBuffDesc)
  | sendFw (client : Fin config.numActiveClients) (buffer : FwBuffDesc 256)
  /-- A turn of the first loop of `tx_provide`. -/
  | provideNet (client : Fin config.numClients)
  /-- A turn of the second loop of `tx_provide`. -/
  | provideFw (client : Fin config.numActiveClients)
  | driverTake
  /-- The driver gives an address back; what it says of the length does not matter. -/
  | driverReturn (ioAddr : Nat) (len : UInt16T)
  /-- A turn of the loop of `tx_return`. -/
  | txReturn
  | takeFree (owner : Owner config)

namespace VirtTxSystem

variable {system next : VirtTxSystem config}

/-- An assertion fails. -/
def fail (system : VirtTxSystem config) (failure : VirtTxAssertion) : VirtTxSystem config :=
  { system with failure := some failure }

/-- The free queue of an owner. -/
def freeQueue (virt : VirtTx config) : Owner config → FwQueue NetBuffDesc
  | .net client => virt.clientFree client
  | .fw client => virt.fwFreeClients client

def setFreeQueue (virt : VirtTx config) (queue : FwQueue NetBuffDesc) : Owner config → VirtTx config
  | .net client => { virt with clientFree := update virt.clientFree client queue }
  | .fw client => { virt with fwFreeClients := update virt.fwFreeClients client queue }

/-- Put a buffer in the free queue of an owner. -/
def enqueueFree (system : VirtTxSystem config) (owner : Owner config) (buffer : NetBuffDesc) :
    VirtTxSystem config :=
  match fwEnqueue (freeQueue system.virt owner) buffer with
  | none => system.fail .enqueue
  | some queue =>
    { system with
      virt := setFreeQueue system.virt queue owner
      freed := update system.freed owner (system.freed owner + {buffer.ioOrOffset}) }

/-- Pass a buffer of a region to the driver. -/
def enqueueActive (system : VirtTxSystem config) (region : DataRegion) (offset : Nat)
    (len : UInt16T) : VirtTxSystem config :=
  match fwEnqueue system.virt.drvActive { ioOrOffset := (offset + region.ioAddr) % 2 ^ 64, len } with
  | none => system.fail .enqueue
  | some queue =>
    { system with
      virt := { system.virt with drvActive := queue }
      passed := system.passed + {(region, offset)} }

/-- Whether what a network client provides is refused. -/
def Refused (region : DataRegion) (buffer : NetBuffDesc) : Prop :=
  buffer.ioOrOffset % netBufferSize ≠ 0 ∨ netBufferSize * region.capacity ≤ buffer.ioOrOffset

instance (region : DataRegion) (buffer : NetBuffDesc) : Decidable (Refused region buffer) :=
  inferInstanceAs (Decidable (_ ∨ _))

def provideNet (system : VirtTxSystem config) (client : Fin config.numClients) :
    Option (VirtTxSystem config) :=
  (fwDequeue (system.virt.clientActive client)).map fun (buffer, queue) =>
    let system := { system with
      virt := { system.virt with
        clientActive := update system.virt.clientActive client queue } }
    if Refused (config.clients client) buffer then
      { system with
        refused := update system.refused (.net client)
          (system.refused (.net client) + {buffer.ioOrOffset}) }.enqueueFree (.net client) buffer
    else system.enqueueActive (config.clients client) buffer.ioOrOffset buffer.len

/-- What the assertions about a firewall client's buffer say. -/
def Asserted (config : VirtTxConfig) (capacity : Nat) (buffer : FwBuffDesc 256) : Prop :=
  buffer.offset % netBufferSize = 0 ∧ buffer.offset < netBufferSize * capacity ∧
    buffer.interface.val < config.numDataRegions

instance (capacity : Nat) (buffer : FwBuffDesc 256) : Decidable (Asserted config capacity buffer) :=
  inferInstanceAs (Decidable (_ ∧ _))

def provideFw (system : VirtTxSystem config) (client : Fin config.numActiveClients) :
    Option (VirtTxSystem config) :=
  (fwDequeue (system.virt.fwActiveClients client)).map fun (buffer, queue) =>
    let system := { system with
      virt := { system.virt with
        fwActiveClients := update system.virt.fwActiveClients client queue } }
    if asserted : Asserted config (config.activeClients client) buffer then
      system.enqueueActive (config.dataRegions ⟨buffer.interface, asserted.2.2⟩) buffer.offset
        buffer.len
    else system.fail .buffer

def driverTake (system : VirtTxSystem config) : Option (VirtTxSystem config) :=
  (fwDequeue system.virt.drvActive).map fun (buffer, queue) =>
    { system with
      virt := { system.virt with drvActive := queue }
      held := system.held + {buffer.ioOrOffset} }

/-- The driver gives back only what it holds, where there is room. -/
def driverReturn (system : VirtTxSystem config) (ioAddr : Nat) (len : UInt16T) :
    Option (VirtTxSystem config) :=
  if ioAddr ∈ system.held then
    (fwEnqueue system.virt.drvFree { ioOrOffset := ioAddr, len }).map fun queue =>
      { system with
        virt := { system.virt with drvFree := queue }
        held := system.held.erase ioAddr }
  else none

def txReturn (system : VirtTxSystem config) : Option (VirtTxSystem config) :=
  (fwDequeue system.virt.drvFree).map fun (buffer, queue) =>
    let system := { system with virt := { system.virt with drvFree := queue } }
    match extractOffsetNetClient config buffer.ioOrOffset with
    | some (client, offset) =>
      system.enqueueFree (.net client) { ioOrOffset := offset, len := buffer.len }
    | none =>
      match extractOffsetFwClient config buffer.ioOrOffset with
      | some (client, offset) =>
        system.enqueueFree (.fw client) { ioOrOffset := offset, len := buffer.len }
      | none => system.fail .client

/-- One step, unless it is not possible now or an assertion has failed. -/
def perform (system : VirtTxSystem config) (event : VirtTxEvent config) :
    Option (VirtTxSystem config) :=
  if system.failure.isSome then none
  else match event with
  | .sendNet client buffer =>
    (fwEnqueue (system.virt.clientActive client) buffer).map fun queue =>
      { system with
        virt := { system.virt with
          clientActive := update system.virt.clientActive client queue } }
  | .sendFw client buffer =>
    (fwEnqueue (system.virt.fwActiveClients client) buffer).map fun queue =>
      { system with
        virt := { system.virt with
          fwActiveClients := update system.virt.fwActiveClients client queue } }
  | .provideNet client => system.provideNet client
  | .provideFw client => system.provideFw client
  | .driverTake => system.driverTake
  | .driverReturn ioAddr len => system.driverReturn ioAddr len
  | .txReturn => system.txReturn
  | .takeFree owner =>
    (fwDequeue (freeQueue system.virt owner)).map fun (_, queue) =>
      { system with virt := setFreeQueue system.virt queue owner }

def Step (system : VirtTxSystem config) (event : VirtTxEvent config)
    (next : VirtTxSystem config) : Prop :=
  system.perform event = some next

/-- The virtualiser before it has passed anything on. -/
structure Initial (system : VirtTxSystem config) : Prop where
  drvActive : system.virt.drvActive.entries = []
  drvFree : system.virt.drvFree.entries = []
  held : system.held = 0
  passed : system.passed = 0
  refused : system.refused = fun _ => 0
  freed : system.freed = fun _ => 0
  failure : system.failure = none

end VirtTxSystem

end LionsOS.Firewall
