import InterBridge.Foundations.BoundedFifo
import InterBridge.Foundations.Json

namespace InterBridge
open Foundations
set_option autoImplicit true

def kDefaultEventOutboxCapacity : Nat := 32

structure OutboxEntry where
  eventId : Bytes
  eventJson : Bytes
  deriving DecidableEq

class IEventOutbox (ω : Type) where
  enqueue : ω → Bytes → Bytes → ω
  pending : ω → List OutboxEntry
  dequeue : ω → Bytes → ω

/-- Oldest entry first. -/
structure MemoryEventOutbox where
  capacity : Nat := kDefaultEventOutboxCapacity
  entries : List (Bytes × Bytes) := []

namespace MemoryEventOutbox

def enqueue (outbox : MemoryEventOutbox) (eventId eventJson : Bytes) : MemoryEventOutbox :=
  { outbox with entries := upsert outbox.capacity outbox.entries eventId eventJson }

def pending (outbox : MemoryEventOutbox) : List OutboxEntry :=
  outbox.entries.map fun entry => ⟨entry.1, entry.2⟩

def dequeue (outbox : MemoryEventOutbox) (eventId : Bytes) : MemoryEventOutbox :=
  { outbox with entries := outbox.entries.filter fun entry => entry.1 ≠ eventId }

instance : IEventOutbox MemoryEventOutbox := ⟨enqueue, pending, dequeue⟩

end MemoryEventOutbox
end InterBridge
