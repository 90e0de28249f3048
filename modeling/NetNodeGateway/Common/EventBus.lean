import NetNodeGateway.Common.Protocol

/-!
# `EventBus` of `common/event_bus.cpp`

Subscriptions are kept in a vector in subscription order; ids come from the `uint32_t`
counter `next_id_`, which starts at `1` and wraps.  A callback is an opaque value of a type
`κ`: `publish` returns the callbacks it invokes, in the order it invokes them (the copy made
under the lock), and leaves the bus unchanged.  The mutex only serializes the operations.
-/

namespace NetNodeGateway

/-- `EventRecord`. -/
structure EventRecord where
  id : EventId
  category : EventCategory
  severity : Severity
  timestampNs : UInt64
  detail : String
  deriving DecidableEq, Repr

/-- `EventBus::Subscription`, with the callback of type `κ`. -/
structure Subscription (κ : Type) where
  id : UInt32
  category : EventCategory
  allCategories : Bool
  cb : κ
  deriving DecidableEq, Repr

/-- `EventBus`: the subscription vector and `next_id_`. -/
structure EventBus (κ : Type) where
  subs : List (Subscription κ) := []
  nextId : UInt32 := 1
  deriving DecidableEq, Repr

namespace EventBus

variable {κ : Type}

/-- `subscribe(cat, cb)`: the id returned and the bus after. -/
def subscribe (b : EventBus κ) (cat : EventCategory) (cb : κ) : UInt32 × EventBus κ :=
  (b.nextId, { subs := b.subs ++ [⟨b.nextId, cat, false, cb⟩], nextId := b.nextId + 1 })

/-- `subscribe_all(cb)`: stored with category `TRACKING` and the all-categories flag. -/
def subscribeAll (b : EventBus κ) (cb : κ) : UInt32 × EventBus κ :=
  (b.nextId, { subs := b.subs ++ [⟨b.nextId, .tracking, true, cb⟩], nextId := b.nextId + 1 })

/-- `unsubscribe(sub_id)`: the erase–remove of every subscription with that id. -/
def unsubscribe (b : EventBus κ) (subId : UInt32) : EventBus κ :=
  { b with subs := b.subs.filter (·.id != subId) }

/-- `publish(event)`: the callbacks invoked, in order. -/
def publish (b : EventBus κ) (event : EventRecord) : List κ :=
  (b.subs.filter fun s => s.allCategories || s.category == event.category).map (·.cb)

end EventBus

/-- A call on the bus, by callers whose callbacks do not call the bus themselves. -/
inductive BusCall (κ : Type)
  | subscribe (cat : EventCategory) (cb : κ)
  | subscribeAll (cb : κ)
  | unsubscribe (subId : UInt32)
  | publish (event : EventRecord)
  deriving DecidableEq, Repr

/-- What a call gives back: a subscription id, nothing, or the callbacks a `publish` invokes. -/
inductive BusReply (κ : Type)
  | id (subId : UInt32)
  | none
  | invoked (cbs : List κ)
  deriving DecidableEq, Repr

namespace EventBus

variable {κ : Type}

/-- One call: its reply and the bus after it. -/
def apply (b : EventBus κ) : BusCall κ → BusReply κ × EventBus κ
  | .subscribe cat cb => (.id (b.subscribe cat cb).1, (b.subscribe cat cb).2)
  | .subscribeAll cb => (.id (b.subscribeAll cb).1, (b.subscribeAll cb).2)
  | .unsubscribe subId => (.none, b.unsubscribe subId)
  | .publish event => (.invoked (b.publish event), b)

/-- A sequence of calls: the replies in order and the bus after them. -/
def run (b : EventBus κ) : List (BusCall κ) → List (BusReply κ) × EventBus κ
  | [] => ([], b)
  | c :: calls =>
    let r' := (b.apply c).2.run calls
    ((b.apply c).1 :: r'.1, r'.2)

end EventBus

end NetNodeGateway
