/-
The event hub (`coordinator/event_hub.rs`): global sequence numbers and a
replay suffix bounded by a count and by encoded bytes.

A method that takes `&mut self` and may fail is a function to the result
and the hub it leaves, so that what a failing call has already changed is
part of the model.
-/
import Xenoteer.Coordinator.Types

namespace Xenoteer

inductive EventHubError where
  | invalidLimits
  | wrongDesktop
  | staleGeneration
  | zeroEncodedSize
  | liveEventTooLarge
  | sequenceExhausted
  | invariantViolation
deriving DecidableEq

/-- Count and byte bounds: non-zero, and representable as `usize`. -/
structure EventHubLimits where
  maximumEvents : Nat
  maximumEncodedBytes : Nat
  events_pos : 0 < maximumEvents
  bytes_pos : 0 < maximumEncodedBytes
  bytes_le : maximumEncodedBytes ≤ u64Max

/-- A normalized event with its sequence. -/
structure EventRecord (E : Type) where
  generation : GenerationToken
  sequence : Nat
  encodedSize : Nat
  event : E
deriving DecidableEq

/-- Effects of publishing one event. -/
structure PublishOutcome where
  sequence : Nat
  retained : Bool
  evictedEvents : Nat
  droppedThrough : Nat
deriving DecidableEq

inductive ReplayFailure where
  | generationChanged
  | historyLost
  | sequenceAhead
deriving DecidableEq

inductive ReplayResult (E : Type) where
  | events (sinceSequence latestSequence : Nat) (events : List (EventRecord E))
  | resyncRequired (reason : ReplayFailure) (currentGeneration : GenerationToken)
      (droppedThrough latestSequence : Nat)
deriving DecidableEq

structure EventHub (E : Type) where
  desktopId : DesktopId
  generation : GenerationToken
  limits : EventHubLimits
  retained : List (EventRecord E)
  retainedBytes : Nat
  latestSequence : Nat
  droppedThrough : Nat

namespace EventHub

variable {E : Type}

def new (desktopId : DesktopId) (generation : GenerationToken) (limits : EventHubLimits) :
    Except EventHubError (EventHub E) :=
  if generation.desktopId ≠ desktopId then .error .wrongDesktop
  else .ok ⟨desktopId, generation, limits, [], 0, 0, 0⟩

section

variable (hub : EventHub E)

def validateGeneration (generation : GenerationToken) : Except EventHubError Unit :=
  if generation.desktopId ≠ hub.desktopId then .error .wrongDesktop
  else if generation ≠ hub.generation then .error .staleGeneration
  else .ok ()

/-- The condition of `publish`'s loop: one more event of `encodedSize` bytes
does not fit beside `retained`. -/
def Crowded (limits : EventHubLimits) (encodedSize : Nat) (retained : List (EventRecord E))
    (retainedBytes : Nat) : Prop :=
  limits.maximumEvents ≤ retained.length ∨ limits.maximumEncodedBytes - encodedSize < retainedBytes

instance (limits : EventHubLimits) (encodedSize : Nat) (retained : List (EventRecord E)) (bytes : Nat) :
    Decidable (Crowded limits encodedSize retained bytes) :=
  inferInstanceAs (Decidable (_ ∨ _))

/-- The loop of `publish`: evicts from the front until the event fits. The
recursion is on the retained events, as each turn pops one. -/
def makeRoom (hub : EventHub E) (encodedSize : Nat) :
    List (EventRecord E) → (bytes dropped evicted : Nat) → Except EventHubError Nat × EventHub E
  | [], bytes, dropped, evicted =>
    let hub := { hub with retained := [], retainedBytes := bytes, droppedThrough := dropped }
    if Crowded hub.limits encodedSize ([] : List (EventRecord E)) bytes then
      (.error .invariantViolation, hub)
    else (.ok evicted, hub)
  | record :: rest, bytes, dropped, evicted =>
    if Crowded hub.limits encodedSize (record :: rest) bytes then
      match checkedSub bytes record.encodedSize with
      | none =>
        (.error .invariantViolation,
          { hub with retained := rest, retainedBytes := bytes, droppedThrough := dropped })
      | some bytes => makeRoom hub encodedSize rest bytes (max dropped record.sequence) (evicted + 1)
    else
      (.ok evicted,
        { hub with retained := record :: rest, retainedBytes := bytes, droppedThrough := dropped })

/-- Assigns a sequence and applies both replay bounds. An event larger than
the byte bound takes its sequence and leaves a discontinuity. -/
def publish (event : E) (encodedSize : Nat) (generation : GenerationToken) :
    Except EventHubError PublishOutcome × EventHub E :=
  match hub.validateGeneration generation with
  | .error e => (.error e, hub)
  | .ok () =>
    if encodedSize = 0 then (.error .zeroEncodedSize, hub)
    else match checkedAdd hub.latestSequence 1 with
      | none => (.error .sequenceExhausted, hub)
      | some sequence =>
        let hub := { hub with latestSequence := sequence }
        if hub.limits.maximumEncodedBytes < encodedSize then
          (.ok ⟨sequence, false, hub.retained.length, sequence⟩,
            { hub with retained := [], retainedBytes := 0, droppedThrough := sequence })
        else match hub.makeRoom encodedSize hub.retained hub.retainedBytes hub.droppedThrough 0 with
          | (.error e, hub) => (.error e, hub)
          | (.ok evicted, hub) =>
            match checkedAdd hub.retainedBytes encodedSize with
            | none => (.error .invariantViolation, hub)
            | some bytes =>
              (.ok ⟨sequence, true, evicted, hub.droppedThrough⟩,
                { hub with
                  retainedBytes := bytes
                  retained := hub.retained ++ [⟨generation, sequence, encodedSize, event⟩] })

def resync (reason : ReplayFailure) : ReplayResult E :=
  .resyncRequired reason hub.generation hub.droppedThrough hub.latestSequence

/-- A complete suffix after `since`, or the reason there is none. -/
def replaySince (generation : GenerationToken) (since : Nat) : ReplayResult E :=
  if generation ≠ hub.generation then hub.resync .generationChanged
  else if hub.latestSequence < since then hub.resync .sequenceAhead
  else if since < hub.droppedThrough then hub.resync .historyLost
  else .events since hub.latestSequence (hub.retained.filter fun record => since < record.sequence)

/-- Clears the replay history and restarts the sequence in a new generation. -/
def rotateGeneration (generation : GenerationToken) : Except EventHubError Nat × EventHub E :=
  if generation.desktopId ≠ hub.desktopId then (.error .wrongDesktop, hub)
  else if generation.epoch ≤ hub.generation.epoch ∨ generation.generation = hub.generation.generation then
    (.error .staleGeneration, hub)
  else
    (.ok hub.retained.length,
      { hub with
        retained := []
        retainedBytes := 0
        latestSequence := 0
        droppedThrough := 0
        generation := generation })

end

end EventHub

end Xenoteer
