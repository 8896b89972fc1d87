import InterBridge.Core.RandomId
import InterBridge.Dev.DevRingButton
import InterBridge.Network.DeviceTransport
import InterBridge.Protocol.EventOutbox
import InterBridge.Protocol.Messages

namespace InterBridge
open Foundations
set_option autoImplicit true

/-- `%0<width>d`. -/
def zeroPadded (width : Nat) (n : Int) : Bytes :=
  let sign := if n < 0 then ascii "-" else []
  let digits := JsonText.printNat n.natAbs
  sign ++ List.replicate (width - sign.length - digits.length) 48 ++ digits

/-- Year, month and day of a day counted from the epoch, in the Gregorian calendar. Years begin in
March, so that a leap day comes last. -/
def civilFromDays (days : Int) : Int × Int × Int :=
  let shifted := days + 719468
  let era := shifted / 146097
  let dayOfEra := shifted % 146097
  let yearOfEra := (dayOfEra - dayOfEra / 1460 + dayOfEra / 36524 - dayOfEra / 146096) / 365
  let dayOfYear := dayOfEra - (365 * yearOfEra + yearOfEra / 4 - yearOfEra / 100)
  let monthFromMarch := (5 * dayOfYear + 2) / 153
  let day := dayOfYear - (153 * monthFromMarch + 2) / 5 + 1
  let month := if monthFromMarch < 10 then monthFromMarch + 3 else monthFromMarch - 9
  let year := yearOfEra + era * 400
  (if month ≤ 2 then year + 1 else year, month, day)

/-- It follows the code for times whose year fits an `int`, for which `gmtime_r` succeeds. -/
def formatIso8601Utc (unixSeconds : Int64) : Bytes :=
  let (year, month, day) := civilFromDays (unixSeconds.toInt / 86400)
  let second := unixSeconds.toInt % 86400
  zeroPadded 4 year ++ ascii "-" ++ zeroPadded 2 month ++ ascii "-" ++ zeroPadded 2 day ++
    ascii "T" ++ zeroPadded 2 (second / 3600) ++ ascii ":" ++ zeroPadded 2 (second / 60 % 60) ++
    ascii ":" ++ zeroPadded 2 (second % 60) ++ ascii "Z"

def kDevCallTimeoutMs : UInt32 := 60 * 1000

inductive DevCallState where
  | idle | ringing
  deriving DecidableEq

inductive DevCallSessionEventKind where
  | none | ringDetected | ringEndedByButton | ringEndedByTimeout | startIgnoredAlreadyRinging
  | endIgnoredNoActiveCall
  deriving DecidableEq

structure DevCallSessionOutcome where
  kind : DevCallSessionEventKind := .none
  eventId : Bytes := []
  callId : Bytes := []
  deriving DecidableEq

/-- What one call of `update` reads: both raw levels and the clocks. -/
structure RingReading where
  startPressed : Bool
  endPressed : Bool
  nowMs : UInt32
  hasValidTime : Bool
  unixTimeSeconds : Int64

structure DevRingEventCoordinator (ρ ω : Type) where
  startButton : DevRingButtonController := {}
  endButton : DevRingButtonController := {}
  random : ρ
  outbox : ω
  deviceId : Bytes
  timeoutMs : UInt32 := kDevCallTimeoutMs
  state : DevCallState := .idle
  activeCallId : Bytes := []
  callStartedAtMs : UInt32 := 0

namespace DevRingEventCoordinator
section Coordinator
variable [IRandomSource ρ] [IEventOutbox ω] [ArduinoJson]

/-- The event `enqueue` builds, with the random source after it. -/
def newEvent (c : DevRingEventCoordinator ρ ω) (eventName : ProtocolEventName)
    (reading : RingReading) : ρ × DeviceEvent :=
  let (random, eventId) := generateHexId c.random (ascii "evt")
  (random, {
    deviceId := c.deviceId
    event := eventName
    eventId := eventId
    callId := c.activeCallId
    timestamp := if reading.hasValidTime then formatIso8601Utc reading.unixTimeSeconds else [] })

def enqueue (c : DevRingEventCoordinator ρ ω) (eventName : ProtocolEventName)
    (reading : RingReading) : DevRingEventCoordinator ρ ω × Bytes :=
  let (random, event) := c.newEvent eventName reading
  ({ c with random := random, outbox := IEventOutbox.enqueue c.outbox event.eventId event.toJson },
    event.eventId)

/-- A press in `Idle`. -/
def startCall (c : DevRingEventCoordinator ρ ω) (reading : RingReading) :
    DevRingEventCoordinator ρ ω × DevCallSessionOutcome :=
  let (random, callId) := generateHexId c.random (ascii "call")
  let c := { c with
    random := random, activeCallId := callId, state := .ringing, callStartedAtMs := reading.nowMs }
  let (c, eventId) := c.enqueue .ringDetected reading
  (c, { kind := .ringDetected, eventId := eventId, callId := callId })

/-- A call that ends by the button or the timeout. -/
def endCall (c : DevRingEventCoordinator ρ ω) (kind : DevCallSessionEventKind)
    (reading : RingReading) : DevRingEventCoordinator ρ ω × DevCallSessionOutcome :=
  let callId := c.activeCallId
  let (c, eventId) := c.enqueue .ringEnded reading
  ({ c with state := .idle, activeCallId := [] },
    { kind := kind, eventId := eventId, callId := callId })

def update (c : DevRingEventCoordinator ρ ω) (reading : RingReading) :
    DevRingEventCoordinator ρ ω × DevCallSessionOutcome :=
  let (startButton, startEdge) := c.startButton.update reading.startPressed reading.nowMs
  let (endButton, endEdge) := c.endButton.update reading.endPressed reading.nowMs
  let c := { c with startButton := startButton, endButton := endButton }
  if startEdge then
    if c.state = .idle then c.startCall reading
    else (c, { kind := .startIgnoredAlreadyRinging, callId := c.activeCallId })
  else if endEdge then
    if c.state = .ringing then c.endCall .ringEndedByButton reading
    else (c, { kind := .endIgnoredNoActiveCall })
  else if c.state = .ringing ∧ 0 < c.timeoutMs ∧
      c.timeoutMs ≤ reading.nowMs - c.callStartedAtMs then
    c.endCall .ringEndedByTimeout reading
  else (c, {})

/-- What a call of `update` can do to the session and the outbox. -/
inductive SessionStep (c c' : DevRingEventCoordinator ρ ω) : Prop where
  | silent (state : c'.state = c.state) (callId : c'.activeCallId = c.activeCallId)
      (outbox : c'.outbox = c.outbox)
  | started (event : DeviceEvent) (idle : c.state = .idle) (ringing : c'.state = .ringing)
      (name : event.event = .ringDetected) (callId : event.callId = c'.activeCallId)
      (named : c'.activeCallId ≠ [])
      (outbox : c'.outbox = IEventOutbox.enqueue c.outbox event.eventId event.toJson)
  | ended (event : DeviceEvent) (ringing : c.state = .ringing) (idle : c'.state = .idle)
      (name : event.event = .ringEnded) (callId : event.callId = c.activeCallId)
      (outbox : c'.outbox = IEventOutbox.enqueue c.outbox event.eventId event.toJson)

theorem update_sessionStep (c : DevRingEventCoordinator ρ ω) (reading : RingReading) :
    SessionStep c (c.update reading).1 := by
  rw [update]
  dsimp only
  split
  · split
    next hidle =>
      exact .started _ hidle rfl rfl rfl (generateHexId_ne_nil _ _) rfl
    next => exact .silent rfl rfl rfl
  · split
    · split
      next hringing => exact .ended _ hringing rfl rfl rfl rfl
      next => exact .silent rfl rfl rfl
    · split
      next hexpired => exact .ended _ hexpired.1 rfl rfl rfl rfl
      next => exact .silent rfl rfl rfl

end Coordinator
end DevRingEventCoordinator

/-- Where a round of publishing stands. -/
structure EventPublication (ω τ : Type) where
  outbox : ω
  transport : τ
  inbound : List MqttMessage := []
  publishedCount : Nat := 0

section Publish
variable [IEventOutbox ω] [IDeviceTransport τ]

/-- The loop of `publishPendingEvents`: it stops at the first refusal, and does not skip. -/
def publishEach (topic : Bytes) (p : EventPublication ω τ) :
    List OutboxEntry → EventPublication ω τ
  | [] => p
  | entry :: rest =>
    let reply := IDeviceTransport.publish p.transport ⟨topic, entry.eventJson⟩ .atLeastOnce
    let p := { p with transport := reply.transport, inbound := p.inbound ++ reply.inbound }
    if !reply.ok then p
    else
      publishEach topic { p with
        outbox := IEventOutbox.dequeue p.outbox entry.eventId
        publishedCount := p.publishedCount + 1 } rest

def publishPendingEvents (outbox : ω) (transport : τ) (topic : Bytes) : EventPublication ω τ :=
  publishEach topic { outbox := outbox, transport := transport } (IEventOutbox.pending outbox)

theorem publishEach_accepted {topic : Bytes} {p : EventPublication ω τ} {entry : OutboxEntry}
    (h : (IDeviceTransport.publish p.transport ⟨topic, entry.eventJson⟩ .atLeastOnce).ok = true)
    (rest : List OutboxEntry) :
    let reply := IDeviceTransport.publish p.transport ⟨topic, entry.eventJson⟩ .atLeastOnce
    publishEach topic p (entry :: rest) =
      publishEach topic ⟨IEventOutbox.dequeue p.outbox entry.eventId, reply.transport,
        p.inbound ++ reply.inbound, p.publishedCount + 1⟩ rest := by
  rw [publishEach, h]
  rfl

theorem publishEach_refused {topic : Bytes} {p : EventPublication ω τ} {entry : OutboxEntry}
    (h : (IDeviceTransport.publish p.transport ⟨topic, entry.eventJson⟩ .atLeastOnce).ok = false)
    (rest : List OutboxEntry) :
    let reply := IDeviceTransport.publish p.transport ⟨topic, entry.eventJson⟩ .atLeastOnce
    publishEach topic p (entry :: rest) =
      { p with transport := reply.transport, inbound := p.inbound ++ reply.inbound } := by
  rw [publishEach, h]
  rfl

end Publish
end InterBridge
