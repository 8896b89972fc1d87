import InterBridge.MainLoop.ReconnectStorm

namespace InterBridge
open Foundations
set_option autoImplicit true

/-- The calls from the last one whose `connect` returned true on. -/
def CurrentSession (ts session : List (NetworkTransition κ δ ω)) : Prop :=
  ∃ before c mid, ts = before ++ c :: mid ∧ session = c :: mid ∧ c.output.connect = some true ∧
    ∀ v ∈ mid, v.output.connect ≠ some true

/-- How many of the calls were granted a subscription. -/
def subscriptions (session : List (NetworkTransition κ δ ω)) : Nat :=
  session.countP fun v => v.output.subscribe = some true

theorem CurrentSession.next {ts : List (NetworkTransition κ δ ω)} (h : CurrentSession ts session)
    (hconnect : u.output.connect ≠ some true) : CurrentSession (ts ++ [u]) (session ++ [u]) := by
  obtain ⟨before, c, mid, rfl, rfl, hc, hmid⟩ := h
  refine ⟨before, c, mid ++ [u], List.append_assoc _ _ _, List.cons_append, hc, ?_⟩
  rw [List.forall_mem_append, List.forall_mem_singleton]
  exact ⟨hmid, hconnect⟩

theorem CurrentSession.begin {ts : List (NetworkTransition κ δ ω)}
    (hconnect : u.output.connect = some true) : CurrentSession (ts ++ [u]) [u] :=
  ⟨ts, u, [], rfl, rfl, hconnect, List.forall_mem_nil _⟩

namespace MainLoop
variable [IMqttClient κ]

/-- With the flag set and the transport connected, the session was subscribed exactly once. -/
def SubscribedOnce (ts : List (NetworkTransition κ δ ω)) (m : MainLoop κ δ ω) : Prop :=
  m.subscribedToCommands = true → m.transport.isConnected.ok = true →
    ∃ session, CurrentSession ts session ∧ subscriptions session = 1

/-- A trusted session was subscribed once if the flag is set, and not at all otherwise. -/
def CountsSubscription (ts : List (NetworkTransition κ δ ω)) (m : MainLoop κ δ ω) : Prop :=
  m.transport.sessionValid = true →
    ∃ session, CurrentSession ts session ∧ subscriptions session = m.subscribedToCommands.toNat

theorem CountsSubscription.subscribedOnce {ts : List (NetworkTransition κ δ ω)}
    {m : MainLoop κ δ ω} (h : CountsSubscription ts m) : SubscribedOnce ts m := by
  intro hflag hconnected
  have hcount := h (Esp32AwsIotTransport.sessionValid_of_isConnected hconnected)
  rw [hflag] at hcount
  exact hcount

omit [IMqttClient κ] in
theorem CountsSubscription.idle {ts : List (NetworkTransition κ δ ω)} {m : MainLoop κ δ ω}
    (h : CountsSubscription ts m) (hconnect : u.output.connect ≠ some true)
    (hsubscribe : u.output.subscribe = none)
    (hflag : u.after.subscribedToCommands = m.subscribedToCommands)
    (hvalid : u.after.transport.sessionValid = true → m.transport.sessionValid = true) :
    CountsSubscription (ts ++ [u]) u.after := by
  intro hafter
  obtain ⟨session, hsession, hcount⟩ := h (hvalid hafter)
  refine ⟨session ++ [u], hsession.next hconnect, ?_⟩
  rw [subscriptions, List.countP_append, List.countP_singleton, hsubscribe, hflag]
  exact hcount

theorem leaveNetwork_cases (m : MainLoop κ δ ω) :
    m.leaveNetwork.Down ∨ (m.leaveNetwork.subscribedToCommands = m.subscribedToCommands ∧
      m.leaveNetwork.transport.sessionValid = m.transport.sessionValid) := by
  have hasked := m.transport.isConnected_sessionValid
  rw [leaveNetwork]
  dsimp only
  split
  · refine .inl ?_
    change ((m.returned m.transport.isConnected).returned
      (m.returned m.transport.isConnected).transport.disconnect).transport.sessionValid = false
    rw [returned_transport]
    rfl
  · refine .inr ⟨rfl, ?_⟩
    rw [returned_transport]
    exact hasked

theorem restoreSubscription_flag (m : MainLoop κ δ ω) :
    (m.restoreSubscription.2 = none ∧ m.subscribedToCommands = true ∧
        m.restoreSubscription.1.subscribedToCommands = true) ∨
      (m.subscribedToCommands = false ∧
        m.restoreSubscription.2 = some m.restoreSubscription.1.subscribedToCommands) := by
  rw [restoreSubscription]
  cases hflag : m.subscribedToCommands with
  | true => exact .inl ⟨rfl, rfl, hflag⟩
  | false => exact .inr ⟨rfl, rfl⟩

section Serve
variable [IEventOutbox ω]

variable [ArduinoJson] [IDedupCache δ]

/-- A call that serves a session sets the flag to what the subscription it asked for was
answered, or leaves the flag set and asks for none. -/
theorem serveSession_flag (m : MainLoop κ δ ω) (input : NetworkInput) :
    ((m.serveSession input).2 = none ∧ m.subscribedToCommands = true ∧
        (m.serveSession input).1.subscribedToCommands = true) ∨
      (m.subscribedToCommands = false ∧
        (m.serveSession input).2 = some (m.serveSession input).1.subscribedToCommands) := by
  have hkept : KeptByPublishing fun n : MainLoop κ δ ω => n.subscribedToCommands =
      (m.pollAndProcess input).restoreSubscription.1.subscribedToCommands :=
    ⟨fun _ _ _ h => h, fun _ _ h => h, fun _ _ h => h⟩
  have hserved : (m.serveSession input).1.subscribedToCommands =
      (m.pollAndProcess input).restoreSubscription.1.subscribedToCommands :=
    hkept.reportHealth (hkept.flushOutbox rfl) _ _
  rw [hserved]
  exact (m.pollAndProcess input).restoreSubscription_flag

/-- The state a call that opens a session has reached when it comes to the subscription. -/
def polled (m : MainLoop κ δ ω) (input : NetworkInput) : MainLoop κ δ ω :=
  (m.atGate input).sessionOpened.pollAndProcess input

/-- A call that opened a session which is still connected then asked the client for the
subscription, and its answer is the call's. -/
def AttemptsSubscription (u : NetworkTransition κ δ ω) : Prop :=
  u.output.connect = some true → (u.before.polled u.input).transport.isConnected.ok = true →
    u.output.subscribe = some ((u.before.polled u.input).transport.isConnected.transport.ask
      (.subscribe (u.before.polled u.input).remoteCommandProcessor.topics.commands
        .atLeastOnce)).ok

omit [ArduinoJson] [IDedupCache δ] in
theorem atGate_kept (m : MainLoop κ δ ω) (input : NetworkInput) :
    (m.atGate input).subscribedToCommands = m.subscribedToCommands ∧
      (m.atGate input).transport.sessionValid = m.transport.sessionValid := by
  refine ⟨m.wifiUpdated_flag input, ?_⟩
  rw [atGate, returned_transport, Esp32AwsIotTransport.isConnected_sessionValid,
    (m.wifiUpdated_kept input).1]

/-- What a call of `updateNetwork` can do. -/
inductive NetworkStep (m : MainLoop κ δ ω) (input : NetworkInput) :
    MainLoop κ δ ω × NetworkTrace → Prop where
  | left : NetworkStep m input ((m.wifiUpdated input).leaveNetwork, { wifiUp := false })
  | served (connected : m.transport.isConnected.ok = true) :
      NetworkStep m input (((m.atGate input).serveSession input).1,
        { wifiUp := true, subscribe := ((m.atGate input).serveSession input).2 })
  | waited : NetworkStep m input (m.atGate input, { wifiUp := true })
  | opened (connected : (m.atGate input).connect.ok = true) :
      NetworkStep m input (((m.atGate input).sessionOpened.serveSession input).1,
        { wifiUp := true, connect := some true
          subscribe := ((m.atGate input).sessionOpened.serveSession input).2 })
  | refused (result : MainLoop κ δ ω × NetworkTrace)
      (connect : result.2.connect = some false) (down : result.1.Down) :
      NetworkStep m input result

theorem updateNetwork_step (m : MainLoop κ δ ω) (input : NetworkInput) :
    NetworkStep m input (m.updateNetwork input) := by
  rw [updateNetwork]
  split
  · exact .left
  split
  next hconnected =>
    rw [(m.wifiUpdated_kept input).1] at hconnected
    exact .served hconnected
  split
  · exact .waited
  · cases hconnect : (m.atGate input).connect.ok with
    | true =>
      rw [attemptConnect_accepted hconnect]
      exact .opened hconnect
    | false =>
      obtain ⟨htrace, _, hdown⟩ := attemptConnect_refused hconnect input
      apply NetworkStep.refused
      · rw [htrace]
      · exact hdown

theorem CountsSubscription.next {ts : List (NetworkTransition κ δ ω)} {m : MainLoop κ δ ω}
    (h : CountsSubscription ts m) (input : NetworkInput) :
    CountsSubscription (ts ++ [.of updateNetwork m input]) (m.updateNetwork input).1 := by
  rw [Transition.of]
  generalize hresult : m.updateNetwork input = result
  have hstep := m.updateNetwork_step input
  rw [hresult] at hstep
  obtain ⟨hflag, hvalid⟩ := m.atGate_kept input
  cases hstep with
  | left =>
    rcases (m.wifiUpdated input).leaveNetwork_cases with hdown | ⟨hflag, hvalid⟩
    · intro hafter
      exact absurd (hdown.symm.trans hafter) Bool.false_ne_true
    · apply h.idle (Option.some_ne_none true).symm rfl
      · exact hflag.trans (m.wifiUpdated_flag input)
      · intro hafter
        rw [← (m.wifiUpdated_kept input).1]
        exact hvalid.symm.trans hafter
  | served hconnected =>
    intro _
    obtain ⟨session, hsession, hcount⟩ :=
      h (Esp32AwsIotTransport.sessionValid_of_isConnected hconnected)
    refine ⟨_, hsession.next (Option.some_ne_none true).symm, ?_⟩
    rw [subscriptions, List.countP_append, List.countP_singleton, ← subscriptions, hcount,
      ← hflag]
    rcases (m.atGate input).serveSession_flag input with ⟨hnone, hset, hkept⟩ | ⟨hunset, hsome⟩
    · rw [hnone, hset, hkept]
      rfl
    · rw [hsome, hunset]
      cases ((m.atGate input).serveSession input).1.subscribedToCommands with
      | true => rfl
      | false => rfl
  | waited => exact h.idle (Option.some_ne_none true).symm rfl hflag (fun hafter => hvalid ▸ hafter)
  | opened =>
    intro _
    refine ⟨_, .begin rfl, ?_⟩
    rw [subscriptions, List.countP_singleton]
    rcases (m.atGate input).sessionOpened.serveSession_flag input with ⟨_, hset, _⟩ | ⟨_, hsome⟩
    · exact absurd hset Bool.false_ne_true
    · rw [hsome]
      cases ((m.atGate input).sessionOpened.serveSession input).1.subscribedToCommands with
      | true => rfl
      | false => rfl
  | refused _ _ hdown =>
    intro hafter
    exact absurd (hdown.symm.trans hafter) Bool.false_ne_true

theorem updateNetwork_attempts (m : MainLoop κ δ ω) (input : NetworkInput) :
    AttemptsSubscription (.of updateNetwork m input) := by
  intro hconnect hconnected
  have hstep := m.updateNetwork_step input
  rw [Transition.of] at hconnect hconnected ⊢
  dsimp only at hconnect hconnected ⊢
  generalize m.updateNetwork input = result at hstep hconnect
  cases hstep with
  | left => exact absurd hconnect (Option.some_ne_none true).symm
  | served => exact absurd hconnect (Option.some_ne_none true).symm
  | waited => exact absurd hconnect (Option.some_ne_none true).symm
  | opened => exact congrArg some (Esp32AwsIotTransport.subscribe_up hconnected _ _)
  | refused _ hrefused _ =>
    exact absurd (Option.some.inj (hrefused.symm.trans hconnect)) Bool.false_ne_true

/-- The subscription is neither missed nor made twice. -/
structure SubscriptionKept (ts : List (NetworkTransition κ δ ω)) (m : MainLoop κ δ ω) : Prop where
  once : SubscribedOnce ts m
  attempted : ∀ u ∈ ts, AttemptsSubscription u

/-- After every run from a state without a session, whatever the client answers. -/
theorem updateNetwork_subscriptionKept (m : MainLoop κ δ ω) (h : m.transport.sessionValid = false)
    (inputs : List NetworkInput) :
    SubscriptionKept (transitions updateNetwork m inputs) (finalState updateNetwork m inputs) := by
  have hrun : CountsSubscription (transitions updateNetwork m inputs)
        (finalState updateNetwork m inputs) ∧
      ∀ u ∈ transitions updateNetwork m inputs, AttemptsSubscription u := by
    apply run_induction (motive := fun ts n =>
      CountsSubscription ts n ∧ ∀ u ∈ ts, AttemptsSubscription u)
    · exact ⟨fun hvalid => absurd (h.symm.trans hvalid) Bool.false_ne_true, List.forall_mem_nil _⟩
    · intro ts n input hts
      obtain ⟨hcounts, hattempts⟩ := hts
      refine ⟨hcounts.next input, ?_⟩
      rw [List.forall_mem_append, List.forall_mem_singleton]
      exact ⟨hattempts, n.updateNetwork_attempts input⟩
  exact ⟨hrun.1.subscribedOnce, hrun.2⟩

end Serve

/-- A broker that accepts every connection and grants every subscription. -/
structure GrantingBroker where
  deriving DecidableEq

instance : IMqttClient GrantingBroker := ⟨fun broker _ => .pure broker true⟩

def grantingLoop : MainLoop GrantingBroker InMemoryDedupCache MemoryEventOutbox :=
  let processor := configuredLoop.remoteCommandProcessor
  { configuredLoop with
    remoteCommandProcessor := {
      processor with transport := { processor.transport with client := {} } } }

def grantingRun (inputs : List NetworkInput) :
    List (NetworkTransition GrantingBroker InMemoryDedupCache MemoryEventOutbox) :=
  letI := compactJson
  transitions updateNetwork grantingLoop inputs

def grantingFinal (inputs : List NetworkInput) :
    MainLoop GrantingBroker InMemoryDedupCache MemoryEventOutbox :=
  letI := compactJson
  finalState updateNetwork grantingLoop inputs

/-- The subscription is made in the call that connects, and not again in the next one. -/
theorem grantingRun_subscriptionKept :
    ((grantingRun [callAt 0 ⟨0, 0, 0, 0⟩, callAt 1 ⟨0, 0, 0, 0⟩]).map fun t => t.output) =
        [{ wifiUp := true, connect := some true, subscribe := some true }, { wifiUp := true }] ∧
      letI := compactJson
      SubscriptionKept (grantingRun [callAt 0 ⟨0, 0, 0, 0⟩, callAt 1 ⟨0, 0, 0, 0⟩])
        (grantingFinal [callAt 0 ⟨0, 0, 0, 0⟩, callAt 1 ⟨0, 0, 0, 0⟩]) :=
  letI := compactJson
  ⟨by decide, updateNetwork_subscriptionKept grantingLoop rfl _⟩

end MainLoop
end InterBridge
