import InterBridge.MainLoop.ReconnectGate
import InterBridge.Network.BrokenOff
import InterBridge.Protocol.ProcessorTransport

namespace InterBridge
open Foundations
set_option autoImplicit true

namespace MainLoop

/-- The transport's session is not trusted. -/
def Down (m : MainLoop κ δ ω) : Prop := m.transport.sessionValid = false

/-- In one of the calls a subscription was granted, or a delay was drawn that is over at `u`. -/
def SubscribedOrWaited (calls : List (NetworkTransition κ δ ω)) (u : NetworkTransition κ δ ω) :
    Prop :=
  (∃ v ∈ calls, v.output.subscribe = some true) ∨
    ∃ v ∈ calls, ∃ d, v.output.delayMs = some d ∧ NetworkTransition.deadline v d ≤ u.input.atMs

/-- Two connections in a row with Wi-Fi up all the time: `c`, the calls `mid`, and `u`. -/
structure ConsecutiveConnects (ts : List (NetworkTransition κ δ ω)) (c : NetworkTransition κ δ ω)
    (mid : List (NetworkTransition κ δ ω)) (u : NetworkTransition κ δ ω) : Prop where
  split : ∃ before after, ts = before ++ c :: (mid ++ u :: after)
  first : c.output.connect.isSome = true
  second : u.output.connect.isSome = true
  between : ∀ v ∈ mid, v.output.connect = none ∧ v.output.wifiUp = true

def NoReconnectStorm (ts : List (NetworkTransition κ δ ω)) : Prop :=
  ∀ c mid u, ConsecutiveConnects ts c mid u → SubscribedOrWaited (c :: mid) u

theorem subscribedOrWaited_of_silent {c u : NetworkTransition κ δ ω}
    {mid : List (NetworkTransition κ δ ω)} (h : ∀ v ∈ mid, v.output = { wifiUp := true }) :
    SubscribedOrWaited (c :: mid) u ↔ c.output.subscribe = some true ∨
      ∃ d, c.output.delayMs = some d ∧ NetworkTransition.deadline c d ≤ u.input.atMs := by
  have hsubscribe : ¬ ∃ v ∈ mid, v.output.subscribe = some true := by
    intro hv
    obtain ⟨v, hv, hsubscribed⟩ := hv
    rw [h v hv] at hsubscribed
    cases hsubscribed
  have hdelay : ¬ ∃ v ∈ mid, ∃ d, v.output.delayMs = some d ∧
      NetworkTransition.deadline v d ≤ u.input.atMs := by
    intro hv
    obtain ⟨v, hv, d, hdelayed, _⟩ := hv
    rw [h v hv] at hdelayed
    cases hdelayed
  simp only [SubscribedOrWaited, List.mem_cons, exists_eq_or_imp, hsubscribe, hdelay, or_false]

section Storm
variable [IMqttClient κ] [IEventOutbox ω]

omit [IEventOutbox ω] in
theorem Down.keptByPublishing : KeptByPublishing (Down : MainLoop κ δ ω → Prop) := by
  refine ⟨fun m message qos h => ?_, fun _ _ h => h, fun _ _ h => h⟩
  rw [MainLoop.publish, Down]
  dsimp only
  rw [returned_transport, Esp32AwsIotTransport.publish_of_invalid h]
  exact h

theorem Down.atGate {m : MainLoop κ δ ω} (h : m.Down) (input : NetworkInput) :
    (m.atGate input).Down := by
  have hdown : (m.wifiUpdated input).Down := by
    rw [Down, (m.wifiUpdated_kept input).1]
    exact h
  rw [Down, MainLoop.atGate, returned_transport, Esp32AwsIotTransport.isConnected_of_invalid hdown]
  exact hdown

variable [ArduinoJson] [IDedupCache δ]

/-- Without a session, a call with Wi-Fi up that does not connect does nothing but wait. -/
theorem Down.waits {m : MainLoop κ δ ω} (h : m.Down)
    (hconnect : (m.updateNetwork input).2.connect = none)
    (hwifi : (m.updateNetwork input).2.wifiUp = true) :
    m.updateNetwork input = (m.atGate input, { wifiUp := true }) := by
  have hgate : m.ReachesGate input := by
    refine ⟨?_, ?_⟩
    · by_contra hdown
      rw [updateNetwork, Bool.eq_false_iff.mpr hdown, Bool.not_false, if_pos rfl] at hwifi
      exact Bool.false_ne_true hwifi
    · rw [(m.wifiUpdated_kept input).1, Esp32AwsIotTransport.isConnected_of_invalid h]
      rfl
  by_cases hlt : ms32 input.atMs < m.nextConnectAttemptAtMs
  · rw [updateNetwork_at_gate hgate, if_pos hlt]
  · have hsome := (connects_iff hgate).mpr hlt
    rw [hconnect] at hsome
    exact absurd hsome Bool.false_ne_true

/-- So do any number of them, and the deadline stays. -/
theorem Down.waits_run {m : MainLoop κ δ ω} (h : m.Down) {inputs : List NetworkInput}
    (hmid : ∀ v ∈ transitions updateNetwork m inputs,
      v.output.connect = none ∧ v.output.wifiUp = true) :
    (∀ v ∈ transitions updateNetwork m inputs, v.output = { wifiUp := true }) ∧
      (finalState updateNetwork m inputs).nextConnectAttemptAtMs = m.nextConnectAttemptAtMs := by
  induction inputs generalizing m with
  | nil => exact ⟨List.forall_mem_nil _, rfl⟩
  | cons input inputs ih =>
    rw [transitions, List.forall_mem_cons] at hmid
    obtain ⟨⟨hconnect, hwifi⟩, hmid⟩ := hmid
    have hwaits := h.waits hconnect hwifi
    have hdown : (m.updateNetwork input).1.Down := by
      rw [hwaits]
      exact h.atGate input
    obtain ⟨hrest, hnext⟩ := ih hdown hmid
    rw [transitions, List.forall_mem_cons]
    refine ⟨⟨congrArg Prod.snd hwaits, hrest⟩, hnext.trans ?_⟩
    rw [hwaits]
    exact m.atGate_next input

end Storm

section Conditions
variable [IMqttClient κ] [IEventOutbox ω]

/-- The calls into the client during this call of `updateNetwork`. -/
def callExchanges (t : NetworkTransition (RecordingClient κ) δ ω) : List ClientExchange :=
  t.after.transport.client.exchanges.drop t.before.transport.client.exchanges.length

/-- `c` was the last call that connected, and Wi-Fi was up ever since. -/
def LastConnect (earlier : List (NetworkTransition κ δ ω)) (c : NetworkTransition κ δ ω) : Prop :=
  ∃ before mid, earlier = before ++ c :: mid ∧ c.output.connect.isSome = true ∧
    ∀ v ∈ mid, v.output.connect = none ∧ v.output.wifiUp = true

/-- No call comes to the gate after its deadline when the client broke off in the call that
connected last. -/
def NoneBrokenOff (ts : List (NetworkTransition (RecordingClient κ) δ ω)) : Prop :=
  ∀ earlier u after c, ts = earlier ++ u :: after → LastConnect earlier c →
    BrokeOff (callExchanges c) → u.before.ReachesGate u.input →
    ms32 u.input.atMs < u.before.nextConnectAttemptAtMs

/-- At every call that comes to the gate before the delay of the last connection is over, so are
the low 32 bits of its time and of the deadline in order. -/
def RefusalsOrdered (ts : List (NetworkTransition κ δ ω)) : Prop :=
  ∀ earlier u after c d, ts = earlier ++ u :: after → LastConnect earlier c →
    c.output.delayMs = some d → u.before.ReachesGate u.input →
    u.input.atMs < NetworkTransition.deadline c d →
    u.input.atMs % 2 ^ 32 < NetworkTransition.deadline c d % 2 ^ 32

/-- Since `start` the client broke off, and the session is gone. -/
structure LeftBrokenOff (start : List ClientExchange) (m : MainLoop (RecordingClient κ) δ ω) :
    Prop where
  down : m.Down
  heard : ∃ heard, m.transport.client.exchanges = start ++ heard ∧ BrokeOff heard

omit [IEventOutbox ω] in
theorem granted_keptByPublishing (start : List ClientExchange) :
    KeptByPublishing fun m : MainLoop (RecordingClient κ) δ ω => GrantedSince start m.transport := by
  refine ⟨fun m message qos h => ?_, fun _ _ h => h, fun _ _ h => h⟩
  rw [MainLoop.publish]
  dsimp only
  rw [returned_transport]
  exact h.publish message qos

omit [IEventOutbox ω] in
theorem leftBrokenOff_keptByPublishing (start : List ClientExchange) :
    KeptByPublishing (LeftBrokenOff start : MainLoop (RecordingClient κ) δ ω → Prop) := by
  refine ⟨fun m message qos h => ⟨?_, ?_⟩, fun _ _ h => ⟨h.down, h.heard⟩,
    fun _ _ h => ⟨h.down, h.heard⟩⟩
  · exact Down.keptByPublishing.publish m message qos h.down
  · rw [MainLoop.publish]
    dsimp only
    rw [returned_transport, Esp32AwsIotTransport.publish_of_invalid h.down]
    exact h.heard

theorem atGate_beforeOpening (m : MainLoop (RecordingClient κ) δ ω) (input : NetworkInput) :
    ∃ heard, BeforeOpening m.transport.client.exchanges heard (m.atGate input).transport := by
  have hbefore : BeforeOpening m.transport.client.exchanges [] (m.wifiUpdated input).transport := by
    rw [(m.wifiUpdated_kept input).1]
    exact ⟨(List.append_nil _).symm, List.forall_mem_nil _, List.forall_mem_nil _⟩
  rw [MainLoop.atGate, returned_transport]
  exact hbefore.isConnected

variable [ArduinoJson] [IDedupCache δ]

omit [IEventOutbox ω] in
/-- Polling, and the one message a pending command publishes, are part of the trial. -/
theorem pollAndProcess_onTrial {m : MainLoop (RecordingClient κ) δ ω}
    (h : OnTrial start heard m.transport) (input : NetworkInput) :
    ∃ heard', OnTrial start heard' (m.pollAndProcess input).transport := by
  obtain ⟨polled, hpolled⟩ := h.poll
  rw [← returned_transport m] at hpolled
  rcases (m.returned m.transport.poll).remoteCommandProcessor.processPending_transport
    input.clock with hkept | ⟨message, qos, hpublished⟩
  · refine ⟨polled, ?_⟩
    rw [pollAndProcess, MainLoop.transport]
    dsimp only
    rw [hkept]
    exact hpolled
  · obtain ⟨published, honTrial⟩ := hpolled.publish message qos
    refine ⟨published, ?_⟩
    rw [pollAndProcess, MainLoop.transport]
    dsimp only
    rw [hpublished]
    exact honTrial

/-- The subscription ends the trial: it is granted, or the session ends with the refusal. -/
theorem serveSession_onTrial {m : MainLoop (RecordingClient κ) δ ω}
    (h : OnTrial start heard m.transport) (hunsubscribed : m.subscribedToCommands = false)
    (input : NetworkInput) :
    ((m.serveSession input).2 = some true ∧
        GrantedSince start (m.serveSession input).1.transport) ∨
      ((m.serveSession input).2 = some false ∧ LeftBrokenOff start (m.serveSession input).1) := by
  have hpolled : (m.pollAndProcess input).subscribedToCommands = false := hunsubscribed
  obtain ⟨heard', honTrial⟩ := pollAndProcess_onTrial h input
  obtain ⟨hgranted, hrefused⟩ := honTrial.subscribe
    (m.pollAndProcess input).remoteCommandProcessor.topics.commands .atLeastOnce
  have hreturned := (m.pollAndProcess input).remoteCommandProcessor.returned_transport
    ((m.pollAndProcess input).transport.subscribe
      (m.pollAndProcess input).remoteCommandProcessor.topics.commands .atLeastOnce)
  rw [serveSession, restoreSubscription, hpolled, if_neg Bool.false_ne_true]
  cases hok : ((m.pollAndProcess input).transport.subscribe
      (m.pollAndProcess input).remoteCommandProcessor.topics.commands .atLeastOnce).ok with
  | true =>
    refine .inl ⟨congrArg some hok, ?_⟩
    apply (granted_keptByPublishing start).reportHealth
    apply (granted_keptByPublishing start).flushOutbox
    rw [← hreturned] at hgranted
    exact hgranted hok
  | false =>
    refine .inr ⟨congrArg some hok, ?_⟩
    apply (leftBrokenOff_keptByPublishing start).reportHealth
    apply (leftBrokenOff_keptByPublishing start).flushOutbox
    refine ⟨?_, ?_⟩
    · exact (congrArg Esp32AwsIotTransport.sessionValid hreturned).trans
        (Esp32AwsIotTransport.subscribe_refused hok)
    · obtain ⟨broken, hexchanges, hbroke⟩ := hrefused hok
      rw [← hreturned] at hexchanges
      exact ⟨broken, hexchanges, hbroke⟩

omit [IMqttClient κ] [IEventOutbox ω] [ArduinoJson] [IDedupCache δ] in
theorem callExchanges_eq {t : NetworkTransition (RecordingClient κ) δ ω}
    (h : t.after.transport.client.exchanges = t.before.transport.client.exchanges ++ heard) :
    callExchanges t = heard := by
  rw [callExchanges, h, List.drop_left]

/-- How a call that connects can end. -/
inductive ConnectEnd (t : NetworkTransition (RecordingClient κ) δ ω) : Prop where
  | granted (subscribed : t.output.subscribe = some true) (undelayed : t.output.delayMs = none)
      (kept : ¬ BrokeOff (callExchanges t))
  | brokeOff (unsubscribed : t.output.subscribe = some false) (undelayed : t.output.delayMs = none)
      (down : t.after.Down) (broke : BrokeOff (callExchanges t))
  | refused (d : UInt32) (unsubscribed : t.output.subscribe = none)
      (delayed : t.output.delayMs = some d)
      (next : t.after.nextConnectAttemptAtMs = ms32 (NetworkTransition.deadline t d))
      (down : t.after.Down) (unopened : ¬ BrokeOff (callExchanges t))

theorem connectEnd_accepted {m : MainLoop (RecordingClient κ) δ ω}
    (hattempt : m.updateNetwork input = (m.atGate input).attemptConnect input)
    (haccepted : (m.atGate input).connect.ok = true) :
    ConnectEnd (.of updateNetwork m input) := by
  have houtput := hattempt.trans (attemptConnect_accepted haccepted input)
  have hdelay : (m.updateNetwork input).2.delayMs = none := by
    rw [houtput]
  have hsubscribe : (m.updateNetwork input).2.subscribe =
      ((m.atGate input).sessionOpened.serveSession input).2 := by
    rw [houtput]
  have hafter : (m.updateNetwork input).1 =
      ((m.atGate input).sessionOpened.serveSession input).1 := by
    rw [houtput]
  obtain ⟨_, hbefore⟩ := m.atGate_beforeOpening input
  obtain ⟨heard, honTrial⟩ := (hbefore.connect _ _).1 haccepted
  have hopened : OnTrial m.transport.client.exchanges heard
      (m.atGate input).sessionOpened.transport := by
    change OnTrial _ heard ((m.atGate input).returned (m.atGate input).connect).transport
    rw [returned_transport]
    exact honTrial
  have hended := serveSession_onTrial hopened rfl input
  rw [← hsubscribe, ← hafter] at hended
  rcases hended with ⟨htrue, hgranted⟩ | ⟨hfalse, hbroken⟩
  · obtain ⟨since, hexchanges, e, he, hasked, hok⟩ := hgranted
    have hrecord : callExchanges (.of updateNetwork m input) = since := callExchanges_eq hexchanges
    refine .granted htrue hdelay ?_
    rw [hrecord]
    exact not_brokeOff_of_granted he hasked hok
  · obtain ⟨since, hexchanges, hbroke⟩ := hbroken.heard
    have hrecord : callExchanges (.of updateNetwork m input) = since := callExchanges_eq hexchanges
    refine .brokeOff hfalse hdelay hbroken.down ?_
    rw [hrecord]
    exact hbroke

theorem connectEnd_refused {m : MainLoop (RecordingClient κ) δ ω}
    (hattempt : m.updateNetwork input = (m.atGate input).attemptConnect input)
    (hrefused : (m.atGate input).connect.ok = false) :
    ConnectEnd (.of updateNetwork m input) := by
  obtain ⟨htrace, hdeadline, hdown⟩ := attemptConnect_refused hrefused input
  obtain ⟨_, hbefore⟩ := m.atGate_beforeOpening input
  obtain ⟨heard, hunopened⟩ := (hbefore.connect _ _).2 hrefused
  have htransport : ((m.atGate input).attemptConnect input).1.transport =
      (m.atGate input).connect.transport := by
    rw [attemptConnect, hrefused, if_neg Bool.false_ne_true]
    exact (m.atGate input).returned_transport _
  rw [← hattempt] at htrace hdeadline hdown htransport
  refine .refused _ (congrArg NetworkTrace.subscribe htrace) (congrArg NetworkTrace.delayMs htrace)
    (hdeadline.trans (ms32_add _ _)) hdown ?_
  have hrecord : callExchanges (.of updateNetwork m input) = heard := callExchanges_eq
    ((congrArg (fun t => t.client.exchanges) htransport).trans hunopened.exchanges)
  rw [hrecord]
  intro hbroke
  obtain ⟨e, he, hopens⟩ := hbroke.opened
  exact hunopened.unopened e he hopens

theorem connectEnd {m : MainLoop (RecordingClient κ) δ ω}
    (h : (m.updateNetwork input).2.connect.isSome = true) :
    ConnectEnd (.of updateNetwork m input) := by
  have hgate := reachesGate_of_connects h
  have hattempt := updateNetwork_at_gate hgate
  rw [if_neg ((connects_iff hgate).mp h)] at hattempt
  cases hconnect : (m.atGate input).connect.ok with
  | true => exact connectEnd_accepted hattempt hconnect
  | false => exact connectEnd_refused hattempt hconnect

theorem lastConnect_cut {m : MainLoop (RecordingClient κ) δ ω} {inputs : List NetworkInput}
    (hts : transitions updateNetwork m inputs = before ++ c :: (mid ++ u :: after)) :
    ∃ n input waits next, c = .of updateNetwork n input ∧
      mid = transitions updateNetwork (n.updateNetwork input).1 waits ∧
      u = .of updateNetwork (finalState updateNetwork (n.updateNetwork input).1 waits) next := by
  obtain ⟨_, input, _, _, rfl, rfl, hrest⟩ := transitions_split hts
  obtain ⟨waits, next, _, _, rfl, rfl, _⟩ := transitions_split hrest.symm
  exact ⟨_, input, waits, next, rfl, rfl, rfl⟩

theorem not_subscribedOrWaited_of_brokeOff {m : MainLoop (RecordingClient κ) δ ω}
    (hend : ConnectEnd (.of updateNetwork m input))
    (hmid : ∀ v ∈ transitions updateNetwork (m.updateNetwork input).1 waits,
      v.output.connect = none ∧ v.output.wifiUp = true)
    (hbroke : BrokeOff (callExchanges (.of updateNetwork m input)))
    (u : NetworkTransition (RecordingClient κ) δ ω) :
    ¬ SubscribedOrWaited (.of updateNetwork m input ::
      transitions updateNetwork (m.updateNetwork input).1 waits) u := by
  cases hend with
  | granted _ _ hkept => exact absurd hbroke hkept
  | refused _ _ _ _ _ hunopened => exact absurd hbroke hunopened
  | brokeOff hunsubscribed hundelayed hdown _ =>
    have hdown : (m.updateNetwork input).1.Down := hdown
    rw [subscribedOrWaited_of_silent (Down.waits_run hdown hmid).1]
    intro h
    rcases h with hsubscribed | ⟨d, hd, _⟩
    · cases hunsubscribed.symm.trans hsubscribed
    · cases hundelayed.symm.trans hd

/-- After a refused connection the delay drawn is what is waited for, and its low part is kept. -/
theorem refused_waits {m : MainLoop (RecordingClient κ) δ ω}
    (hend : ConnectEnd (.of updateNetwork m input))
    (hmid : ∀ v ∈ transitions updateNetwork (m.updateNetwork input).1 waits,
      v.output.connect = none ∧ v.output.wifiUp = true)
    (hdelay : (m.updateNetwork input).2.delayMs = some d) :
    (∀ u, SubscribedOrWaited (.of updateNetwork m input ::
        transitions updateNetwork (m.updateNetwork input).1 waits) u ↔
          NetworkTransition.deadline (.of updateNetwork m input) d ≤ u.input.atMs) ∧
      (finalState updateNetwork (m.updateNetwork input).1 waits).nextConnectAttemptAtMs =
        ms32 (NetworkTransition.deadline (.of updateNetwork m input) d) := by
  cases hend with
  | granted _ hundelayed _ => cases hundelayed.symm.trans hdelay
  | brokeOff _ hundelayed _ _ => cases hundelayed.symm.trans hdelay
  | refused d' hunsubscribed hdelayed hnext hdown _ =>
    have hsame : d' = d := Option.some.inj (hdelayed.symm.trans hdelay)
    subst hsame
    have hdown : (m.updateNetwork input).1.Down := hdown
    obtain ⟨hsilent, hkept⟩ := Down.waits_run hdown hmid
    refine ⟨fun u => ?_, hkept.trans hnext⟩
    rw [subscribedOrWaited_of_silent hsilent]
    constructor
    · intro h
      rcases h with hsubscribed | ⟨d, hd, hover⟩
      · cases hunsubscribed.symm.trans hsubscribed
      · rw [Option.some.inj (hdelay.symm.trans hd)]
        exact hover
    · exact fun hover => .inr ⟨d', hdelay, hover⟩

theorem NoReconnectStorm.noneBrokenOff {m : MainLoop (RecordingClient κ) δ ω}
    {inputs : List NetworkInput} (h : NoReconnectStorm (transitions updateNetwork m inputs)) :
    NoneBrokenOff (transitions updateNetwork m inputs) := by
  intro earlier u after c hts hlast hbroke hgate
  obtain ⟨before, mid, rfl, hfirst, hmid⟩ := hlast
  rw [List.append_assoc, List.cons_append] at hts
  obtain ⟨n, input, waits, next, rfl, rfl, rfl⟩ := lastConnect_cut hts
  -- past its deadline the call would connect, the next one to connect after the client broke off
  by_contra hpassed
  have hsecond := (connects_iff hgate).mpr hpassed
  exact not_subscribedOrWaited_of_brokeOff (connectEnd hfirst) hmid hbroke _
    (h _ _ _ ⟨⟨before, after, hts⟩, hfirst, hsecond, hmid⟩)

theorem NoReconnectStorm.refusalsOrdered {m : MainLoop (RecordingClient κ) δ ω}
    {inputs : List NetworkInput} (h : NoReconnectStorm (transitions updateNetwork m inputs)) :
    RefusalsOrdered (transitions updateNetwork m inputs) := by
  intro earlier u after c d hts hlast hdelay hgate hearly
  obtain ⟨before, mid, rfl, hfirst, hmid⟩ := hlast
  rw [List.append_assoc, List.cons_append] at hts
  obtain ⟨n, input, waits, next, rfl, rfl, rfl⟩ := lastConnect_cut hts
  obtain ⟨hwaits, hnext⟩ := refused_waits (connectEnd hfirst) hmid hdelay
  -- the gate compares with the low part of the deadline, which nothing changed meanwhile
  rw [← ms32_lt_iff, ← hnext]
  by_contra hpassed
  have hsecond := (connects_iff hgate).mpr hpassed
  exact Nat.not_le_of_lt hearly
    ((hwaits _).mp (h _ _ _ ⟨⟨before, after, hts⟩, hfirst, hsecond, hmid⟩))

/-- Over every run, there is no reconnect storm exactly when no call comes to the gate after its
deadline where the client broke off in the last connection, and none comes early by a rollover where
that was refused. -/
theorem noReconnectStorm_iff_noneBrokenOff (m : MainLoop (RecordingClient κ) δ ω)
    (inputs : List NetworkInput) :
    NoReconnectStorm (transitions updateNetwork m inputs) ↔
      NoneBrokenOff (transitions updateNetwork m inputs) ∧
        RefusalsOrdered (transitions updateNetwork m inputs) := by
  refine ⟨fun h => ⟨h.noneBrokenOff, h.refusalsOrdered⟩, ?_⟩
  intro h c mid u hpair
  obtain ⟨⟨before, after, hts⟩, hfirst, hsecond, hmid⟩ := hpair
  have hwhole : transitions updateNetwork m inputs = (before ++ c :: mid) ++ u :: after := by
    rw [hts, List.append_assoc, List.cons_append]
  have hlast : LastConnect (before ++ c :: mid) c := ⟨before, mid, rfl, hfirst, hmid⟩
  obtain ⟨n, input, waits, next, rfl, rfl, rfl⟩ := lastConnect_cut hts
  have hgate := reachesGate_of_connects hsecond
  have hpassed := (connects_iff hgate).mp hsecond
  have hend := connectEnd hfirst
  cases hend with
  | granted hsubscribed _ _ => exact .inl ⟨_, List.mem_cons_self, hsubscribed⟩
  | brokeOff _ _ _ hbroke => exact absurd (h.1 _ _ _ _ hwhole hlast hbroke hgate) hpassed
  | refused d _ hdelay _ _ _ =>
    obtain ⟨hwaits, hnext⟩ := refused_waits (connectEnd hfirst) hmid hdelay
    rw [hwaits]
    by_contra hearly
    have hlow := h.2 _ _ _ _ d hwhole hlast hdelay hgate (Nat.lt_of_not_le hearly)
    rw [← ms32_lt_iff, ← hnext] at hlow
    exact hpassed hlow

end Conditions

/-- A broker that accepts every connection and refuses every subscription. -/
structure RefusingBroker where
  deriving DecidableEq

instance : IMqttClient RefusingBroker where
  call broker call := .pure broker (match call with | .subscribe _ _ => false | _ => true)

def configuredLoop :
    MainLoop (RecordingClient RefusingBroker) InMemoryDedupCache MemoryEventOutbox where
  wifiManager := { started := true }
  credentialStore := (PersistentStore.empty.set kCertificateKey (ascii "certificate")).set
    kPrivateKeyKey (ascii "private key")
  provisioned := true
  remoteCommandProcessor := {
    deviceId := ascii "ib-0123456789abcdef0123456789abcdef"
    transport := {
      config := ⟨ascii "a-ats.iot.eu-west-1.amazonaws.com", ascii "eu-west-1", ascii "root CA",
        8883, 30, 1500⟩
      client := { client := {} } }
    handler := ⟨ascii "ib-0123456789abcdef0123456789abcdef", .new kDefaultDedupCacheCapacity⟩
    topics := ⟨ascii "ib-0123456789abcdef0123456789abcdef", [], [], ascii "interbridge"⟩ }
  eventOutbox := {}

def configuredRun (inputs : List NetworkInput) :
    List (NetworkTransition (RecordingClient RefusingBroker) InMemoryDedupCache
      MemoryEventOutbox) :=
  letI := compactJson
  transitions updateNetwork configuredLoop inputs

/-- After its subscription is refused, the device connects again one millisecond later. -/
theorem configuredRun_reconnects_at_once :
    ((configuredRun [callAt 0 ⟨0, 0, 0, 0⟩, callAt 1 ⟨0, 0, 0, 0⟩]).map fun t => t.output) =
        [{ wifiUp := true, connect := some true, subscribe := some false },
          { wifiUp := true, connect := some true, subscribe := some false }] ∧
      ¬ NoReconnectStorm (configuredRun [callAt 0 ⟨0, 0, 0, 0⟩, callAt 1 ⟨0, 0, 0, 0⟩]) := by
  have houtputs : ((configuredRun [callAt 0 ⟨0, 0, 0, 0⟩, callAt 1 ⟨0, 0, 0, 0⟩]).map
      fun t => t.output) =
        [{ wifiUp := true, connect := some true, subscribe := some false },
          { wifiUp := true, connect := some true, subscribe := some false }] := by
    decide
  refine ⟨houtputs, fun h => ?_⟩
  have hstorm := h _ [] _ ⟨⟨[], [], rfl⟩, by decide, by decide, List.forall_mem_nil _⟩
  rw [subscribedOrWaited_of_silent (List.forall_mem_nil _)] at hstorm
  rcases hstorm with hsubscribed | ⟨d, hd, _⟩
  · revert hsubscribed
    decide
  · have hnone : some d = none := hd.symm.trans (by decide)
    cases hnone

end MainLoop
end InterBridge
