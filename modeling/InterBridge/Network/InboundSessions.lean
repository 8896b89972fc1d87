import InterBridge.Network.TransportCalls

namespace InterBridge
open Foundations
set_option autoImplicit true

namespace Esp32AwsIotTransport
open TransportTransition

/-- Some `subscribe` returned true, and neither a `connect` nor a `disconnect` came after it. -/
def CurrentSubscription (earlier : List (TransportTransition κ)) : Prop :=
  ∃ before s after, earlier = before ++ s :: after ∧ Subscribed s ∧
    ∀ v ∈ after, ¬ IsConnect v ∧ v.input ≠ .disconnect

/-- Messages reach the application only through a subscription of the current session; a `connect`
begins a new one. -/
def NoStaleMessages (ts : List (TransportTransition κ)) : Prop :=
  ∀ earlier u later, ts = earlier ++ u :: later → u.output.inbound ≠ [] →
    ¬ IsConnect u ∧ CurrentSubscription earlier

/-- From a `connect` that finds a callback still set on, the client is silent until a `subscribe`
has returned true or a `disconnect` has been made. -/
def SilentAfterReconnect (ts : List (TransportTransition κ)) : Prop :=
  ∀ earlier c later, ts = earlier ++ c :: later → IsConnect c → c.before.callback = true →
    arrived c = [] ∧ ∀ mid u rest, later = mid ++ u :: rest →
      (∀ v ∈ mid, ¬ Subscribed v ∧ v.input ≠ .disconnect) → arrived u = []

/-- The last `subscribe` that returned true, with no `disconnect` after it. -/
def LastSubscription (earlier : List (TransportTransition κ)) : Prop :=
  ∃ before s after, earlier = before ++ s :: after ∧ Subscribed s ∧
    ∀ v ∈ after, ¬ Subscribed v ∧ v.input ≠ .disconnect

section Callback
variable [IMqttClient κ]

theorem openSession_callback (t : Esp32AwsIotTransport κ) (clientId : Bytes) :
    (t.openSession clientId).transport.callback = t.callback := by
  rw [openSession, TransportReply.bind_transport, TransportReply.bind_transport]
  split
  · rfl
  rw [TransportReply.bind_transport]
  split
  · rfl
  · rfl

theorem connect_callback (t : Esp32AwsIotTransport κ) (credentials : DeviceCredentialStore)
    (clientId : Bytes) : (t.connect credentials clientId).transport.callback = t.callback := by
  rw [connect, TransportReply.bind_transport]
  dsimp only
  split
  · rfl
  split
  next =>
    split
    · rfl
    · exact openSession_callback _ clientId
  next => rfl

theorem publish_callback (t : Esp32AwsIotTransport κ) (message : MqttMessage) (qos : MqttQos) :
    (t.publish message qos).transport.callback = t.callback := by
  rw [publish, TransportReply.bind_transport]
  split
  · exact t.isConnected_callback
  rw [TransportReply.bind_transport]
  split
  · exact t.isConnected_callback
  · exact t.isConnected_callback

theorem poll_callback (t : Esp32AwsIotTransport κ) :
    t.poll.transport.callback = t.callback := by
  rw [poll, TransportReply.bind_transport]
  split
  · exact t.isConnected_callback
  rw [TransportReply.bind_transport, TransportReply.bind_transport]
  split
  · exact t.isConnected_callback
  · exact t.isConnected_callback

theorem subscribe_callback (t : Esp32AwsIotTransport κ) (topic : Bytes) (qos : MqttQos) :
    (t.subscribe topic qos).transport.callback =
      ((t.subscribe topic qos).ok || t.callback) := by
  rw [subscribe, TransportReply.bind_transport, TransportReply.bind_ok]
  split
  · exact t.isConnected_callback
  rw [TransportReply.bind_transport, TransportReply.bind_ok]
  split
  · rfl
  · exact t.isConnected_callback

theorem step_callback (t : RecordedTransport κ) (call : TransportCall) :
    (call = .disconnect ∧ (t.step call).1.callback = false) ∨
      (Subscribed (.of step t call) ∧ (t.step call).1.callback = true) ∨
      (call ≠ .disconnect ∧ ¬ Subscribed (.of step t call) ∧
        (t.step call).1.callback = t.callback) := by
  have hother : (∀ topic qos, call ≠ .subscribe topic qos) → ¬ Subscribed (.of step t call) := by
    intro hne hsubscribed
    obtain ⟨⟨topic, qos, hcall⟩, _⟩ := hsubscribed
    exact hne topic qos hcall
  cases call with
  | disconnect => exact .inl ⟨rfl, rfl⟩
  | connect credentials clientId =>
    exact .inr (.inr ⟨nofun, hother nofun, t.connect_callback credentials clientId⟩)
  | publish message qos =>
    exact .inr (.inr ⟨nofun, hother nofun, t.publish_callback message qos⟩)
  | poll => exact .inr (.inr ⟨nofun, hother nofun, t.poll_callback⟩)
  | isConnected => exact .inr (.inr ⟨nofun, hother nofun, t.isConnected_callback⟩)
  | subscribe topic qos =>
    right
    have hcallback := t.subscribe_callback topic qos
    cases hok : (t.subscribe topic qos).ok with
    | true =>
      rw [hok] at hcallback
      exact .inl ⟨⟨⟨topic, qos, rfl⟩, hok⟩, hcallback⟩
    | false =>
      rw [hok] at hcallback
      refine .inr ⟨nofun, ?_, hcallback⟩
      exact fun hsubscribed => Bool.false_ne_true (hok.symm.trans hsubscribed.2)

theorem subscribed_callback {t : RecordedTransport κ} (h : Subscribed (.of step t call)) :
    (t.step call).1.callback = true := by
  obtain ⟨⟨topic, qos, hcall⟩, hok⟩ := h
  cases hcall
  change (t.subscribe topic qos).ok = true at hok
  change (t.subscribe topic qos).transport.callback = true
  rw [subscribe_callback, hok, Bool.true_or]

theorem step_inbound (t : RecordedTransport κ) (call : TransportCall) :
    (t.step call).2.inbound = if t.callback then arrived (.of step t call) else [] := by
  obtain ⟨heard, h⟩ := t.reply_hears call
  rw [arrived, exchanges_of_hears call h]
  exact h.inbound

theorem callback_kept {t : RecordedTransport κ} (h : t.callback = true)
    (calls : List TransportCall)
    (hmid : ∀ v ∈ transitions step t calls, v.input ≠ .disconnect) :
    (finalState step t calls).callback = true := by
  induction calls generalizing t with
  | nil => exact h
  | cons call calls ih =>
    rw [transitions, List.forall_mem_cons] at hmid
    refine ih ?_ hmid.2
    rcases t.step_callback call with ⟨hdisconnect, _⟩ | ⟨_, hset⟩ | ⟨_, _, hsame⟩
    · exact absurd hdisconnect hmid.1
    · exact hset
    · exact hsame.trans h

end Callback

section Inbound
variable [IMqttClient κ]

/-- The callback that is set belongs to the last subscription. -/
theorem lastSubscription_of_callback (config : AwsIotConnectionConfig) (client : κ)
    (calls : List TransportCall)
    (h : (finalState step (constructed config client) calls).callback = true) :
    LastSubscription (transitions step (constructed config client) calls) := by
  revert h
  apply run_induction (motive := fun ts (t : RecordedTransport κ) =>
    t.callback = true → LastSubscription ts)
  · exact fun h => absurd h Bool.false_ne_true
  · intro ts t call ih hset
    rcases t.step_callback call with ⟨_, hcleared⟩ | ⟨hsubscribed, _⟩ | ⟨hcall, hother, hsame⟩
    · exact absurd (hcleared.symm.trans hset) Bool.false_ne_true
    · exact ⟨ts, _, [], rfl, hsubscribed, List.forall_mem_nil _⟩
    · obtain ⟨before, s, after, rfl, hs, hafter⟩ := ih (hsame.symm.trans hset)
      refine ⟨before, s, after ++ [.of step t call], List.append_assoc _ _ _, hs, ?_⟩
      rw [List.forall_mem_append]
      refine ⟨hafter, ?_⟩
      intro v hv
      rw [List.mem_singleton] at hv
      subst hv
      exact ⟨hother, hcall⟩

theorem forwards_iff (t : RecordedTransport κ) (call : TransportCall) :
    (t.step call).2.inbound ≠ [] ↔ t.callback = true ∧ arrived (.of step t call) ≠ [] := by
  rw [step_inbound]
  cases t.callback with
  | true => exact (and_iff_right rfl).symm
  | false => exact iff_of_false (fun h => h rfl) (fun h => Bool.false_ne_true h.1)

theorem NoStaleMessages.silentAfterReconnect {t : RecordedTransport κ} {calls : List TransportCall}
    (h : NoStaleMessages (transitions step t calls)) :
    SilentAfterReconnect (transitions step t calls) := by
  intro earlier c later hts hconnect hset
  obtain ⟨calls₁, call, calls₂, _, _, rfl, hlater⟩ := transitions_split hts
  have hkept : ((finalState step t calls₁).step call).1.callback = true := by
    obtain ⟨credentials, clientId, rfl⟩ := hconnect
    exact (connect_callback _ credentials clientId).trans hset
  constructor
  · by_contra harrived
    exact (h _ _ _ hts ((forwards_iff _ call).mpr ⟨hset, harrived⟩)).1 hconnect
  · intro mid u rest hsplit hmid
    by_contra harrived
    rw [hlater] at hsplit
    obtain ⟨calls₃, call', _, _, rfl, rfl, _⟩ := transitions_split hsplit
    have hstill := callback_kept hkept calls₃ fun v hv => (hmid v hv).2
    have hforwards := (forwards_iff _ call').mpr ⟨hstill, harrived⟩
    rw [hlater, hsplit, ← List.cons_append, ← List.append_assoc] at hts
    obtain ⟨_, before, s, after, hcurrent, hsubscribed, hafter⟩ := h _ _ rest hts hforwards
    rcases append_cons_cases hcurrent with rfl | hmem | hmem
    · obtain ⟨credentials, clientId, hcall⟩ := hconnect
      obtain ⟨⟨topic, qos, hother⟩, _⟩ := hsubscribed
      cases hcall.symm.trans hother
    · exact (hmid s hmem).1 hsubscribed
    · exact (hafter _ hmem).1 hconnect

/-- Over every run of a transport, the application hears of the current session only, exactly when
the client is silent from each reconnect that finds a callback still set to the next subscription
or teardown. -/
theorem noStaleMessages_iff_silentAfterReconnect (config : AwsIotConnectionConfig) (client : κ)
    (calls : List TransportCall) :
    NoStaleMessages (transitions step (constructed config client) calls) ↔
      SilentAfterReconnect (transitions step (constructed config client) calls) := by
  refine ⟨NoStaleMessages.silentAfterReconnect, ?_⟩
  intro h earlier u later hts hforwarded
  obtain ⟨calls₁, call, calls₂, rfl, rfl, rfl, _⟩ := transitions_split hts
  obtain ⟨hset, harrived⟩ := (forwards_iff _ call).mp hforwarded
  constructor
  · intro hconnect
    exact harrived (h _ _ _ hts hconnect hset).1
  · obtain ⟨before, s, after, hlast, hs, hafter⟩ :=
      lastSubscription_of_callback config client calls₁ hset
    refine ⟨before, s, after, hlast, hs, ?_⟩
    intro v hv
    refine ⟨?_, (hafter v hv).2⟩
    intro hconnect
    obtain ⟨after₁, after₂, rfl⟩ := List.append_of_mem hv
    rw [hlast, List.append_assoc, List.cons_append, List.append_assoc, List.cons_append,
      ← List.cons_append, ← List.append_assoc] at hts
    have hkept : v.before.callback = true := by
      obtain ⟨_, call₁, _, _, _, rfl, hrest⟩ := transitions_split hlast
      obtain ⟨calls₃, _, _, _, rfl, rfl, _⟩ := transitions_split hrest.symm
      rw [List.forall_mem_append] at hafter
      exact callback_kept (subscribed_callback hs) calls₃ fun w hw => (hafter.1 w hw).2
    rw [List.forall_mem_append, List.forall_mem_cons] at hafter
    exact harrived ((h _ _ _ hts hconnect hkept).2 after₂ _ later rfl hafter.2.2)

end Inbound
end Esp32AwsIotTransport

/-- A client that does all it is asked, and receives a message at every poll. -/
structure BusyClient where
  deriving DecidableEq

instance : IMqttClient BusyClient where
  call client
    | .poll => ⟨client, [⟨ascii "commands", []⟩], true⟩
    | _ => .pure client true

namespace Esp32AwsIotTransport

/-- A message arrives between a reconnect and the subscription that should follow. -/
def reconnectedRun : List (TransportTransition BusyClient) :=
  transitions step (constructed awsConfig {})
    [openCall, .subscribe (ascii "commands") .atLeastOnce, openCall, .poll]

theorem reconnectedRun_hears_stale : ¬ NoStaleMessages reconnectedRun := by
  intro h
  obtain ⟨_, before, s, after, hcurrent, hsubscribed, hafter⟩ := h [_, _, _] _ [] rfl (by decide)
  have hsplit : [_, _] ++ _ :: [] = before ++ s :: after := hcurrent
  rcases append_cons_cases hsplit with rfl | hmem | hmem
  · obtain ⟨⟨topic, qos, hcall⟩, _⟩ := hsubscribed
    cases hcall
  · exact absurd hmem List.not_mem_nil
  · exact (hafter _ hmem).1 ⟨_, _, rfl⟩

end Esp32AwsIotTransport
end InterBridge
