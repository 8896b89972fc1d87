import InterBridge.Network.TransportCalls

namespace InterBridge
open Foundations
set_option autoImplicit true

namespace TransportTransition

/-- In this step the client reported that it is not connected. -/
def MetDisconnected (u : TransportTransition κ) : Prop :=
  ∃ e ∈ exchanges u, e.call = .connected ∧ e.ok = false

/-- The step found the session broken. -/
def Broke (u : TransportTransition κ) : Prop :=
  match u.input with
  | .connect _ _ | .publish _ _ | .subscribe _ _ => u.output.ok = false
  | .poll => MetDisconnected u
  | .disconnect | .isConnected => False

/-- A `publish` or `poll` on a trusted session found the client not connected. -/
def MissedDrop [IMqttClient κ] (u : TransportTransition κ) : Prop :=
  ((∃ message qos, u.input = .publish message qos) ∨ u.input = .poll) ∧
    u.before.sessionValid = true ∧ (u.before.ask .connected).ok = false

end TransportTransition

namespace Esp32AwsIotTransport
open TransportTransition

/-- After a step that found the session broken, it is reported broken until a `connect` returns
true. -/
def BrokenStaysBroken (ts : List (TransportTransition κ)) : Prop :=
  ∀ pre b mid u post, ts = pre ++ b :: (mid ++ u :: post) → Broke b →
    (∀ v ∈ mid, ¬ Connected v) → u.input = .isConnected → u.output.ok = false

/-- Every `connect` disconnects the client before anything else, also before it configures TLS. -/
def TearsDownFirst (ts : List (TransportTransition κ)) : Prop :=
  ∀ u ∈ ts, IsConnect u → ∃ first rest, exchanges u = first :: rest ∧ first.call = .disconnect

section Broken
variable [IMqttClient κ]

/-- After a missed drop, and before a `connect` returns true, the client does not answer that it is
connected while the session is still trusted. -/
def NoRevival (ts : List (TransportTransition κ)) : Prop :=
  ∀ pre b mid u post, ts = pre ++ b :: (mid ++ u :: post) → MissedDrop b →
    (∀ v ∈ mid, ¬ Connected v) → u.input = .isConnected → u.before.sessionValid = true →
    (u.before.ask .connected).ok = false

theorem isConnected_ok (t : Esp32AwsIotTransport κ) :
    t.isConnected.ok = (t.sessionValid && (t.ask .connected).ok) := by
  rw [isConnected]
  cases t.sessionValid with
  | true => rfl
  | false => rfl

theorem publish_refused {t : Esp32AwsIotTransport κ} (h : (t.publish message qos).ok = false) :
    (t.publish message qos).transport.sessionValid = false ∨
      (t.sessionValid = true ∧ (t.ask .connected).ok = false) := by
  cases hvalid : t.sessionValid with
  | false =>
    rw [publish_of_invalid hvalid]
    exact .inl hvalid
  | true =>
    cases hup : (t.ask .connected).ok with
    | false => exact .inr ⟨rfl, rfl⟩
    | true =>
      left
      obtain ⟨hok, htransport⟩ := publish_up hvalid hup message qos
      rw [htransport, ← hok, h, if_neg Bool.false_ne_true]
      rfl

theorem recheck_hears (t : RecordedTransport κ) (hvalid : t.sessionValid = true) :
    let recheck := (t.ask .connected).bind fun connected t =>
      if connected then TransportReply.pure t true else .pure t.invalidate true
    Hears t recheck [exchange t .connected] ∧
      recheck.transport.sessionValid = (t.ask .connected).ok := by
  dsimp only
  cases hup : (t.ask .connected).ok with
  | true =>
    refine ⟨((ask_hears t .connected).bind rfl ?_ : Hears t _ ([_] ++ [])), ?_⟩
    · rw [hup, if_pos rfl]
      exact .pure (by rfl) true
    · rw [TransportReply.bind_transport, hup, if_pos rfl]
      exact hvalid
  | false =>
    refine ⟨((ask_hears t .connected).bind rfl ?_ : Hears t _ ([_] ++ [])), ?_⟩
    · rw [hup, if_neg Bool.false_ne_true]
      exact .pure (by rfl) true
    · rw [TransportReply.bind_transport, hup, if_neg Bool.false_ne_true]
      rfl

theorem poll_up_hears {t : RecordedTransport κ} (hvalid : t.sessionValid = true)
    (hup : (t.ask .connected).ok = true) :
    let polled := (t.ask .connected).transport.ask .poll
    Hears t t.poll [exchange t .connected, exchange (t.ask .connected).transport .poll,
        exchange polled.transport .connected] ∧
      t.poll.transport.sessionValid = (polled.transport.ask .connected).ok := by
  obtain ⟨hrecheck, hafter⟩ :=
    recheck_hears ((t.ask .connected).transport.ask .poll).transport hvalid
  rw [poll, isConnected_of_valid hvalid]
  constructor
  · refine (ask_hears t .connected).bind rfl ?_
    rw [hup, Bool.not_true, if_neg Bool.false_ne_true]
    exact (ask_hears (t.ask .connected).transport .poll).bind rfl hrecheck
  · rw [TransportReply.bind_transport, hup, Bool.not_true, if_neg Bool.false_ne_true]
    exact hafter

theorem poll_met_disconnected {t : RecordedTransport κ}
    (h : MetDisconnected (.of step t .poll)) :
    t.poll.transport.sessionValid = false ∨
      (t.sessionValid = true ∧ (t.ask .connected).ok = false) := by
  cases hvalid : t.sessionValid with
  | false =>
    left
    rw [poll, isConnected_of_invalid hvalid]
    exact hvalid
  | true =>
    cases hup : (t.ask .connected).ok with
    | false => exact .inr ⟨rfl, rfl⟩
    | true =>
      left
      obtain ⟨hhears, hafter⟩ := poll_up_hears hvalid hup
      obtain ⟨e, he, hcall, hdown⟩ := h
      rw [exchanges_of_hears .poll hhears] at he
      simp only [List.mem_cons, List.not_mem_nil, or_false] at he
      rcases he with rfl | rfl | rfl
      · exact absurd (hup.symm.trans hdown) (Ne.symm Bool.false_ne_true)
      · cases hcall
      · exact hafter.trans hdown

/-- A session found broken is not trusted any more, except after a missed drop. -/
theorem broke_cases {t : RecordedTransport κ} (h : Broke (.of step t call)) :
    (t.step call).1.sessionValid = false ∨ MissedDrop (.of step t call) := by
  cases call with
  | connect credentials clientId =>
    exact .inl ((connect_sessionValid t credentials clientId).trans h)
  | disconnect => exact h.elim
  | publish message qos =>
    rcases publish_refused h with hinvalid | hmissed
    · exact .inl hinvalid
    · exact .inr ⟨.inl ⟨message, qos, rfl⟩, hmissed⟩
  | subscribe topic qos => exact .inl (subscribe_refused h)
  | poll =>
    rcases poll_met_disconnected h with hinvalid | hmissed
    · exact .inl hinvalid
    · exact .inr ⟨.inr rfl, hmissed⟩
  | isConnected => exact h.elim

theorem invalid_until_connected {t : RecordedTransport κ} (h : t.sessionValid = false)
    (calls : List TransportCall) (hmid : ∀ v ∈ transitions step t calls, ¬ Connected v) :
    (finalState step t calls).sessionValid = false := by
  induction calls generalizing t with
  | nil => exact h
  | cons call calls ih =>
    rw [transitions, List.forall_mem_cons] at hmid
    apply ih _ hmid.2
    by_contra hvalid
    rw [Bool.not_eq_false] at hvalid
    obtain ⟨credentials, clientId, rfl, hok⟩ := step_invalid h call hvalid
    exact hmid.1 ⟨⟨credentials, clientId, rfl⟩, hok⟩

theorem missedDrop_broke {t : RecordedTransport κ} (h : MissedDrop (.of step t call)) :
    Broke (.of step t call) := by
  obtain ⟨hcall, hvalid, hdown⟩ := h
  change t.sessionValid = true at hvalid
  change (t.ask .connected).ok = false at hdown
  rcases hcall with ⟨message, qos, rfl⟩ | rfl
  · change (t.publish message qos).ok = false
    exact (publish_down hvalid hdown message qos).1
  · have hhears : Hears t t.poll [exchange t .connected] := by
      rw [poll, isConnected_of_valid hvalid]
      refine ((ask_hears t .connected).bind rfl ?_ : Hears t _ ([_] ++ []))
      rw [hdown]
      exact .pure (by rfl) true
    refine ⟨exchange t .connected, ?_, rfl, hdown⟩
    rw [exchanges_of_hears .poll hhears]
    exact List.mem_cons_self

theorem tearsDownFirst_run (t : RecordedTransport κ) (calls : List TransportCall) :
    TearsDownFirst (transitions step t calls) := by
  intro u hu hconnect
  obtain ⟨calls₁, call, calls₂, rfl, rfl⟩ := exists_of_mem_transitions hu
  obtain ⟨credentials, clientId, rfl⟩ := hconnect
  obtain ⟨heard, hhears⟩ := (finalState step t calls₁).connect_hears credentials clientId
  exact ⟨_, heard, exchanges_of_hears (.connect credentials clientId) hhears, rfl⟩

/-- Over every run, every `connect` tears the old session down first, and a broken session stays
broken exactly when no client is revived after a missed drop. -/
theorem broken_session_iff_noRevival (t : RecordedTransport κ) (calls : List TransportCall) :
    BrokenStaysBroken (transitions step t calls) ∧ TearsDownFirst (transitions step t calls) ↔
      NoRevival (transitions step t calls) := by
  constructor
  · rintro ⟨h, _⟩ pre b mid u post hts hmissed hmid hasked hvalid
    obtain ⟨calls₁, call₁, calls₂, rfl, _, rfl, hrest⟩ := transitions_split hts
    obtain ⟨calls₃, call₂, _, rfl, _, rfl, _⟩ := transitions_split hrest.symm
    have hbroken := h _ _ _ _ _ hts (missedDrop_broke hmissed) hmid hasked
    cases hasked
    change (isConnected _).ok = false at hbroken
    rw [isConnected_ok, Bool.and_eq_false_iff] at hbroken
    exact hbroken.resolve_left (fun hinvalid => Bool.false_ne_true (hinvalid.symm.trans hvalid))
  · intro h
    refine ⟨?_, tearsDownFirst_run t calls⟩
    intro pre b mid u post hts hbroke hmid hasked
    obtain ⟨calls₁, call₁, calls₂, rfl, _, rfl, hrest⟩ := transitions_split hts
    obtain ⟨calls₃, call₂, _, rfl, rfl, rfl, _⟩ := transitions_split hrest.symm
    cases hasked
    change (isConnected _).ok = false
    rw [isConnected_ok, Bool.and_eq_false_iff]
    rcases broke_cases hbroke with hinvalid | hmissed
    · exact .inl (invalid_until_connected hinvalid calls₃ hmid)
    · rw [or_iff_not_imp_left]
      intro hvalid
      rw [Bool.not_eq_false] at hvalid
      exact h _ _ _ _ _ hts hmissed hmid rfl hvalid

end Broken
end Esp32AwsIotTransport

/-- A client that does all it is asked, and answers whether it is connected as listed. -/
structure FlappingClient where
  answers : List Bool
  deriving DecidableEq

instance : IMqttClient FlappingClient where
  call client
    | .connected => .pure ⟨client.answers.tail⟩ (client.answers.headD true)
    | _ => .pure client true

namespace Esp32AwsIotTransport

/-- A publish on a new session finds the client not connected, and then it is. -/
def flappingRun : List (TransportTransition FlappingClient) :=
  transitions step (constructed awsConfig ⟨[false, true]⟩)
    [openCall, .publish ⟨ascii "topic", []⟩ .atLeastOnce, .isConnected]

theorem flappingRun_revived :
    (flappingRun.map fun u => u.output.ok) = [true, false, true] ∧
      ¬ (BrokenStaysBroken flappingRun ∧ TearsDownFirst flappingRun) := by
  refine ⟨by decide, fun h => ?_⟩
  have hdown := h.1 [_] _ [] _ [] rfl rfl (List.forall_mem_nil _) rfl
  exact absurd hdown (by decide)

end Esp32AwsIotTransport
end InterBridge
