import InterBridge.Dev.SmokeReconnect

namespace InterBridge
open Foundations
set_option autoImplicit true

/-- The action uses the Wi-Fi connection. -/
def DevSmokeAction.usesWifi : DevSmokeAction → Bool
  | .resolveDns | .configureTime | .connectMqtt => true
  | _ => false

/-- The stages behind the DNS lookup. -/
def DevSmokeState.pastDns : DevSmokeState → Bool
  | .waitingForTime | .waitingForMqtt | .online => true
  | _ => false

namespace DevMqttSmokeState

/-- The call brought a DNS answer that was waited for. -/
def DnsAccepted (u : SmokeTransition) : Prop :=
  u.input.call = .dnsResult true ∧ u.before.Accepts u.input.call

/-- After this call the DNS answer is needed again. -/
def DnsForgotten (u : SmokeTransition) : Prop :=
  u.input.Samples false ∨ u.output = .recoverWifi ∨
    (u.input.call = .networkPreflightFailed ∧ u.before.Accepts u.input.call)

def DnsPassed (ts : List SmokeTransition) : Prop :=
  ∃ earlier v later, ts = earlier ++ v :: later ∧ DnsAccepted v ∧ ∀ w ∈ later, ¬ DnsForgotten w

/-- No action comes before what it depends on. -/
structure GatesKept (ts : List SmokeTransition) : Prop where
  connectMqtt : ∀ earlier u later, ts = earlier ++ u :: later → u.output = .connectMqtt →
    (∃ mqttConnected, u.input.call = .update true true mqttConnected) ∧ DnsPassed earlier
  offline : ∀ u ∈ ts, u.input.Samples false → u.output.usesWifi = false
  recovering : ∀ earlier r between u later, ts = earlier ++ r :: (between ++ u :: later) →
    r.output = .recoverWifi → (∀ v ∈ between, ¬ v.input.Samples false) →
    u.output.usesWifi = false
  configureTime : ∀ u ∈ ts, u.output = .configureTime →
    ∃ wifiConnected mqttConnected, u.input.call = .update wifiConnected false mqttConnected

def PastDns (s : DevMqttSmokeState) : Prop := s.state.pastDns = true

/-- What a call that returns an action over Wi-Fi has been given, and where. -/
structure Issued (s : DevMqttSmokeState) (action : DevSmokeAction)
    (timeValid : Bool) : Prop where
  awaiting : s.awaitingWifiRecoveryDisconnect = false
  configureTime : action = .configureTime → timeValid = false
  connectMqtt : action = .connectMqtt → timeValid = true ∧ s.PastDns

theorem pastDns_of_stage {s : DevMqttSmokeState} (h : s.state = stage)
    (hpast : stage.pastDns = true) : s.PastDns := by
  rw [PastDns, h]
  exact hpast

theorem not_pastDns_of_stage {s : DevMqttSmokeState} (h : s.state = stage)
    (hearly : stage.pastDns = false) : ¬ s.PastDns := by
  rw [PastDns, h, hearly]
  exact Bool.false_ne_true

theorem MqttStage.pastDns {s : DevMqttSmokeState} (h : MqttStage c s nowMs s') : s.PastDns := by
  cases h with
  | entered hstage => exact pastDns_of_stage hstage rfl
  | stayed hstage => exact pastDns_of_stage hstage rfl

theorem NetworkStep.pastDns {s : DevMqttSmokeState}
    (h : NetworkStep c s nowMs timeValid mqttConnected result) (hpast : result.1.PastDns) :
    s.PastDns := by
  cases h with
  | resolving => exact absurd hpast Bool.false_ne_true
  | retryingDns hstage => exact absurd hpast (not_pastDns_of_stage hstage rfl)
  | waitingForDns => exact hpast
  | synchronizing => exact hpast
  | waitingForTime => exact hpast
  | configuringTime => exact hpast
  | losingTime hstage => exact pastDns_of_stage hstage rfl
  | connected _ hstage => exact hstage.pastDns
  | connectingMqtt _ hstage => exact hstage.pastDns
  | waitingForMqtt => exact hpast
  | online => exact hpast
  | losingMqtt hstage => exact pastDns_of_stage hstage rfl

theorem NetworkStep.ne_recoverWifi {s : DevMqttSmokeState}
    (h : NetworkStep c s nowMs timeValid mqttConnected result) : result.2 ≠ .recoverWifi := by
  cases h with
  | _ => exact nofun

theorem WifiStep.usesWifi {s : DevMqttSmokeState} (h : WifiStep c s nowMs result) :
    result.2.usesWifi = false := by
  cases h with
  | attempting => rfl
  | confirming => rfl
  | waiting => rfl
  | connecting => rfl

theorem Consistent.issued {s : DevMqttSmokeState} (h : s.Consistent) (c : DevSmokeConfig)
    (input : SmokeInput) (huses : (s.step c input).2.usesWifi = true) :
    ∃ timeValid mqttConnected, input.call = .update true timeValid mqttConnected ∧
      s.Issued (s.step c input).2 timeValid := by
  have hacts : (s.step c input).2 ≠ .none := by
    intro hnone
    rw [hnone] at huses
    exact absurd huses Bool.false_ne_true
  obtain ⟨wifiConnected, timeValid, mqttConnected, hcall, hstep⟩ := h.acts hacts
  generalize s.step c input = result at hstep huses
  cases hstep with
  | recovering => exact absurd huses Bool.false_ne_true
  | awaiting => exact absurd huses Bool.false_ne_true
  | offline _ _ _ hstep => exact absurd (hstep.usesWifi.symm.trans huses) Bool.false_ne_true
  | online _ _ hawaiting hup hstep =>
    subst hup
    refine ⟨timeValid, mqttConnected, hcall, hawaiting, ?_, ?_⟩
    · intro haction
      cases hstep with
      | configuringTime _ hvalid => exact hvalid
      | _ => cases haction
    · intro haction
      cases hstep with
      | connectingMqtt _ hstage hvalid => exact ⟨hvalid, hstage.pastDns⟩
      | _ => cases haction

theorem Consistent.recovers_awaiting {s : DevMqttSmokeState} (h : s.Consistent)
    {input : SmokeInput} (hrecovers : (s.step c input).2 = .recoverWifi) :
    (s.step c input).1.awaitingWifiRecoveryDisconnect = true := by
  obtain ⟨_, _, _, _, hstep⟩ := h.acts (c := c) (by rw [hrecovers]; exact nofun)
  generalize s.step c input = result at hstep hrecovers
  cases hstep with
  | recovering => rfl
  | awaiting => cases hrecovers
  | offline _ _ _ hstep =>
    cases hstep with
    | _ => cases hrecovers
  | online _ _ _ _ hstep => exact absurd hrecovers hstep.ne_recoverWifi

/-- A stage behind the lookup is reached by an answer that was waited for, or from another one. -/
theorem Consistent.pastDns_before {s : DevMqttSmokeState} (h : s.Consistent) (c : DevSmokeConfig)
    (input : SmokeInput) (hpast : (s.step c input).1.PastDns) :
    (input.call = .dnsResult true ∧ s.Accepts input.call) ∨ s.PastDns := by
  have hstep := h.smokeStep c input
  generalize s.step c input = result at hstep hpast
  cases hstep with
  | updated _ hstep =>
    cases hstep with
    | recovering => exact absurd hpast Bool.false_ne_true
    | awaiting => exact .inr hpast
    | offline _ _ _ hstep =>
      have hstage := hstep.kept.1.trans (s.noticeLoss_state c _)
      exact absurd hpast (not_pastDns_of_stage hstage rfl)
    | online _ _ _ _ hstep => exact .inr (hstep.pastDns hpast)
  | ignored => exact .inr hpast
  | started => exact .inr hpast
  | associated => exact .inr hpast
  | refused => exact .inr hpast
  | reported _ hstep =>
    cases hstep with
    | resolved hstage => exact .inl ⟨rfl, hstage⟩
    | unresolved =>
      obtain ⟨_, _, _, _, hkept⟩ := (s.scheduleRetry c _).recordConnectivityFailure_kept c _
      rw [hkept] at hpast
      exact .inr hpast
    | preflightFailed hstage => exact .inr (pastDns_of_stage hstage rfl)
    | mqttUp hstage => exact .inr (pastDns_of_stage hstage rfl)
    | mqttDown hstage => exact .inr (pastDns_of_stage hstage rfl)

theorem Consistent.forgotten_notPast {s : DevMqttSmokeState} (h : s.Consistent)
    (c : DevSmokeConfig) (input : SmokeInput) (hforgotten : DnsForgotten (.of (step c) s input)) :
    ¬ (s.step c input).1.PastDns := by
  rcases hforgotten with hdown | hrecovers | ⟨hfailed, haccepts⟩
  · exact not_pastDns_of_stage (h.waits hdown c) rfl
  · have hawaiting := (h.next c input).awaiting (h.recovers_awaiting hrecovers)
    exact not_pastDns_of_stage hawaiting rfl
  · obtain ⟨call, atMs⟩ := input
    change call = .networkPreflightFailed at hfailed
    subst hfailed
    have hstep := h.smokeStep c ⟨.networkPreflightFailed, atMs⟩
    generalize s.step c ⟨.networkPreflightFailed, atMs⟩ = result at hstep
    cases hstep with
    | ignored hrefuses => exact absurd haccepts hrefuses
    | reported _ hstep =>
      cases hstep with
      | preflightFailed =>
        obtain ⟨_, _, _, _, hkept⟩ := (s.enter c _ _).recordConnectivityFailure_kept c _
        rw [hkept]
        exact Bool.false_ne_true

theorem dnsPassed_run (c : DevSmokeConfig) (inputs : List SmokeInput)
    (hpast : (finalState (step c) (constructed c) inputs).PastDns) :
    DnsPassed (transitions (step c) (constructed c) inputs) := by
  have hrun : ((finalState (step c) (constructed c) inputs).PastDns →
        DnsPassed (transitions (step c) (constructed c) inputs)) ∧
      (finalState (step c) (constructed c) inputs).Consistent := by
    apply run_induction (motive := fun ts s => (s.PastDns → DnsPassed ts) ∧ s.Consistent)
    · exact ⟨nofun, consistent_run c []⟩
    · intro ts s input hs
      obtain ⟨hpassed, hconsistent⟩ := hs
      refine ⟨?_, hconsistent.next c input⟩
      intro hpast
      rcases hconsistent.pastDns_before c input hpast with haccepted | hbefore
      · exact ⟨ts, _, [], rfl, haccepted, List.forall_mem_nil _⟩
      · obtain ⟨earlier, v, later, rfl, hv, hlater⟩ := hpassed hbefore
        refine ⟨earlier, v, later ++ [.of (step c) s input], List.append_assoc _ _ _, hv, ?_⟩
        rw [List.forall_mem_append, List.forall_mem_singleton]
        refine ⟨hlater, ?_⟩
        intro hforgotten
        exact hconsistent.forgotten_notPast c input hforgotten hpast
  exact hrun.1 hpast

/-- The recovery's disconnect is awaited until a call finds Wi-Fi down. -/
theorem Consistent.awaiting_kept {s : DevMqttSmokeState} (h : s.Consistent)
    (hawaiting : s.awaitingWifiRecoveryDisconnect = true) {input : SmokeInput}
    (hup : ¬ input.Samples false) (c : DevSmokeConfig) :
    (s.step c input).1.awaitingWifiRecoveryDisconnect = true := by
  have hstage := h.awaiting hawaiting
  have hstep := h.smokeStep c input
  generalize s.step c input = result at hstep
  cases hstep with
  | updated _ hstep =>
    cases hstep with
    | recovering => rfl
    | awaiting => exact hawaiting
    | offline _ _ hdown _ =>
      subst hdown
      exact absurd ⟨_, _, rfl⟩ hup
    | online _ _ hfalse _ _ => exact absurd (hfalse.symm.trans hawaiting) Bool.false_ne_true
  | ignored => exact hawaiting
  | started => exact hawaiting
  | associated => exact hawaiting
  | refused => exact hawaiting
  | reported _ hstep => exact absurd hstage hstep.not_wifi

theorem Consistent.awaiting_run {s : DevMqttSmokeState} (h : s.Consistent)
    (hawaiting : s.awaitingWifiRecoveryDisconnect = true) (c : DevSmokeConfig)
    (inputs : List SmokeInput)
    (hup : ∀ v ∈ transitions (step c) s inputs, ¬ v.input.Samples false) :
    (finalState (step c) s inputs).awaitingWifiRecoveryDisconnect = true := by
  induction inputs generalizing s with
  | nil => exact hawaiting
  | cons input inputs ih =>
    rw [transitions, List.forall_mem_cons] at hup
    exact ih (h.next c input) (h.awaiting_kept hawaiting hup.1 c) hup.2

/-- Over every run. -/
theorem gatesKept_run (c : DevSmokeConfig) (inputs : List SmokeInput) :
    GatesKept (transitions (step c) (constructed c) inputs) := by
  have hissued (u : SmokeTransition) (hu : u ∈ transitions (step c) (constructed c) inputs)
      (huses : u.output.usesWifi = true) : ∃ timeValid mqttConnected,
        u.input.call = .update true timeValid mqttConnected ∧
          u.before.Issued u.output timeValid := by
    obtain ⟨inputs₁, input, _, _, rfl⟩ := exists_of_mem_transitions hu
    exact (consistent_run c inputs₁).issued c input huses
  constructor
  · intro earlier u later hts haction
    have hu : u ∈ transitions (step c) (constructed c) inputs := by
      rw [hts]
      exact List.mem_append_right _ List.mem_cons_self
    obtain ⟨timeValid, mqttConnected, hcall, hgates⟩ := hissued u hu (by rw [haction]; rfl)
    obtain ⟨rfl, hpast⟩ := hgates.connectMqtt haction
    refine ⟨⟨mqttConnected, hcall⟩, ?_⟩
    obtain ⟨inputs₁, input, _, _, rfl, rfl, _⟩ := transitions_split hts
    exact dnsPassed_run c inputs₁ hpast
  · intro u hu hdown
    by_contra huses
    rw [Bool.not_eq_false] at huses
    obtain ⟨_, _, hcall, _⟩ := hissued u hu huses
    obtain ⟨_, _, hother⟩ := hdown
    cases hcall.symm.trans hother
  · intro earlier r between u later hts hrecovers hbetween
    by_contra huses
    rw [Bool.not_eq_false] at huses
    have hu : u ∈ transitions (step c) (constructed c) inputs := by
      rw [hts]
      exact List.mem_append_right _ (List.mem_cons_of_mem _ (List.mem_append_right _
        List.mem_cons_self))
    obtain ⟨_, _, _, hgates⟩ := hissued u hu huses
    obtain ⟨inputs₁, first, _, _, _, rfl, hrest⟩ := transitions_split hts
    obtain ⟨inputs₂, second, _, _, rfl, rfl, _⟩ := transitions_split hrest.symm
    have hconsistent := consistent_run c inputs₁
    have hawaiting := (hconsistent.next c first).awaiting_run
      (hconsistent.recovers_awaiting hrecovers) c inputs₂ hbetween
    exact absurd (hgates.awaiting.symm.trans hawaiting) Bool.false_ne_true
  · intro u hu haction
    obtain ⟨timeValid, mqttConnected, hcall, hgates⟩ := hissued u hu (by rw [haction]; rfl)
    obtain rfl := hgates.configureTime haction
    exact ⟨true, mqttConnected, hcall⟩

end DevMqttSmokeState
end InterBridge
