import InterBridge.Foundations.Transitions
import InterBridge.MainLoop.UpdateNetwork

namespace InterBridge
open Foundations
set_option autoImplicit true

abbrev NetworkTransition (κ δ ω : Type) := Transition (MainLoop κ δ ω) NetworkInput NetworkTrace

/-- `c` was the last call whose `connect` failed, and it drew the delay `d`. -/
def LastRefusal (earlier : List (NetworkTransition κ δ ω)) (c : NetworkTransition κ δ ω)
    (d : UInt32) : Prop :=
  ∃ before mid, earlier = before ++ c :: mid ∧ c.output.delayMs = some d ∧
    ∀ v ∈ mid, v.output.delayMs = none

/-- The time until which a refused call asks to wait, on the unbounded clock. -/
def NetworkTransition.deadline (c : NetworkTransition κ δ ω) (d : UInt32) : Nat :=
  c.input.atMs + d.toNat

namespace MainLoop

/-- No call connects before the delay of an earlier refusal is over. -/
def NeverEarly (ts : List (NetworkTransition κ δ ω)) : Prop :=
  ∀ before c mid u after d, ts = before ++ c :: (mid ++ u :: after) →
    c.output.delayMs = some d → u.output.connect.isSome = true →
    NetworkTransition.deadline c d ≤ u.input.atMs

theorem lastRefusal_concat {ts : List (NetworkTransition κ δ ω)}
    (h : LastRefusal (ts ++ [t]) c d) :
    (c = t ∧ t.output.delayMs = some d) ∨ (t.output.delayMs = none ∧ LastRefusal ts c d) := by
  obtain ⟨before, mid, hts, hc, hmid⟩ := h
  rcases concat_eq_append_cons hts with ⟨_, rfl, _⟩ | ⟨mid', rfl, rfl⟩
  · exact .inl ⟨rfl, hc⟩
  · rw [List.forall_mem_append] at hmid
    exact .inr ⟨hmid.2 t (List.mem_singleton_self t), before, mid', rfl, hc, hmid.1⟩

section Gate
variable [IMqttClient κ] [IEventOutbox ω] [ArduinoJson] [IDedupCache δ]

/-- A call that could connect, and comes after the last delay is over, does so. -/
def NeverStuck (ts : List (NetworkTransition κ δ ω)) : Prop :=
  ∀ earlier u after c d, ts = earlier ++ u :: after → LastRefusal earlier c d →
    u.before.ReachesGate u.input → NetworkTransition.deadline c d ≤ u.input.atMs →
    u.output.connect.isSome = true

/-- At every call that could connect, the low 32 bits of the time and of the last deadline are in
the order of the time and the deadline. -/
def LowBitsOrdered (ts : List (NetworkTransition κ δ ω)) : Prop :=
  ∀ earlier u after c d, ts = earlier ++ u :: after → LastRefusal earlier c d →
    u.before.ReachesGate u.input →
    (u.input.atMs % 2 ^ 32 < NetworkTransition.deadline c d % 2 ^ 32 ↔
      u.input.atMs < NetworkTransition.deadline c d)

/-- The stored deadline is the low part of the last refusal's. -/
def KeepsDeadline (ts : List (NetworkTransition κ δ ω)) (m : MainLoop κ δ ω) : Prop :=
  ∀ c d, LastRefusal ts c d → m.nextConnectAttemptAtMs = ms32 (NetworkTransition.deadline c d)

/-- Only a refused connection draws a delay, and the deadline changes with it. -/
theorem updateNetwork_delay (m : MainLoop κ δ ω) (input : NetworkInput) :
    ((m.updateNetwork input).2.delayMs = none ∧
        (m.updateNetwork input).1.nextConnectAttemptAtMs = m.nextConnectAttemptAtMs) ∨
      ∃ d, (m.updateNetwork input).2.delayMs = some d ∧
        (m.updateNetwork input).2.connect = some false ∧
        (m.updateNetwork input).1.nextConnectAttemptAtMs = ms32 input.atMs + d := by
  by_cases hgate : m.ReachesGate input
  · rw [updateNetwork_at_gate hgate]
    split
    · exact .inl ⟨rfl, m.atGate_next input⟩
    · cases hconnect : (m.atGate input).connect.ok with
      | true =>
        rw [attemptConnect_accepted hconnect]
        have hserved := (m.atGate input).sessionOpened.serveSession_next input
        exact .inl ⟨rfl, hserved.trans (m.atGate_next input)⟩
      | false =>
        obtain ⟨htrace, hnext, _⟩ := attemptConnect_refused hconnect input
        rw [htrace, hnext]
        exact .inr ⟨_, rfl, rfl, rfl⟩
  · obtain ⟨_, hdelay, hnext⟩ := updateNetwork_elsewhere hgate
    exact .inl ⟨hdelay, hnext⟩

theorem KeepsDeadline.next {ts : List (NetworkTransition κ δ ω)} (h : KeepsDeadline ts m)
    (input : NetworkInput) :
    KeepsDeadline (ts ++ [.of updateNetwork m input]) (m.updateNetwork input).1 := by
  intro c d hlast
  rcases m.updateNetwork_delay input with ⟨hnone, hnext⟩ | ⟨d', hdelay, _, hnext⟩
  · rcases lastRefusal_concat hlast with ⟨_, hd⟩ | ⟨_, hlast⟩
    · exact absurd (hnone.symm.trans hd) (Option.some_ne_none d).symm
    · exact hnext.trans (h c d hlast)
  · rcases lastRefusal_concat hlast with ⟨rfl, hd⟩ | ⟨hnone, _⟩
    · have hsame := Option.some.inj (hdelay.symm.trans hd)
      subst hsame
      exact hnext.trans (ms32_add input.atMs d')
    · exact absurd (hnone.symm.trans hdelay) (Option.some_ne_none d').symm

theorem keepsDeadline_run (m : MainLoop κ δ ω) (inputs : List NetworkInput) :
    KeepsDeadline (transitions updateNetwork m inputs) (finalState updateNetwork m inputs) := by
  apply run_induction (motive := KeepsDeadline)
  · intro c d h
    obtain ⟨before, mid, hnil, _⟩ := h
    exact absurd hnil (List.append_ne_nil_of_right_ne_nil before (List.cons_ne_nil c mid)).symm
  · exact fun ts m input h => h.next input

theorem connects_iff {m : MainLoop κ δ ω} (h : m.ReachesGate input) :
    (m.updateNetwork input).2.connect.isSome = true ↔
      ¬ ms32 input.atMs < m.nextConnectAttemptAtMs := by
  rw [updateNetwork_at_gate h]
  split
  next hlt => exact iff_of_false Bool.false_ne_true (fun hle => hle hlt)
  next hle =>
    refine iff_of_true ?_ hle
    cases hconnect : (m.atGate input).connect.ok with
    | true =>
      rw [attemptConnect_accepted hconnect]
      rfl
    | false =>
      rw [(attemptConnect_refused hconnect input).1]
      rfl

theorem reachesGate_of_connects {m : MainLoop κ δ ω}
    (h : (m.updateNetwork input).2.connect.isSome = true) : m.ReachesGate input := by
  by_contra hgate
  rw [(updateNetwork_elsewhere hgate).1] at h
  exact Bool.false_ne_true h

/-- In a run, a call behind the gate connects exactly when the low bits of its time have reached
those of the last deadline. -/
theorem run_connects_iff {m : MainLoop κ δ ω} {inputs : List NetworkInput}
    (hts : transitions updateNetwork m inputs = earlier ++ u :: after)
    (hlast : LastRefusal earlier c d) (hgate : u.before.ReachesGate u.input) :
    u.output.connect.isSome = true ↔
      ¬ u.input.atMs % 2 ^ 32 < NetworkTransition.deadline c d % 2 ^ 32 := by
  obtain ⟨inputs₁, input, _, _, rfl, rfl, _⟩ := transitions_split hts
  have hnext := keepsDeadline_run m inputs₁ c d hlast
  rw [← ms32_lt_iff, ← hnext]
  exact connects_iff hgate

theorem LowBitsOrdered.waits {m : MainLoop κ δ ω} {inputs : List NetworkInput}
    (h : LowBitsOrdered (transitions updateNetwork m inputs))
    (hts : transitions updateNetwork m inputs = earlier ++ u :: after)
    (hlast : LastRefusal earlier c d) (hu : u.output.connect.isSome = true) :
    NetworkTransition.deadline c d ≤ u.input.atMs := by
  have hgate : u.before.ReachesGate u.input := by
    obtain ⟨_, _, _, _, _, rfl, _⟩ := transitions_split hts
    exact reachesGate_of_connects hu
  have hle := (run_connects_iff hts hlast hgate).mp hu
  rw [h earlier u after c d hts hlast hgate] at hle
  exact Nat.le_of_not_lt hle

/-- The last refusal's delay began after every earlier one's was over. -/
theorem LowBitsOrdered.neverEarly {m : MainLoop κ δ ω} {inputs : List NetworkInput}
    (h : LowBitsOrdered (transitions updateNetwork m inputs)) :
    NeverEarly (transitions updateNetwork m inputs) := by
  intro before c mid
  induction hn : mid.length using Nat.strong_induction_on generalizing mid with
  | _ n ih =>
    intro u after d hts hc hu
    have hwhole : transitions updateNetwork m inputs = (before ++ c :: mid) ++ u :: after := by
      rw [hts, List.append_assoc, List.cons_append]
    by_cases hmid : ∃ v ∈ mid, v.output.delayMs ≠ none
    · obtain ⟨mid₁, v, mid₂, rfl, hv, hmid₂⟩ := exists_last hmid
      obtain ⟨d', hd'⟩ := Option.ne_none_iff_exists'.mp hv
      have hsplit : transitions updateNetwork m inputs =
          before ++ c :: (mid₁ ++ v :: (mid₂ ++ u :: after)) := by
        rw [hts, List.append_assoc, List.cons_append]
      have hconnect : v.output.connect.isSome = true := by
        rw [← List.cons_append, ← List.append_assoc] at hsplit
        obtain ⟨inputs₁, input, _, _, _, rfl, _⟩ := transitions_split hsplit
        rcases (finalState updateNetwork m inputs₁).updateNetwork_delay input with
          ⟨hnone, _⟩ | ⟨_, _, hfalse, _⟩
        · exact absurd hnone hv
        · exact Option.isSome_of_eq_some hfalse
      have hshorter : mid₁.length < n := by
        rw [← hn, List.length_append, List.length_cons]
        omega
      have hfirst := ih _ hshorter mid₁ rfl v _ d hsplit hc hconnect
      have hlast : LastRefusal (before ++ c :: (mid₁ ++ v :: mid₂)) v d' := by
        refine ⟨before ++ c :: mid₁, mid₂, ?_, hd', fun w hw => not_not.mp (hmid₂ w hw)⟩
        rw [List.append_assoc, List.cons_append]
      have hsecond := h.waits hwhole hlast hu
      exact hfirst.trans ((Nat.le_add_right _ _).trans hsecond)
    · refine h.waits hwhole ⟨before, mid, rfl, hc, ?_⟩ hu
      intro w hw
      by_contra hne
      exact hmid ⟨w, hw, hne⟩

/-- Over every run, no connection comes early and none is withheld too long exactly when at every
call behind the gate the low bits of the time and of the last deadline are ordered as these are. -/
theorem gate_exact_iff_lowBitsOrdered (m : MainLoop κ δ ω) (inputs : List NetworkInput) :
    NeverEarly (transitions updateNetwork m inputs) ∧
        NeverStuck (transitions updateNetwork m inputs) ↔
      LowBitsOrdered (transitions updateNetwork m inputs) := by
  constructor
  · intro h earlier u after c d hts hlast hgate
    have hconnects := run_connects_iff hts hlast hgate
    constructor
    · intro hlow
      by_contra hge
      exact hconnects.mp (h.2 earlier u after c d hts hlast hgate (Nat.le_of_not_lt hge)) hlow
    · intro hlt
      by_contra hlow
      obtain ⟨before, mid, rfl, hc, _⟩ := hlast
      rw [List.append_assoc, List.cons_append] at hts
      have hle := h.1 before c mid u after d hts hc (hconnects.mpr hlow)
      exact Nat.not_le_of_lt hlt hle
  · intro h
    refine ⟨h.neverEarly, ?_⟩
    intro earlier u after c d hts hlast hgate hle
    rw [run_connects_iff hts hlast hgate, h earlier u after c d hts hlast hgate]
    exact Nat.not_lt_of_le hle

end Gate

/-- The clock is read at least once every `2 ^ 31` milliseconds. -/
def ReadOften (inputs : List NetworkInput) : Prop :=
  inputs.IsChain fun a b => a.atMs ≤ b.atMs ∧ b.atMs ≤ a.atMs + 2 ^ 31

instance (inputs : List NetworkInput) : Decidable (ReadOften inputs) :=
  inferInstanceAs (Decidable (inputs.IsChain _))

/-- A client that refuses everything. -/
structure RefusingClient where
  deriving DecidableEq

instance : IMqttClient RefusingClient := ⟨fun client _ => .pure client false⟩

/-- The globals after `setup`, with the connection settings still empty. -/
def unconfiguredLoop : MainLoop RefusingClient InMemoryDedupCache MemoryEventOutbox where
  wifiManager := { started := true }
  credentialStore := PersistentStore.empty
  provisioned := false
  remoteCommandProcessor := {
    deviceId := ascii "ib-1"
    transport := { config := ⟨[], [], [], 8883, 30, 1500⟩, client := {} }
    handler := ⟨ascii "ib-1", .new kDefaultDedupCacheCapacity⟩
    topics := ⟨ascii "ib-1", [], [], ascii "interbridge"⟩ }
  eventOutbox := {}

/-- A call with Wi-Fi up, where the random source answers `raw`. -/
def callAt (atMs : Nat) (raw : RandomBytes) : NetworkInput where
  wifiConnected := true
  atMs := atMs
  healthAtMs := atMs
  uptimeAtMs := atMs
  random := raw
  clock := ⟨fun _ => false, fun _ => 0⟩

def unconfiguredRun (inputs : List NetworkInput) :
    List (NetworkTransition RefusingClient InMemoryDedupCache MemoryEventOutbox) :=
  letI := compactJson
  transitions updateNetwork unconfiguredLoop inputs

/-- Calls up to `lastMs`, a connection refused there with a delay of one second, and a call at
`nextMs`. -/
def refusedAt (lastMs nextMs : Nat) : List NetworkInput :=
  [callAt 0 ⟨0, 0, 0, 0⟩, callAt (2 ^ 31) ⟨0, 0, 0, 0⟩, callAt lastMs ⟨0, 0, 3, 232⟩,
    callAt nextMs ⟨0, 0, 0, 0⟩]

/-- Just before the counter rolls over, a refusal is followed by a connection one millisecond
later, and, a little earlier, by none two seconds later. -/
theorem unconfiguredRun_gate_inexact :
    ReadOften (refusedAt (2 ^ 32 - 100) (2 ^ 32 - 99)) ∧
      ¬ NeverEarly (unconfiguredRun (refusedAt (2 ^ 32 - 100) (2 ^ 32 - 99))) ∧
      ReadOften (refusedAt (2 ^ 32 - 1995) (2 ^ 32 + 5)) ∧
      ¬ NeverStuck (unconfiguredRun (refusedAt (2 ^ 32 - 1995) (2 ^ 32 + 5))) := by
  refine ⟨by decide, fun h => ?_, by decide, fun h => ?_⟩
  · have hle := h [_, _] _ [] _ [] 1000 rfl (by decide) (by decide)
    exact absurd hle (by decide)
  · have hconnects := h [_, _, _] _ [] _ 1000 rfl
      ⟨[_, _], [], rfl, by decide, List.forall_mem_nil _⟩ ⟨by decide, by decide⟩ (by decide)
    exact absurd hconnects (by decide)

end MainLoop
end InterBridge
