import InterBridge.Foundations.History
import InterBridge.Intercom.PcmClock

namespace InterBridge
open Foundations
set_option autoImplicit true

namespace I2sCall

def result : I2sCall → Si3050PcmClockEspErr
  | .driverInstall _ result => result
  | .setPin result => result
  | .zeroDmaBuffer result => result
  | .driverUninstall result => result

def IsInstall : I2sCall → Prop
  | .driverInstall _ _ => True
  | _ => False

def isUninstall : I2sCall → Bool
  | .driverUninstall _ => true
  | _ => false

/-- A step of the bring-up after the install. -/
def IsSetup : I2sCall → Prop
  | .setPin _ => True
  | .zeroDmaBuffer _ => True
  | _ => False

end I2sCall

/-- A driver is held: some install succeeded, and no uninstall has since. -/
def Held (calls : List I2sCall) : Prop :=
  Since (fun call => ¬ (call.isUninstall = true ∧ call.result = kSi3050PcmClockEspOk))
    (fun call => call.IsInstall ∧ call.result = kSi3050PcmClockEspOk) calls

theorem held_driverInstall {calls : List I2sCall} {config : I2sConfig} :
    Held (calls ++ [.driverInstall config r]) ↔ r = kSi3050PcmClockEspOk ∨ Held calls := by
  rw [Held, since_concat]
  simp only [I2sCall.IsInstall, I2sCall.isUninstall, I2sCall.result, true_and, Bool.false_eq_true,
    false_and, not_false_eq_true, Held]

theorem held_setPin {calls : List I2sCall} : Held (calls ++ [.setPin r]) ↔ Held calls := by
  rw [Held, since_concat]
  simp only [I2sCall.IsInstall, I2sCall.isUninstall, Bool.false_eq_true, false_and,
    not_false_eq_true, true_and, false_or, Held]

theorem held_zeroDmaBuffer {calls : List I2sCall} :
    Held (calls ++ [.zeroDmaBuffer r]) ↔ Held calls := by
  rw [Held, since_concat]
  simp only [I2sCall.IsInstall, I2sCall.isUninstall, Bool.false_eq_true, false_and,
    not_false_eq_true, true_and, false_or, Held]

theorem held_driverUninstall {calls : List I2sCall} :
    Held (calls ++ [.driverUninstall r]) ↔ r ≠ kSi3050PcmClockEspOk ∧ Held calls := by
  rw [Held, since_concat]
  simp only [I2sCall.IsInstall, I2sCall.isUninstall, I2sCall.result, true_and, false_and, false_or,
    ne_eq, Held]

/-- The clock as its users see it: at rest, running, or with a driver it could not uninstall. -/
inductive PcmClockPhase where
  | idle
  | running
  | stuck (result : Si3050PcmClockEspErr)

namespace PcmClockPhase

def bringup : PcmClockPhase → Si3050PcmClockBringup
  | .idle => {}
  | .running => { running := true, driverInstalled := true }
  | .stuck result => {
      driverInstalled := true
      teardownFailed := true
      hasFailed := true
      failedStepName := some (ascii "i2s_driver_uninstall")
      failedStepResult := result }

/-- After an uninstall. -/
def uninstalled (result : Si3050PcmClockEspErr) : PcmClockPhase :=
  if result = kSi3050PcmClockEspOk then .idle else .stuck result

end PcmClockPhase

/-- The calls of a full attempt: it goes on while the steps succeed, and a step that fails after the
install is followed by one uninstall. -/
def fullAttempt (fsyncHz : UInt32) (i2s : I2sResults) : List I2sCall :=
  .driverInstall (tdmConfig fsyncHz) i2s.install ::
    if i2s.install ≠ kSi3050PcmClockEspOk then []
    else .setPin i2s.setPin ::
      if i2s.setPin ≠ kSi3050PcmClockEspOk then [.driverUninstall i2s.uninstall]
      else .zeroDmaBuffer i2s.zeroDmaBuffer ::
        if i2s.zeroDmaBuffer ≠ kSi3050PcmClockEspOk then [.driverUninstall i2s.uninstall] else []

/-- Where a full attempt leads. -/
def PcmClockPhase.attempted (i2s : I2sResults) : PcmClockPhase :=
  if i2s.install ≠ kSi3050PcmClockEspOk then .idle
  else if i2s.setPin = kSi3050PcmClockEspOk ∧ i2s.zeroDmaBuffer = kSi3050PcmClockEspOk then .running
  else .uninstalled i2s.uninstall

/-- The calls that are made while no driver is held. -/
def freshCalls : PcmClockCall → List I2sCall
  | .start pclkHz fsyncHz i2s =>
    if si3050PcmConfigurationSupported pclkHz fsyncHz then fullAttempt fsyncHz i2s else []
  | .stop _ => []

namespace PcmClockPhase

/-- The clock as a machine of its phases. -/
def next : PcmClockPhase → PcmClockCall → PcmClockPhase × List I2sCall
  | .idle, .start pclkHz fsyncHz i2s =>
    (if si3050PcmConfigurationSupported pclkHz fsyncHz then attempted i2s else .idle,
      freshCalls (.start pclkHz fsyncHz i2s))
  | .idle, .stop _ => (.idle, [])
  | .running, .start .. => (.running, [])
  | .stuck result, .start .. => (.stuck result, [])
  | .running, .stop i2s => (uninstalled i2s.uninstall, [.driverUninstall i2s.uninstall])
  | .stuck _, .stop i2s => (uninstalled i2s.uninstall, [.driverUninstall i2s.uninstall])

theorem recordUninstall_bringup (b : Si3050PcmClockBringup) (h : b.driverInstalled = true)
    (result : Si3050PcmClockEspErr) :
    b.recordUninstall result (result == kSi3050PcmClockEspOk) = (uninstalled result).bringup := by
  rw [Si3050PcmClockBringup.recordUninstall, uninstalled]
  by_cases hok : result = kSi3050PcmClockEspOk
  · rw [if_pos (beq_iff_eq.mpr hok), if_pos hok]
    rfl
  · rw [if_neg (mt beq_iff_eq.mp hok), if_neg hok, h]
    rfl

/-- The bring-up after a failed step, the driver being installed. -/
def setupFailed (stepName : Bytes) (result : Si3050PcmClockEspErr) : Si3050PcmClockBringup where
  driverInstalled := true
  hasFailed := true
  failedStepName := some stepName
  failedStepResult := result

theorem start_idle (pclkHz fsyncHz : UInt32) (i2s : I2sResults)
    (h : si3050PcmConfigurationSupported pclkHz fsyncHz = true) :
    Esp32PcmClock.start ⟨bringup .idle⟩ pclkHz fsyncHz i2s =
      (⟨(attempted i2s).bringup⟩, fullAttempt fsyncHz i2s) := by
  obtain ⟨install, setPin, zeroDmaBuffer, uninstall⟩ := i2s
  rw [Esp32PcmClock.start, h, attempted, fullAttempt]
  dsimp only
  by_cases hi : install = kSi3050PcmClockEspOk
  · subst hi
    by_cases hp : setPin = kSi3050PcmClockEspOk
    · subst hp
      by_cases hz : zeroDmaBuffer = kSi3050PcmClockEspOk
      · subst hz
        rfl
      · have hbringup := recordUninstall_bringup
          (setupFailed (ascii "i2s_zero_dma_buffer") zeroDmaBuffer) rfl uninstall
        rw [beq_eq_false_iff_ne.mpr hz]
        simp only [hz, ne_eq, not_true_eq_false, not_false_eq_true, ↓reduceIte, and_false]
        rw [← hbringup]
        rfl
    · have hbringup := recordUninstall_bringup (setupFailed (ascii "i2s_set_pin") setPin) rfl
        uninstall
      rw [beq_eq_false_iff_ne.mpr hp]
      simp only [hp, ne_eq, not_true_eq_false, not_false_eq_true, ↓reduceIte, false_and]
      rw [← hbringup]
      rfl
  · rw [beq_eq_false_iff_ne.mpr hi, if_pos hi, if_pos hi]
    rfl

/-- The code's clock is this machine. -/
theorem pcmClockStep_phase (p : PcmClockPhase) (call : PcmClockCall) :
    pcmClockStep ⟨p.bringup⟩ call = (⟨(p.next call).1.bringup⟩, (p.next call).2) := by
  cases call with
  | start pclkHz fsyncHz i2s =>
    cases p with
    | idle =>
      rw [pcmClockStep, next, freshCalls]
      by_cases h : si3050PcmConfigurationSupported pclkHz fsyncHz = true
      · rw [start_idle _ _ _ h, if_pos h, if_pos h]
      · rw [Bool.not_eq_true] at h
        rw [Esp32PcmClock.start, h]
        rfl
    | running => rfl
    | stuck result => rfl
  | stop i2s =>
    cases p with
    | idle => rfl
    | running =>
      rw [pcmClockStep, Esp32PcmClock.stop, recordUninstall_bringup _ rfl]
      rfl
    | stuck result =>
      rw [pcmClockStep, Esp32PcmClock.stop, recordUninstall_bringup _ rfl]
      rfl

theorem uninstalled_eq_idle : uninstalled r = .idle ↔ r = kSi3050PcmClockEspOk := by
  rw [uninstalled]
  split
  · next h => exact iff_of_true rfl h
  · next h => exact iff_of_false nofun h

theorem uninstalled_ne_running : uninstalled r ≠ .running := by
  rw [uninstalled]
  split <;> nofun

/-- The four ways an attempt can go. -/
inductive Attempt (fsyncHz : UInt32) (i2s : I2sResults) : List I2sCall → PcmClockPhase → Prop
  | notInstalled (install : i2s.install ≠ kSi3050PcmClockEspOk) :
    Attempt fsyncHz i2s [.driverInstall (tdmConfig fsyncHz) i2s.install] .idle
  | noPins (setPin : i2s.setPin ≠ kSi3050PcmClockEspOk) :
    Attempt fsyncHz i2s
      [.driverInstall (tdmConfig fsyncHz) kSi3050PcmClockEspOk, .setPin i2s.setPin,
        .driverUninstall i2s.uninstall]
      (uninstalled i2s.uninstall)
  | notZeroed (zeroDmaBuffer : i2s.zeroDmaBuffer ≠ kSi3050PcmClockEspOk) :
    Attempt fsyncHz i2s
      [.driverInstall (tdmConfig fsyncHz) kSi3050PcmClockEspOk, .setPin kSi3050PcmClockEspOk,
        .zeroDmaBuffer i2s.zeroDmaBuffer, .driverUninstall i2s.uninstall]
      (uninstalled i2s.uninstall)
  | started :
    Attempt fsyncHz i2s
      [.driverInstall (tdmConfig fsyncHz) kSi3050PcmClockEspOk, .setPin kSi3050PcmClockEspOk,
        .zeroDmaBuffer kSi3050PcmClockEspOk]
      .running

theorem attempt_fullAttempt (fsyncHz : UInt32) (i2s : I2sResults) :
    Attempt fsyncHz i2s (fullAttempt fsyncHz i2s) (attempted i2s) := by
  rw [fullAttempt, attempted]
  by_cases hi : i2s.install = kSi3050PcmClockEspOk
  · rw [if_neg (not_not.mpr hi), if_neg (not_not.mpr hi), hi]
    by_cases hp : i2s.setPin = kSi3050PcmClockEspOk
    · rw [if_neg (not_not.mpr hp), hp]
      by_cases hz : i2s.zeroDmaBuffer = kSi3050PcmClockEspOk
      · rw [if_neg (not_not.mpr hz), if_pos ⟨rfl, hz⟩, hz]
        exact .started
      · rw [if_pos hz, if_neg fun h => hz h.2]
        exact .notZeroed hz
    · rw [if_pos hp, if_neg fun h => hp h.1]
      exact .noPins hp
  · rw [if_pos hi, if_pos hi]
    exact .notInstalled hi

theorem Attempt.held (h : Attempt fsyncHz i2s attempt p) {calls : List I2sCall}
    (hcalls : ¬ Held calls) : Held (calls ++ attempt) ↔ p ≠ .idle := by
  have hheld : Held (calls ++ [.driverInstall (tdmConfig fsyncHz) kSi3050PcmClockEspOk]) :=
    held_driverInstall.mpr (.inl rfl)
  cases h with
  | notInstalled hi =>
    rw [held_driverInstall]
    exact iff_of_false (fun hheld => hheld.elim hi hcalls) fun hne => hne rfl
  | noPins hp =>
    rw [List.append_cons, List.append_cons, held_driverUninstall, held_setPin, ne_eq, ne_eq,
      uninstalled_eq_idle]
    exact and_iff_left hheld
  | notZeroed hz =>
    rw [List.append_cons, List.append_cons, List.append_cons, held_driverUninstall,
      held_zeroDmaBuffer, held_setPin, ne_eq, ne_eq, uninstalled_eq_idle]
    exact and_iff_left hheld
  | started =>
    rw [List.append_cons, List.append_cons, held_zeroDmaBuffer, held_setPin]
    exact iff_of_true hheld nofun

theorem Attempt.install_first (h : Attempt fsyncHz i2s attempt p)
    (hattempt : attempt = earlier ++ call :: later) (hcall : call.IsInstall) : earlier = [] := by
  cases earlier with
  | nil => rfl
  | cons first earlier =>
    have hmem : call ∈ attempt.tail := by
      rw [hattempt, List.cons_append, List.tail_cons]
      exact List.mem_append_right _ List.mem_cons_self
    cases h <;> simp only [List.tail_cons, List.mem_cons, List.not_mem_nil, or_false] at hmem
    · rcases hmem with rfl | rfl <;> exact absurd hcall id
    · rcases hmem with rfl | rfl | rfl <;> exact absurd hcall id
    · rcases hmem with rfl | rfl <;> exact absurd hcall id

theorem Attempt.uninstall_last (h : Attempt fsyncHz i2s attempt p)
    (hattempt : attempt = earlier ++ .driverUninstall r :: later) : later = [] := by
  rcases later.eq_nil_or_concat with rfl | ⟨later, last, rfl⟩
  · rfl
  · have hmem : I2sCall.driverUninstall r ∈ attempt.dropLast := by
      rw [hattempt, List.concat_eq_append, ← List.cons_append, ← List.append_assoc,
        List.dropLast_concat]
      exact List.mem_append_right _ List.mem_cons_self
    cases h <;> simp [List.dropLast] at hmem

theorem Attempt.rollback (h : Attempt fsyncHz i2s attempt p) (hcall : call ∈ attempt)
    (hsetup : call.IsSetup) (hfailed : call.result ≠ kSi3050PcmClockEspOk) :
    attempt.countP I2sCall.isUninstall = 1 := by
  cases h with
  | notInstalled hi =>
    rw [List.mem_singleton] at hcall
    subst hcall
    exact absurd hsetup id
  | noPins hp => rfl
  | notZeroed hz => rfl
  | started =>
    simp only [List.mem_cons, List.not_mem_nil, or_false] at hcall
    rcases hcall with rfl | rfl | rfl
    · exact absurd hsetup id
    · exact absurd rfl hfailed
    · exact absurd rfl hfailed

theorem Attempt.calls_of_running (h : Attempt fsyncHz i2s attempt p) (hp : p = .running) :
    attempt = [.driverInstall (tdmConfig fsyncHz) kSi3050PcmClockEspOk,
      .setPin kSi3050PcmClockEspOk, .zeroDmaBuffer kSi3050PcmClockEspOk] := by
  cases h with
  | notInstalled => cases hp
  | noPins => exact absurd hp uninstalled_ne_running
  | notZeroed => exact absurd hp uninstalled_ne_running
  | started => rfl

theorem Attempt.after_uninstall (h : Attempt fsyncHz i2s attempt p)
    (hcall : .driverUninstall r ∈ attempt) : p = uninstalled r := by
  cases h with
  | notInstalled => simp at hcall
  | noPins hp =>
    simp only [List.mem_cons, reduceCtorEq, List.not_mem_nil, or_false, false_or,
      I2sCall.driverUninstall.injEq] at hcall
    rw [hcall]
  | notZeroed hz =>
    simp only [List.mem_cons, reduceCtorEq, List.not_mem_nil, or_false, false_or,
      I2sCall.driverUninstall.injEq] at hcall
    rw [hcall]
  | started => simp at hcall

theorem next_idle (call : PcmClockCall) : (PcmClockPhase.idle.next call).2 = freshCalls call := by
  cases call <;> rfl

/-- What a call makes of the driver: nothing, one uninstall, or a full attempt from rest. -/
theorem next_cases (p : PcmClockPhase) (call : PcmClockCall) :
    ((p.next call).2 = [] ∧ (p.next call).1 = p) ∨
      (p ≠ .idle ∧ ∃ i2s, call = .stop i2s ∧
        (p.next call).2 = [.driverUninstall i2s.uninstall] ∧
        (p.next call).1 = uninstalled i2s.uninstall) ∨
      (p = .idle ∧ ∃ fsyncHz i2s, Attempt fsyncHz i2s (p.next call).2 (p.next call).1) := by
  cases p with
  | idle =>
    cases call with
    | start pclkHz fsyncHz i2s =>
      rw [next, freshCalls]
      split
      · exact .inr (.inr ⟨rfl, fsyncHz, i2s, attempt_fullAttempt fsyncHz i2s⟩)
      · exact .inl ⟨rfl, rfl⟩
    | stop i2s => exact .inl ⟨rfl, rfl⟩
  | running =>
    cases call with
    | start pclkHz fsyncHz i2s => exact .inl ⟨rfl, rfl⟩
    | stop i2s => exact .inr (.inl ⟨nofun, i2s, rfl, rfl, rfl⟩)
  | stuck result =>
    cases call with
    | start pclkHz fsyncHz i2s => exact .inl ⟨rfl, rfl⟩
    | stop i2s => exact .inr (.inl ⟨nofun, i2s, rfl, rfl, rfl⟩)

theorem held_next {calls : List I2sCall} {p : PcmClockPhase} (h : Held calls ↔ p ≠ .idle)
    (call : PcmClockCall) : Held (calls ++ (p.next call).2) ↔ (p.next call).1 ≠ .idle := by
  rcases p.next_cases call with ⟨hcalls, hp⟩ | ⟨hp, i2s, _, hcalls, hnext⟩ |
    ⟨hp, fsyncHz, i2s, hattempt⟩
  · rw [hcalls, List.append_nil, hp]
    exact h
  · rw [hcalls, hnext, held_driverUninstall, ne_eq, ne_eq, uninstalled_eq_idle]
    exact and_iff_left (h.mpr hp)
  · exact hattempt.held fun hheld => h.mp hheld hp

end PcmClockPhase

abbrev PcmClockTransition := Transition Esp32PcmClock PcmClockCall (List I2sCall)

def pcmClockRun (calls : List PcmClockCall) : List PcmClockTransition :=
  transitions pcmClockStep {} calls

/-- The calls made on the I2S driver, over a whole run. -/
def hardwareCalls (ts : List PcmClockTransition) : List I2sCall := ts.flatMap Transition.output

/-- Every step of this start succeeded. -/
def StartSucceeds (u : PcmClockTransition) : Prop :=
  ∃ fsyncHz, u.output = [.driverInstall (tdmConfig fsyncHz) kSi3050PcmClockEspOk,
    .setPin kSi3050PcmClockEspOk, .zeroDmaBuffer kSi3050PcmClockEspOk]

/-- Installing is exclusive: whenever an install is called, no driver is held. -/
def InstallsExclusive (calls : List I2sCall) : Prop :=
  ∀ earlier call later, calls = earlier ++ call :: later → call.IsInstall → ¬ Held earlier

/-- What a run has led to: the clock is in a phase that its calls on the driver tell. -/
structure InPhase (ts : List PcmClockTransition) (c : Esp32PcmClock) (p : PcmClockPhase) :
    Prop where
  bringup : c = ⟨p.bringup⟩
  held : Held (hardwareCalls ts) ↔ p ≠ .idle
  running : p = .running → Since (fun w => w.output = []) StartSucceeds ts
  exclusive : InstallsExclusive (hardwareCalls ts)

theorem hardwareCalls_concat (ts : List PcmClockTransition) (u : PcmClockTransition) :
    hardwareCalls (ts ++ [u]) = hardwareCalls ts ++ u.output := by
  rw [hardwareCalls, List.flatMap_append, List.flatMap_singleton]
  rfl

theorem InstallsExclusive.append {calls more : List I2sCall} (h : InstallsExclusive calls)
    (hmore : ∀ earlier call later, more = earlier ++ call :: later → call.IsInstall →
      earlier = [] ∧ ¬ Held calls) : InstallsExclusive (calls ++ more) := by
  intro earlier call later hcalls hcall
  rcases append_eq_append_cons hcalls with ⟨rest, hearlier, _⟩ | ⟨earlier', rfl, hrest⟩
  · exact h _ _ _ hearlier hcall
  · obtain ⟨rfl, hfree⟩ := hmore _ _ _ hrest hcall
    rw [List.append_nil]
    exact hfree

theorem InPhase.next (h : InPhase ts c p) (call : PcmClockCall) :
    InPhase (ts ++ [.of pcmClockStep c call]) (pcmClockStep c call).1 (p.next call).1 := by
  have hstep := p.pcmClockStep_phase call
  rw [← h.bringup] at hstep
  have houtput : (Transition.of pcmClockStep c call).output = (p.next call).2 :=
    congrArg Prod.snd hstep
  constructor
  · exact congrArg Prod.fst hstep
  · rw [hardwareCalls_concat, houtput]
    exact p.held_next h.held call
  · intro hrunning
    rw [since_concat, houtput]
    rcases p.next_cases call with ⟨hcalls, hp⟩ | ⟨_, i2s, _, _, hnext⟩ |
      ⟨_, fsyncHz, i2s, hattempt⟩
    · exact .inr ⟨hcalls, h.running (hp.symm.trans hrunning)⟩
    · exact absurd (hnext.symm.trans hrunning) PcmClockPhase.uninstalled_ne_running
    · refine .inl ⟨fsyncHz, houtput.trans ?_⟩
      exact hattempt.calls_of_running hrunning
  · rw [hardwareCalls_concat, houtput]
    apply h.exclusive.append
    intro earlier i2sCall later hcalls hinstall
    have hmem : i2sCall ∈ (p.next call).2 := by
      rw [hcalls]
      exact List.mem_append_right _ List.mem_cons_self
    rcases p.next_cases call with ⟨hnil, _⟩ | ⟨_, i2s, _, huninstall, _⟩ |
      ⟨hp, fsyncHz, i2s, hattempt⟩
    · rw [hnil] at hmem
      exact absurd hmem List.not_mem_nil
    · rw [huninstall, List.mem_singleton] at hmem
      subst hmem
      exact absurd hinstall id
    · exact ⟨hattempt.install_first hcalls hinstall, fun hheld => h.held.mp hheld hp⟩

theorem inPhase_run (calls : List PcmClockCall) :
    ∃ p, InPhase (pcmClockRun calls) (finalState pcmClockStep {} calls) p := by
  apply run_induction (motive := fun ts c => ∃ p, InPhase ts c p)
  · refine ⟨.idle, rfl, iff_of_false not_since_nil fun h => h rfl, nofun, ?_⟩
    intro earlier call later h
    exact absurd h.symm (List.append_ne_nil_of_right_ne_nil _ (List.cons_ne_nil call later))
  · intro ts c call ⟨p, h⟩
    exact ⟨_, h.next call⟩

/-- What holds of the I2S driver in a run that has led to `c`. -/
structure OwnsDriver (ts : List PcmClockTransition) (c : Esp32PcmClock) : Prop where
  exclusive : InstallsExclusive (hardwareCalls ts)
  running : c.isRunning = true →
    Held (hardwareCalls ts) ∧ Since (fun w => w.output = []) StartSucceeds ts
  rollback : ∀ u ∈ ts, ∀ call ∈ u.output, call.IsSetup → call.result ≠ kSi3050PcmClockEspOk →
    u.output.countP I2sCall.isUninstall = 1
  /-- An uninstall is the last call of its step. -/
  last : ∀ u ∈ ts, ∀ calls result rest,
    u.output = calls ++ .driverUninstall result :: rest → rest = []
  blocked : ∀ earlier u between w later, ts = earlier ++ u :: (between ++ w :: later) →
    (∃ result, result ≠ kSi3050PcmClockEspOk ∧ .driverUninstall result ∈ u.output) →
    (∃ call ∈ w.output, call.IsInstall) →
    ∃ v ∈ between, (∃ i2s, v.input = .stop i2s) ∧ .driverUninstall kSi3050PcmClockEspOk ∈ v.output
  /-- Where no driver is held, a supported start makes a full attempt, and nothing else does
  anything. -/
  retry : ∀ earlier u later, ts = earlier ++ u :: later → ¬ Held (hardwareCalls earlier) →
    u.output = freshCalls u.input

/-- After a failed uninstall the clock is stuck. -/
theorem PcmClockPhase.stuck_of_failed {p : PcmClockPhase} (hresult : result ≠ kSi3050PcmClockEspOk)
    (h : .driverUninstall result ∈ (p.next call).2) : (p.next call).1 = .stuck result := by
  have hnext : (p.next call).1 = uninstalled result := by
    rcases p.next_cases call with ⟨hnil, _⟩ | ⟨_, i2s, _, huninstall, hnext⟩ |
      ⟨_, fsyncHz, i2s, hattempt⟩
    · rw [hnil] at h
      exact absurd h List.not_mem_nil
    · rw [huninstall, List.mem_singleton, I2sCall.driverUninstall.injEq] at h
      rw [hnext, h]
    · exact hattempt.after_uninstall h
  rw [hnext, uninstalled, if_neg hresult]

theorem PcmClockPhase.rollback {p : PcmClockPhase} (hcall : i2sCall ∈ (p.next call).2)
    (hsetup : i2sCall.IsSetup) (hfailed : i2sCall.result ≠ kSi3050PcmClockEspOk) :
    (p.next call).2.countP I2sCall.isUninstall = 1 := by
  rcases p.next_cases call with ⟨hnil, _⟩ | ⟨_, i2s, _, huninstall, _⟩ |
    ⟨_, fsyncHz, i2s, hattempt⟩
  · rw [hnil] at hcall
    exact absurd hcall List.not_mem_nil
  · rw [huninstall]
    rfl
  · exact hattempt.rollback hcall hsetup hfailed

theorem PcmClockPhase.uninstall_last {p : PcmClockPhase}
    (hcalls : (p.next call).2 = calls ++ .driverUninstall result :: rest) : rest = [] := by
  rcases p.next_cases call with ⟨hnil, _⟩ | ⟨_, i2s, _, huninstall, _⟩ |
    ⟨_, fsyncHz, i2s, hattempt⟩
  · exact absurd (hnil.symm.trans hcalls).symm
      (List.append_ne_nil_of_right_ne_nil _ (List.cons_ne_nil _ rest))
  · rw [huninstall] at hcalls
    rcases concat_eq_append_cons ((List.nil_append _).trans hcalls) with ⟨_, _, hrest⟩ |
      ⟨_, _, hnil⟩
    · exact hrest
    · exact absurd hnil.symm (List.append_ne_nil_of_right_ne_nil _ (List.cons_ne_nil _ _))
  · exact hattempt.uninstall_last hcalls

theorem PcmClockPhase.stuck_next (r : Si3050PcmClockEspErr) (call : PcmClockCall) :
    (∃ r', ((PcmClockPhase.stuck r).next call).1 = .stuck r') ∨
      (∃ i2s, call = .stop i2s) ∧
        .driverUninstall kSi3050PcmClockEspOk ∈ ((PcmClockPhase.stuck r).next call).2 := by
  cases call with
  | start pclkHz fsyncHz i2s => exact .inl ⟨r, rfl⟩
  | stop i2s =>
    by_cases hok : i2s.uninstall = kSi3050PcmClockEspOk
    · refine .inr ⟨⟨i2s, rfl⟩, ?_⟩
      rw [next, hok]
      exact List.mem_singleton_self _
    · refine .inl ⟨i2s.uninstall, ?_⟩
      rw [next, uninstalled, if_neg hok]

theorem PcmClockPhase.idle_of_install {p : PcmClockPhase} (hcall : i2sCall ∈ (p.next call).2)
    (hinstall : i2sCall.IsInstall) : p = .idle := by
  rcases p.next_cases call with ⟨hnil, _⟩ | ⟨_, i2s, _, huninstall, _⟩ | ⟨hp, _⟩
  · rw [hnil] at hcall
    exact absurd hcall List.not_mem_nil
  · rw [huninstall, List.mem_singleton] at hcall
    subst hcall
    exact absurd hinstall id
  · exact hp

theorem stuck_until_released {c : Esp32PcmClock} (calls : List PcmClockCall)
    (hc : ∃ r, c = ⟨(PcmClockPhase.stuck r).bringup⟩) :
    (∃ v ∈ transitions pcmClockStep c calls, (∃ i2s, v.input = .stop i2s) ∧
      .driverUninstall kSi3050PcmClockEspOk ∈ v.output) ∨
    ∃ r, finalState pcmClockStep c calls = ⟨(PcmClockPhase.stuck r).bringup⟩ := by
  induction calls generalizing c with
  | nil => exact .inr hc
  | cons call calls ih =>
    obtain ⟨r, rfl⟩ := hc
    have hstep := (PcmClockPhase.stuck r).pcmClockStep_phase call
    rcases PcmClockPhase.stuck_next r call with ⟨r', hr'⟩ | ⟨hstop, hreleased⟩
    · rw [hr'] at hstep
      rcases ih ⟨r', congrArg Prod.fst hstep⟩ with ⟨v, hv, hreleased⟩ | hstuck
      · exact .inl ⟨v, List.mem_cons_of_mem _ hv, hreleased⟩
      · exact .inr hstuck
    · refine .inl ⟨_, List.mem_cons_self, hstop, ?_⟩
      rw [← congrArg Prod.snd hstep] at hreleased
      exact hreleased

theorem phase_of_mem (h : pcmClockRun calls = earlier ++ u :: later) :
    ∃ p, InPhase earlier u.before p ∧ u.output = (p.next u.input).2 ∧
      u.after = ⟨(p.next u.input).1.bringup⟩ := by
  obtain ⟨calls₁, call, _, _, rfl, rfl, _⟩ := transitions_split h
  obtain ⟨p, hp⟩ := inPhase_run calls₁
  have hstep := p.pcmClockStep_phase call
  rw [← hp.bringup] at hstep
  exact ⟨p, hp, congrArg Prod.snd hstep, congrArg Prod.fst hstep⟩

theorem InPhase.running_held {c : Esp32PcmClock} (h : InPhase ts c p)
    (hrunning : c.isRunning = true) :
    Held (hardwareCalls ts) ∧ Since (fun w => w.output = []) StartSucceeds ts := by
  have hp : p = .running := by
    rw [h.bringup] at hrunning
    cases p with
    | idle => cases hrunning
    | running => rfl
    | stuck => cases hrunning
  refine ⟨h.held.mpr ?_, h.running hp⟩
  rw [hp]
  exact PcmClockPhase.noConfusion

/-- A clock that installs again after it was stuck was released by a stop in between. -/
theorem released_before_install {c : Esp32PcmClock}
    (hc : c = ⟨(PcmClockPhase.stuck result).bringup⟩)
    (hsplit : transitions pcmClockStep c calls = between ++ w :: later)
    (hcall : i2sCall ∈ w.output) (hinstall : i2sCall.IsInstall) :
    ∃ v ∈ between, (∃ i2s, v.input = .stop i2s) ∧
      .driverUninstall kSi3050PcmClockEspOk ∈ v.output := by
  obtain ⟨calls₁, next, _, _, rfl, hw, _⟩ := transitions_split hsplit
  rcases stuck_until_released calls₁ ⟨result, hc⟩ with hreleased | ⟨r, hstuck⟩
  · exact hreleased
  · have hstep := (PcmClockPhase.stuck r).pcmClockStep_phase next
    rw [← hstuck] at hstep
    rw [hw] at hcall
    change i2sCall ∈ (pcmClockStep _ next).2 at hcall
    rw [hstep] at hcall
    cases PcmClockPhase.idle_of_install hcall hinstall

/-- The I2S driver is never installed twice, never lost, and no failure is sticky. -/
theorem ownsDriver_run (calls : List PcmClockCall) :
    OwnsDriver (pcmClockRun calls) (finalState pcmClockStep {} calls) := by
  obtain ⟨p, hphase⟩ := inPhase_run calls
  constructor
  · exact hphase.exclusive
  · exact hphase.running_held
  · intro u hu call hcall hsetup hfailed
    obtain ⟨earlier, later, hts⟩ := List.append_of_mem hu
    obtain ⟨p, _, houtput, _⟩ := phase_of_mem hts
    rw [houtput] at hcall ⊢
    exact PcmClockPhase.rollback hcall hsetup hfailed
  · intro u hu calls result rest hcalls
    obtain ⟨earlier, later, hts⟩ := List.append_of_mem hu
    obtain ⟨p, _, houtput, _⟩ := phase_of_mem hts
    rw [houtput] at hcalls
    exact PcmClockPhase.uninstall_last hcalls
  · intro earlier u between w later hts ⟨result, hresult, hmem⟩ ⟨call, hcall, hinstall⟩
    obtain ⟨p, _, houtput, hafter⟩ := phase_of_mem hts
    rw [houtput] at hmem
    rw [PcmClockPhase.stuck_of_failed hresult hmem] at hafter
    obtain ⟨_, _, _, _, _, _, hrest⟩ := transitions_split hts
    exact released_before_install hafter hrest.symm hcall hinstall
  · intro earlier u later hts hfree
    obtain ⟨p, hp, houtput, _⟩ := phase_of_mem hts
    have hidle : p = .idle := by
      by_contra hne
      exact hfree (hp.held.mpr hne)
    rw [houtput, hidle, PcmClockPhase.next_idle]

end InterBridge
