import InterBridge.Dev.DevRingPulses
import InterBridge.Hardware.ButtonActions
import InterBridge.Intercom.RingDetector

namespace InterBridge
open Foundations

def ButtonSample.ofLevel (sample : LevelSample) : ButtonSample := ⟨sample.level, sample.atMs⟩

theorem map_toLevel_ofLevel (samples : List LevelSample) :
    (samples.map ButtonSample.ofLevel).map ButtonSample.toLevel = samples := by
  rw [List.map_map]
  exact List.map_id samples

theorem isChain_rawAsserted {samples : List LevelSample} (h : samples.IsChain ShortGap) :
    (samples.map rawAsserted).IsChain ShortGap := by
  rw [List.isChain_map]
  exact h

/-- The three debouncers accept exactly the levels that stay, the ring detector's events alternate,
and the ring button's pulses keep their distance. -/
theorem debounced_levels_exact (debounceMs lockoutMs : UInt32) (hpos : 1 ≤ debounceMs)
    (hle : debounceMs.toNat ≤ 2 ^ 31) (hlockout : lockoutMs.toNat < 2 ^ 31)
    (samples : List LevelSample) (hclock : samples.IsChain ShortGap) :
    ExactlyDebounced debounceMs rawAsserted RingDetector.isRingAsserted
        (ringDetectorRun debounceMs samples) ∧
      ExactlyDebounced debounceMs id DevRingButtonController.debouncedPressed
        (devRingButtonRun debounceMs lockoutMs samples) ∧
      ExactlyDebounced kButtonDebounceMs ButtonSample.toLevel ButtonController.debouncedPressed
        (buttonRun (samples.map ButtonSample.ofLevel)) ∧
      RingEventsAlternate (ringDetectorRun debounceMs samples) ∧
      PulsesSpaced lockoutMs (devRingButtonRun debounceMs lockoutMs samples) := by
  have hpos' : 0 < debounceMs := UInt32.lt_of_lt_of_le (by decide) hpos
  refine ⟨?_, ?_, ?_, ?_, ?_⟩
  · apply ringDetector_debounces.exactlyDebounced { debounceMs } rfl hpos' hle
    exact isChain_rawAsserted hclock
  · apply devRingButton_debounces.exactlyDebounced { debounceMs, lockoutMs } rfl hpos' hle
    rw [List.map_id]
    exact hclock
  · apply button_debounces.exactlyDebounced {} rfl (by decide) (by decide)
    rw [map_toLevel_ofLevel]
    exact hclock
  · exact (ringEventsAgree_run debounceMs samples).1
  · exact pulsesSpaced_run debounceMs hlockout hclock

/-- A bounce, a press of 100 ms that wraps the clock, and its release. -/
theorem debounced_levels_exact_across_wrap :
    let samples : List LevelSample :=
      [⟨false, 4294967190⟩, ⟨true, 4294967200⟩, ⟨false, 4294967210⟩, ⟨true, 4294967220⟩,
        ⟨true, 4294967330⟩, ⟨false, 4294967340⟩, ⟨false, 4294967440⟩]
    ExactlyDebounced 50 rawAsserted RingDetector.isRingAsserted (ringDetectorRun 50 samples) ∧
      ExactlyDebounced 50 id DevRingButtonController.debouncedPressed
        (devRingButtonRun 50 250 samples) ∧
      ExactlyDebounced kButtonDebounceMs ButtonSample.toLevel ButtonController.debouncedPressed
        (buttonRun (samples.map ButtonSample.ofLevel)) ∧
      RingEventsAlternate (ringDetectorRun 50 samples) ∧
      PulsesSpaced 250 (devRingButtonRun 50 250 samples) :=
  debounced_levels_exact 50 250 (by decide) (by decide) (by decide) _ (by decide)

end InterBridge
