import InterBridge.Foundations.Json

namespace InterBridge
open Foundations
set_option autoImplicit true

def kSi3050PcmTdmSlotCount : UInt32 := 16

def kSi3050PcmTdmSlotWidthBits : UInt32 := 8

def si3050PcmClocksPerFrame (slotCount slotWidthBits : UInt32) : UInt32 :=
  slotCount * slotWidthBits

def si3050PcmRequestedPclkHz (fsyncHz slotCount slotWidthBits : UInt32) : UInt32 :=
  fsyncHz * si3050PcmClocksPerFrame slotCount slotWidthBits

def si3050PcmConfigurationSupported (pclkHz fsyncHz : UInt32) : Bool :=
  fsyncHz != 0 &&
    pclkHz == si3050PcmRequestedPclkHz fsyncHz kSi3050PcmTdmSlotCount kSi3050PcmTdmSlotWidthBits

abbrev Si3050PcmClockEspErr := Int32

def kSi3050PcmClockEspOk : Si3050PcmClockEspErr := 0

structure Si3050PcmClockBringup where
  running : Bool := false
  driverInstalled : Bool := false
  teardownFailed : Bool := false
  hasFailed : Bool := false
  failedStepName : Option Bytes := none
  failedStepResult : Si3050PcmClockEspErr := kSi3050PcmClockEspOk
  deriving DecidableEq

namespace Si3050PcmClockBringup

def shouldStart (b : Si3050PcmClockBringup) : Bool := !b.running && !b.teardownFailed

def recordDriverInstall (b : Si3050PcmClockBringup) (result : Si3050PcmClockEspErr)
    (succeeded : Bool) : Si3050PcmClockBringup :=
  if b.hasFailed then b
  else if succeeded then { b with driverInstalled := true }
  else { b with
    hasFailed := true
    failedStepName := some (ascii "i2s_driver_install")
    failedStepResult := result }

/-- Only the first failure is kept. -/
def record (b : Si3050PcmClockBringup) (stepName : Bytes) (result : Si3050PcmClockEspErr)
    (succeeded : Bool) : Si3050PcmClockBringup :=
  if b.hasFailed then b
  else if succeeded then b
  else { b with
    hasFailed := true
    failedStepName := some stepName
    failedStepResult := result }

def markRunning (b : Si3050PcmClockBringup) : Si3050PcmClockBringup :=
  if b.hasFailed then b else { b with running := true }

def isRunning (b : Si3050PcmClockBringup) : Bool := b.running

def shouldUninstall (b : Si3050PcmClockBringup) : Bool := b.driverInstalled

def resetAfterInstallFailure (b : Si3050PcmClockBringup) : Si3050PcmClockBringup :=
  { b with
    hasFailed := false
    failedStepName := none
    failedStepResult := kSi3050PcmClockEspOk }

def recordUninstall (b : Si3050PcmClockBringup) (result : Si3050PcmClockEspErr)
    (succeeded : Bool) : Si3050PcmClockBringup :=
  if succeeded then
    { b with
      driverInstalled := false
      running := false
      teardownFailed := false
      hasFailed := false
      failedStepName := none
      failedStepResult := kSi3050PcmClockEspOk }
  else
    -- the driver may still be active: it stays installed, and starting is blocked
    { b with
      running := false
      teardownFailed := true
      hasFailed := true
      failedStepName := some (ascii "i2s_driver_uninstall")
      failedStepResult := result }

end Si3050PcmClockBringup

/-- What of `i2s_config_t` sets the rate of the bit clock. -/
structure I2sConfig where
  sampleRate : UInt32
  bitsPerSample : UInt32
  totalChan : UInt32
  deriving DecidableEq

/-- The bit clock a TDM master generates. -/
def I2sConfig.bitClockHz (config : I2sConfig) : Nat :=
  config.sampleRate.toNat * (config.totalChan.toNat * config.bitsPerSample.toNat)

/-- The fixed geometry: 16 slots of 8 bits a frame. -/
def tdmConfig (fsyncHz : UInt32) : I2sConfig where
  sampleRate := fsyncHz
  bitsPerSample := kSi3050PcmTdmSlotWidthBits
  totalChan := kSi3050PcmTdmSlotCount

/-- A call of the I2S driver, with its result. -/
inductive I2sCall where
  | driverInstall (config : I2sConfig) (result : Si3050PcmClockEspErr)
  | setPin (result : Si3050PcmClockEspErr)
  | zeroDmaBuffer (result : Si3050PcmClockEspErr)
  | driverUninstall (result : Si3050PcmClockEspErr)
  deriving DecidableEq

/-- What the I2S driver answers in one call of the clock, which calls each at most once. -/
structure I2sResults where
  install : Si3050PcmClockEspErr
  setPin : Si3050PcmClockEspErr
  zeroDmaBuffer : Si3050PcmClockEspErr
  uninstall : Si3050PcmClockEspErr

structure Esp32PcmClock where
  bringup : Si3050PcmClockBringup := {}
  deriving DecidableEq

namespace Esp32PcmClock

/-- The bring-up after the one uninstall of a start that failed, and the call itself. -/
def rollbackAfterBringupFailure (bringup : Si3050PcmClockBringup)
    (uninstall : Si3050PcmClockEspErr) : Si3050PcmClockBringup × I2sCall :=
  (bringup.recordUninstall uninstall (uninstall == kSi3050PcmClockEspOk),
    .driverUninstall uninstall)

/-- The calls made on the I2S driver are returned too. -/
def start (c : Esp32PcmClock) (pclkHz fsyncHz : UInt32) (i2s : I2sResults) :
    Esp32PcmClock × List I2sCall :=
  if !c.bringup.shouldStart then (c, [])
  else if !si3050PcmConfigurationSupported pclkHz fsyncHz then (c, [])
  else
    let install := I2sCall.driverInstall (tdmConfig fsyncHz) i2s.install
    let bringup := c.bringup.recordDriverInstall i2s.install (i2s.install == kSi3050PcmClockEspOk)
    if bringup.hasFailed then (⟨bringup.resetAfterInstallFailure⟩, [install])
    else
      let bringup := bringup.record (ascii "i2s_set_pin") i2s.setPin
        (i2s.setPin == kSi3050PcmClockEspOk)
      if bringup.hasFailed then
        let (bringup, uninstall) := rollbackAfterBringupFailure bringup i2s.uninstall
        (⟨bringup⟩, [install, .setPin i2s.setPin, uninstall])
      else
        let bringup := bringup.record (ascii "i2s_zero_dma_buffer") i2s.zeroDmaBuffer
          (i2s.zeroDmaBuffer == kSi3050PcmClockEspOk)
        if bringup.hasFailed then
          let (bringup, uninstall) := rollbackAfterBringupFailure bringup i2s.uninstall
          (⟨bringup⟩,
            [install, .setPin i2s.setPin, .zeroDmaBuffer i2s.zeroDmaBuffer, uninstall])
        else
          (⟨bringup.markRunning⟩,
            [install, .setPin i2s.setPin, .zeroDmaBuffer i2s.zeroDmaBuffer])

def stop (c : Esp32PcmClock) (i2s : I2sResults) : Esp32PcmClock × List I2sCall :=
  if c.bringup.shouldUninstall then
    (⟨c.bringup.recordUninstall i2s.uninstall (i2s.uninstall == kSi3050PcmClockEspOk)⟩,
      [.driverUninstall i2s.uninstall])
  else (c, [])

def isRunning (c : Esp32PcmClock) : Bool := c.bringup.isRunning

end Esp32PcmClock

/-- One call of the clock, with what the driver answers in it. -/
inductive PcmClockCall where
  | start (pclkHz fsyncHz : UInt32) (i2s : I2sResults)
  | stop (i2s : I2sResults)

def pcmClockStep (c : Esp32PcmClock) : PcmClockCall → Esp32PcmClock × List I2sCall
  | .start pclkHz fsyncHz i2s => c.start pclkHz fsyncHz i2s
  | .stop i2s => c.stop i2s

end InterBridge
