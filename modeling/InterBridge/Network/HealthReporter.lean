import InterBridge.Protocol.Messages

namespace InterBridge
open Foundations
set_option autoImplicit true

def kDefaultHealthIntervalMs : UInt32 := 3600 * 1000

def kDefaultHealthIntervalSeconds : UInt32 := 3600

structure HealthReporter where
  intervalMs : UInt32 := kDefaultHealthIntervalMs
  lastPublishMs : UInt32 := 0
  hasPublished : Bool := false
  forced : Bool := false
  deriving DecidableEq

namespace HealthReporter

def isDue (reporter : HealthReporter) (nowMs : UInt32) : HealthReporter × Bool :=
  if reporter.forced then
    ({ reporter with forced := false, lastPublishMs := nowMs, hasPublished := true }, true)
  else if !reporter.hasPublished then
    ({ reporter with lastPublishMs := nowMs, hasPublished := true }, true)
  else if reporter.intervalMs ≤ nowMs - reporter.lastPublishMs then
    ({ reporter with lastPublishMs := nowMs }, true)
  else (reporter, false)

def forceNextPublish (reporter : HealthReporter) : HealthReporter :=
  { reporter with forced := true }

end HealthReporter

structure HealthReport where
  deviceId : Bytes
  firmwareVersion : Bytes
  intercomState : Bytes
  uptimeMs : UInt64
  wifiRssi : Int32
  freeHeapBytes : UInt32
  deriving DecidableEq

def HealthReport.toJson [ArduinoJson] (report : HealthReport) : Bytes :=
  serializeJson (.obj [(ascii "protocol_version", .int kProtocolVersion.toInt),
    (ascii "device_id", .str report.deviceId),
    (ascii "firmware_version", .str report.firmwareVersion),
    (ascii "intercom_state", .str report.intercomState),
    (ascii "uptime_ms", .int report.uptimeMs.toNat),
    (ascii "wifi_rssi", .int report.wifiRssi.toInt),
    (ascii "free_heap", .int report.freeHeapBytes.toNat)])

structure ShadowReportedState where
  firmwareVersion : Bytes
  hardwareVersion : Bytes
  intercomState : Bytes
  wifiRssi : Int32
  uptimeMs : UInt64
  provisioned : Bool
  healthIntervalSeconds : UInt32 := kDefaultHealthIntervalSeconds
  deriving DecidableEq

/-- `DeviceShadow::buildReportedUpdate`. -/
def buildReportedUpdate [ArduinoJson] (state : ShadowReportedState) : Bytes :=
  serializeJson (.obj [(ascii "state", .obj [(ascii "reported", .obj
    [(ascii "firmware_version", .str state.firmwareVersion),
      (ascii "hardware_version", .str state.hardwareVersion),
      (ascii "intercom_state", .str state.intercomState),
      (ascii "wifi_rssi", .int state.wifiRssi.toInt),
      (ascii "uptime_ms", .int state.uptimeMs.toNat),
      (ascii "provisioned", .bool state.provisioned),
      (ascii "health_interval_s", .int state.healthIntervalSeconds.toNat)])])])

end InterBridge
