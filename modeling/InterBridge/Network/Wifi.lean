import InterBridge.Foundations.Json

namespace InterBridge
open Foundations
set_option autoImplicit true

structure WifiCredentials where
  ssid : Bytes
  password : Bytes
  deriving DecidableEq

/-- `c_str()`: the bytes before the first NUL. -/
def cString (s : Bytes) : Bytes := s.takeWhile (· ≠ 0)

inductive WifiEvent where
  | wifiConnected | wifiDisconnected
  deriving DecidableEq

structure WifiManager where
  started : Bool := false
  lastConnected : Bool := false
  deriving DecidableEq

namespace WifiManager

/-- The credentials themselves go to the radio. -/
def begin (_ : WifiManager) : WifiManager := { started := true, lastConnected := false }

/-- `connected` is whether the radio reports `WL_CONNECTED`. -/
def update (wifi : WifiManager) (connected : Bool) : WifiManager × Option WifiEvent :=
  if !wifi.started then (wifi, none)
  else if connected = wifi.lastConnected then (wifi, none)
  else
    ({ wifi with lastConnected := connected },
      some (if connected then .wifiConnected else .wifiDisconnected))

def isConnected (wifi : WifiManager) : Bool := wifi.lastConnected

end WifiManager
end InterBridge
