import InterBridge.Provisioning.ProvisioningManager

namespace InterBridge
open Foundations
set_option autoImplicit true
namespace FactoryResetCoordinator

/-- The store writes of `execute`, in order. -/
def executeWrites : List StoreWrite :=
  [.erase kWifiSsidKey, .erase kWifiPasswordKey, .put kProvisionedKey (ascii "0")]

def execute (store : PersistentStore) : PersistentStore × Bool :=
  (store.writeAll executeWrites, true)

theorem execute_ssid (store : PersistentStore) :
    (execute store).1.get kWifiSsidKey = none := rfl

theorem execute_password (store : PersistentStore) :
    (execute store).1.get kWifiPasswordKey = none := rfl

theorem execute_provisioned (store : PersistentStore) :
    (execute store).1.get kProvisionedKey = some (ascii "0") := rfl

theorem execute_get_of_notMem (store : PersistentStore)
    (h : key ∉ [kWifiSsidKey, kWifiPasswordKey, kProvisionedKey]) :
    (execute store).1.get key = store.get key :=
  (writesTo_keys executeWrites).get h store (List.prefix_refl _)

end FactoryResetCoordinator
end InterBridge
