import InterBridge.Storage.PersistentStore

namespace InterBridge
open Foundations
set_option autoImplicit true

def kCertificateKey : Bytes := ascii "aws_certificate_pem"

def kPrivateKeyKey : Bytes := ascii "aws_private_key_pem"

/-- `DeviceCredentialStore` is a view of the persistent store. -/
abbrev DeviceCredentialStore := PersistentStore

namespace DeviceCredentialStore

def hasCertificate (store : DeviceCredentialStore) : Bool := store.has kCertificateKey

def loadCertificate (store : DeviceCredentialStore) : Option Bytes := store.get kCertificateKey

def hasPrivateKey (store : DeviceCredentialStore) : Bool := store.has kPrivateKeyKey

def loadPrivateKey (store : DeviceCredentialStore) : Option Bytes := store.get kPrivateKeyKey

end DeviceCredentialStore
end InterBridge
