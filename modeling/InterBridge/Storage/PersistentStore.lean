import InterBridge.Foundations.AtomicWrites
import InterBridge.Foundations.Json

namespace InterBridge
open Foundations
set_option autoImplicit true

/-- The key-value storage behind `IPersistentStore`, as `MemoryStore` implements it. -/
structure PersistentStore where
  get : Bytes → Option Bytes

namespace PersistentStore

def empty : PersistentStore := ⟨fun _ => none⟩

def set (store : PersistentStore) (key value : Bytes) : PersistentStore :=
  ⟨fun k => if k = key then some value else store.get k⟩

def remove (store : PersistentStore) (key : Bytes) : PersistentStore :=
  ⟨fun k => if k = key then none else store.get k⟩

def has (store : PersistentStore) (key : Bytes) : Bool := (store.get key).isSome

@[simp] theorem get_set_self (store : PersistentStore) (key value : Bytes) :
    (store.set key value).get key = some value := if_pos rfl

@[simp] theorem get_set_of_ne (store : PersistentStore) (value : Bytes) (h : k ≠ key) :
    (store.set key value).get k = store.get k := if_neg h

end PersistentStore

/-- A call of `set` or `remove`. -/
abbrev StoreWrite := AtomicWrite Bytes Bytes

namespace PersistentStore

def write (store : PersistentStore) : StoreWrite → PersistentStore
  | .put key value => store.set key value
  | .erase key => store.remove key

def writeAll (store : PersistentStore) (writes : List StoreWrite) : PersistentStore :=
  writes.foldl write store

theorem write_get (store : PersistentStore) (w : StoreWrite) :
    (store.write w).get = w.apply store.get := by
  cases w with
  | put key value => rfl
  | erase key => rfl

theorem writeAll_get (store : PersistentStore) (writes : List StoreWrite) :
    (store.writeAll writes).get = applyWrites store.get writes := by
  induction writes generalizing store with
  | nil => rfl
  | cons w writes ih =>
    rw [applyWrites_cons, ← write_get]
    exact ih (store.write w)

theorem writeAll_append (store : PersistentStore) (writes writes' : List StoreWrite) :
    store.writeAll (writes ++ writes') = (store.writeAll writes).writeAll writes' :=
  List.foldl_append

/-- A key no write is about keeps its value, wherever the writes are cut. -/
theorem writeAll_get_of_cut (store : PersistentStore) {writes : List StoreWrite}
    (hcut : written <+: writes) (h : ∀ w ∈ writes, key ≠ w.key) :
    (store.writeAll written).get key = store.get key := by
  rw [writeAll_get]
  exact applyWrites_of_cut store.get hcut h

end PersistentStore

def WritesTo (keys : List Bytes) (writes : List StoreWrite) : Prop := ∀ w ∈ writes, w.key ∈ keys

theorem writesTo_keys (writes : List StoreWrite) :
    WritesTo (writes.map AtomicWrite.key) writes := fun _ => List.mem_map_of_mem

theorem WritesTo.get (h : WritesTo keys writes) (hkey : key ∉ keys) (store : PersistentStore)
    (hcut : written <+: writes) : (store.writeAll written).get key = store.get key := by
  apply store.writeAll_get_of_cut hcut
  intro w hw hsame
  rw [hsame] at hkey
  exact hkey (h w hw)

end InterBridge
