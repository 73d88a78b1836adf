import AssetCache.Descriptor.Database
import AssetCache.Descriptor.Memory
import AssetCache.Settings.Limits

/-!
# Backends of descriptors

The backends that can be chosen by name, and the table of names. A backend is opened from settings
by the factory that is registered under its name.
-/

namespace AssetCache

/-- A backend, chosen and configured but not yet in use. -/
inductive Backend where
  | memory
  | database (config : DatabaseConfig)
deriving DecidableEq

/-- Opens a backend from settings. -/
abbrev Factory := Settings → Except StoreError Backend

namespace Factory

/-- Opens descriptors in memory, whatever the settings. -/
def memory : Factory :=
  fun _ => .ok .memory

/-- Opens a database at the configured path. -/
def database : Factory :=
  fun settings => (DatabaseConfig.ofSettings settings).map .database

end Factory

/-- Factories under names. -/
abbrev Registry := Table String Factory

namespace Registry

/-- The registry of the backends that are always there. -/
def withDefaults : Registry :=
  (Table.insert ∅ "memory" Factory.memory).insert "sqlite" Factory.database

/-- Registers a factory under a name that is not taken. -/
def register (registry : Registry) (name : String) (factory : Factory) :
    Except StoreError Registry :=
  if registry.contains name then
    .error (.invalid ("descriptor backend already registered: " ++ name))
  else .ok (registry.insert name factory)

/-- The registered names in order. -/
def names (registry : Registry) : List String :=
  registry.keys.mergeSort (· ≤ ·)

/-- Opens the backend that is registered under a name. -/
def openNamed (registry : Registry) (name : String) (settings : Settings) :
    Except StoreError Backend :=
  match registry.get? name with
  | none => .error (.invalid ("unknown descriptor backend: " ++ name))
  | some factory => factory settings

/-- Opens the backend that the settings name. -/
def openConfigured (registry : Registry) (settings : Settings) : Except StoreError Backend :=
  registry.openNamed (StoreConfig.ofSettings settings).backend settings

end Registry

/-! ### Backends in use -/

/-- Descriptors in one of the backends. -/
inductive AnyDescriptors where
  | memory (store : MemoryDescriptors)
  | database (store : Database)

namespace AnyDescriptors

/-- The store of a backend on a disk. -/
def ofBackend (disk : Disk) : Backend → AnyDescriptors
  | .memory => .memory ∅
  | .database config => .database (.ofConfig disk config)

/-- The store with its connections closed. -/
def close : AnyDescriptors → AnyDescriptors
  | memory store => .memory store
  | database store => .database store.close

/-- What an operation on one of the backends leaves. -/
def lift {α δ : Type} (wrap : δ → AnyDescriptors) (result : α × δ) : α × AnyDescriptors :=
  (result.1, wrap result.2)

end AnyDescriptors

instance : DescriptorStore AnyDescriptors where
  connect
    | .memory store => (DescriptorStore.connect store |> AnyDescriptors.lift .memory)
    | .database store => (DescriptorStore.connect store |> AnyDescriptors.lift .database)
  create
    | .memory store, id, descriptor =>
      DescriptorStore.create store id descriptor |> AnyDescriptors.lift .memory
    | .database store, id, descriptor =>
      DescriptorStore.create store id descriptor |> AnyDescriptors.lift .database
  read
    | .memory store, id => DescriptorStore.read store id
    | .database store, id => DescriptorStore.read store id
  contains
    | .memory store, id => DescriptorStore.contains store id
    | .database store, id => DescriptorStore.contains store id
  duplicate
    | .memory store, id => DescriptorStore.duplicate store id |> AnyDescriptors.lift .memory
    | .database store, id => DescriptorStore.duplicate store id |> AnyDescriptors.lift .database
  delete
    | .memory store, id => DescriptorStore.delete store id |> AnyDescriptors.lift .memory
    | .database store, id => DescriptorStore.delete store id |> AnyDescriptors.lift .database

end AssetCache
