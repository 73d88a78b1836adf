import AssetCache.Bench.Script

/-!
# Opening backends

Backends are registered and opened by name, one after the other, over one disk; what is stored in a
database remains for those that open it later.
-/

namespace AssetCache.Bench

/-- A factory that always refuses, with the reason that the settings give. -/
def refusing : Factory :=
  fun settings => .error (.invalid ((settings.get? "why").getD "factory refused"))

/-- What is done with a registry. A backend that is opened is put to use with some commands. -/
inductive OpeningStep where
  | names
  | contains (name : String)
  | register (name : String) (factory : Factory)
  | openNamed (name : String) (settings : Settings) (use : List ScriptStep)
  | openConfigured (settings : Settings) (use : List ScriptStep)

/-- What comes of a step. -/
inductive OpeningAnswer where
  | names (names : List String)
  | truth (value : Bool)
  | success
  | failure (error : StoreError)
  | opened (reports : List Report) (databases : List String)

/-- A laboratory with descriptors, and no blobs. -/
def labOfDescriptors (now : Instant) (descriptors : AnyDescriptors) : Lab where
  rig := {}
  depot := { blobs := .memory ∅, descriptors, now }

/-- The disk on which descriptors lie, if they lie on one. -/
def diskOf (disk : Disk) : AnyDescriptors → Disk
  | .memory _ => disk
  | .database store => store.disk

/-- Puts a backend to use. -/
def putToUse (now : Instant) (disk : Disk) (use : List ScriptStep) :
    Except StoreError Backend → OpeningAnswer × Disk
  | .error error => (.failure error, disk)
  | .ok backend =>
    let (reports, lab) := (labOfDescriptors now (.ofBackend disk backend)).play use
    let disk := diskOf disk lab.depot.descriptors
    (.opened reports (disk.filesEnding ".db"), disk)

/-- Takes steps one after the other. -/
def playOpening (now : Instant) (registry : Registry) (disk : Disk) :
    List OpeningStep → List OpeningAnswer
  | [] => []
  | .names :: rest => .names registry.names :: playOpening now registry disk rest
  | .contains name :: rest =>
    .truth (registry.contains name) :: playOpening now registry disk rest
  | .register name factory :: rest =>
    match registry.register name factory with
    | .error error => .failure error :: playOpening now registry disk rest
    | .ok registry => .success :: playOpening now registry disk rest
  | .openNamed name settings use :: rest =>
    let (answer, disk) := putToUse now disk use (registry.openNamed name settings)
    answer :: playOpening now registry disk rest
  | .openConfigured settings use :: rest =>
    let (answer, disk) := putToUse now disk use (registry.openConfigured settings)
    answer :: playOpening now registry disk rest

end AssetCache.Bench
