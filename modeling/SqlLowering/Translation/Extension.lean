import SqlLowering.Report
import SqlLowering.Translation.Registry
import SqlLowering.TypeMap.Source

/-!
# Extensions and containers

An extension offers a translation module to sessions. It is activated in a container, which holds a
registry and a mapping source, and a session that requests it is valid only if the container it uses
has a module under the same key. A request names two methods for the error message: the one that
requests the extension and the one that should have registered it.

A depot holds the containers that exist, by the number each received when it was created. A number
that was given to none stands for an empty container.
-/

namespace SqlLowering

structure Extension where
  module : TranslationModule
  /-- The name of the method that requests the extension for a session. -/
  useMethod : String
  /-- The name of the method that registers the extension in a container. -/
  registerMethod : String
deriving Inhabited

namespace Extension

def key (e : Extension) : String :=
  e.module.key

def logFragment (e : Extension) : String :=
  e.module.logFragment

end Extension

/-- The services of a session: the rules it translates with and the store types it resolves. -/
structure Container where
  registry : Registry
  mappings : MappingSource

namespace Container

def empty : Container :=
  ⟨.empty, .empty⟩

/-- Adds a module to the registry; says whether it was added. -/
def addModule (c : Container) (m : TranslationModule) : Bool × Container :=
  let (added, registry) := c.registry.add m
  (added, { c with registry := registry })

/-- Adds the module of an extension; says whether it was added. -/
def activate (c : Container) (e : Extension) : Bool × Container :=
  c.addModule e.module

/-- The container with the modules of extensions added in order. -/
def activateAll (c : Container) (extensions : List Extension) : Container :=
  extensions.foldl (fun c e => (c.activate e).2) c

/-- The first requested extension that a container has no module for. -/
def missing? (c : Container) (extensions : List Extension) : Option Extension :=
  extensions.find? fun e => !c.registry.contains e.key

end Container

structure ContainerId where
  index : Nat
deriving DecidableEq, Repr, Inhabited

def ContainerId.render (id : ContainerId) : String :=
  Text.natText id.index

/-- An extension was requested for a session whose container has no module for it. -/
structure NotRegistered where
  extension : Extension
  container : ContainerId

def NotRegistered.report (e : NotRegistered) : Report :=
  let extension := e.extension
  (Report.ofKind .configuration
      ("'" ++ extension.useMethod ++ "' was called to use the " ++ extension.key ++
        " extension, but '" ++ extension.registerMethod ++
        "' was not called on the service container used by this session"))
    |>.withField "module" extension.key
    |>.withField "use_method" extension.useMethod
    |>.withField "register_method" extension.registerMethod
    |>.withField "container" e.container.render

/-- Checks a container for the requested extensions, in order. Without a container there is nothing
to check. -/
def validate (container : Option (ContainerId × Container)) (extensions : List Extension) :
    Except NotRegistered Unit :=
  match container with
  | none => .ok ()
  | some (id, c) =>
    match c.missing? extensions with
    | some e => .error ⟨e, id⟩
    | none => .ok ()

/-- The containers in the order they were created. -/
structure Depot where
  containers : List Container

namespace Depot

def empty : Depot :=
  ⟨[]⟩

/-- The number of a new container that starts as `c`. -/
def create (d : Depot) (c : Container) : ContainerId × Depot :=
  (⟨d.containers.length⟩, ⟨d.containers ++ [c]⟩)

def get (d : Depot) (id : ContainerId) : Container :=
  d.containers.getD id.index .empty

def update (d : Depot) (id : ContainerId) (f : Container → Container) : Depot :=
  ⟨d.containers.modify id.index f⟩

end Depot

end SqlLowering
