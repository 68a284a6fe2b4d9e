import SqlLowering.Translation.Extension
import SqlLowering.Translation.Lowering

/-!
# Sessions

A session is assembled by a builder from requested extensions, settings, and, if the caller supplies
one, a container. Requesting an extension under a key that was requested before puts the new one in
the place of the old. Without a supplied container the session creates a private one with every
requested extension activated. A supplied container is only checked: building fails when it lacks a
requested extension.

Sessions refer to their container by number, so that sessions over the same container share its
descriptors of bounded text.
-/

namespace SqlLowering

structure SessionBuilder where
  extensions : List Extension
  container : Option ContainerId
  config : Config

/-- A validated set of extensions over a container. -/
structure Session where
  config : Config
  extensions : List Extension
  container : ContainerId
  /-- Whether the container was supplied by the caller. -/
  external : Bool

/-- The list with an extension in the place of the first one under its key, or at the end. -/
def requestIn (e : Extension) : List Extension → List Extension
  | [] => [e]
  | old :: rest => if old.key = e.key then e :: rest else old :: requestIn e rest

namespace SessionBuilder

def empty : SessionBuilder :=
  ⟨[], none, .initial⟩

def withExtension (b : SessionBuilder) (e : Extension) : SessionBuilder :=
  { b with extensions := requestIn e b.extensions }

def withExtensions (b : SessionBuilder) (es : List Extension) : SessionBuilder :=
  es.foldl withExtension b

def withContainer (b : SessionBuilder) (id : ContainerId) : SessionBuilder :=
  { b with container := some id }

def withSetting (b : SessionBuilder) (name : String) (value : SettingValue) :
    Except SettingError SessionBuilder := do
  return { b with config := ← b.config.set name value }

/-- Builds the session, in a private container if none was supplied. -/
def build (b : SessionBuilder) (d : Depot) : Except NotRegistered Session × Depot :=
  match b.container with
  | some id =>
    match validate (some (id, d.get id)) b.extensions with
    | .ok () => (.ok ⟨b.config, b.extensions, id, true⟩, d)
    | .error e => (.error e, d)
  | none =>
    let (id, d) := d.create (Container.empty.activateAll b.extensions)
    (.ok ⟨b.config, b.extensions, id, false⟩, d)

end SessionBuilder

namespace Session

/-- Checks the requested extensions once more; a private container needs no check. -/
def validateExtensions (s : Session) (d : Depot) : Except NotRegistered Unit :=
  validate (if s.external then some (s.container, d.get s.container) else none) s.extensions

/-- The log fragments of the extensions. -/
def debugInfo (s : Session) : String :=
  Text.joinWith " " (s.extensions.map Extension.logFragment)

/-- The answer of the session's container to a call. -/
def translate (s : Session) (d : Depot) (call : MethodCall) : Outcome :=
  (d.get s.container).registry.translate call

/-- Compiles an expression with the services of the session's container. -/
def compile (s : Session) (d : Depot) (e : Expr) : Except CompileFailure Compiled × Depot :=
  let container := d.get s.container
  let (result, mappings) :=
    (SqlLowering.compile container.registry s.config e).run container.mappings
  (result, d.update s.container fun c => { c with mappings := mappings })

end Session

end SqlLowering
