import SqlLowering.Proofs.Registration

/-!
# What a session gets for its requests

A builder collects requests of any extensions, among them some under the same key with other rules,
names and log fragments. Its list keeps the last request under each key in the place of the first
(`SessionBuilder.keepsLast_withExtensions`), so no key stands twice in it.

Without a supplied container all these extensions are activated in a private one. The registry,
which would keep the first module under a key, meets each key once and takes them all, in order
(`SessionBuilder.build_private`).

A supplied container is only looked at. A request is met when some module was added to this very
container under its key; the first that is not met is reported, with the names that the last request
under the key gave (`SessionBuilder.build_supplied`). A container never loses a module, so a session
that was built stays valid.
-/

namespace SqlLowering

/-! ## Requests -/

/-- One more request takes the place of the former one under its key, or the last place. -/
theorem map_key_requestIn (e : Extension) (kept : List Extension) :
    (requestIn e kept).map Extension.key =
      if e.key ∈ kept.map Extension.key then kept.map Extension.key
      else kept.map Extension.key ++ [e.key] := by
  induction kept with
  | nil => rfl
  | cons old rest ih =>
      rw [requestIn]
      by_cases hkey : old.key = e.key
      · simp [hkey]
      · have hne : e.key ≠ old.key := fun h => hkey h.symm
        rw [if_neg hkey, List.map_cons, ih, List.map_cons]
        by_cases hmem : e.key ∈ rest.map Extension.key
        · rw [if_pos hmem, if_pos (List.mem_cons_of_mem _ hmem)]
        · rw [if_neg hmem, if_neg (List.not_mem_cons_of_ne_of_not_mem hne hmem)]
          rfl

theorem mem_requestIn {e x : Extension} {kept : List Extension}
    (hnodup : (kept.map Extension.key).Nodup) (hx : x ∈ requestIn e kept) :
    x = e ∨ x ∈ kept ∧ e.key ≠ x.key := by
  induction kept with
  | nil => exact Or.inl (List.mem_singleton.1 hx)
  | cons old rest ih =>
      rw [List.map_cons, List.nodup_cons] at hnodup
      rw [requestIn] at hx
      by_cases hkey : old.key = e.key
      · rw [if_pos hkey, List.mem_cons] at hx
        rcases hx with rfl | hx
        · exact Or.inl rfl
        · -- the keys of the others differ from the one that was replaced
          refine Or.inr ⟨List.mem_cons_of_mem old hx, fun heq => hnodup.1 ?_⟩
          rw [hkey, heq]
          exact List.mem_map_of_mem hx
      · rw [if_neg hkey, List.mem_cons] at hx
        rcases hx with rfl | hx
        · exact Or.inr ⟨List.mem_cons_self .., fun heq => hkey heq.symm⟩
        · rcases ih hnodup.2 hx with rfl | ⟨hmem, hne⟩
          · exact Or.inl rfl
          · exact Or.inr ⟨List.mem_cons_of_mem old hmem, hne⟩

/-- **One more request** is kept in the place of the first under its key. -/
theorem KeepsLast.requestIn {requests kept : List Extension}
    (h : KeepsLast Extension.key requests kept) (e : Extension) :
    KeepsLast Extension.key (requests ++ [e]) (requestIn e kept) := by
  constructor
  · rw [map_key_requestIn, List.map_append]
    exact h.keys.append e.key
  · intro x hx
    rcases mem_requestIn h.keys.nodup hx with rfl | ⟨hmem, hne⟩
    · exact isLast_append_singleton requests x
    · exact (h.last x hmem).append_singleton hne

namespace SessionBuilder

/-- The builder of a session with these requests, under a configuration. -/
def ofRequests (requests : List Extension) (config : Config) : SessionBuilder :=
  { SessionBuilder.empty.withExtensions requests with config := config }

theorem keepsLast_withExtensions {requests : List Extension} {b : SessionBuilder}
    (h : KeepsLast Extension.key requests b.extensions) (more : List Extension) :
    KeepsLast Extension.key (requests ++ more) (b.withExtensions more).extensions := by
  induction more generalizing requests b with
  | nil => simpa [withExtensions] using h
  | cons e more ih =>
      have hrest := ih (b := b.withExtension e) (h.requestIn e)
      simpa [withExtensions] using hrest

/-- **The requests of a builder**: the last under each key, in the place of the first. -/
theorem keepsLast_ofRequests (requests : List Extension) (config : Config) :
    KeepsLast Extension.key requests (ofRequests requests config).extensions :=
  keepsLast_withExtensions (b := .empty) .nil requests

end SessionBuilder

/-! ## A private container -/

theorem joinWith_eq_intercalate (separator : String) (texts : List String) :
    Text.joinWith separator texts = separator.intercalate texts := by
  induction texts with
  | nil => rfl
  | cons s rest ih =>
      cases rest with
      | nil => simp [Text.joinWith]
      | cons t rest => rw [Text.joinWith, ih, String.intercalate_cons_cons]

/-- **A session without a supplied container uses exactly what was requested.** Building it succeeds
and creates one more container. Its extensions are the last requests under each key, in the places
of the first ones; the registry holds their modules in this order, none left out and no other; and
calls are answered by the rules of these modules in order. -/
theorem SessionBuilder.build_private (requests : List Extension) (config : Config) (d : Depot) :
    ∃ (s : Session) (d' : Depot), (ofRequests requests config).build d = (.ok s, d') ∧
      s.external = false ∧ d'.containers = d.containers ++ [d'.get s.container] ∧
      KeepsLast Extension.key requests s.extensions ∧ (s.extensions.map Extension.key).Nodup ∧
      (d'.get s.container).registry.modules = s.extensions.map Extension.module ∧
      s.debugInfo = " ".intercalate
        ((d'.get s.container).registry.modules.map TranslationModule.logFragment) ∧
      ∀ call, AnsweredBy call (s.extensions.flatMap fun e => e.module.rules)
        (s.translate d' call) := by
  have hkeeps := keepsLast_ofRequests requests config
  generalize hb : ofRequests requests config = b at hkeeps ⊢
  have hcontainer : b.container = none := by
    have hsame : ∀ (more : List Extension) (b : SessionBuilder),
        (b.withExtensions more).container = b.container := by
      intro more
      induction more with
      | nil => exact fun _ => rfl
      | cons e more ih => exact fun b => ih (b.withExtension e)
    rw [← hb]
    exact hsame requests .empty
  have hnodup : (b.extensions.map Extension.key).Nodup := hkeeps.keys.nodup
  let c := Container.empty.activateAll b.extensions
  have hempty : (Container.empty.registry.modules.map TranslationModule.key ++
      b.extensions.map Extension.key).Nodup := by
    simpa [Container.empty, Registry.empty] using hnodup
  have hmodules : c.registry.modules = b.extensions.map Extension.module :=
    Container.modules_activateAll b.extensions .empty hempty
  have hget : (d.create c).2.get (d.create c).1 = c := d.get_create c
  refine ⟨⟨b.config, b.extensions, (d.create c).1, false⟩, (d.create c).2, ?_, rfl, ?_, hkeeps,
    hnodup, ?_, ?_, ?_⟩
  · unfold build
    rw [hcontainer]
  · rw [hget]
    rfl
  · rw [hget]
    exact hmodules
  · rw [hget, hmodules, List.map_map]
    exact joinWith_eq_intercalate " " (b.extensions.map Extension.logFragment)
  · intro call
    have hanswer := c.registry.answeredBy_translate call
    rw [hmodules, List.flatMap_map] at hanswer
    unfold Session.translate
    rw [hget]
    exact hanswer

/-! ## A supplied container -/

theorem KeepsLast.forall_key_iff {α : Type} {key : α → String} {given kept : List α}
    (h : KeepsLast key given kept) {P : String → Prop} :
    (∀ a ∈ kept, P (key a)) ↔ ∀ a ∈ given, P (key a) := by
  have hmap : ∀ l : List α, (∀ a ∈ l, P (key a)) ↔ ∀ k ∈ l.map key, P k := fun l => by simp
  rw [hmap, hmap]
  exact forall_congr' fun k => by rw [h.keys.mem_iff]

def KeyAdded (added : List TranslationModule) (key : String) : Prop :=
  ∃ m ∈ added, m.key = key

instance (added : List TranslationModule) (key : String) : Decidable (KeyAdded added key) :=
  inferInstanceAs (Decidable (∃ m ∈ added, m.key = key))

/-- The failure names the first of the extensions under whose key no module was added and the
container, and reports its names and the number of the container. -/
structure NotRegistered.Names (failure : NotRegistered) (extensions : List Extension)
    (added : List TranslationModule) (id : ContainerId) : Prop where
  first : ∃ before after, extensions = before ++ failure.extension :: after ∧
    ∀ e ∈ before, KeyAdded added e.key
  missing : ¬ KeyAdded added failure.extension.key
  chosen : failure.container = id
  kind : failure.report.top.kind = .configuration
  module : failure.report.field? "module" = some failure.extension.key
  useMethod : failure.report.field? "use_method" = some failure.extension.useMethod
  registerMethod : failure.report.field? "register_method" = some failure.extension.registerMethod
  container : failure.report.field? "container" = some id.render

/-- Validation succeeds when all keys are there, and else names the first that is not. -/
theorem validate_cases (id : ContainerId) {c : Container} {added : List TranslationModule}
    (hadded : ∀ key, c.registry.contains key = true ↔ KeyAdded added key)
    (extensions : List Extension) :
    (validate (some (id, c)) extensions = .ok () ∧ ∀ e ∈ extensions, KeyAdded added e.key) ∨
    ∃ failure : NotRegistered, validate (some (id, c)) extensions = .error failure ∧
      failure.extension ∈ extensions ∧ failure.Names extensions added id := by
  cases hmissing : c.missing? extensions with
  | none =>
      left
      refine ⟨by simp only [validate, hmissing], fun e he => ?_⟩
      have hall := List.find?_eq_none.1 hmissing e he
      rw [← hadded]
      simpa using hall
  | some e =>
      right
      obtain ⟨hnot, before, after, hsplit, hbefore⟩ := List.find?_eq_some_iff_append.1 hmissing
      refine ⟨⟨e, id⟩, by simp only [validate, hmissing], ?_, ?_⟩
      · rw [hsplit]
        simp
      · constructor
        · refine ⟨before, after, hsplit, fun x hx => ?_⟩
          rw [← hadded]
          simpa using hbefore x hx
        · intro hkey
          rw [(hadded e.key).2 hkey] at hnot
          cases hnot
        all_goals rfl

/-- What was found valid stays so, whatever happens to the containers. -/
theorem validate_happen {d : Depot} {id : ContainerId} (hid : id.index < d.containers.length)
    {extensions : List Extension}
    (h : ∀ e ∈ extensions, (d.get id).registry.contains e.key = true) (later : List DepotEvent) :
    validate (some (id, (d.happen later).get id)) extensions = .ok () := by
  have hlater : ∀ e ∈ extensions, ((d.happen later).get id).registry.contains e.key = true := by
    intro e he
    rw [Depot.get_happen d later hid]
    exact Container.contains_foldl_step (h e he) _
  have hnone : ((d.happen later).get id).missing? extensions = none := by
    refine List.find?_eq_none.2 fun e he => ?_
    simp [hlater e he]
  simp only [validate, hnone]

namespace SessionBuilder

/-- With a supplied container, the session is built when all keys are there, and the first that is
not is reported. -/
theorem build_cases {b : SessionBuilder} {id : ContainerId} (hb : b.container = some id) {d : Depot}
    {added : List TranslationModule}
    (hadded : ∀ key, (d.get id).registry.contains key = true ↔ KeyAdded added key) :
    (b.build d = (.ok ⟨b.config, b.extensions, id, true⟩, d) ∧
      ∀ e ∈ b.extensions, KeyAdded added e.key) ∨
    ∃ failure : NotRegistered, b.build d = (.error failure, d) ∧
      failure.extension ∈ b.extensions ∧ failure.Names b.extensions added id := by
  rcases validate_cases id hadded b.extensions with ⟨hvalid, hall⟩ | ⟨failure, hvalid, hnames⟩
  · exact .inl ⟨by simp only [build, hb, hvalid], hall⟩
  · exact .inr ⟨failure, by simp only [build, hb, hvalid], hnames⟩

/-- **A session over a supplied container.** Among any containers and whatever happened to them, it
is built exactly when a module was added to this very container under each requested key, and else
fails for the first key in the builder's order under which there is none, as the last request under
the key names it. Building changes no container. A session that was built is found valid also after
whatever happens later, and answers calls by the modules of its container: the first that was added
under each key, in this order. -/
theorem build_supplied (n : Nat) (events : List DepotEvent) (requests : List Extension)
    (config : Config) (id : ContainerId) (hid : id.index < n) :
    let d := (Depot.ofSize n).happen events
    let b := (ofRequests requests config).withContainer id
    let added := (Depot.eventsOf id events).filterMap ContainerEvent.module?
    KeepsLast Extension.key requests b.extensions ∧
    KeepsFirst TranslationModule.key added (d.get id).registry.modules ∧
    (b.build d).2 = d ∧
    ((∃ s, (b.build d).1 = .ok s) ↔ ∀ e ∈ requests, KeyAdded added e.key) ∧
    ((¬ ∀ e ∈ requests, KeyAdded added e.key) → ∃ failure, (b.build d).1 = .error failure ∧
      IsLast Extension.key requests failure.extension ∧ failure.Names b.extensions added id) ∧
    ∀ s, (b.build d).1 = .ok s →
      (∀ later, s.validateExtensions (d.happen later) = .ok ()) ∧
      ∀ call, AnsweredBy call ((d.get id).registry.modules.flatMap TranslationModule.rules)
        (s.translate d call) := by
  intro d b added
  have hlast : KeepsLast Extension.key requests b.extensions := keepsLast_ofRequests requests config
  have hfirst : KeepsFirst TranslationModule.key added (d.get id).registry.modules := by
    have hget : d.get id = Container.ofEvents (Depot.eventsOf id events) :=
      Depot.get_ofSize_happen n events hid
    rw [hget]
    exact Container.keepsFirst_ofEvents _
  have hadded : ∀ key, (d.get id).registry.contains key = true ↔ KeyAdded added key := by
    intro key
    rw [Registry.contains_iff, List.mem_map]
    exact hfirst.exists_mem_iff key
  have hlength : id.index < d.containers.length := by
    rw [Depot.length_happen]
    simpa [Depot.ofSize] using hid
  rcases build_cases (b := b) rfl hadded with ⟨hbuilt, hall⟩ | ⟨failure, hbuilt, hmem, hnames⟩
  · have hrequests : ∀ e ∈ requests, KeyAdded added e.key := hlast.forall_key_iff.1 hall
    refine ⟨hlast, hfirst, by rw [hbuilt], ?_, fun hnot => absurd hrequests hnot, ?_⟩
    · rw [hbuilt]
      exact ⟨fun _ => hrequests, fun _ => ⟨_, rfl⟩⟩
    · intro s hs
      rw [hbuilt] at hs
      obtain rfl := Except.ok.inj hs
      refine ⟨fun later => ?_, fun call => (d.get id).registry.answeredBy_translate call⟩
      exact validate_happen hlength (fun e he => (hadded e.key).2 (hall e he)) later
  · refine ⟨hlast, hfirst, by rw [hbuilt], ?_, fun _ => ?_, ?_⟩
    · rw [hbuilt]
      constructor
      · rintro ⟨s, hs⟩
        cases hs
      · intro h
        exact absurd (hlast.forall_key_iff.2 h _ hmem) hnames.missing
    · rw [hbuilt]
      exact ⟨failure, rfl, hlast.last _ hmem, hnames⟩
    · intro s hs
      rw [hbuilt] at hs
      cases hs

/-- Of two containers one lacks a module, which is in the other. The builder has geometry first, as
it was requested last. -/
theorem build_supplied_twoContainers :
    let geometry := BundledModule.geometry.extension
    let trigrams := BundledModule.trigrams.extension
    let d := (Depot.ofSize 2).happen
      [⟨⟨0⟩, .addModule geometry.module⟩, ⟨⟨1⟩, .addModule trigrams.module⟩,
        ⟨⟨1⟩, .call (.findMapping ⟨.text, some 20⟩)⟩, ⟨⟨1⟩, .addModule geometry.module⟩]
    let shapes := { geometry with useMethod := "use_shapes" }
    let b := ofRequests [geometry, trigrams, shapes] .initial
    b.extensions = [shapes, trigrams] ∧
      (∃ s, ((b.withContainer ⟨1⟩).build d).1 = .ok s ∧
        ∀ later, s.validateExtensions (d.happen later) = .ok ()) ∧
      ∃ failure, ((b.withContainer ⟨0⟩).build d).1 = .error failure ∧
        failure.Names [shapes, trigrams] [geometry.module] ⟨0⟩ := by
  intro geometry trigrams d shapes b
  obtain ⟨-, -, -, hbuilt, -, hsession⟩ := build_supplied 2
    [⟨⟨0⟩, .addModule geometry.module⟩, ⟨⟨1⟩, .addModule trigrams.module⟩,
      ⟨⟨1⟩, .call (.findMapping ⟨.text, some 20⟩)⟩, ⟨⟨1⟩, .addModule geometry.module⟩]
    [geometry, trigrams, shapes] .initial ⟨1⟩ (by decide)
  obtain ⟨s, hs⟩ := hbuilt.2 (by decide)
  obtain ⟨-, -, -, -, hfails, -⟩ := build_supplied 2
    [⟨⟨0⟩, .addModule geometry.module⟩, ⟨⟨1⟩, .addModule trigrams.module⟩,
      ⟨⟨1⟩, .call (.findMapping ⟨.text, some 20⟩)⟩, ⟨⟨1⟩, .addModule geometry.module⟩]
    [geometry, trigrams, shapes] .initial ⟨0⟩ (by decide)
  obtain ⟨failure, hfailure, -, hnames⟩ := hfails (by decide)
  exact ⟨rfl, ⟨s, hs, (hsession s hs).1⟩, failure, hfailure, hnames⟩

end SessionBuilder

end SqlLowering
