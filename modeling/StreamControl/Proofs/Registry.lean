import StreamControl.Proofs.Chronicle
import StreamControl.Proofs.Courses

/-!
# The loaded controllers and their names

A host finds its controllers by name.  No two have the same name at any time
(`Registered`): a controller is loaded under a name that has been found to be
free and short enough, and nothing else gives a name to a controller.

Whatever else a host does, and however it ends, it keeps the controllers there
are, in load order (`meets_perform_onRoll`).  A load adds one at the end, and an
unload removes the one it was asked for; since the names are distinct, to remove
a controller by its identity is to remove it by its name (`filter_serial_eq`).
So a map in which every controller is filed under its name when it is loaded,
whether or not something is there, and from which its name is erased when it is
unloaded, agrees with the list at all times (`find?_directory`).
-/

set_option autoImplicit false

namespace StreamControl.Host

open StreamControl.Action

variable {σ : Type} {code : UserCode σ} {host before after : Host σ}

/-! ## Names and controllers -/

theorem controllerNames_eq_roll (host : Host σ) : host.controllerNames = host.roll.map (·.2) := by
  rw [controllerNames, roll, List.map_map]
  rfl

theorem isSome_controller?_iff {name : String} :
    (host.controller? name).isSome = true ↔ name ∈ host.controllerNames := by
  rw [controller?, List.find?_isSome, controllerNames, List.mem_map]
  simp

/-- The controllers of a host have distinct names, none longer than allowed. -/
structure Registered (host : Host σ) : Prop where
  /-- No two have the same name. -/
  distinct : host.controllerNames.Nodup
  /-- No name is longer than allowed. -/
  short : ∀ name ∈ host.controllerNames, name.utf8ByteSize ≤ host.config.maxNameLength

/-- With distinct names a controller is the one that is found under its name. -/
theorem controller?_name (distinct : host.controllerNames.Nodup) {controller : LoadedController}
    (loaded : controller ∈ host.controllers) :
    host.controller? controller.name = some controller :=
  find?_of_nodup LoadedController.name distinct loaded

/-- To remove a controller by its serial number is to remove it by its name. -/
theorem filter_serial_eq (serials : host.outline.serials.Nodup)
    (distinct : host.controllerNames.Nodup) {controller : LoadedController}
    (loaded : controller ∈ host.controllers) :
    host.controllers.filter (·.serial ≠ controller.serial) =
      host.controllers.filter (·.name ≠ controller.name) := by
  refine List.filter_congr fun other member => ?_
  have same : other.serial = controller.serial ↔ other.name = controller.name := by
    refine ⟨fun same => ?_, fun same => ?_⟩
    · have there := find?_serial serials member
      rw [same, find?_serial serials loaded] at there
      exact congrArg LoadedController.name (Option.some.inj there).symm
    · have there := controller?_name distinct member
      rw [same, controller?_name distinct loaded] at there
      exact congrArg LoadedController.serial (Option.some.inj there).symm
  simp [same]

/-! ## The map from names to controllers -/

/-- The map from names to serial numbers that comes of filing every controller
under its name when it is loaded, in place of what is filed there. -/
def directory (host : Host σ) : OrderedMap String Nat :=
  host.controllers.foldl (fun map controller => map.insert controller.name controller.serial) .empty

theorem directory_of_append {controller : LoadedController}
    (joined : after.controllers = before.controllers ++ [controller]) :
    after.directory = before.directory.insert controller.name controller.serial := by
  rw [directory, joined, List.foldl_append]
  rfl

theorem find?_foldl_insert {controllers : List LoadedController}
    (distinct : (controllers.map (·.name)).Nodup) (map : OrderedMap String Nat) (name : String) :
    (controllers.foldl (fun map controller => map.insert controller.name controller.serial)
        map).find? name =
      ((controllers.find? (·.name = name)).map (·.serial)).or (map.find? name) := by
  induction controllers generalizing map with
  | nil => rfl
  | cons first rest ih =>
    rw [List.map_cons, List.nodup_cons] at distinct
    rw [List.foldl_cons, ih distinct.2]
    by_cases here : first.name = name
    · have absent : rest.find? (·.name = name) = none := List.find?_eq_none.mpr fun other later same =>
        distinct.1 (here ▸ of_decide_eq_true same ▸ List.mem_map_of_mem later)
      rw [absent, List.find?_cons_of_pos (by simpa using here), ← here,
        OrderedMap.find?_insert_self]
      rfl
    · rw [List.find?_cons_of_neg (by simpa using here), OrderedMap.find?_insert_of_ne _ here]

/-- The map agrees with the list of controllers. -/
theorem find?_directory (distinct : host.controllerNames.Nodup) (name : String) :
    host.directory.find? name = (host.controller? name).map (·.serial) := by
  rw [directory, find?_foldl_insert distinct, OrderedMap.find?_empty, Option.or_none]
  rfl

theorem directory_of_filter (distinct : before.controllerNames.Nodup) {name : String}
    (left : after.controllers = before.controllers.filter (·.name ≠ name)) :
    after.directory = before.directory.erase name := by
  have fewer : after.controllerNames.Nodup := by
    rw [controllerNames, left]
    exact distinct.sublist (List.filter_sublist.map _)
  refine OrderedMap.ext_find? fun other => ?_
  rw [find?_directory fewer, controller?, left, List.find?_filter]
  by_cases same : name = other
  · subst same
    rw [OrderedMap.find?_erase_self, List.find?_eq_none.mpr fun controller _ => by simp]
    rfl
  · rw [OrderedMap.find?_erase_of_ne _ same, find?_directory distinct, controller?]
    congr 2
    refine funext fun controller => ?_
    by_cases here : controller.name = other
    · simp [here, Ne.symm same]
    · simp [here]

/-! ## What leaves the controllers as they are -/

/-- Something holds of the controllers of a host, by their serial numbers and
names, and the host is set up in some way. -/
structure OnRoll (Q : List (Nat × String) → Prop) (config : Config) (host : Host σ) : Prop where
  /-- What holds of the controllers. -/
  roll : Q host.roll
  /-- How the host is set up. -/
  config : host.config = config

section Frame

variable {Q : List (Nat × String) → Prop} {config : Config}

/-- User code does not touch the controllers. -/
theorem lax_onRoll (host : Host σ) :
    Session.Lax fun session : Session σ => OnRoll Q config { host with session } where
  record _ holds := ⟨holds.1, holds.2⟩
  memory _ holds := ⟨holds.1, holds.2⟩
  tally _ holds := ⟨holds.1, holds.2⟩
  channel _ holds := ⟨holds.1, holds.2⟩
  edit _ holds := ⟨holds.1, holds.2⟩
  recordQuery _ holds := ⟨holds.1, holds.2⟩
  queue _ _ _ holds := ⟨holds.1, holds.2⟩

/-- Nor do calls of hooks and of filter functions, and changes of the streams. -/
theorem paced_onRoll (code : UserCode σ) : Paced code (OnRoll Q config : Host σ → Prop) where
  modest host :=
    { remark := fun _ holds => ⟨holds.1, holds.2⟩
      fail := fun _ _ _ _ _ _ holds => ⟨holds.1, holds.2⟩
      channel := fun _ holds => ⟨holds.1, holds.2⟩
      run := fun program _ => (lax_onRoll host).keeps_run code program }
  streams _ holds := ⟨holds.1, holds.2⟩

/-- Nothing else that a host does but load and unload controllers touches them. -/
theorem survives_onRoll (code : UserCode σ) {deed : Deed} (apart : deed.isApart = true) :
    Survives code (OnRoll Q config : Host σ → Prop) deed := by
  intro before after does holds
  have lax : Session.Lax fun session : Session σ => OnRoll Q config { before with session } :=
    lax_onRoll before
  cases does with
  | outside _ program ends => exact (lax.keeps_run code program).of_ne_exhausted holds ends
  | drain _ ends =>
    have drained : Keeps _ False False _ := lax.keeps_drain (lax.keeps_callback code)
    exact drained.of_ne_exhausted holds ends
  | attach | enroll | mark | settle | announce | forget | shutDown | discard | close =>
    exact ⟨holds.1, holds.2⟩
  | _ => cases apart

section Steps

variable (nodup : ∀ roll, Q roll → (roll.map (·.1)).Nodup)
include nodup

/-- A step changes neither the serial number nor the name of a controller. -/
theorem keeps_advance_onRoll (serial : Nat) (stream? : Option StreamId) (target : Phase) :
    Keeps (OnRoll Q config : Host σ → Prop) True False (advance serial stream? target) := by
  intro host holds
  rw [advance, meets_bind, meets_get]
  split
  · exact holds
  · rename_i controller found
    rw [LoadedController.advance_eq]
    split
    · have distinct : host.outline.serials.Nodup := serials_eq_roll host ▸ nodup _ holds.roll
      have same := roll_replaced distinct (List.mem_of_find?_eq_some found) stream? target
      exact ⟨(congrArg Q same).mpr holds.roll, holds.config⟩
    · exact ⟨trivial, holds⟩

theorem stepping_onRoll (code : UserCode σ) : Stepping code (OnRoll Q config : Host σ → Prop) where
  toPaced := paced_onRoll code
  tell _ _ _ holds := ⟨holds.1, holds.2⟩
  advance serial stream target := keeps_advance_onRoll nodup serial (some stream) target

theorem keeps_stop_onRoll (code : UserCode σ) (stream : StreamId) :
    Keeps (OnRoll Q config : Host σ → Prop) True True (stop code stream) :=
  keeps_stop_of (stepping_onRoll nodup code) (survives_onRoll code rfl) (survives_onRoll code rfl)
    (survives_onRoll code rfl) (survives_onRoll code rfl)

end Steps

/-- An unload leaves some of the controllers that were there. -/
theorem keeps_unload_onRoll (fewer : ∀ ⦃some all⦄, List.Sublist some all → Q all → Q some)
    (code : UserCode σ) (name : String) :
    Keeps (OnRoll Q config : Host σ → Prop) True False (unload code name) :=
  (paced_onRoll code).keeps_unload
    (fun _ _ _ holds => ⟨fewer (List.filter_sublist.map _) holds.roll, holds.config⟩)
    (fun _ _ holds => ⟨holds.1, holds.2⟩) name

/-- What an operation may do that loads no controller keeps what holds of the
controllers, if to unload some of them does. -/
theorem meets_perform_onRoll (code : UserCode σ) {operation : Operation σ}
    (noLoad : ¬ operation.Involves host .join)
    (nodup : ∀ roll, Q roll → (roll.map (·.1)).Nodup)
    (fewer : operation.Involves host .leave → ∀ ⦃some all⦄, List.Sublist some all → Q all → Q some)
    (holds : OnRoll Q config host) :
    (operation.perform code).Meets host (fun _ => OnRoll Q config) (fun _ => OnRoll Q config)
      (fun _ => OnRoll Q config) := by
  refine (paced_onRoll code).survives_perform (fun _ _ _ apart => survives_onRoll code apart)
    (fun _ _ => stepping_onRoll nodup code) (fun stream _ => keeps_stop_onRoll nodup code stream)
    ?load ?unload holds
  case load =>
    rintro path requested module arguments rfl
    exact (noLoad trivial).elim
  case unload =>
    intro name unloads
    cases operation with
    | unload _ | shutdown | drop => exact keeps_unload_onRoll (fewer trivial) code name
    | _ => exact unloads.elim

end Frame

/-! ## Loading and unloading -/

/-- What is returned in the end, whatever comes before. -/
theorem yields_after {τ α β : Type} {first : Action τ α} {next : α → Action τ β} {state : τ}
    {returns : β → τ → Prop} (rest : ∀ value between, (next value).Yields between returns) :
    (first >>= next).Yields state returns :=
  yields_bind.mpr (.of_forall _ _ rest (fun _ _ => trivial) fun _ _ => trivial)

/-- A controller that is loaded gets a name that is free and short enough. -/
theorem yields_load_named (code : UserCode σ) (path : String) (requested : Option String)
    (module : ControllerModule) (arguments : List String) (host : Host σ) :
    (load code path requested module arguments).Yields host fun name _ =>
      name ∉ host.controllerNames ∧ name.utf8ByteSize ≤ host.config.maxNameLength := by
  rw [load, yields_bind, yields_get, yields_bind]
  cases resolved : ControllerName.resolve path requested host.config.maxNameLength
      fun name => (host.controller? name).isSome with
  | error fault => exact trivial
  | ok name =>
    obtain ⟨unused, short⟩ := ControllerName.usable_of_resolve resolved
    have free : name ∉ host.controllerNames := fun taken =>
      Bool.eq_false_iff.mp unused (isSome_controller?_iff.mpr taken)
    refine yields_pure.mpr (yields_after fun serial _ => yields_after fun status _ => ?_)
    cases status with
    | failed failure =>
      exact yields_after fun _ _ => yields_after fun _ _ => yields_after fun _ _ => trivial
    | ok =>
      refine yields_after fun step _ => yields_after fun _ _ => yields_after fun _ _ => ?_
      exact yields_after fun _ _ => yields_after fun _ _ => ⟨free, short⟩

/-- A load adds a controller at the end, under a name that can be used.  One that
fails changes neither the controllers nor how the host is set up. -/
theorem meets_load_enrolled (code : UserCode σ) (path : String) (requested : Option String)
    (module : ControllerModule) (arguments : List String) (host : Host σ) :
    (load code path requested module arguments).Meets host
      (fun name after => name ∉ host.controllerNames ∧
        name.utf8ByteSize ≤ host.config.maxNameLength ∧ after.config = host.config ∧
          ∃ controller : LoadedController, controller.name = name ∧
            after.controllers = host.controllers ++ [controller])
      (fun _ after => after.config = host.config ∧ after.controllers = host.controllers)
      (fun _ _ => False) := by
  refine ((meets_load code path requested module arguments host).with
    (yields_load_named code path requested module arguments host)).mono ?_ ?_ fun _ _ no => no
  · rintro name after ⟨⟨controller, named, loads⟩, free, short⟩
    have joined : after.controllers = host.controllers ++ [controller] :=
      congrArg Outline.controllers loads.turns.shape
    exact ⟨free, short, loads.turns.config, controller, named, joined⟩
  · rintro fault after (rfl | ⟨controller, _, turns⟩)
    · exact ⟨rfl, rfl⟩
    · exact ⟨turns.config, congrArg Outline.controllers turns.shape⟩

/-- An unload removes the controller of that name.  One that fails removes none. -/
theorem meets_unload_named {past : Past} (sound : Sound past host)
    (distinct : host.controllerNames.Nodup) (code : UserCode σ) (name : String) :
    (unload code name).Meets host
      (fun _ after => name ∈ host.controllerNames ∧
        after.controllers = host.controllers.filter (·.name ≠ name))
      (fun _ after => after.controllers = host.controllers) (fun _ _ => False) := by
  refine (meets_unload code name sound.nodup sound.destroyable).mono ?_ ?_ fun _ _ no => no
  · rintro _ after ⟨controller, found, _, turns⟩
    have member : controller ∈ host.controllers := List.mem_of_find?_eq_some found
    have named : controller.name = name := by
      simpa using List.find?_some (found : host.controllers.find? _ = _)
    have left : after.controllers = host.controllers.filter (·.serial ≠ controller.serial) :=
      congrArg Outline.controllers turns.shape
    rw [filter_serial_eq sound.nodup distinct member, named] at left
    exact ⟨isSome_controller?_iff.mp (Option.isSome_of_eq_some found), left⟩
  · rintro fault after ⟨rfl, _⟩
    rfl

/-! ## Every history -/

/-- Some of the controllers are left. -/
theorem Registered.fewer (registered : Registered before) (fewer : after.roll.Sublist before.roll)
    (config : after.config = before.config) : Registered after := by
  have names : after.controllerNames.Sublist before.controllerNames := by
    rw [controllerNames_eq_roll, controllerNames_eq_roll]
    exact fewer.map _
  exact ⟨registered.distinct.sublist names, fun name member =>
    config ▸ registered.short name (names.subset member)⟩

/-- One more controller has come. -/
theorem Registered.enrolled (registered : Registered before) {controller : LoadedController}
    (free : controller.name ∉ before.controllerNames)
    (short : controller.name.utf8ByteSize ≤ before.config.maxNameLength)
    (config : after.config = before.config)
    (joined : after.controllers = before.controllers ++ [controller]) : Registered after := by
  have names : after.controllerNames = before.controllerNames ++ [controller.name] := by
    rw [controllerNames, joined, List.map_append]
    rfl
  constructor
  · rw [names, List.nodup_append]
    refine ⟨registered.distinct, List.pairwise_singleton _ _, fun name member other here same => ?_⟩
    rw [same, List.mem_singleton.mp here] at member
    exact free member
  · rw [names, config]
    exact List.forall_mem_append.mpr ⟨registered.short, List.forall_mem_singleton.mpr short⟩

/-- What an operation that loads no controller leaves is some of the controllers that were
there, and all of them if it unloads none. -/
theorem meets_perform_fewer (code : UserCode σ) (nodup : host.outline.serials.Nodup)
    {operation : Operation σ} (noLoad : ¬ operation.Involves host .join) :
    (operation.perform code).Meets host
      (fun _ => OnRoll (List.Sublist · host.roll) host.config)
      (fun _ => OnRoll (List.Sublist · host.roll) host.config)
      (fun _ => OnRoll (List.Sublist · host.roll) host.config) := by
  rw [serials_eq_roll] at nodup
  exact meets_perform_onRoll code noLoad (fun _ fewer => nodup.sublist (fewer.map _))
    (fun _ _ _ fewer rest => fewer.trans rest) ⟨List.Sublist.refl _, rfl⟩

theorem meets_perform_same (code : UserCode σ) (nodup : host.outline.serials.Nodup)
    {operation : Operation σ} (noLoad : ¬ operation.Involves host .join)
    (noUnload : ¬ operation.Involves host .leave) :
    (operation.perform code).Meets host (fun _ => OnRoll (· = host.roll) host.config)
      (fun _ => OnRoll (· = host.roll) host.config)
      (fun _ => OnRoll (· = host.roll) host.config) := by
  rw [serials_eq_roll] at nodup
  exact meets_perform_onRoll code noLoad (fun _ same => same ▸ nodup)
    (fun unloads => (noUnload unloads).elim) ⟨rfl, rfl⟩

/-- At all times the controllers have distinct names that are short enough. -/
theorem History.registered {history : History σ} (reachable : history.Reachable code) :
    Registered history.host := by
  refine reachable.induction (motive := fun history => Registered history.host) ?new ?step
  case new => exact fun channel config memory => ⟨List.nodup_nil, nofun⟩
  case step =>
    intro history operation reachable registered _ ends
    have sound := History.sound reachable
    by_cases loads : operation.Involves history.host .join
    · cases operation with
      | load path requested module arguments =>
        have after : Meets (load code path requested module arguments) history.host
            (fun _ => Registered) (fun _ => Registered) (fun _ => Registered) := by
          refine (meets_load_enrolled code path requested module arguments _).mono ?_ ?_
            fun _ _ no => no.elim
          · rintro _ after ⟨free, short, config, controller, rfl, joined⟩
            exact registered.enrolled free short config joined
          · rintro fault after ⟨config, same⟩
            exact registered.fewer (by rw [roll, roll, same]) config
        exact after.of_ne_exhausted ends
      | _ => exact loads.elim
    · have after : Meets (operation.perform code) history.host
          (fun _ => Registered) (fun _ => Registered) (fun _ => Registered) :=
        (meets_perform_fewer code sound.nodup loads).mono
          (fun _ _ left => registered.fewer left.roll left.config)
          (fun _ _ left => registered.fewer left.roll left.config)
          fun _ _ left => registered.fewer left.roll left.config
      exact after.of_ne_exhausted ends

/-- **The names of the controllers.**  At all times they are distinct and short enough, and
are those under which a controller is found: at every place of the load order the one whose
name is there.  A map in which controllers are filed by name agrees with that.  A load adds
a controller at the end under a name that nothing has, and files it.  An unload removes the
controller of that name from the list and from the map, and leaves the others in their
order.  A load or an unload that fails leaves the list as it is; neither panics.  No other
operation loads a controller or moves one, however it ends, and only a shutdown, which
unloads controllers, removes any. -/
theorem registry_consistent {history : History σ} (reachable : history.Reachable code) :
    history.host.controllerNames.Nodup ∧
    (∀ name ∈ history.host.controllerNames,
      name.utf8ByteSize ≤ history.host.config.maxNameLength) ∧
    (∀ name, name ∈ history.host.controllerNames ↔
      (history.host.controllerPhase name).isSome = true) ∧
    (∀ (place : Nat) (name : String), history.host.controllerNames[place]? = some name →
      history.host.controller? name = history.host.controllers[place]?) ∧
    (∀ name, history.host.directory.find? name =
      (history.host.controller? name).map (·.serial)) ∧
    (∀ path requested module arguments,
      (load code path requested module arguments).Meets history.host
        (fun name after => name ∉ history.host.controllerNames ∧
          ∃ controller : LoadedController, controller.name = name ∧
            after.controllers = history.host.controllers ++ [controller] ∧
            after.directory = history.host.directory.insert name controller.serial)
        (fun _ after => after.controllers = history.host.controllers) (fun _ _ => False)) ∧
    (∀ name, (unload code name).Meets history.host
      (fun _ after => name ∈ history.host.controllerNames ∧
        after.controllers = history.host.controllers.filter (·.name ≠ name) ∧
        after.directory = history.host.directory.erase name)
      (fun _ after => after.controllers = history.host.controllers) (fun _ _ => False)) ∧
    ∀ operation : Operation σ, ¬ operation.Involves history.host .join →
      (operation.perform code).Meets history.host
        (fun _ after => after.roll.Sublist history.host.roll)
        (fun _ after => after.roll.Sublist history.host.roll)
        (fun _ after => after.roll.Sublist history.host.roll) ∧
      (¬ operation.Involves history.host .leave →
        (operation.perform code).Meets history.host (fun _ after => after.roll = history.host.roll)
          (fun _ after => after.roll = history.host.roll)
          (fun _ after => after.roll = history.host.roll)) := by
  have sound := History.sound reachable
  obtain ⟨distinct, short⟩ := History.registered reachable
  refine ⟨distinct, short, fun name => ?_, fun place name there => ?_, find?_directory distinct,
    fun path requested module arguments => ?_, fun name => ?_, fun operation noLoad => ⟨?_, ?_⟩⟩
  · rw [controllerPhase, Option.isSome_map, isSome_controller?_iff]
  · rw [controllerNames, List.getElem?_map] at there
    obtain ⟨controller, here, rfl⟩ := Option.map_eq_some_iff.mp there
    rw [here]
    exact controller?_name distinct (List.mem_of_getElem? here)
  · refine (meets_load_enrolled code path requested module arguments history.host).mono ?_
      (fun _ _ both => both.2) fun _ _ no => no
    rintro _ after ⟨free, _, _, controller, rfl, joined⟩
    exact ⟨free, controller, rfl, joined, directory_of_append joined⟩
  · refine (meets_unload_named sound distinct code name).imp ?_
    rintro _ after ⟨member, left⟩
    exact ⟨member, left, directory_of_filter distinct left⟩
  · exact (meets_perform_fewer code sound.nodup noLoad).mono (fun _ _ left => left.roll)
      (fun _ _ left => left.roll) fun _ _ left => left.roll
  · exact fun noUnload => (meets_perform_same code sound.nodup noLoad noUnload).mono
      (fun _ _ left => left.roll) (fun _ _ left => left.roll) fun _ _ left => left.roll

/-- A history in which two controllers are loaded from one path, a third is refused the name
of another, and the first leaves and comes again. -/
def returnedHistory : History Unit :=
  .after idleCode { episodes := [], host := freshHost }
    [.load "controllers/mon.so" none { code := 0, hooks := [] } [],
      .load "controllers/mon.so" none { code := 0, hooks := [] } [],
      .load "gate.so" (some "gate") { code := 0, hooks := [] } [],
      .load "other.so" (some "gate") { code := 0, hooks := [] } [],
      .unload "mon",
      .load "controllers/mon.so" none { code := 0, hooks := [] } []]

theorem returnedHistory_reachable : returnedHistory.Reachable idleCode := by
  refine ⟨_, _, _, create_freshHost, History.leads_after _ ⟨⟨⟨?_, nofun⟩, ?_⟩,
    ⟨⟨?_, nofun⟩, ?_⟩, ⟨⟨?_, nofun⟩, ?_⟩, ⟨⟨?_, nofun⟩, ?_⟩, ⟨⟨?_, nofun⟩, ?_⟩,
    ⟨⟨?_, nofun⟩, ?_⟩, trivial⟩⟩
  all_goals decide +kernel

/-- The one that came again is the last, and is found there; without the one in the middle
the other two are in the order they were in. -/
theorem registry_consistent_returned :
    returnedHistory.host.controllerNames = ["mon-2", "gate", "mon"] ∧
      returnedHistory.host.controller? "mon" = returnedHistory.host.controllers[2]? ∧
      (unload idleCode "gate").Meets returnedHistory.host
        (fun _ after => after.controllerNames = ["mon-2", "mon"]) (fun _ _ => True)
        (fun _ _ => False) := by
  have names : returnedHistory.host.controllerNames = ["mon-2", "gate", "mon"] := by
    decide +kernel
  obtain ⟨_, _, _, places, _, _, unloads, _⟩ := registry_consistent returnedHistory_reachable
  refine ⟨names, places 2 "mon" (by rw [names]; rfl), ?_⟩
  refine (unloads "gate").mono (fun _ after left => ?_) (fun _ _ _ => trivial) fun _ _ no => no
  rw [controllerNames, left.2.1]
  decide +kernel

end StreamControl.Host
