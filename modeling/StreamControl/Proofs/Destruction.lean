import StreamControl.Proofs.Exhaustion
import StreamControl.Proofs.HookOrder
import StreamControl.Proofs.Lifetimes
import StreamControl.Proofs.Trails

/-!
# Destroy hooks

An unload looks at the phases that a controller has with its streams, but the step to
`destroyed` is taken from the phase that it has as a whole, and that is the phase of its
last step with whichever stream.  The two agree: a controller that is inside a cycle as a
whole is inside it with some stream (`Sound.inside`), also when a filter has panicked and
has left it there.  So an unload that has got past its check calls the destroy hook, takes
the step and removes the controller, and it is never refused in between.

A controller whose destroy hook has been called is therefore gone, and its serial number is
not given out again.  That no destroy hook is called twice (`destroyed_once`) follows turn by
turn: only an unload calls one (`Turn.demises`), and it removes the controller.
-/

set_option autoImplicit false

namespace StreamControl

theorem Outline.not_mem_unloaded (outline : Outline) (serial : Nat) :
    serial ∉ (outline.unloaded serial).serials := by
  intro present
  obtain ⟨other, among, same⟩ := List.mem_map.mp present
  exact of_decide_eq_true (List.mem_filter.mp among).2 same

/-- The controller whose destroy hook a call is, if it is one. -/
def Visit.demise? : Visit → Option Nat
  | .hook controller .destroy _ => some controller
  | _ => none

namespace Host

open StreamControl.Action Session

variable {σ : Type}

/-- The controllers whose destroy hooks have been called, in order. -/
def demises (host : Host σ) : List Nat := host.visits.filterMap Visit.demise?

section Turns

variable {fresh : FilterGraph → Prop} {past past' : Past} {before after : Host σ}

/-! ## Which turns call destroy hooks -/

theorem demises_of_wrote {visits : List Visit} (wrote : Wrote visits before.session after.session) :
    after.demises = before.demises ++ visits.filterMap Visit.demise? := by
  rw [demises, Host.visits, wrote.visits_eq, List.filterMap_append]
  rfl

/-- None of some calls is one of a destroy hook. -/
def Harmless (visits : List Visit) : Prop := ∀ visit ∈ visits, visit.demise? = none

theorem Harmless.append {visits more : List Visit} (one : Harmless visits) (other : Harmless more) :
    Harmless (visits ++ more) := List.forall_mem_append.mpr ⟨one, other⟩

theorem Harmless.demises {visits : List Visit} (harmless : Harmless visits)
    (wrote : Wrote visits before.session after.session) : after.demises = before.demises := by
  rw [demises_of_wrote wrote, List.filterMap_eq_nil_iff.mpr harmless, List.append_nil]

theorem harmless_hookRound {hook : Hook} (other : hook ≠ .destroy) (stream : StreamId)
    (slots : List FilterSlot) (controllers : List LoadedController) :
    Harmless (hookRound hook stream slots controllers) := by
  intro visit member
  obtain ⟨serial, filter, rfl⟩ := eq_hook_of_mem_hookRound member
  cases hook <;> first | rfl | exact absurd rfl other

theorem harmless_startVisits (stream : StreamId) (results : List (FilterSlot × StartResult)) :
    Harmless (results.flatMap (startVisits stream)) := by
  intro visit member
  obtain ⟨⟨slot, result⟩, _, inside⟩ := List.mem_flatMap.mp member
  cases result with
  | vetoed => cases inside
  | started | failed =>
    rw [List.mem_singleton.mp inside]
    rfl

theorem harmless_stopVisits (stream : StreamId) (results : List (FilterSlot × Except Fault Unit)) :
    Harmless (results.map (stopVisit stream)) := by
  intro visit member
  obtain ⟨⟨slot, result⟩, _, rfl⟩ := List.mem_map.mp member
  rfl

theorem harmless_filter (function : FilterFunction) (stream : StreamId) (filter : String)
    (exit : Exit) : Harmless [.filter function stream filter exit] :=
  List.forall_mem_singleton.mpr rfl

theorem harmless_constructions {stream : StreamId} {visits : List Visit}
    (constructions : ∀ visit ∈ visits, IsConstruction stream visit) : Harmless visits := by
  intro visit member
  obtain ⟨filter, exit, rfl⟩ := constructions visit member
  rfl

theorem harmless_construct (controller : LoadedController) :
    Harmless (plainCall controller .construct) := by
  intro visit member
  rw [eq_hook_of_mem_plainCall member]
  rfl

/-- Only an unload calls a destroy hook, that of the controller that it removes. -/
theorem Turn.demises (turn : Turn fresh past before past' after) :
    after.demises = before.demises ∨ ∃ controller ∈ before.controllers,
      after.demises = before.demises ++ [controller.serial] ∧
        after.outline = before.outline.unloaded controller.serial := by
  cases turn with
  | quiet beside turns =>
    refine .inl (Harmless.demises (fun visit member => ?_) turns.wrote)
    obtain ⟨serial, rfl⟩ := beside visit member
    rfl
  | aside _ journal =>
    rw [Host.demises, Host.visits, journal]
    exact .inl rfl
  | reject _ turns => exact .inl ((harmless_construct _).demises turns.wrote)
  | load loads => exact .inl ((harmless_construct _).demises loads.turns.wrote)
  | @unload controller _ member _ turns =>
    rw [demises_of_wrote turns.wrote, plainCall]
    split
    · exact .inr ⟨controller, member, rfl, turns.shape⟩
    · exact .inl (List.append_nil _)
  | attach _ _ _ numbers =>
    exact .inl ((harmless_constructions numbers.constructions).demises numbers.wrote)
  | unattach numbers =>
    exact .inl ((harmless_constructions numbers.constructions).demises numbers.wrote)
  | detach _ _ detaches => exact .inl (Harmless.demises (List.forall_mem_nil _) detaches.wrote)
  | start _ _ starts =>
    exact .inl ((((harmless_hookRound (by decide) _ _ _).append (harmless_startVisits _ _)).append
      (harmless_hookRound (by decide) _ _ _)).demises starts.turns.wrote)
  | breakStart _ _ breaks =>
    obtain ⟨results, slot, rest, _, turns⟩ := breaks.turns
    exact .inl (((harmless_hookRound (by decide) _ _ _).append
      ((harmless_startVisits _ _).append (harmless_filter _ _ _ _))).demises turns.wrote)
  | stop _ _ stops =>
    obtain ⟨results, _, turns⟩ := stops.turns
    exact .inl ((((harmless_hookRound (by decide) _ _ _).append (harmless_stopVisits _ _)).append
      (harmless_hookRound (by decide) _ _ _)).demises turns.wrote)
  | breakStop _ _ breaks =>
    obtain ⟨results, slot, rest, _, turns⟩ := breaks.turns
    exact .inl (((harmless_hookRound (by decide) _ _ _).append
      ((harmless_stopVisits _ _).append (harmless_filter _ _ _ _))).demises turns.wrote)

/-! ## No destroy hook is called twice -/

/-- Every destroy hook has been called at most once, and on a controller that is gone. -/
structure Demised (host : Host σ) : Prop where
  /-- None has been called twice. -/
  nodup : host.demises.Nodup
  /-- The controllers are gone, and their serial numbers are used up. -/
  gone : ∀ serial ∈ host.demises, serial < host.nextSerial ∧ serial ∉ host.outline.serials

theorem Demised.turn (demised : Demised before) (sound : Sound past before)
    (turn : Turn fresh past before past' after) : Demised after := by
  obtain ⟨grown, among⟩ := turn.serials
  have still (serial : Nat) (member : serial ∈ before.demises) :
      serial < after.nextSerial ∧ serial ∉ after.outline.serials := by
    obtain ⟨old, absent⟩ := demised.gone serial member
    refine ⟨Nat.lt_of_lt_of_le old grown, fun present => ?_⟩
    exact (among serial present).elim absent (Nat.not_le_of_lt old)
  rcases turn.demises with same | ⟨controller, member, one, left⟩
  · exact ⟨same ▸ demised.nodup, fun serial member => still serial (same ▸ member)⟩
  · have loaded := before.outline.mem_serials member
    refine ⟨?_, fun serial member => ?_⟩
    · rw [one]
      refine List.nodup_append.mpr
        ⟨demised.nodup, List.pairwise_singleton _ _, fun serial old _ new => ?_⟩
      rintro rfl
      exact (demised.gone serial old).2 (List.mem_singleton.mp new ▸ loaded)
    · rw [one] at member
      rcases List.mem_append.mp member with old | new
      · exact still serial old
      · rw [List.mem_singleton.mp new]
        exact ⟨Nat.lt_of_lt_of_le (sound.bound _ loaded) grown,
          left ▸ before.outline.not_mem_unloaded controller.serial⟩

end Turns

theorem History.demised {code : UserCode σ} {history : History σ}
    (reachable : history.Reachable code) : Demised history.host :=
  reachable.turn_induction (motive := fun _ host => Demised host)
    (fun _ _ _ => ⟨List.nodup_nil, nofun⟩) fun sound demised => demised.turn sound

/-! ## An unload that has got past its check -/

variable {code : UserCode σ} {host : Host σ}

/-- A controller that is inside a cycle as a whole is inside it with the stream of its last
step. -/
theorem Sound.inside {past : Past} (sound : Sound past host) {controller : LoadedController}
    (member : controller ∈ host.controllers) (active : controller.phase.isActive = true) :
    ∃ stream ∈ controller.activeStreams,
      controller.streamPhases.find? stream = some controller.phase := by
  rcases (sound.stands controller member).whole with constructed | ⟨stream, found⟩
  · rw [constructed] at active
    cases active
  · exact ⟨stream, LoadedController.mem_activeStreams.mpr ⟨_, found, active⟩, found⟩

section Exhaustion

variable {α β : Type}

theorem exhausts_onSession {action : Action (Session σ) α} :
    (onSession action).Exhausts host ↔ action.Exhausts host.session := Iff.rfl

theorem not_exhausts_onSession {action : Action (Session σ) α}
    (never : ∀ session, ¬ action.Exhausts session) (host : Host σ) :
    ¬ (onSession action).Exhausts host := never host.session

theorem not_exhausts_ofExcept (result : Except Fault α) (host : Host σ) :
    ¬ (Action.ofExcept result : Action (Host σ) α).Exhausts host := by
  cases result <;> nofun

theorem not_exhausts_advance (serial : Nat) (stream : Option StreamId) (target : Phase) :
    ∀ host : Host σ, ¬ (advance serial stream target).Exhausts host := by
  refine not_exhausts_bind not_exhausts_get fun host => ?_
  split
  · exact not_exhausts_pure ()
  · refine not_exhausts_bind (not_exhausts_ofExcept _) fun _ => ?_
    exact not_exhausts_bind (not_exhausts_modify _) fun _ => not_exhausts_onSession
      (not_exhausts_bind (not_exhausts_record _) fun _ => not_exhausts_emit _)

theorem not_exhausts_reportHookFailure (controller : String) (hook : Hook)
    (target : Option (StreamId × String)) (failure : Int32) :
    ∀ session : Session σ, ¬ (reportHookFailure controller hook target failure).Exhausts session :=
  not_exhausts_bind (not_exhausts_record _) fun _ =>
    not_exhausts_bind (not_exhausts_record _) fun _ => not_exhausts_emit _

/-- An unload is exhausted only with the destroy hook. -/
theorem exhausts_unload {name : String} {controller : LoadedController}
    (found : host.controller? name = some controller)
    (exhausts : (unload code name).Exhausts host) :
    (destroy code host.config.spans controller).Exhausts host.session := by
  have loaded : loaded name host = (.returned controller, host) := by
    rw [Host.loaded, bind_of_returned (rfl : (get : Action (Host σ) _) host = _), found]
    rfl
  rw [Action.Exhausts, unload, bind_of_returned loaded] at exhausts
  cases active : controller.activeStreams with
  | cons stream rest =>
    rw [active] at exhausts
    cases exhausts
  | nil =>
    rw [active] at exhausts
    have leaves : ∀ host : Host σ, ¬ (do
        advance controller.serial none .destroyed
        modify fun host =>
          { host with controllers := host.controllers.filter (·.serial ≠ controller.serial) }
        onSession (Session.log .info "controller unloaded")
        onSession (Session.emit (.controllerUnloaded name)) : Action (Host σ) Unit).Exhausts host :=
      not_exhausts_bind (not_exhausts_advance _ _ _) fun _ =>
        not_exhausts_bind (not_exhausts_modify _) fun _ =>
          not_exhausts_bind (not_exhausts_onSession (not_exhausts_record _)) fun _ =>
            not_exhausts_onSession (not_exhausts_emit _)
    refine exhausts_onSession.mp ((exhausts_bind_iff fun status => ?_).mp
      (exhausts_get_bind.mp exhausts))
    cases status with
    | ok => exact leaves
    | failed failure =>
      exact not_exhausts_bind (not_exhausts_onSession
        (not_exhausts_reportHookFailure _ _ _ _)) fun _ => leaves

end Exhaustion

/-- **Destroy hooks are not called for nothing, and never twice.**  In every history, whatever
panics and breaks off:

* a controller that is inside a cycle as a whole is inside it with one of its streams;
* an unload of a controller that is inside no cycle with a stream calls the destroy hook if the
  controller fills it, takes the step to `destroyed` and removes the controller, unless the
  hook never ends;
* no destroy hook has been called twice, and a controller whose destroy hook has been called is
  gone. -/
theorem destroyed_once {history : History σ} (reachable : history.Reachable code) :
    (∀ controller ∈ history.host.controllers, controller.phase.isActive = true →
      ∃ stream ∈ controller.activeStreams,
        controller.streamPhases.find? stream = some controller.phase) ∧
    (∀ name controller, history.host.controller? name = some controller →
      controller.activeStreams = [] →
        (destroy code history.host.config.spans controller).Exhausts history.host.session ∨
          ∃ after, unload code name history.host = (.returned (), after) ∧
            after.visits = history.host.visits ++ plainCall controller .destroy ∧
            history.host.stages controller.serial = [.constructed] ∧
            after.stages controller.serial = [.constructed, .destroyed] ∧
            after.controllers = history.host.controllers.filter (·.serial ≠ controller.serial)) ∧
    history.host.demises.Nodup ∧
    ∀ serial ∈ history.host.demises, serial < history.host.nextSerial ∧
      serial ∉ history.host.outline.serials := by
  have sound := History.sound reachable
  have careers := History.careers reachable
  have demised := History.demised reachable
  refine ⟨fun controller member => sound.inside member, fun name controller found outside => ?_,
    demised.nodup, demised.gone⟩
  have member := history.host.outline.mem_serials (List.mem_of_find?_eq_some found)
  have meets := (meets_unload code name sound.nodup sound.destroyable).and
    ((enduring_careers code).patient.keeps_unload (enduring_careers code _) name _ careers)
  have never : (unload code name).Meets history.host
      (fun _ after => Turns (plainCall controller .destroy)
        (history.host.outline.unloaded controller.serial) history.host after ∧ after.Careers)
      (fun _ _ => False) (fun _ _ => False) := by
    refine meets.mono ?_ ?_ fun _ _ both => both.1
    · rintro _ after ⟨⟨other, same, _, turns⟩, careers⟩
      obtain rfl : controller = other := Option.some.inj (found.symm.trans same)
      exact ⟨turns, careers⟩
    · rintro fault after ⟨⟨_, blocked⟩, _⟩
      obtain ⟨stream, rest, active, _⟩ := blocked controller found
      cases outside.symm.trans active
  rcases never.exhausts_or with exhausts | ⟨_, after, run, turns, later⟩
  · exact .inl (exhausts_unload found exhausts)
  · refine .inr ⟨after, run, turns.wrote.visits_eq, (careers.loaded _ member).2, ?_,
      congrArg Outline.controllers turns.shape⟩
    have gone : controller.serial ∉ after.outline.serials :=
      turns.shape ▸ history.host.outline.not_mem_unloaded controller.serial
    refine ((later.gone _ gone).resolve_left fun none => ?_).2
    obtain ⟨entries, written, _⟩ := turns.wrote.written
    have constructed := (careers.loaded _ member).2
    rw [stages, Journal.stages, stagesAmong, written, List.filterMap_append] at none
    rw [stages, Journal.stages, stagesAmong, (List.append_eq_nil_iff.mp none).1] at constructed
    cases constructed

/-- A history in which the start of a stream breaks off while a controller is loaded, and
another controller comes and goes. -/
def lingeringHistory : History Unit :=
  .after brittleCode { episodes := [], host := freshHost }
    [.load "mixer" none { code := 0, hooks := [.destroy] } [],
      .addStream (FilterGraph.empty.append "source" (some 0)), .start ⟨1⟩,
      .load "limiter" none { code := 0, hooks := [.destroy] } [],
      .load "gate" none { code := 0, hooks := [.destroy] } [], .unload "limiter"]

theorem lingeringHistory_reachable : lingeringHistory.Reachable brittleCode := by
  refine ⟨_, _, _, create_freshHost, History.leads_after _ ⟨⟨⟨?_, nofun⟩, ?_⟩,
    ⟨⟨?_, ?attach⟩, ?_⟩, ⟨⟨?_, nofun⟩, ?_⟩, ⟨⟨?_, nofun⟩, ?_⟩, ⟨⟨?_, nofun⟩, ?_⟩,
    ⟨⟨?_, nofun⟩, ?_⟩, trivial⟩⟩
  case attach =>
    intro graph same
    cases same
    exact .add .new rfl
  all_goals decide +kernel

/-- The controller that was there when the start broke off is inside a cycle with the stream;
the one that has gone was destroyed once, and the third can be unloaded. -/
theorem destroyed_once_lingering :
    ¬ lingeringHistory.host.Calm ∧ lingeringHistory.host.demises = [1] ∧
      1 ∉ lingeringHistory.host.outline.serials ∧
      (∃ controller, lingeringHistory.host.controller? "mixer" = some controller ∧
        controller.phase = .preStarted ∧ ∃ stream ∈ controller.activeStreams,
          controller.streamPhases.find? stream = some controller.phase) ∧
      ∃ after, unload brittleCode "gate" lingeringHistory.host = (.returned (), after) ∧
        after.stages 2 = [.constructed, .destroyed] := by
  have alarmed : ¬ lingeringHistory.host.Calm := by
    decide +kernel
  have demises : lingeringHistory.host.demises = [1] := by
    decide +kernel
  have mixer : (lingeringHistory.host.controller? "mixer").map (·.phase) = some .preStarted := by
    decide +kernel
  have gate : (lingeringHistory.host.controller? "gate").map
      (fun controller => (controller.serial, controller.activeStreams)) = some (2, []) := by
    decide +kernel
  obtain ⟨inside, unloads, _, gone⟩ := destroyed_once lingeringHistory_reachable
  obtain ⟨controller, loaded, phase⟩ := Option.map_eq_some_iff.mp mixer
  have member : controller ∈ lingeringHistory.host.controllers := List.mem_of_find?_eq_some loaded
  refine ⟨alarmed, demises, (gone 1 (demises ▸ List.mem_singleton_self 1)).2,
    ⟨controller, loaded, phase, inside controller member (by rw [phase]; rfl)⟩, ?_⟩
  obtain ⟨other, there, both⟩ := Option.map_eq_some_iff.mp gate
  obtain ⟨serial, outside⟩ := Prod.mk.inj both
  have ends : ∀ other ∈ lingeringHistory.host.controllers, (destroy brittleCode
      lingeringHistory.host.config.spans other lingeringHistory.host.session).1 ≠ .exhausted := by
    decide +kernel
  rcases unloads "gate" other there outside with exhausts | ⟨after, run, _, _, stages, _⟩
  · exact absurd exhausts (ends other (List.mem_of_find?_eq_some there))
  · exact ⟨after, run, serial ▸ stages⟩

end Host

end StreamControl
