import StreamControl.Proofs.Courses

/-!
# Phases in every history

As long as no filter has panicked no start and no stop has broken off, and the
phases of a controller say exactly which streams it is running
(`phase_coherence`).
-/

set_option autoImplicit false

namespace StreamControl.Host

open StreamControl.Action Session

variable {σ : Type}

/-- **Phase coherence.** As long as no filter has panicked, a controller is
started with exactly the running streams that were last started while it was
loaded.  With every other stream it has no phase yet or is stopped. -/
theorem phase_coherence {code : UserCode σ} {history : History σ}
    (reachable : history.Reachable code) (calm : history.host.Calm) {name : String}
    {controller : LoadedController} (loaded : history.host.controller? name = some controller)
    (stream : StreamId) :
    (history.host.controllerStreamPhase name stream = none ∨
      history.host.controllerStreamPhase name stream = some .started ∨
      history.host.controllerStreamPhase name stream = some .stopped) ∧
    (history.host.controllerStreamPhase name stream = some .started ↔
      history.host.Runs stream ∧ history.SawLastStart controller.serial stream) ∧
    (¬ history.host.Runs stream →
      history.host.controllerStreamPhase name stream = none ∨
        history.host.controllerStreamPhase name stream = some .stopped) := by
  have sound := History.sound reachable
  have fits := (sound.stands controller (List.mem_of_find?_eq_some loaded)).fits stream
  obtain ⟨noStart, noStop⟩ := sound.calm calm controller.serial stream
  rw [History.saw_iff reachable] at fits
  rw [controllerStreamPhase, loaded, Option.bind_some]
  have phases : controller.streamPhases.find? stream = none ∨
      controller.streamPhases.find? stream = some .started ∨
      controller.streamPhases.find? stream = some .stopped := by
    cases found : controller.streamPhases.find? stream with
    | none => exact .inl rfl
    | some phase =>
      rw [found] at fits
      refine .inr ?_
      rcases fits.cyclic phase rfl with rfl | active
      · exact .inr rfl
      · cases phase with
        | started => exact .inl rfl
        | preStarted => exact absurd (fits.preStarted.mp rfl) noStart
        | preStopped => exact absurd (fits.preStopped.mp rfl) noStop
        | _ => cases active
  refine ⟨phases, ?_, fun idle => ?_⟩
  · rw [fits.started]
    exact ⟨fun all => ⟨all.1, all.2.1⟩, fun both => ⟨both.1, both.2, noStop⟩⟩
  · rcases phases with none | started | stopped
    · exact .inl none
    · exact absurd (fits.started.mp started).1 idle
    · exact .inr stopped

/-- A host on which a stream has been started, and of two controllers one was
loaded before and one after. -/
def lateHistory : History Unit :=
  .after idleCode { episodes := [], host := freshHost }
    [.load "early" none { code := 0, hooks := [] } [],
      .addStream (FilterGraph.empty.append "source" none),
      .start ⟨1⟩,
      .load "late" none { code := 0, hooks := [] } []]

theorem lateHistory_reachable : lateHistory.Reachable idleCode := by
  refine ⟨_, _, _, create_freshHost, History.leads_after _ ⟨⟨⟨?_, nofun⟩, ?_⟩,
    ⟨⟨?_, ?_⟩, ?_⟩, ⟨⟨?_, nofun⟩, ?_⟩, ⟨⟨?_, nofun⟩, ?_⟩, trivial⟩⟩
  case refine_4 =>
    intro graph same
    cases same
    exact .add .new rfl
  all_goals decide +kernel

/-- The controller that was loaded late has no phase with the running stream. -/
theorem phase_coherence_late :
    lateHistory.host.Calm ∧
      (lateHistory.host.controllerStreamPhase "late" ⟨1⟩ = some .started ↔
        lateHistory.host.Runs ⟨1⟩ ∧ lateHistory.SawLastStart 1 ⟨1⟩) := by
  have calm : lateHistory.host.Calm := by
    decide +kernel
  have late : (lateHistory.host.controller? "late").map (·.serial) = some 1 := by
    decide +kernel
  obtain ⟨controller, loaded, serial⟩ := Option.map_eq_some_iff.mp late
  have coherent := (phase_coherence lateHistory_reachable calm loaded ⟨1⟩).2.1
  rw [serial] at coherent
  exact ⟨calm, coherent⟩

end StreamControl.Host
