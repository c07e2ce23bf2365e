import StreamControl.Proofs.Enduring

/-!
# Views of the journal

A view shows what a journal has to say about one thing, in order.  Of most views it
is enough to know that they omit everything that is written while user code runs: they
are then the same before and after user code, whatever it does (`Session.lax_view`).

If a view omits all that a host writes about hooks, filters and cycles as well, then only
the ends of stops and the first and last steps of controllers are left to show in it
(`Host.survives_view`).
-/

set_option autoImplicit false

namespace StreamControl

variable {β : Type}

/-- What a journal shows of a kind, in order. -/
def Journal.view (view? : Entry → Option β) (journal : Journal) : List β :=
  journal.toList.filterMap view?

namespace Journal

variable (view? : Entry → Option β) (journal : Journal) {entry : Entry}

theorem view_push (entry : Entry) :
    Journal.view view? (journal.push entry) = journal.view view? ++ (view? entry).toList := by
  rw [view, Array.toList_push, List.filterMap_append, view]
  cases shown : view? entry <;> simp [shown]

theorem view_push_of_none (omits : view? entry = none) :
    Journal.view view? (journal.push entry) = journal.view view? := by
  rw [view_push, omits, Option.toList_none, List.append_nil]

theorem view_push_of_some {shown : β} (shows : view? entry = some shown) :
    Journal.view view? (journal.push entry) = journal.view view? ++ [shown] := by
  rw [view_push, shows, Option.toList_some]

end Journal

/-- Nothing that is written while user code runs shows. -/
def OmitsInner (view? : Entry → Option β) : Prop :=
  ∀ entry : Entry, entry.isInner = true → view? entry = none

/-- Neither does anything that a host writes about hooks, filters and cycles. -/
structure OmitsCycles (view? : Entry → Option β) : Prop where
  /-- What is written while user code runs. -/
  inner : OmitsInner view?
  /-- What is written about hooks, filters and cycles. -/
  ofHost : ∀ entry : Entry, entry.isOfHost = true → view? entry = none
  /-- The report of a failure. -/
  failure : ∀ event : Event, event.isFailure = true → view? (.sent event) = none
  /-- A count. -/
  counted : ∀ metric first second, view? (.counted metric first second) = none
  /-- The first step of a controller. -/
  joins : ∀ serial, view? (.advanced serial none .unconstructed .constructed) = none

theorem OmitsInner.grown {view? : Entry → Option β} (omits : OmitsInner view?)
    (tree : ParameterTree) : view? (.grown tree) = none := omits _ rfl

namespace Session

open StreamControl.Action

variable {σ : Type} {view? : Entry → Option β}

/-- User code changes no such view. -/
theorem lax_view (omits : OmitsInner view?) (seen : List β) :
    Lax fun session : Session σ => session.journal.view view? = seen where
  record plain same :=
    (Journal.view_push_of_none _ _ (omits _ (Entry.isInner_of_isPlain plain))).trans same
  memory _ same := same
  tally _ same := same
  channel _ same := same
  edit _ same := (Journal.view_push_of_none _ _ (omits _ rfl)).trans same
  recordQuery ofQuery same :=
    (Journal.view_push_of_none _ _ (omits _ (Entry.isInner_of_isOfQuery ofQuery))).trans same
  queue _ _ _ same := same

theorem keeps_run_view (omits : OmitsInner view?) (seen : List β) (code : UserCode σ) {α : Type}
    (program : Program σ α) :
    Keeps (fun session => session.journal.view view? = seen) False True (code.run program) :=
  (lax_view omits seen).keeps_run code program

theorem keeps_drain_view (omits : OmitsInner view?) (seen : List β) (code : UserCode σ)
    {refusal panic : Prop} :
    Keeps (fun session => session.journal.view view? = seen) refusal panic (drain code.callees) :=
  (lax_view omits seen).keeps_drain ((lax_view omits seen).keeps_callback code)

end Session

namespace Host

open StreamControl.Action Session

variable {σ : Type} {view? : Entry → Option β}

/-- Besides the end of a stop and the last step of a controller nothing shows. -/
theorem survives_view (omits : OmitsCycles view?) (seen : List β) (code : UserCode σ) {deed : Deed}
    (still : ∀ stream, deed ≠ .announce stream) (stays : deed ≠ .leave) :
    Survives code (fun host : Host σ => host.session.journal.view view? = seen) deed := by
  intro before after does same
  have quiet {entry : Entry} (none : view? entry = none) :
      Journal.view view? (before.session.journal.push entry) = seen :=
    (Journal.view_push_of_none _ _ none).trans same
  cases does with
  | stir before after session =>
    rw [session]
    exact same
  | write _ ofHost => exact quiet (omits.ofHost _ ofHost)
  | fail _ _ _ _ _ failure =>
    refine failing_of (P := fun session => session.journal.view view? = seen) (fun _ _ same => same)
      (fun _ _ _ _ same => ?_) (fun _ _ _ same => ?_) (fun _ same => ?_) same
    · exact (Journal.view_push_of_none _ _ (omits.counted _ _ _)).trans same
    · exact (Journal.view_push_of_none _ _ (omits.ofHost _ rfl)).trans same
    · exact (Journal.view_push_of_none _ _ (omits.failure _ failure)).trans same
  | run _ program _ ends | outside _ program ends =>
    exact (keeps_run_view omits.inner seen code program).of_ne_exhausted same ends
  | drain _ ends =>
    have drained : Keeps _ False False _ := keeps_drain_view omits.inner seen code
    exact drained.of_ne_exhausted same ends
  | attach | enroll | mark | settle | forget => exact quiet (omits.inner _ rfl)
  | join _ controller => exact quiet (omits.joins _)
  | announce _ stream => exact absurd rfl (still stream)
  | leave => exact absurd rfl stays
  | send | skip | shutDown | discard | close => exact same

theorem patient_view (omits : OmitsCycles view?) (seen : List β) (code : UserCode σ) :
    Patient code fun host : Host σ => host.session.journal.view view? = seen :=
  ⟨⟨survives_view omits seen code nofun nofun, survives_view omits seen code nofun nofun,
    survives_view omits seen code nofun nofun⟩, survives_view omits seen code nofun nofun⟩

end Host

end StreamControl
