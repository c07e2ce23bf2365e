import StreamControl.Proofs.Enduring

/-!
# User code that makes no difference

Two actions are alike where a property holds if they do the same in every such state, whatever
that is (`Action.Alike`).  A host depends on its user code only through what the programs do
to the session.  So if every program does the same before and after a translation of all
programs, wherever an enduring property holds, then so does every operation of a host
(`Host.Foreign.alike_perform`): the translation makes no difference to anything, neither to what
an operation gives nor to the host that comes of it.

Every operation is gone through once more for this.  Nothing has to be known of what its
parts do; that the property is kept on the way is known already.
-/

set_option autoImplicit false

namespace StreamControl

/-! ## Actions -/

namespace Action

variable {σ α β : Type} {P : σ → Prop}

/-- Two actions do the same wherever a property holds. -/
def Alike (P : σ → Prop) (one two : Action σ α) : Prop := ∀ state, P state → one state = two state

theorem alike_refl (action : Action σ α) : Alike P action action := fun _ _ => rfl

/-- One thing after another, when more is known in between. -/
theorem Alike.next {Q : α → σ → Prop} {one two : Action σ α} {next next' : α → Action σ β}
    (alike : Alike P one two) (yields : ∀ state, P state → one.Yields state Q)
    (further : ∀ value, Alike (Q value) (next value) (next' value)) :
    Alike P (one >>= next) (two >>= next') := by
  intro state holds
  simp only [bind_def, Action.bind, ← alike state holds]
  cases run : one state with
  | mk ending after =>
    cases ending with
    | returned value => exact further value after ((yields state holds).of_returned run)
    | _ => rfl

theorem Alike.bind {one two : Action σ α} {next next' : α → Action σ β} (alike : Alike P one two)
    (keeps : Keeps P True True one) (further : ∀ value, Alike P (next value) (next' value)) :
    Alike P (one >>= next) (two >>= next') :=
  alike.next (fun _ holds => keeps.yields holds) further

/-- The same action first. -/
theorem Keeps.alike {first : Action σ α} {next next' : α → Action σ β}
    (keeps : Keeps P True True first) (further : ∀ value, Alike P (next value) (next' value)) :
    Alike P (first >>= next) (first >>= next') :=
  (alike_refl first).bind keeps further

/-- The state is read first. -/
theorem alike_get {next next' : σ → Action σ β} (further : ∀ state, Alike P (next state) (next' state)) :
    Alike P (get >>= next) (get >>= next') := fun state => further state state

/-- The same afterwards. -/
theorem Alike.onward {one two : Action σ α} (alike : Alike P one two) (next : α → Action σ β) :
    Alike P (one >>= next) (two >>= next) := by
  intro state holds
  simp only [bind_def, Action.bind, alike state holds]

theorem Alike.trans {one two three : Action σ α} (alike : Alike P one two)
    (further : Alike P two three) : Alike P one three := fun state holds =>
  (alike state holds).trans (further state holds)

theorem Alike.attempt {one two : Action σ α} (alike : Alike P one two) :
    Alike P one.attempt two.attempt := by
  intro state holds
  rw [Action.attempt, Action.attempt, alike state holds]

theorem Alike.contain {one two : Action σ α} (alike : Alike P one two) :
    Alike P one.contain two.contain := by
  intro state holds
  rw [Action.contain, Action.contain, alike state holds]

end Action

open StreamControl.Action

variable {σ α : Type}

/-- User code is entered. -/
theorem Session.alike_call {P : Session σ → Prop} {call : Call}
    (enters : Keeps P True True (Session.record (.entered call))) (succeeds : α → Bool)
    {one two : Action (Session σ) α} (alike : Alike P one two) :
    Alike P (Session.call call succeeds one) (Session.call call succeeds two) :=
  enters.alike fun _ => alike.contain.onward _

/-- Two ways of calling user code do the same wherever a property holds. -/
structure Callees.Alike (P : Session σ → Prop) (one two : Callees σ) : Prop where
  /-- Callbacks do. -/
  callback : ∀ reference delivery,
    Action.Alike P (one.callback reference delivery) (two.callback reference delivery)
  /-- Setters do. -/
  setter : ∀ address reference requested current,
    Action.Alike P (one.setter address reference requested current)
      (two.setter address reference requested current)

/-! ## Sessions -/

namespace Session

variable {P : Session σ → Prop} (lax : Lax P) {callees callees' : Callees σ}
  (callbacks : ∀ reference delivery, Keeps P False True (callees.callback reference delivery))
  (alike : ∀ reference delivery,
    Alike P (callees.callback reference delivery) (callees'.callback reference delivery))

section Calls

include lax alike

theorem alike_dispatch (cause : Cause) (callback : Callback) (delivery : Delivery) :
    Alike P (dispatch callees cause callback delivery)
      (dispatch callees' cause callback delivery) := by
  have enters : ∀ session, P session → P { session with
      journal := session.journal.push (.entered (.callback cause callback delivery)) } := by
    intro session
    cases cause with
    | query => exact lax.recordQuery rfl
    | subscription | direct => exact lax.record rfl
  refine Alike.onward ?_ _
  rw [deliver, deliver]
  split
  · exact (alike_call (keeps_record enters) _ (alike _ _)).onward _
  · exact alike_refl _

theorem alike_recheck (ticket : Nat) (query : Query) :
    Alike P (recheck callees ticket query) (recheck callees' ticket query) := by
  refine alike_get fun session => ?_
  split
  · exact alike_refl _
  · split
    · refine (lax.keeps_claim ticket).alike fun claimed => ?_
      split
      · exact (alike_dispatch lax alike _ _ _).onward _
      · exact alike_refl _
    · exact alike_refl _

theorem alike_defer (ticket : Nat) (query : Query) :
    Alike P (defer callees ticket query) (defer callees' ticket query) := by
  refine alike_get fun session => ?_
  split
  · exact (keeps_modify fun session => lax.queue _ session.claimed session.nextTicket).alike
      fun _ => (lax.keeps_log _ _).alike fun _ => alike_recheck lax alike ticket query
  · exact alike_refl _

theorem alike_query (query : Query) :
    Alike P (Session.query callees query) (Session.query callees' query) := by
  refine alike_get fun session => ?_
  split
  · exact alike_refl _
  · refine (lax.keeps_count (by decide) _ _).alike fun _ => (lax.keeps_accept query).alike
      fun ticket => ?_
    split
    · exact (alike_dispatch lax alike _ _ _).onward _
    · exact (alike_defer lax alike _ _).onward _

include callbacks

theorem alike_sweep :
    ∀ queries, Alike P (sweep callees queries) (sweep callees' queries)
  | [] => alike_refl _
  | (ticket, query) :: rest => by
    have further := alike_sweep rest
    refine alike_get fun session => ?_
    split
    · exact further
    · refine alike_get fun session => ?_
      split
      · exact (lax.keeps_log _ _).alike fun _ => further
      · split
        · refine (lax.keeps_claim ticket).alike fun claimed => ?_
          split
          · refine (alike_dispatch lax alike _ _ _).bind (lax.keeps_answer callbacks _ _ _)
              fun outcome => ?_
            split
            · exact (lax.keeps_log _ _).alike fun _ => further.onward _
            · exact further.onward _
          · exact further
        · exact further.onward _

theorem alike_drain : Alike P (drain callees) (drain callees') := by
  refine lax.keeps_takeWaiting.alike fun first => ?_
  refine (alike_sweep lax callbacks alike first).bind
    (lax.keeps_sweep (lax.keeps_answer callbacks) first) fun _ => ?_
  refine lax.keeps_takeWaiting.alike fun second => ?_
  exact (alike_sweep lax callbacks alike second).onward _

theorem alike_dispatchAll (delivery : Delivery) :
    ∀ subscriptions, Alike P (dispatchAll callees delivery subscriptions)
      (dispatchAll callees' delivery subscriptions)
  | [] => alike_refl _
  | _ :: rest =>
    (alike_dispatch lax alike _ _ _).bind (lax.keeps_dispatch callbacks rfl _ _) fun _ =>
      (alike_dispatchAll delivery rest).onward _

theorem alike_publish (stream : StreamId) (filter name : String) (value : Value) :
    Alike P (publish callees stream filter name value)
      (publish callees' stream filter name value) := by
  refine (keeps_changeTree fun session _ tree stored => ?_).alike fun subscribers =>
    (keeps_record fun session => lax.record rfl).alike fun _ =>
      (alike_dispatchAll lax callbacks alike _ subscribers).onward _
  exact lax.edit (.store stored)

end Calls

section Requests

variable (all : callees.All (Keeps P False True)) (same : callees.Alike P callees')
include lax all

theorem keeps_serve_of_callees (request : Request) :
    Keeps P False True (serve callees request) :=
  lax.toNimble.keeps_serve all.setter (lax.keeps_publish all.callback)
    (fun query => lax.keeps_query all.callback query) request

include same

theorem alike_requestChange (stream : StreamId) (filter name : String) (type : ValueType)
    (value : Value) :
    Alike P (requestChange callees stream filter name type value)
      (requestChange callees' stream filter name type value) := by
  refine (keeps_readTree _).alike fun parameter => ?_
  split
  · split
    · exact alike_refl _
    · refine (same.setter _ _ _ _).bind ((all.setter _ _ _ _).mono False.elim id) fun answer => ?_
      cases answer with
      | some new => exact (alike_publish lax all.callback same.callback _ _ _ new).onward _
      | none => exact alike_refl _
  · exact alike_refl _

theorem alike_serve (request : Request) :
    Alike P (serve callees request) (serve callees' request) := by
  cases request with
  | query query => exact alike_query lax same.callback query
  | push owner name value => exact (alike_publish lax all.callback same.callback _ _ _ _).attempt
  | set => exact (alike_requestChange lax all same _ _ _ _ _).attempt
  | _ => exact alike_refl _

theorem alike_run (program : Program σ α) :
    Alike P (program.run callees) (program.run callees') := by
  induction program with
  | done | panic => exact alike_refl _
  | inspect next ih => exact alike_get fun session => ih session.memory
  | remember memory next ih => exact (keeps_modify fun _ => lax.memory memory).alike fun _ => ih
  | ask request next ih =>
    exact (alike_serve lax all same request).bind
      ((keeps_serve_of_callees lax all request).mono False.elim id) ih

end Requests

end Session

/-! ## Translations of user code -/

/-- User code all of whose programs are translated. -/
def UserCode.translated (translate : {α : Type} → Program σ α → Program σ α) (code : UserCode σ) :
    UserCode σ where
  callback reference delivery := translate (code.callback reference delivery)
  construct reference arguments := translate (code.construct reference arguments)
  help reference := translate (code.help reference)
  preStart reference arguments := translate (code.preStart reference arguments)
  filterHook reference hook arguments := translate (code.filterHook reference hook arguments)
  destroy reference := translate (code.destroy reference)
  filter reference function context := translate (code.filter reference function context)
  setter reference requested current := translate (code.setter reference requested current)
  nesting := code.nesting

/-- A translation makes no difference to programs that are run with any callees, where a
property holds. -/
def Unheard (translate : {α : Type} → Program σ α → Program σ α) (P : Session σ → Prop) : Prop :=
  ∀ callees : Callees σ, callees.All (Keeps P False True) → ∀ {α : Type} (program : Program σ α),
    Alike P (program.run callees) ((translate program).run callees)

namespace Unheard

variable {translate : {α : Type} → Program σ α → Program σ α} {P : Session σ → Prop}
  (unheard : Unheard translate P) (lax : Session.Lax P) (code : UserCode σ)
include unheard lax

/-- Neither does it make a difference to callbacks and setters, by how deep they nest. -/
theorem alike_callees (depth : Nat) (busy : List Address) : (code.calleesTo depth busy).Alike P
    ((code.translated translate).calleesTo depth busy) := by
  induction depth generalizing busy with
  | zero => exact ⟨fun _ _ => alike_refl _, fun _ _ _ _ => alike_refl _⟩
  | succ depth ih =>
    have run {busy : List Address} {α : Type} (program : Program σ α) :
        Alike P (program.run (code.calleesTo depth busy))
          ((translate program).run ((code.translated translate).calleesTo depth busy)) :=
      have all := lax.callees_keep code depth busy
      (unheard _ all program).trans (Session.alike_run lax all (ih busy) _)
    refine ⟨fun _ _ => run _, fun address _ _ _ => ?_⟩
    simp only [UserCode.calleesTo]
    split
    · exact alike_refl _
    · exact run _

theorem alike_drain : Alike P (Session.drain code.callees)
    (Session.drain (code.translated translate).callees) :=
  Session.alike_drain lax (lax.keeps_callback code) (unheard.alike_callees lax code _ _).callback

/-- A program that is not translated itself. -/
theorem alike_outside (program : Program σ α) :
    Alike P (code.run program) ((code.translated translate).run program) :=
  Session.alike_run lax (lax.callees_keep code _ _) (unheard.alike_callees lax code _ _) program

theorem alike_run (program : Program σ α) :
    Alike P (code.run program) ((code.translated translate).run (translate program)) :=
  (unheard _ (lax.callees_keep code _ _) program).trans (unheard.alike_outside lax code _)

end Unheard

namespace Host

open Session

/-- A translation of programs makes no difference where a property holds, and the property
endures. -/
structure Foreign (translate : {α : Type} → Program σ α → Program σ α) (code : UserCode σ)
    (P : Host σ → Prop) : Prop where
  /-- The property endures. -/
  enduring : Enduring code P
  /-- Neither small changes nor the queue affect it. -/
  lax : ∀ host : Host σ, Lax fun session => P { host with session }
  /-- There is nothing to translate in a result. -/
  done : ∀ {α : Type} (result : α), translate (.done result) = .done result
  /-- Programs do the same. -/
  unheard : ∀ host : Host σ, Unheard translate fun session => P { host with session }

theorem alike_onSession {P : Host σ → Prop} {one two : Action (Session σ) α}
    (alike : ∀ host : Host σ, Alike (fun session => P { host with session }) one two) :
    Alike P (onSession one) (onSession two) := by
  intro host holds
  rw [onSession, onSession, within, within, alike host host.session holds]

theorem Foreign.paced {translate : {α : Type} → Program σ α → Program σ α} {code : UserCode σ}
    {P : Host σ → Prop} (foreign : Foreign translate code P) : Paced code P :=
  foreign.enduring.patient.toSteady.paced

namespace Foreign

variable {translate : {α : Type} → Program σ α → Program σ α} {code : UserCode σ}
  {P : Host σ → Prop} (foreign : Foreign translate code P)
include foreign


/-! ## Hooks and filter functions -/

section Calls

variable (host : Host σ)

theorem alike_guarded (serial : Nat) (hook : Hook) (target : Option (StreamId × String))
    (succeeds : α → Bool) (program : Program σ α) :
    Alike (fun session => P { host with session })
      (guarded code serial hook target succeeds program)
      (guarded (code.translated translate) serial hook target succeeds (translate program)) :=
  (alike_call ((foreign.paced.modest host).keeps_record rfl) succeeds
    ((foreign.unheard host).alike_run (foreign.lax host) code program)).onward _

theorem alike_statusOf (serial : Nat) (hook : Hook) (target : Option (StreamId × String))
    (program : Program σ HookStatus) :
    Alike (fun session => P { host with session }) (statusOf code serial hook target program)
      (statusOf (code.translated translate) serial hook target (translate program)) :=
  (foreign.alike_guarded host serial hook target _ program).onward _

theorem alike_construct (spans : SpanConfig) (controller : LoadedController)
    (arguments : List String) :
    Alike (fun session => P { host with session }) (construct code spans controller arguments)
      (construct (code.translated translate) spans controller arguments) := by
  have modest := foreign.paced.modest host
  refine (modest.keeps_log _ _).alike fun _ => (modest.keeps_openSpan _).alike fun _ => ?_
  split
  · exact foreign.alike_statusOf host _ _ _ _
  · exact alike_refl _

theorem alike_destroy (spans : SpanConfig) (controller : LoadedController) :
    Alike (fun session => P { host with session }) (destroy code spans controller)
      (destroy (code.translated translate) spans controller) := by
  have modest := foreign.paced.modest host
  refine (modest.keeps_log _ _).alike fun _ => (modest.keeps_openSpan _).alike fun _ => ?_
  split
  · exact foreign.alike_statusOf host _ _ _ _
  · exact alike_refl _

theorem alike_callFilterHook (spans : SpanConfig) (controller : LoadedController) (hook : Hook)
    (stream : StreamId) :
    ∀ slots, Alike (fun session => P { host with session })
      (callFilterHook code spans controller hook stream slots)
      (callFilterHook (code.translated translate) spans controller hook stream slots)
  | [] => alike_refl _
  | slot :: rest => by
    have modest := foreign.paced.modest host
    have further := alike_callFilterHook spans controller hook stream rest
    refine (modest.keeps_log _ _).alike fun _ => (modest.keeps_openSpan _).alike fun _ => ?_
    refine (foreign.alike_statusOf host _ _ _ _).bind
      ((keeps_statusOf modest _ _ _ (.filterHook _ _ _)).mono False.elim id) fun status => ?_
    cases status with
    | ok => exact (keeps_pure 0).alike fun _ => further.onward _
    | failed failure =>
      exact (keeps_reportHookFailure modest _ _ _ _).alike fun _ => (keeps_pure 1).alike fun _ =>
        further.onward _

theorem alike_callFilterHook? (spans : SpanConfig) (controller : LoadedController) (hook : Hook)
    (stream : StreamId) (slots : List FilterSlot) :
    Alike (fun session => P { host with session })
      (callFilterHook? code spans controller hook stream slots)
      (callFilterHook? (code.translated translate) spans controller hook stream slots) := by
  rw [callFilterHook?, callFilterHook?]
  split
  · exact foreign.alike_callFilterHook host spans controller hook stream slots
  · exact alike_refl _

theorem alike_askAbout (spans : SpanConfig) (controller : LoadedController) (stream : StreamId)
    (slot : FilterSlot) :
    Alike (fun session => P { host with session }) (askAbout code spans controller stream slot)
      (askAbout (code.translated translate) spans controller stream slot) := by
  have modest := foreign.paced.modest host
  refine (modest.keeps_log _ _).alike fun _ => (modest.keeps_openSpan _).alike fun _ => ?_
  split
  · exact (foreign.alike_guarded host _ _ _ _ _).onward _
  · exact alike_refl _

theorem alike_askAboutAll (spans : SpanConfig) (controller : LoadedController)
    (stream : StreamId) :
    ∀ slots held, Alike (fun session => P { host with session })
      (askAboutAll code spans controller stream held slots)
      (askAboutAll (code.translated translate) spans controller stream held slots)
  | [], _ => alike_refl _
  | slot :: rest, held => by
    have modest := foreign.paced.modest host
    have further := alike_askAboutAll spans controller stream rest
    refine (foreign.alike_askAbout host spans controller stream slot).bind
      ((keeps_askAbout modest spans controller stream slot).mono False.elim id) fun answer => ?_
    dsimp only
    split
    · refine (modest.keeps_log _ _).alike fun _ => Keeps.alike ?_ fun _ =>
        (keeps_pure _).alike fun held => (further held).onward _
      exact (foreign.enduring.patient.sturdy host).keeps_emit rfl
    · exact (keeps_pure held).alike fun held => (further held).onward _

theorem alike_callFilter (function : FilterFunction) (stream : StreamId) (slot : FilterSlot) :
    Alike (fun session => P { host with session }) (callFilter code function stream slot)
      (callFilter (code.translated translate) function stream slot) := by
  have program : filterProgram (code.translated translate) slot.code function
      { stream, filter := slot.name } =
        translate (filterProgram code slot.code function { stream, filter := slot.name }) := by
    cases slot.code with
    | some reference => rfl
    | none => exact (foreign.done _).symm
  rw [callFilter, callFilter, program]
  exact (alike_call ((foreign.paced.modest host).keeps_record rfl) _
    ((foreign.unheard host).alike_run (foreign.lax host) code _)).onward _

theorem alike_constructFilters (stream : StreamId) :
    ∀ slots, Alike (fun session => P { host with session })
      (constructFilters code stream slots)
      (constructFilters (code.translated translate) stream slots)
  | [] => alike_refl _
  | slot :: rest => by
    refine Keeps.alike (fun session holds => ?_) fun _ =>
      (foreign.alike_callFilter host .construct stream slot).bind
        ((Host.keeps_callFilter (foreign.paced.modest host) _ _ _).mono False.elim id)
        fun result => (keeps_ofExcept result).alike fun _ => alike_constructFilters stream rest
    rw [meets_changeTree_unit]
    split
    · rename_i tree added
      exact foreign.enduring _ (.enroll { host with session } added) holds
    · exact ⟨trivial, holds⟩

end Calls

/-! ## Starting and stopping -/

section Cycles

theorem alike_callFilterHooks (hook : Hook) (target : Phase) (stream : StreamId)
    (slots : List FilterSlot) :
    ∀ controllers, Alike P (callFilterHooks code hook target stream slots controllers)
      (callFilterHooks (code.translated translate) hook target stream slots controllers)
  | [] => alike_refl _
  | controller :: rest => by
    have stepping := foreign.enduring.patient.stepping
    have further := alike_callFilterHooks hook target stream slots rest
    refine alike_get fun host => (alike_onSession fun host =>
      foreign.alike_callFilterHook? host _ controller hook stream slots).bind ?_ fun _ =>
        (stepping.keeps_advance _ _ _).alike fun _ => further.onward _
    exact keeps_onSession fun host =>
      (keeps_callFilterHook? (stepping.modest host) _ controller hook stream slots).mono False.elim id

theorem alike_poll (stream : StreamId) (slots : List FilterSlot) :
    ∀ controllers held, Alike P (poll code stream slots held controllers)
      (poll (code.translated translate) stream slots held controllers)
  | [], _ => alike_refl _
  | controller :: rest, held => by
    have stepping := foreign.enduring.patient.stepping
    have further := alike_poll stream slots rest
    refine (stepping.keeps_advance _ _ _).alike fun _ => alike_get fun host =>
      (alike_onSession fun host => foreign.alike_askAboutAll host _ controller stream slots held).bind
        ?_ fun _ => (further _).onward _
    exact keeps_onSession fun host => (keeps_askAboutAll (stepping.modest host)
      (fun {session} _ _ _ => stepping.tell { host with session } rfl) _ controller stream slots
        held).mono False.elim id

theorem alike_startFilter (stream : StreamId) (held : List Nat) (slot : FilterSlot) :
    Alike P (startFilter code stream held slot)
      (startFilter (code.translated translate) stream held slot) := by
  rw [startFilter, startFilter]
  split
  · exact alike_refl _
  · exact (alike_onSession fun host => foreign.alike_callFilter host .start stream slot).onward _

theorem alike_startFilters (stream : StreamId) (held : List Nat) :
    ∀ slots, Alike P (startFilters code stream held slots)
      (startFilters (code.translated translate) stream held slots)
  | [] => alike_refl _
  | slot :: rest =>
    (foreign.alike_startFilter stream held slot).bind
      (foreign.enduring.patient.stepping.keeps_startFilter (foreign.enduring _) held slot)
      fun _ => (alike_startFilters stream held rest).onward _

theorem alike_drain : Alike P (onSession (Session.drain code.callees))
    (onSession (Session.drain (code.translated translate).callees)) :=
  alike_onSession fun host => (foreign.unheard host).alike_drain (foreign.lax host) code

theorem keeps_drain_foreign : Keeps P True True (onSession (Session.drain code.callees)) :=
  fun _ holds => (meets_drain (foreign.enduring _) holds).mono (fun _ _ holds => holds)
    (fun _ _ impossible => impossible.elim) fun _ _ impossible => impossible.elim

theorem alike_start (stream : StreamId) :
    Alike P (start code stream) (start (code.translated translate) stream) := by
  have stepping := foreign.enduring.patient.stepping
  refine (keeps_attached stream).alike fun graph => ?_
  split
  · exact alike_refl _
  · refine alike_get fun host => (stepping.keeps_openSpan _).alike fun _ => ?_
    refine (foreign.alike_poll stream graph.slots _ []).bind
      (stepping.keeps_poll stream graph.slots _ []) fun polled => ?_
    refine (foreign.alike_startFilters stream _ graph.slots).bind
      (stepping.keeps_startFilters (foreign.enduring _) _ graph.slots) fun results => ?_
    refine (stepping.keeps_modifyStream stream _).alike fun _ => ?_
    refine foreign.alike_drain.bind foreign.keeps_drain_foreign fun answered => ?_
    exact (foreign.alike_callFilterHooks _ _ stream _ _).onward _

theorem alike_stopFilter (stream : StreamId) (slot : FilterSlot) :
    Alike P (stopFilter code stream slot)
      (stopFilter (code.translated translate) stream slot) :=
  (alike_onSession fun host => foreign.alike_callFilter host .stop stream slot).onward _

theorem alike_stopFilters (stream : StreamId) :
    ∀ slots, Alike P (stopFilters code stream slots)
      (stopFilters (code.translated translate) stream slots)
  | [] => alike_refl _
  | slot :: rest =>
    (foreign.alike_stopFilter stream slot).bind
      (foreign.enduring.patient.stepping.keeps_stopFilter (foreign.enduring _) slot)
      fun _ => (alike_stopFilters stream rest).onward _

theorem alike_stop (stream : StreamId) :
    Alike P (stop code stream) (stop (code.translated translate) stream) := by
  have stepping := foreign.enduring.patient.stepping
  refine (keeps_attached stream).alike fun graph => ?_
  split
  · exact alike_refl _
  · refine alike_get fun host => (stepping.keeps_openSpan _).alike fun _ => ?_
    refine (foreign.alike_callFilterHooks _ _ stream _ _).bind
      (stepping.keeps_callFilterHooks _ _ stream _ _) fun failures => ?_
    refine (foreign.alike_stopFilters stream _).bind
      (stepping.keeps_stopFilters (foreign.enduring _) _) fun refusals => ?_
    refine (stepping.keeps_modifyStream stream _).alike fun _ => ?_
    refine (foreign.alike_callFilterHooks _ _ stream _ _).bind
      (stepping.keeps_callFilterHooks _ _ stream _ _) fun more => ?_
    refine Keeps.alike (fun host holds => ?_) fun removed => foreign.alike_drain.onward _
    rw [meets_planting]
    exact foreign.enduring _ (.settle host stream) holds

end Cycles

/-! ## The other operations -/

theorem alike_addStream (graph : FilterGraph) :
    Alike P (addStream code graph) (addStream (code.translated translate) graph) := by
  -- Between taking the number and making the stream known the property need not hold.
  refine (alike_refl takeStreamId).next (Q := fun stream after => ∃ before, P before ∧
    before.nextStream + 1 ≠ 0 ∧ stream = ⟨before.nextStream⟩ ∧
      after = { before with nextStream := before.nextStream + 1 }) (fun host holds => ?_)
    fun stream => (alike_refl _).next (Q := fun _ => P) ?_ fun _ => ?_
  · rw [takeStreamId, yields_bind, yields_get]
    dsimp only
    split
    · exact trivial
    · rename_i room
      exact ⟨host, holds, room, rfl, rfl⟩
  · rintro _ ⟨before, holds, room, rfl, rfl⟩
    exact foreign.enduring _ (.attach before room) holds
  · exact (alike_onSession fun host =>
      (foreign.alike_constructFilters host stream graph.slots).attempt).onward _

theorem alike_removeStream (stream : StreamId) :
    Alike P (removeStream code stream) (removeStream (code.translated translate) stream) := by
  refine (keeps_attached stream).alike fun graph => ?_
  split
  · exact alike_refl _
  · refine (keeps_modify fun _ => foreign.paced.streams _).alike fun _ => ?_
    refine Keeps.alike (fun host holds => ?_) fun _ => foreign.alike_drain.onward _
    rw [meets_planting]
    exact foreign.enduring _ (.forget host stream) holds

theorem alike_load (path : String) (requested : Option String) (module : ControllerModule)
    (arguments : List String) :
    Alike P (load code path requested module arguments)
      (load (code.translated translate) path requested module arguments) := by
  refine alike_get fun host => (keeps_ofExcept _).alike fun name => ?_
  refine Keeps.alike (fun host holds => ?_) fun serial => (alike_onSession fun host =>
    foreign.alike_construct host _ _ arguments).onward _
  exact foreign.enduring _ (.skip host) holds

theorem alike_unload (name : String) :
    Alike P (unload code name) (unload (code.translated translate) name) := by
  refine Keeps.alike (keeps_get.bind fun host => ?_) fun controller => ?_
  · split
    · exact keeps_pure _
    · exact keeps_refuse _
  · split
    · exact alike_refl _
    · exact alike_get fun host => (alike_onSession fun host =>
        foreign.alike_destroy host _ controller).onward _

theorem alike_help (name : String) :
    Alike P (help code name) (help (code.translated translate) name) := by
  refine alike_get fun host => ?_
  split
  · exact alike_refl _
  · split
    · exact alike_onSession fun host => foreign.alike_guarded host _ _ _ _ _
    · exact alike_refl _

theorem alike_stopAll :
    ∀ streams, Alike P (stopAll code streams) (stopAll (code.translated translate) streams)
  | [] => alike_refl _
  | stream :: rest => by
    have further := alike_stopAll rest
    have stop := foreign.enduring.stoppable.keeps_stop stream
    refine (foreign.alike_stop stream).attempt.bind stop.attempt fun result => ?_
    cases result with
    | ok report => exact further
    | error fault => exact (foreign.paced.keeps_log _ _).alike fun _ => further

theorem alike_unloadAll :
    ∀ names, Alike P (unloadAll code names) (unloadAll (code.translated translate) names)
  | [] => alike_refl _
  | name :: rest => by
    have further := alike_unloadAll rest
    have unload := foreign.enduring.patient.keeps_unload (foreign.enduring _) name
    refine (foreign.alike_unload name).attempt.bind (unload.mono id False.elim).attempt fun result => ?_
    cases result with
    | ok value => exact further
    | error fault => exact (foreign.paced.keeps_log _ _).alike fun _ => further

theorem alike_shutdown : Alike P (shutdown code) (shutdown (code.translated translate)) := by
  refine alike_get fun host => ?_
  split
  · exact alike_refl _
  · refine (keeps_modify fun host => foreign.enduring _ (.shutDown host)).alike fun _ => ?_
    refine (foreign.alike_stopAll _).bind ?_ fun _ => alike_get fun between => ?_
    · exact (keeps_stopAll (fun _ _ => foreign.paced.keeps_log _ _)
        (fun stream => foreign.enduring.stoppable.keeps_stop stream) _).mono False.elim id
    · exact (foreign.alike_unloadAll _).onward _

theorem alike_drop : Alike P (drop code) (drop (code.translated translate)) :=
  foreign.alike_shutdown.contain.onward _

/-- **A translation that makes no difference to programs makes none to operations.** -/
theorem alike_perform (operation : Operation σ) :
    Alike P (operation.perform code) (operation.perform (code.translated translate)) := by
  cases operation with
  | addStream graph => exact foreign.alike_addStream graph
  | removeStream stream => exact foreign.alike_removeStream stream
  | load path requested module arguments =>
    exact foreign.alike_load path requested module arguments
  | unload name => exact foreign.alike_unload name
  | start stream => exact foreign.alike_start stream
  | stop stream => exact foreign.alike_stop stream
  | shutdown => exact foreign.alike_shutdown
  | drop => exact foreign.alike_drop
  | help name => exact foreign.alike_help name
  | outside program => exact alike_onSession fun host =>
      (foreign.unheard host).alike_outside (foreign.lax host) code program
  | listen change => exact alike_refl _

end Foreign

end Host

end StreamControl
