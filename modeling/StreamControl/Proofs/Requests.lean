import StreamControl.Proofs.DeadContexts
import StreamControl.Proofs.Pushes
import StreamControl.Proofs.Typing

/-!
# Requests that are refused, and requests of change

A request of the parameter tree is refused before anything is done about it: the
look-ups and the checks come first, and what follows them (handing a new value to the
subscribers) is never refused.  The one thing that may have run by then is a setter,
whose answer is checked before it is published.  So a refused request leaves the session
as it was, or as that setter has left it (`Session.refused_requests`).

A request to change a parameter names a type and carries a value, and the two need not
agree.  The named type is what is checked before the setter is asked
(`Session.setter_decides`); the value is shown to the setter as it is.  A request that
names the type of the value that it carries shows the setter nothing that the parameter
could not hold, but one that names any type may show it everything
(`Session.not_only_conforming_requests`).

A setter may use the session like any other user code, so the parameter has to be looked
up once more when it has answered.  It is still there, and under the same type
(`Session.lax_declares`): that is why a conforming answer is never refused.
-/

set_option autoImplicit false

namespace StreamControl

/-! ## What a request is answered with -/

/-- Why something was refused, if it was. -/
def refusalOf {α : Type} : Except Fault α → Option Fault
  | .ok _ => none
  | .error fault => some fault

/-- Why a request of the parameter tree was refused, if it was; a query is not one. -/
def Request.refusal? : (request : Request) → request.Answer → Option Fault
  | .push _ _ _, answer => refusalOf answer
  | .create _ _ _ _ _, answer => refusalOf answer
  | .set _ _ _ _ _, answer => refusalOf answer
  | .subscribe _ _ _ _ _ _ _, answer => refusalOf answer
  | .value _ _ _, answer => refusalOf answer
  | .declaredType _ _ _, answer => refusalOf answer
  | .started _ _, answer => refusalOf answer
  | .subscriptionCount _ _ _, answer => refusalOf answer
  | .query _, _ | .select _, _ | .describe, _ => none

/-- Whether setters only compute their answers: whatever they find out about a session and
whatever can be called there, they leave it as it was. -/
def UserCode.SettersCompute {σ : Type} (code : UserCode σ) : Prop :=
  ∀ reference requested current (callees : Callees σ) session,
    ((code.setter reference requested current).run callees session).2 = session

/-- Whether setters leave all of a session but what user code remembers. -/
def UserCode.SettersRemember {σ : Type} (code : UserCode σ) : Prop :=
  ∀ reference requested current (callees : Callees σ) session, ∃ memory,
    ((code.setter reference requested current).run callees session).2 = { session with memory }

namespace Session

open StreamControl.Action

variable {σ α β : Type} {code : UserCode σ} {session after : Session σ}

/-- What a refused request leaves: everything as it was, or, if a change was asked for, as the
setter has left it whose answer could not be published. -/
inductive Remains (callees : Callees σ) (before : Session σ) : Request → Session σ → Prop where
  /-- Nothing has been done. -/
  | untouched (request : Request) : Remains callees before request before
  /-- A setter has been asked, and nothing else has been done. -/
  | asked {address : Address} {type : ValueType} {value new : Value} {parameter : Parameter}
      {setter : CodeRef} {after : Session σ}
      (found : before.tree.parameter? address = some parameter)
      (accepted : parameter.type.accepts type = true) (owned : parameter.setter = some setter)
      (answered : callees.setter address setter value parameter.value before =
        (.returned (some new), after)) :
      Remains callees before (.set address.stream address.filter address.name type value) after

/-- What every setter leaves alone that is run, a refused request leaves alone. -/
theorem Remains.of_setters {depth : Nat} {busy : List Address} {request : Request}
    {P : Session σ → Prop} (remains : Remains (code.calleesTo depth busy) session request after)
    (holds : P session)
    (setters : ∀ reference requested current (callees : Callees σ),
      P ((code.setter reference requested current).run callees session).2) : P after := by
  have asks (address : Address) (reference : CodeRef) (requested current : Value) :
      P ((code.calleesTo depth busy).setter address reference requested current session).2 := by
    cases depth with
    | zero => exact holds
    | succ depth =>
      rw [UserCode.calleesTo]
      dsimp only
      split
      · exact holds
      · exact setters _ _ _ _
  cases remains with
  | untouched => exact holds
  | @asked address _ value _ parameter setter _ found accepted owned answered =>
    have left := asks address setter value parameter.value
    rwa [answered] at left

/-! ## Refusals come first -/

/-- If an action is refused, it has left the session as it was. -/
def Spares (action : Action (Session σ) α) (session : Session σ) : Prop :=
  action.Meets session (fun _ _ => True) (fun _ after => after = session) (fun _ _ => True)

theorem spares_changeTree (change : ParameterTree → Except Fault (α × ParameterTree)) :
    Spares (changeTree change) session := by
  rw [Spares, meets_changeTree]
  split <;> trivial

theorem spares_readTree (read : ParameterTree → Except Fault α) :
    Spares (readTree read) session := by
  rw [Spares, readTree, meets_bind, meets_get, meets_ofExcept]
  split <;> trivial

/-- A push is refused before it stores anything; afterwards it is carried through. -/
theorem meets_publish_refusal (code : UserCode σ) (depth : Nat) (busy : List Address)
    (address : Address) (value : Value) (session : Session σ) :
    (publish (code.calleesTo depth busy) address.stream address.filter address.name value).Meets
      session (fun _ _ => True)
      (fun fault after => after = session ∧
        session.tree.store address.stream address.filter address.name value = .error fault)
      (fun _ _ => False) := by
  cases stores : session.tree.store address.stream address.filter address.name value with
  | error fault =>
    rw [Meets, publish, bind_refused (changeTree_refused stores)]
    exact ⟨rfl, rfl⟩
  | ok stored =>
    have turns : Keeps (fun _ : Session σ => True) False False (dispatchAll
        (code.calleesTo depth busy) (address.delivery value {}) stored.1) :=
      keeps_dispatchAll (fun _ => lax_true.toPliant.keeps_dispatch_of
        ((lax_true.callees_keep code depth busy).callback _ _) fun _ _ _ _ => trivial) _
    exact (meets_publish_iff stores).mpr (turns.always trivial)

theorem spares_publish (depth : Nat) (busy : List Address) (address : Address) (value : Value) :
    Spares (publish (code.calleesTo depth busy) address.stream address.filter address.name value)
      session :=
  (meets_publish_refusal code depth busy address value session).mono (fun _ _ h => h)
    (fun _ _ refused => refused.1) fun _ _ _ => trivial

/-- What a setter has answered is published, or there is nothing to publish. -/
theorem spares_adopt (depth : Nat) (busy : List Address) (address : Address)
    (answer : Option Value) :
    Spares (adopt (code.calleesTo depth busy) address.stream address.filter address.name answer)
      session := by
  cases answer with
  | none => trivial
  | some new =>
    exact meets_bind.mpr ((spares_publish depth busy address new).imp fun _ _ _ => trivial)

/-! ## Requests of change -/

/-- A request of change is refused for the parameter or for its type before the setter is
asked, or else for what the setter answers. -/
theorem requestChange_eq (callees : Callees σ) (address : Address) (type : ValueType)
    (value : Value) (session : Session σ) :
    requestChange callees address.stream address.filter address.name type value session =
      match session.tree.parameterAt address.stream address.filter address.name with
      | .error fault => (.refused fault, session)
      | .ok parameter =>
        if parameter.type.accepts type then
          match parameter.setter with
          | none =>
            (log .debug "parameter has no setter; request ignored" >>= fun _ => pure false) session
          | some setter =>
            (callees.setter address setter value parameter.value >>=
              adopt callees address.stream address.filter address.name) session
        else
          (.refused (.typeMismatch address.filter address.name parameter.type type), session) := by
  cases found : session.tree.parameterAt address.stream address.filter address.name with
  | error fault => exact bind_refused (readTree_refused found)
  | ok parameter =>
    have read : readTree (·.parameterAt address.stream address.filter address.name) session =
        (.returned parameter, session) :=
      (bind_of_returned rfl).trans (congrArg (Action.ofExcept · session) found)
    rw [requestChange, bind_of_returned read]
    dsimp only
    split
    · cases parameter.setter <;> rfl
    · rfl

/-- What a refused request of change leaves. -/
theorem meets_requestChange_refusal (code : UserCode σ) (depth : Nat) (busy : List Address)
    (address : Address) (type : ValueType) (value : Value) (session : Session σ) :
    (requestChange (code.calleesTo depth busy) address.stream address.filter address.name type
      value).Meets session (fun _ _ => True)
      (fun _ => Remains (code.calleesTo depth busy) session
        (.set address.stream address.filter address.name type value))
      (fun _ _ => True) := by
  rw [Meets, requestChange_eq]
  cases there : session.tree.parameterAt address.stream address.filter address.name with
  | error fault => exact .untouched _
  | ok parameter =>
    have found := ParameterTree.parameterAt_eq_ok_iff.mp there
    by_cases accepted : parameter.type.accepts type = true
    · simp only [if_pos accepted]
      cases owned : parameter.setter with
      | none => trivial
      | some setter =>
        have asks := (lax_true.callees_keep code depth busy).setter address setter value
          parameter.value session trivial
        refine meets_bind.mpr (((meets_run _ session).and asks).mono ?_
          (fun _ _ both => both.2.1.elim) fun _ _ _ => trivial)
        rintro answer left ⟨run, -⟩
        cases answer with
        | none => trivial
        | some new =>
          refine Meets.mono (spares_adopt depth busy address (some new)) (fun _ _ h => h) ?_
            fun _ _ h => h
          rintro fault after rfl
          exact .asked found accepted owned run
    · simp only [if_neg accepted]
      exact .untouched _

/-! ## A parameter with a setter -/

/-- A parameter with a setter. -/
def gainParameter : Parameter := { type := .uint64, value := .uint64 0, setter := some 0 }

/-- A session with that parameter. -/
def gainSession (memory : σ) : Session σ where
  tree := { streams := OrderedMap.empty.insert ⟨1⟩ (OrderedMap.empty.insert "source"
    { parameters := OrderedMap.empty.insert "gain" gainParameter }) }
  channel := { room := 1 }
  memory

theorem gainSession_parameter (memory : σ) :
    (gainSession memory).tree.parameter? ⟨⟨1⟩, "source", "gain"⟩ = some gainParameter :=
  (by decide +kernel : (gainSession ()).tree.parameter? ⟨⟨1⟩, "source", "gain"⟩ = _)

/-- User code whose setters answer every request with a text. -/
def mistakenCode : UserCode Unit :=
  { Host.idleCode with setter := fun _ _ _ => .done (some (.string "loud")) }

/-- User code whose setters count how often they are asked, and ignore every request. -/
def countingCode : UserCode Nat where
  callback _ _ := .done 0
  construct _ _ := .done .ok
  help _ := .done ""
  preStart _ _ := .done .proceed
  filterHook _ _ _ := .done .ok
  destroy _ := .done .ok
  filter _ _ _ := .done (.ok ())
  setter _ _ _ := .inspect fun asked => .remember (asked + 1) (.done none)
  nesting := 1

/-! ## Requests that are refused -/

/-- What an attempt answers, if it is refused. -/
theorem Spares.attempt {callees : Callees σ} {request : Request} {action : Action (Session σ) α}
    (spares : Spares action session) :
    action.attempt.Yields session fun answer after =>
      ∀ fault, refusalOf answer = some fault → Remains callees session request after :=
  meets_attempt.mpr (spares.mono (fun _ _ _ _ impossible => nomatch impossible)
    (fun _ _ same _ _ => same ▸ .untouched request) fun _ _ _ => trivial)

theorem yields_serve (code : UserCode σ) (depth : Nat) (busy : List Address) (request : Request)
    (session : Session σ) :
    (serve (code.calleesTo depth busy) request).Yields session fun answer after =>
      ∀ fault, request.refusal? answer = some fault →
        Remains (code.calleesTo depth busy) session request after := by
  cases request with
  | push owner name value =>
    exact (spares_publish depth busy ⟨owner.stream, owner.filter, name⟩ value).attempt
  | create owner name type initial setter =>
    exact Spares.attempt (meets_bind.mpr ((spares_changeTree _).imp fun _ _ _ => trivial))
  | set stream filter name type value =>
    exact meets_attempt.mpr ((meets_requestChange_refusal code depth busy ⟨stream, filter, name⟩
      type value session).mono (fun _ _ _ _ impossible => nomatch impossible)
        (fun _ _ remains _ _ => remains) fun _ _ _ => trivial)
  | subscribe => exact (spares_changeTree _).attempt
  | value | declaredType | started | subscriptionCount => exact (spares_readTree _).attempt
  | query | select | describe =>
    exact Meets.of_forall _ _ (fun _ _ _ impossible => nomatch impossible) (fun _ _ => trivial)
      fun _ _ => trivial

/-- **Refused requests change nothing.**  If a request of the parameter tree, made by user
code at any depth or from outside, is answered with an error, then the session is as it was
before, or, if a change was asked for, as the setter has left it whose answer could not be
published.  So if setters only compute their answers, the session is as it was before: the tree
with its streams, filters, parameters, values, setters and subscriptions and the number of the
next one are the same, no callback has been called, and nothing has been counted or announced.
If setters remember something, but do nothing else, the memory alone may differ. -/
theorem refused_requests (code : UserCode σ) (depth : Nat) (busy : List Address)
    {request : Request} {session after : Session σ} {answer : request.Answer} {fault : Fault}
    (run : serve (code.calleesTo depth busy) request session = (.returned answer, after))
    (refused : request.refusal? answer = some fault) :
    Remains (code.calleesTo depth busy) session request after ∧
    (code.SettersCompute → after = session) ∧
    (code.SettersRemember → after = { session with memory := after.memory }) := by
  have remains : Remains (code.calleesTo depth busy) session request after := by
    have yields := yields_serve code depth busy request session
    rw [Yields, Meets, run] at yields
    exact yields fault refused
  refine ⟨remains, fun compute => ?compute, fun remember => ?remember⟩
  case compute =>
    exact remains.of_setters (P := fun after => after = session) rfl
      fun reference requested current callees => compute reference requested current callees session
  case remember =>
    obtain ⟨memory, rfl⟩ : ∃ memory, after = { session with memory } :=
      remains.of_setters (P := fun after => ∃ memory, after = { session with memory })
        ⟨session.memory, rfl⟩ fun reference requested current callees =>
          remember reference requested current callees session
    rfl

/-- A setter whose answer does not fit the parameter has been asked, and has remembered
nothing. -/
theorem refused_requests_mistaken :
    ∃ after, serve (mistakenCode.calleesTo 1 [])
        (.set ⟨1⟩ "source" "gain" .uint64 (.uint64 1)) (gainSession ()) =
      (.returned (.error (.typeMismatch "source" "gain" .uint64 .string)), after) ∧
      after = gainSession () := by
  have returned : (serve (mistakenCode.calleesTo 1 [])
      (.set ⟨1⟩ "source" "gain" .uint64 (.uint64 1)) (gainSession ())).1 =
        .returned (.error (.typeMismatch "source" "gain" .uint64 .string)) := by
    rfl
  have run := Prod.ext_iff.mpr ⟨returned, rfl⟩
  exact ⟨_, run, (refused_requests mistakenCode 1 [] run rfl).2.1 fun _ _ _ _ _ => rfl⟩

/-! ## Setters -/

/-- What comes of a request of change whose type is accepted: it is what the setter makes of it,
in the session that the setter has left. -/
structure Decided (callees : Callees σ) (address : Address) (declared : ValueType)
    (asked : Ending (Option Value) × Session σ) (outcome : Ending Bool × Session σ) : Prop where
  /-- A setter is not refused itself. -/
  allowed : ∀ fault, asked.1 ≠ .refused fault
  /-- It may come to no end. -/
  exhausted : asked.1 = .exhausted → outcome = (.exhausted, asked.2)
  /-- It may panic. -/
  panicked : ∀ reason, asked.1 = .panicked reason → outcome = (.panicked reason, asked.2)
  /-- It may ignore the request. -/
  ignored : asked.1 = .returned none → outcome = (.returned false, asked.2)
  /-- What it answers has to conform to the declared type. -/
  refused : ∀ new, asked.1 = .returned (some new) → ¬ new.Conforms declared → outcome =
    (.refused (.typeMismatch address.filter address.name declared new.type), asked.2)
  /-- It is then published. -/
  published : ∀ new, asked.1 = .returned (some new) → new.Conforms declared → outcome =
    (publish callees address.stream address.filter address.name new >>= fun _ => pure true)
      asked.2 ∧ ∀ fault, outcome.1 ≠ .refused fault

/-- What does not fit is not stored. -/
theorem store_misfit {session : Session σ} {address : Address} {parameter : Parameter}
    {value : Value} (found : session.tree.parameter? address = some parameter)
    (misfit : ¬ value.Conforms parameter.type) :
    session.tree.store address.stream address.filter address.name value =
      .error (.typeMismatch address.filter address.name parameter.type value.type) := by
  have there := ParameterTree.parameterAt_eq_ok_iff.mpr found
  simp only [ParameterTree.store, bind, Except.bind, there, ParameterTree.checkType,
    if_neg fun fits => misfit (Value.conforms_iff_fits.mpr fits)]

/-- User code neither takes a parameter away nor changes its declared type. -/
theorem lax_declares (address : Address) (declared : ValueType) : Lax fun session : Session σ =>
    ∃ parameter, session.tree.parameter? address = some parameter ∧ parameter.type = declared where
  record _ declares := declares
  memory _ declares := declares
  tally _ declares := declares
  channel _ declares := declares
  edit edit declares := by
    obtain ⟨old, found, same⟩ := declares
    have known := (edit.kept.knows _).mpr (ParameterTree.knows_of_parameter? found)
    obtain ⟨new, there, still⟩ := edit.retyped.retained address old found known
    exact ⟨new, there, still.trans same⟩
  recordQuery _ declares := declares
  queue _ _ _ declares := declares

/-- A conforming answer is published in full, and another one is refused before anything is
done. -/
theorem adopt_decided (code : UserCode σ) (depth : Nat) (busy : List Address) {address : Address}
    {parameter : Parameter} (found : session.tree.parameter? address = some parameter)
    (new : Value) :
    (¬ new.Conforms parameter.type →
      adopt (code.calleesTo depth busy) address.stream address.filter address.name (some new)
        session = (.refused (.typeMismatch address.filter address.name parameter.type new.type),
          session)) ∧
    (new.Conforms parameter.type → ∀ fault,
      (adopt (code.calleesTo depth busy) address.stream address.filter address.name (some new)
        session).1 ≠ .refused fault) := by
  refine ⟨fun misfit => ?_, fun conforms fault refused => ?_⟩
  · exact bind_refused (bind_refused (changeTree_refused (store_misfit found misfit)))
  · obtain ⟨stored, stores⟩ := store_isOk found (Value.conforms_iff_fits.mp conforms)
    have carried : (adopt (code.calleesTo depth busy) address.stream address.filter address.name
        (some new)).Meets session (fun _ _ => True) (fun _ _ => False) (fun _ _ => False) :=
      meets_bind.mpr ((meets_publish_refusal code depth busy address new session).mono
        (fun _ _ _ => trivial) (fun _ _ refused => nomatch stores.symm.trans refused.2)
          fun _ _ impossible => impossible)
    exact carried.of_refused (Prod.ext refused rfl)

/-- How a setter ends decides, if it leaves the parameter where it is. -/
theorem decided_of_asked (code : UserCode σ) (depth : Nat) (busy : List Address) {address : Address}
    {declared : ValueType} {ask : Action (Session σ) (Option Value)}
    (leaves : ask.Meets session
      (fun _ left => ∃ parameter, left.tree.parameter? address = some parameter ∧
        parameter.type = declared) (fun _ _ => False) (fun _ _ => True)) :
    Decided (code.calleesTo depth busy) address declared (ask session) ((ask >>=
      adopt (code.calleesTo depth busy) address.stream address.filter address.name) session) := by
  cases run : ask session with
  | mk ending left =>
    have decides {new : Value} (answered : ending = .returned (some new)) :
        ∃ parameter, left.tree.parameter? address = some parameter ∧ parameter.type = declared :=
      leaves.of_returned (answered ▸ run)
    constructor
    case allowed =>
      rintro fault rfl
      exact leaves.of_refused run
    case exhausted =>
      rintro rfl
      simp only [bind_def, Action.bind, run]
    case panicked =>
      rintro reason rfl
      simp only [bind_def, Action.bind, run]
    case ignored =>
      rintro rfl
      exact bind_of_returned run
    case refused =>
      rintro new answered misfit
      obtain ⟨parameter, found, rfl⟩ := decides answered
      cases answered
      exact (bind_of_returned run).trans ((adopt_decided code depth busy found new).1 misfit)
    case published =>
      rintro new answered conforms
      obtain ⟨parameter, found, rfl⟩ := decides answered
      cases answered
      rw [bind_of_returned run]
      exact ⟨rfl, (adopt_decided code depth busy found new).2 conforms⟩

/-- **The named type is checked, and then the setter decides.**  A request to change a
parameter that has a setter is refused if the declared type does not accept the type that it
names; the setter has not been asked then, and nothing has changed.  Otherwise the setter is
asked once, for the value that the request carries, whatever its type, and what it answers
decides; what it answers has to conform to the declared type in turn.  Whatever has changed
before a new value is published, the setter has done.  If that very setter is under way already,
the request comes to no end.  If the request names the type of the value that it carries, or
carries no data, then the value conforms. -/
theorem setter_decides (code : UserCode σ) (depth : Nat) (busy : List Address)
    {session : Session σ} {address : Address} {parameter : Parameter} {setter : CodeRef}
    (found : session.tree.parameter? address = some parameter)
    (owned : parameter.setter = some setter) (type : ValueType) (value : Value) :
    (parameter.type.accepts type = false →
      requestChange (code.calleesTo depth busy) address.stream address.filter address.name type
        value session =
          (.refused (.typeMismatch address.filter address.name parameter.type type), session)) ∧
    (parameter.type.accepts type = true → address ∉ busy →
      Decided (code.calleesTo (depth + 1) busy) address parameter.type
        ((code.setter setter value parameter.value).run (code.calleesTo depth (address :: busy))
          session)
        (requestChange (code.calleesTo (depth + 1) busy) address.stream address.filter address.name
          type value session)) ∧
    (parameter.type.accepts type = true → address ∈ busy →
      requestChange (code.calleesTo depth busy) address.stream address.filter address.name type
        value session = (.exhausted, session)) ∧
    (parameter.type.accepts type = true → value = .none ∨ value.type = type →
      value.Conforms parameter.type) := by
  have there := ParameterTree.parameterAt_eq_ok_iff.mpr found
  have outcome (callees : Callees σ) := requestChange_eq callees address type value session
  simp only [there, owned] at outcome
  refine ⟨fun mistyped => ?mistyped, fun accepted free => ?accepted, fun accepted locked => ?locked,
    fun accepted honest => ?honest⟩
  case mistyped => rw [outcome, if_neg (by rw [mistyped]; nofun)]
  case accepted =>
    have asks : (code.calleesTo (depth + 1) busy).setter address setter value parameter.value =
        (code.setter setter value parameter.value).run (code.calleesTo depth (address :: busy)) :=
      if_neg free
    have leaves := ((lax_declares address parameter.type).callees_keep code (depth + 1)
      busy).setter address setter value parameter.value session ⟨parameter, found, rfl⟩
    rw [outcome, if_pos accepted, ← asks]
    exact decided_of_asked code _ busy (leaves.mono (fun _ _ left => left)
      (fun _ _ impossible => impossible.1) fun _ _ _ => trivial)
  case locked =>
    have waits : (code.calleesTo depth busy).setter address setter value parameter.value =
        Action.exhaust := by
      cases depth with
      | zero => rfl
      | succ depth => exact if_pos locked
    rw [outcome, if_pos accepted, waits]
    rfl
  case honest =>
    rcases honest with none | named
    · exact .inl none
    · exact Value.conforms_iff_fits.mpr (by rw [Value.fits, named, accepted, Bool.or_true])

/-- The setter is asked for a text, and ignores it; while it is under way, it cannot be asked. -/
theorem setter_decides_counting :
    requestChange (countingCode.calleesTo 1 []) ⟨1⟩ "source" "gain" .any (.string "loud")
      (gainSession 0) = (.returned false, gainSession 1) ∧
    requestChange (countingCode.calleesTo 1 [⟨⟨1⟩, "source", "gain"⟩]) ⟨1⟩ "source" "gain" .any
      (.string "loud") (gainSession 0) = (.exhausted, gainSession 0) :=
  ⟨((setter_decides countingCode 0 [] (gainSession_parameter 0) rfl .any (.string "loud")).2.1
      (by decide) (by decide)).ignored rfl,
    (setter_decides countingCode 1 [⟨⟨1⟩, "source", "gain"⟩] (gainSession_parameter 0) rfl .any
      (.string "loud")).2.2.1 (by decide) (by decide)⟩

/-- Setters are not only asked for what conforms: the named type need not be the type of the
value. -/
theorem not_only_conforming_requests : ¬ ∀ (σ : Type) (code : UserCode σ) (depth : Nat)
    (busy : List Address) (session : Session σ) (address : Address) (parameter : Parameter)
    (setter : CodeRef),
      session.tree.parameter? address = some parameter → parameter.setter = some setter →
        ∀ type value, (requestChange (code.calleesTo depth busy) address.stream address.filter
          address.name type value session).2.memory ≠ session.memory →
            value.Conforms parameter.type := by
  intro conforming
  have conforms := conforming Nat countingCode 1 [] (gainSession 0) _ _ 0 (gainSession_parameter 0)
    rfl .any (.string "loud") (by decide +kernel)
  exact absurd conforms (by decide)

end Session

end StreamControl
