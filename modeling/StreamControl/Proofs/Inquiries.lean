import Mathlib.Data.List.Find
import Mathlib.Data.List.Nodup
import StreamControl.Proofs.Views

/-!
# How controllers are asked

Before the filters of a stream are started, each controller is asked about each of them.  A
journal shows how each of these questions ended, which vetoes were announced and which failures
of hooks were: its cues (`Session.cues`).

An `Inquiry` is what one controller has answered.  What a journal shows of inquiries that follow
each other is computed from the answers alone (`Inquiry.cues`), and so are the filters that are
held back afterwards (`Inquiry.heldBack`).  Polling controllers writes just that
(`Host.yields_poll_cues`).

Of a filter, the cues announce the veto of the first controller that objected to it, and no other
one (`Inquiry.vetoes_cues`).
-/

set_option autoImplicit false

namespace StreamControl

/-! ## Cues -/

/-- Something that a journal shows of how the controllers were asked. -/
inductive Cue where
  /-- The preStart hook of the controller with a serial number has ended for a filter. -/
  | answered (controller : Nat) (stream : StreamId) (filter : String) (exit : Exit)
  /-- It was announced that a controller holds a filter back. -/
  | vetoed (controller : String) (stream : StreamId) (filter : String)
  /-- It was announced that a hook has failed. -/
  | hookFailed
  deriving DecidableEq

/-- What an entry shows of it. -/
def Entry.cue? : Entry → Option Cue
  | .left (.hook controller .preStart (some (stream, filter))) exit =>
    some (.answered controller stream filter exit)
  | .sent (.startVetoed controller stream filter) => some (.vetoed controller stream filter)
  | .sent (.hookFailed ..) => some .hookFailed
  | _ => none

theorem omits_cue : OmitsInner Entry.cue? := by
  intro entry inner
  cases entry with
  | sent event => cases event <;> first | rfl | cases inner
  | left call => cases call <;> first | rfl | cases inner
  | _ => rfl

namespace Cue

/-- Whether a controller has objected to the start of a filter: its hook has vetoed it or has
panicked. -/
def objects (controller : Nat) (stream : StreamId) (filter : String) : Cue → Bool
  | answered other owner name exit =>
    other = controller ∧ owner = stream ∧ name = filter ∧ exit ≠ .succeeded
  | _ => false

/-- The controller that is announced to hold a filter back. -/
def vetoOf? (stream : StreamId) (filter : String) : Cue → Option String
  | vetoed controller owner name => if owner = stream ∧ name = filter then some controller else none
  | _ => none

/-- The first of some controllers that shows to have objected to a filter. -/
def objector? (controllers : List LoadedController) (shown : List Cue) (stream : StreamId)
    (filter : String) : Option LoadedController :=
  controllers.find? fun controller => shown.any (objects controller.serial stream filter)

end Cue

/-! ## Answers -/

/-- What one controller has answered about some filters. -/
structure Inquiry where
  /-- The controller. -/
  controller : LoadedController
  /-- How its hook has ended for each filter; a hook that it does not fill lets filters pass. -/
  answers : List (FilterSlot × Exit)

namespace Inquiry

/-- The numbers of the filters that are held back after one more answer. -/
def hold (held : List Nat) (answer : FilterSlot × Exit) : List Nat :=
  if answer.2 ≠ .succeeded ∧ answer.1.index ∉ held then held ++ [answer.1.index] else held

/-- What an answer shows. -/
def answerCues (controller : LoadedController) (stream : StreamId) (answer : FilterSlot × Exit) :
    List Cue :=
  (if controller.module.fills .preStart then
    [.answered controller.serial stream answer.1.name answer.2] else []) ++
    if answer.2 = .panicked then [.hookFailed] else []

/-- What the announcement that follows an answer shows. -/
def vetoCues (controller : LoadedController) (stream : StreamId) (held : List Nat)
    (answer : FilterSlot × Exit) : List Cue :=
  if answer.2 ≠ .succeeded ∧ answer.1.index ∉ held then
    [.vetoed controller.name stream answer.1.name] else []

/-- What some answers of a controller show, when some filters are held back already. -/
def cuesOf (controller : LoadedController) (stream : StreamId) :
    List Nat → List (FilterSlot × Exit) → List Cue
  | _, [] => []
  | held, answer :: rest => answerCues controller stream answer ++
    vetoCues controller stream held answer ++ cuesOf controller stream (hold held answer) rest

/-- The numbers of the filters that are held back after some inquiries. -/
def heldBack (held : List Nat) (inquiries : List Inquiry) : List Nat :=
  inquiries.foldl (fun held inquiry => inquiry.answers.foldl hold held) held

/-- What some inquiries show. -/
def cues (stream : StreamId) : List Nat → List Inquiry → List Cue
  | _, [] => []
  | held, inquiry :: rest => cuesOf inquiry.controller stream held inquiry.answers ++
    cues stream (inquiry.answers.foldl hold held) rest

/-- A controller has been asked about some filters, each once and in order. -/
structure Covers (slots : List FilterSlot) (inquiry : Inquiry) : Prop where
  /-- The filters. -/
  slots : inquiry.answers.map (·.1) = slots
  /-- Without a hook it lets them all pass. -/
  unfilled : inquiry.controller.module.fills .preStart = false →
    ∀ answer ∈ inquiry.answers, answer.2 = .succeeded

/-- Whether an answer is an objection to a filter. -/
def objection (filter : String) (answer : FilterSlot × Exit) : Bool :=
  answer.1.name = filter ∧ answer.2 ≠ .succeeded

/-- Whether a controller has objected to a filter. -/
def objectsTo (filter : String) (inquiry : Inquiry) : Bool :=
  inquiry.answers.any (objection filter)

section Counts

variable {controller : LoadedController} {stream : StreamId} {held : List Nat}
  {answer : FilterSlot × Exit}

theorem count_answerCues : (answerCues controller stream answer).count .hookFailed =
    if answer.2 = .panicked then 1 else 0 := by
  rw [answerCues, List.count_append]
  split <;> split <;> rfl

theorem count_vetoCues : (vetoCues controller stream held answer).count .hookFailed = 0 := by
  rw [vetoCues]
  split <;> rfl

end Counts

/-! ## What is read off the cues -/

section Filter

variable {controller : LoadedController} {stream : StreamId} {slot : FilterSlot} {held : List Nat}
  {answer : FilterSlot × Exit} {answers : List (FilterSlot × Exit)} {slots : List FilterSlot}
  {inquiries : List Inquiry}

/-- One filter is told from some others by its number as well as by its name. -/
def Distinct (slot : FilterSlot) (slots : List FilterSlot) : Prop :=
  ∀ other ∈ slots, other.index = slot.index ↔ other.name = slot.name

/-- An objection holds the filter back. -/
theorem mem_hold (tells : answer.1.index = slot.index ↔ answer.1.name = slot.name) :
    slot.index ∈ hold held answer ↔ slot.index ∈ held ∨ objection slot.name answer = true := by
  rw [hold, objection, decide_eq_true_eq, ← tells]
  split
  · rename_i first
    rw [List.mem_append, List.mem_singleton, eq_comm, and_iff_left first.1]
  · rename_i held'
    constructor
    · exact .inl
    · rintro (old | ⟨here, objects⟩)
      · exact old
      · exact Decidable.byContradiction fun absent => held' ⟨objects, here ▸ absent⟩

theorem mem_foldl_hold :
    ∀ {answers : List (FilterSlot × Exit)} {held : List Nat}, Distinct slot (answers.map (·.1)) →
      (slot.index ∈ answers.foldl hold held ↔
        slot.index ∈ held ∨ answers.any (objection slot.name) = true)
  | [], _, _ => by simp
  | answer :: rest, held, distinct => by
    obtain ⟨tells, others⟩ := List.forall_mem_cons.mp distinct
    rw [List.foldl_cons, mem_foldl_hold others, mem_hold tells, List.any_cons, Bool.or_eq_true,
      or_assoc]

/-- **A filter is held back if some controller has objected to it.** -/
theorem mem_heldBack :
    ∀ {inquiries : List Inquiry} {held : List Nat}, (∀ inquiry ∈ inquiries, inquiry.Covers slots) →
      Distinct slot slots → (slot.index ∈ heldBack held inquiries ↔
        slot.index ∈ held ∨ inquiries.any (objectsTo slot.name) = true)
  | [], _, _, _ => by simp [heldBack]
  | inquiry :: rest, held, covers, distinct => by
    obtain ⟨first, others⟩ := List.forall_mem_cons.mp covers
    rw [heldBack, List.foldl_cons, ← heldBack, mem_heldBack others distinct,
      mem_foldl_hold (first.slots ▸ distinct), List.any_cons, Bool.or_eq_true, or_assoc, objectsTo]

theorem vetoes_answerCues (filter : String) :
    (answerCues controller stream answer).filterMap (Cue.vetoOf? stream filter) = [] := by
  rw [answerCues]
  split <;> split <;> rfl

theorem vetoes_vetoCues (filter : String) :
    (vetoCues controller stream held answer).filterMap (Cue.vetoOf? stream filter) =
      if objection filter answer ∧ answer.1.index ∉ held then [controller.name] else [] := by
  rw [vetoCues, objection]
  by_cases here : answer.1.name = filter <;> by_cases objects : answer.2 = .succeeded <;>
    by_cases old : answer.1.index ∈ held <;> simp [here, objects, old, Cue.vetoOf?]

/-- A controller that is asked announces a veto of its own unless the filter is held back
already. -/
theorem vetoes_cuesOf :
    ∀ {answers : List (FilterSlot × Exit)} {held : List Nat}, Distinct slot (answers.map (·.1)) →
      (cuesOf controller stream held answers).filterMap (Cue.vetoOf? stream slot.name) =
        if slot.index ∉ held ∧ answers.any (objection slot.name) then [controller.name] else []
  | [], _, _ => by simp [cuesOf]
  | answer :: rest, held, distinct => by
    obtain ⟨tells, others⟩ := List.forall_mem_cons.mp distinct
    rw [cuesOf, List.filterMap_append, List.filterMap_append, vetoes_answerCues, vetoes_vetoCues,
      vetoes_cuesOf others, List.nil_append, List.any_cons]
    cases objects : objection slot.name answer with
    | false =>
      have same : slot.index ∈ hold held answer ↔ slot.index ∈ held := by
        rw [mem_hold tells, objects, or_iff_left Bool.false_ne_true]
      simp only [same, Bool.false_eq_true, false_and, if_false, List.nil_append, Bool.false_or]
    | true =>
      have same : answer.1.index = slot.index := tells.mpr (of_decide_eq_true objects).1
      have holds : slot.index ∈ hold held answer := (mem_hold tells).mpr (.inr objects)
      simp only [same, holds, true_and, not_true_eq_false, false_and, if_false, List.append_nil,
        Bool.true_or, and_true]

/-- **The announced veto of a filter is that of the first controller that objected.** -/
theorem vetoes_cues :
    ∀ {inquiries : List Inquiry} {held : List Nat}, (∀ inquiry ∈ inquiries, inquiry.Covers slots) →
      Distinct slot slots →
        (cues stream held inquiries).filterMap (Cue.vetoOf? stream slot.name) =
          if slot.index ∈ held then []
          else ((inquiries.find? (objectsTo slot.name)).map (·.controller.name)).toList
  | [], _, _, _ => by simp [cues]
  | inquiry :: rest, held, covers, distinct => by
    obtain ⟨first, others⟩ := List.forall_mem_cons.mp covers
    have distinct' : Distinct slot (inquiry.answers.map (·.1)) := first.slots ▸ distinct
    rw [cues, List.filterMap_append, vetoes_cuesOf distinct', vetoes_cues others distinct,
      List.find?_cons]
    have asked : inquiry.answers.any (objection slot.name) = inquiry.objectsTo slot.name := rfl
    simp only [mem_foldl_hold distinct', asked]
    cases inquiry.objectsTo slot.name <;> by_cases old : slot.index ∈ held <;> simp [old]

theorem objects_answerCues {serial : Nat} {filter : String}
    (unfilled : controller.module.fills .preStart = false → answer.2 = .succeeded) :
    (answerCues controller stream answer).any (Cue.objects serial stream filter) =
      (controller.serial = serial && objection filter answer) := by
  have failure : (if answer.2 = .panicked then [Cue.hookFailed] else []).any
      (Cue.objects serial stream filter) = false := by
    split <;> rfl
  rw [answerCues, List.any_append, failure, Bool.or_false]
  cases filled : controller.module.fills .preStart with
  | false => simp [objection, unfilled filled]
  | true => simp [objection, Cue.objects]

theorem objects_vetoCues (serial : Nat) (filter : String) :
    (vetoCues controller stream held answer).any (Cue.objects serial stream filter) = false := by
  rw [vetoCues]
  split <;> rfl

theorem objects_cuesOf {serial : Nat} {filter : String} :
    ∀ {answers : List (FilterSlot × Exit)} {held : List Nat},
      (controller.module.fills .preStart = false → ∀ answer ∈ answers, answer.2 = .succeeded) →
        (cuesOf controller stream held answers).any (Cue.objects serial stream filter) =
          (controller.serial = serial && answers.any (objection filter))
  | [], _, _ => by simp [cuesOf]
  | answer :: rest, held, unfilled => by
    rw [cuesOf, List.any_append, List.any_append, objects_vetoCues, Bool.or_false,
      objects_answerCues fun empty => unfilled empty answer List.mem_cons_self,
      objects_cuesOf fun empty other member => unfilled empty other (List.mem_cons_of_mem _ member),
      List.any_cons, Bool.and_or_distrib_left]

theorem objects_cues {serial : Nat} {filter : String} :
    ∀ {inquiries : List Inquiry} {held : List Nat}, (∀ inquiry ∈ inquiries, inquiry.Covers slots) →
      (cues stream held inquiries).any (Cue.objects serial stream filter) =
        inquiries.any fun inquiry => inquiry.controller.serial = serial && inquiry.objectsTo filter
  | [], _, _ => rfl
  | inquiry :: rest, held, covers => by
    obtain ⟨first, others⟩ := List.forall_mem_cons.mp covers
    rw [cues, List.any_append, objects_cuesOf first.unfilled, objects_cues others, List.any_cons,
      objectsTo]

/-- **The cues show which controller was the first to object.** -/
theorem objector?_cues {filter : String} (covers : ∀ inquiry ∈ inquiries, inquiry.Covers slots)
    (nodup : (inquiries.map (·.controller.serial)).Nodup) :
    Cue.objector? (inquiries.map (·.controller)) (cues stream held inquiries) stream filter =
      (inquiries.find? (objectsTo filter)).map (·.controller) := by
  rw [Cue.objector?, List.find?_map]
  refine congrArg (Option.map _) (List.find?_congr fun inquiry member => ?_)
  rw [Function.comp_apply, objects_cues covers, Bool.eq_iff_iff, List.any_eq_true]
  constructor
  · rintro ⟨other, among, both⟩
    rw [Bool.and_eq_true, decide_eq_true_eq] at both
    rw [← List.inj_on_of_nodup_map nodup among member both.1]
    exact both.2
  · exact fun objects => ⟨inquiry, member, by rw [decide_eq_true rfl, objects]; rfl⟩

/-- Vetoes are announced of filters that were asked about. -/
theorem of_vetoed_mem_cuesOf {name filter : String} {owner : StreamId} :
    ∀ {answers : List (FilterSlot × Exit)} {held : List Nat},
      Cue.vetoed name owner filter ∈ cuesOf controller stream held answers →
        owner = stream ∧ filter ∈ answers.map (·.1.name)
  | answer :: rest, held, member => by
    rw [cuesOf, List.mem_append, List.mem_append] at member
    rcases member with (asked | announced) | later
    · rw [answerCues] at asked
      split at asked <;> split at asked <;> simp at asked
    · rw [vetoCues] at announced
      split at announced
      · cases List.mem_singleton.mp announced
        exact ⟨rfl, List.mem_cons_self⟩
      · cases announced
    · exact (of_vetoed_mem_cuesOf later).imp_right (List.mem_cons_of_mem _)

theorem of_vetoed_mem_cues {name filter : String} {owner : StreamId} :
    ∀ {inquiries : List Inquiry} {held : List Nat}, (∀ inquiry ∈ inquiries, inquiry.Covers slots) →
      Cue.vetoed name owner filter ∈ cues stream held inquiries →
        owner = stream ∧ filter ∈ slots.map (·.name)
  | inquiry :: rest, held, covers, member => by
    obtain ⟨first, others⟩ := List.forall_mem_cons.mp covers
    rw [cues, List.mem_append] at member
    rcases member with now | later
    · rw [← first.slots, List.map_map]
      exact of_vetoed_mem_cuesOf now
    · exact of_vetoed_mem_cues others later

end Filter

end Inquiry

/-! ## Asking -/

namespace Session

open StreamControl.Action

variable {σ α β : Type}

/-- What a session shows. -/
def cues (session : Session σ) : List Cue := session.journal.view Entry.cue?

variable {seen : List Cue}

/-- An action that shows nothing. -/
def Uncued (action : Action (Session σ) α) : Prop :=
  ∀ seen, Keeps (fun session => session.cues = seen) True True action

namespace Uncued

theorem record {entry : Entry} (quiet : entry.cue? = none) :
    Uncued (Session.record entry : Action (Session σ) Unit) := fun _ =>
  keeps_record fun _ same => (Journal.view_push_of_none _ _ quiet).trans same

theorem log (level : Level) (text : String) :
    Uncued (Session.log level text : Action (Session σ) Unit) := record rfl

theorem openSpan : ∀ span?, Uncued (Session.openSpan span? : Action (Session σ) Unit)
  | some _ => record rfl
  | none => fun _ => keeps_pure ()

theorem emit {event : Event} (quiet : (Entry.sent event).cue? = none) :
    Uncued (Session.emit event : Action (Session σ) Unit) := fun seen =>
  Keeps.bind (keeps_modify fun _ same => same) fun _ => record quiet seen

/-- User code shows nothing. -/
theorem contain_run (code : UserCode σ) (program : Program σ α) :
    Uncued (code.run program).contain := fun seen =>
  ((keeps_run_view omits_cue seen code program).mono False.elim id).contain

theorem drain (code : UserCode σ) : Uncued (Session.drain code.callees) := fun seen =>
  keeps_drain_view omits_cue seen code

theorem changeTree (change : ParameterTree → Except Fault ParameterTree) :
    Uncued (Session.changeTree fun tree => ((), ·) <$> change tree : Action (Session σ) Unit) := by
  intro seen session same
  rw [meets_changeTree_unit]
  split
  · exact (Journal.view_push_of_none _ _ rfl).trans same
  · exact ⟨trivial, same⟩

/-- Going on after an action that shows nothing. -/
theorem next {first : Action (Session σ) α} {next : α → Action (Session σ) β}
    (quiet : Uncued first) {session : Session σ} (same : session.cues = seen)
    {returns : β → Session σ → Prop}
    (further : ∀ value after, after.cues = seen → (next value).Yields after returns) :
    (first >>= next).Yields session returns := (quiet seen).next_yields same further

end Uncued

theorem cues_push {session : Session σ} (same : session.cues = seen) (entry : Entry) :
    cues { session with journal := session.journal.push entry } = seen ++ entry.cue?.toList :=
  (Journal.view_push _ _ _).trans (congrArg (· ++ _) same)

theorem yields_emit_cues (event : Event) {session : Session σ} (same : session.cues = seen) :
    (emit event : Action (Session σ) Unit).Yields session fun _ after =>
      after.cues = seen ++ (Entry.sent event).cue?.toList := cues_push same _

/-- A host that does something to its session that shows nothing. -/
theorem Uncued.onSession {action : Action (Session σ) α} (quiet : Uncued action)
    (seen : List Cue) :
    Keeps (fun host : Host σ => host.session.cues = seen) True True (Host.onSession action) :=
  Host.keeps_onSession fun _ => quiet seen

/-- Going on after that. -/
theorem Uncued.aside {first : Action (Session σ) α} {next : α → Action (Host σ) β}
    (quiet : Uncued first) {host : Host σ} (same : host.session.cues = seen)
    {returns : β → Host σ → Prop}
    (further : ∀ value after, after.session.cues = seen → (next value).Yields after returns) :
    (Host.onSession first >>= next).Yields host returns :=
  (quiet.onSession seen).next_yields same further

end Session

namespace Host

open StreamControl.Action Session

variable {σ α : Type} {seen : List Cue}

/-- How a hook has ended, by what it answered if it did not panic. -/
def answerExit (succeeds : α → Bool) : Option α → Exit
  | some answer => if succeeds answer then .succeeded else .failed
  | none => .panicked

theorem yields_guarded_cues (code : UserCode σ) (serial : Nat) (hook : Hook)
    (target : Option (StreamId × String)) (succeeds : α → Bool) (program : Program σ α)
    {session : Session σ} (same : session.cues = seen) :
    (guarded code serial hook target succeeds program).Yields session fun answer? after =>
      after.cues = seen ++
        (Entry.left (.hook serial hook target) (answerExit succeeds answer?)).cue?.toList := by
  rw [guarded, yields_bind, Session.call]
  refine (Uncued.record rfl).next same fun _ entered same => ?_
  refine (Uncued.contain_run code program).next same fun result between same => ?_
  rw [yields_bind, record, yields_modify, yields_pure]
  cases result with
  | ok answer => exact cues_push same _
  | error reason => exact (Uncued.log _ _).next (cues_push same _) fun _ _ same => same

theorem yields_reportHookFailure_cues (controller : String) (hook : Hook)
    (target : Option (StreamId × String)) (failure : Int32) {session : Session σ}
    (same : session.cues = seen) :
    (reportHookFailure controller hook target failure).Yields session fun _ after =>
      after.cues = seen ++ [.hookFailed] :=
  (Uncued.record rfl).next same fun _ _ same => (Uncued.log _ _).next same fun _ _ same =>
    yields_emit_cues _ same

/-- A controller is asked about a filter. -/
theorem yields_askAbout_cues (code : UserCode σ) (spans : SpanConfig)
    (controller : LoadedController) (stream : StreamId) (slot : FilterSlot) {session : Session σ}
    (same : session.cues = seen) :
    (askAbout code spans controller stream slot).Yields session fun answer after =>
      ∃ exit : Exit, (controller.module.fills .preStart = false → exit = .succeeded) ∧
        (answer.1 = .veto ↔ exit ≠ .succeeded) ∧ (answer.2 = true ↔ exit = .panicked) ∧
          after.cues = seen ++ Inquiry.answerCues controller stream (slot, exit) := by
  rw [askAbout]
  refine (Uncued.log _ _).next same fun _ _ same => (Uncued.openSpan _).next same fun _ _ same => ?_
  split
  · rename_i filled
    have filling (exit : Exit) : controller.module.fills .preStart = false → exit = .succeeded :=
      fun unfilled => nomatch filled.symm.trans unfilled
    rw [yields_bind]
    refine (yields_guarded_cues code controller.serial .preStart _ _ _ same).imp
      fun decision? between told => ?_
    cases decision? with
    | some decision =>
      cases decision with
      | proceed =>
        refine ⟨.succeeded, filling _, by decide, by decide, ?_⟩
        rw [Inquiry.answerCues, if_pos filled]
        exact told
      | veto =>
        refine ⟨.failed, filling _, by decide, by decide, ?_⟩
        rw [Inquiry.answerCues, if_pos filled]
        exact told
    | none =>
      dsimp only
      rw [yields_bind]
      refine (yields_reportHookFailure_cues _ _ _ _ told).imp fun _ after failed => ?_
      refine ⟨.panicked, filling _, by decide, by decide, ?_⟩
      rw [Inquiry.answerCues, if_pos filled, failed, List.append_assoc]
      rfl
  · rename_i unfilled
    refine ⟨.succeeded, fun _ => rfl, by decide, by decide, ?_⟩
    rw [Inquiry.answerCues, if_neg unfilled, if_neg nofun, List.append_nil, List.append_nil]
    exact same

/-- A controller is asked about some filters. -/
theorem yields_askAboutAll_cues (code : UserCode σ) (spans : SpanConfig)
    (controller : LoadedController) (stream : StreamId) (slots : List FilterSlot) :
    ∀ {held : List Nat} {seen : List Cue} {session : Session σ}, session.cues = seen →
      (askAboutAll code spans controller stream held slots).Yields session fun asked after =>
        ∃ answers, Inquiry.Covers slots ⟨controller, answers⟩ ∧
          asked.1 = answers.foldl Inquiry.hold held ∧
          asked.2 = (Inquiry.cuesOf controller stream held answers).count .hookFailed ∧
          after.cues = seen ++ Inquiry.cuesOf controller stream held answers := by
  induction slots with
  | nil =>
    intro held seen session same
    exact ⟨[], ⟨rfl, fun _ _ member => (List.not_mem_nil member).elim⟩, rfl, rfl,
      same.trans (List.append_nil _).symm⟩
  | cons slot rest ih =>
    intro held seen session same
    rw [askAboutAll, yields_bind]
    refine (yields_askAbout_cues code spans controller stream slot same).imp
      fun answer asked told => ?_
    obtain ⟨decision, panicked⟩ := answer
    obtain ⟨exit, unfilled, vetoes, panics, told⟩ := told
    dsimp only at vetoes panics
    -- What follows is the same whether or not a veto is announced.
    have finish : ∀ {announced : Session σ}, announced.cues =
        seen ++ Inquiry.answerCues controller stream (slot, exit) ++
          Inquiry.vetoCues controller stream held (slot, exit) →
        (do
          let others ← askAboutAll code spans controller stream
            (Inquiry.hold held (slot, exit)) rest
          return (others.1, others.2 + if panicked then 1 else 0)).Yields announced
            fun asked after =>
            ∃ answers, Inquiry.Covers (slot :: rest) ⟨controller, answers⟩ ∧
              asked.1 = answers.foldl Inquiry.hold held ∧
              asked.2 = (Inquiry.cuesOf controller stream held answers).count Cue.hookFailed ∧
              after.cues = seen ++ Inquiry.cuesOf controller stream held answers := by
      intro announced told
      rw [yields_bind]
      refine (ih told).imp fun others after further => ?_
      obtain ⟨answers, covers, held', failures, told⟩ := further
      refine ⟨(slot, exit) :: answers, ⟨congrArg (slot :: ·) covers.slots, fun empty =>
        List.forall_mem_cons.mpr ⟨unfilled empty, covers.unfilled empty⟩⟩, held', ?_, ?_⟩
      · rw [Inquiry.cuesOf, List.count_append, List.count_append, Inquiry.count_answerCues,
          Inquiry.count_vetoCues, ← failures, Nat.add_zero, Nat.add_comm]
        simp only [panics]
      · rw [told, Inquiry.cuesOf]
        simp only [List.append_assoc]
    dsimp only
    simp only [vetoes]
    split
    · rename_i here
      rw [Inquiry.hold, Inquiry.vetoCues, if_pos here, if_pos here] at finish
      refine (Uncued.log _ _).next told fun _ _ same => ?_
      rw [yields_bind]
      exact (yields_emit_cues _ same).imp fun _ _ same => finish same
    · rename_i there
      rw [Inquiry.hold, Inquiry.vetoCues, if_neg there, if_neg there, List.append_nil] at finish
      exact finish told

/-- A step of a controller shows nothing. -/
theorem uncued_advance (serial : Nat) (stream : StreamId) (target : Phase) (seen : List Cue) :
    Keeps (fun host : Host σ => host.session.cues = seen) True True
      (advance serial (some stream) target) := by
  refine keeps_get.bind fun host => ?_
  split
  · exact keeps_pure ()
  · refine (keeps_ofExcept _).bind fun step => ?_
    refine Keeps.bind (keeps_modify fun _ same => same) fun _ => Uncued.onSession ?_ seen
    exact fun seen => (Uncued.record rfl seen).bind fun _ => Uncued.emit rfl seen

/-- Controllers are asked one after another. -/
theorem yields_poll_cues (code : UserCode σ) (stream : StreamId) (slots : List FilterSlot)
    (controllers : List LoadedController) :
    ∀ {held : List Nat} {seen : List Cue} {host : Host σ}, host.session.cues = seen →
      (poll code stream slots held controllers).Yields host fun polled after =>
        ∃ inquiries : List Inquiry, inquiries.map (·.controller) = controllers ∧
          (∀ inquiry ∈ inquiries, inquiry.Covers slots) ∧
          polled.1 = Inquiry.heldBack held inquiries ∧
          polled.2 = (Inquiry.cues stream held inquiries).count .hookFailed ∧
          after.session.cues = seen ++ Inquiry.cues stream held inquiries := by
  induction controllers with
  | nil =>
    intro held seen host same
    exact ⟨[], rfl, fun _ member => (List.not_mem_nil member).elim, rfl, rfl,
      same.trans (List.append_nil _).symm⟩
  | cons controller rest ih =>
    intro held seen host same
    rw [poll]
    refine (uncued_advance _ _ _ seen).next_yields same fun _ moved same => ?_
    rw [yields_bind, yields_get, yields_bind, onSession, yields_within]
    refine (yields_askAboutAll_cues code _ controller stream slots same).imp
      fun asked session told => ?_
    obtain ⟨answers, covers, held', failures, told⟩ := told
    have told : ({ moved with session } : Host σ).session.cues =
        seen ++ Inquiry.cuesOf controller stream held answers := told
    rw [yields_bind]
    refine (ih told).imp fun polled after further => ?_
    obtain ⟨inquiries, controllers, others, last, more, told⟩ := further
    rw [held'] at last more told
    refine ⟨⟨controller, answers⟩ :: inquiries, congrArg (controller :: ·) controllers,
      List.forall_mem_cons.mpr ⟨covers, others⟩, last, ?_, ?_⟩
    · rw [Inquiry.cues, List.count_append, ← failures, ← more]
    · rw [told, Inquiry.cues, List.append_assoc]

end Host

end StreamControl
