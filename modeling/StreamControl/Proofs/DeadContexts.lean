import StreamControl.Proofs.Alike
import StreamControl.Proofs.Retelling
import StreamControl.Proofs.Waiting

/-!
# Contexts of streams that are no more

A filter is handed a context, which holds no more than the number of its stream and its
own name, and may be kept for ever.  When the stream is detached, or could not be attached
in the first place, the context is dead: what the filter asks through it is answered with the
absence of the stream (`Session.serve_denied`).

That it stays dead rests on the numbers of streams.  As long as there are numbers left, each
attempt to attach a stream takes the next one, whether it succeeds or not
(`History.offered_numbers`), so a number that has been given up is never known again
(`enduring_buried`).

How user code fares with a dead context is said by a translation: `Program.muted` leaves out
every request through a context of one stream and goes on with the answer that denies it.
User code that is muted for a dead stream does in every operation exactly what it did before
(`dead_contexts`), so no such request was answered otherwise, changed anything or called a
callback, however deep in callbacks it was made.
-/

set_option autoImplicit false

namespace StreamControl

variable {σ α : Type}

/-! ## Muted programs -/

/-- The answer that denies a request through a context of a stream, if it is one. -/
def Request.denied? (stream : StreamId) : (request : Request) → Option request.Answer
  | .push owner _ _ => if owner.stream = stream then some (.error (.unknownStream stream)) else none
  | .create owner _ _ _ _ =>
    if owner.stream = stream then some (.error (.unknownStream stream)) else none
  | .value owner _ _ => if owner = stream then some (.error (.unknownStream stream)) else none
  | _ => none

/-- A program without its requests through contexts of a stream: it goes on as if they had been
denied. -/
def Program.muted (stream : StreamId) : Program σ α → Program σ α
  | done result => done result
  | panic reason => panic reason
  | inspect next => inspect fun memory => (next memory).muted stream
  | remember memory next => remember memory (next.muted stream)
  | ask request next =>
    match request.denied? stream with
    | some answer => (next answer).muted stream
    | none => ask request fun answer => (next answer).muted stream

/-- User code without its requests through contexts of a stream. -/
def UserCode.muted (stream : StreamId) (code : UserCode σ) : UserCode σ :=
  code.translated (Program.muted stream)

namespace ParameterTree

variable {tree : ParameterTree} {stream : StreamId} (unknown : ¬ tree.Knows stream)
include unknown

/-- What an unknown stream is asked for is refused first of all for the stream. -/
theorem parameterAt_unknown (filter name : String) :
    tree.parameterAt stream filter name = .error (.unknownStream stream) := by
  rw [parameterAt_eq_locate, locate, Option.not_isSome_iff_eq_none.mp unknown]
  rfl

theorem store_unknown (filter name : String) (value : Value) :
    tree.store stream filter name value = .error (.unknownStream stream) := by
  rw [store, parameterAt_unknown unknown]
  rfl

theorem create_unknown (filter name : String) (type : ValueType) (initial : Value)
    (setter : Option CodeRef) :
    tree.create stream filter name type initial setter = .error (.unknownStream stream) := by
  rw [create, filterAt, filtersOf, Option.not_isSome_iff_eq_none.mp unknown]
  rfl

end ParameterTree

namespace Session

open StreamControl.Action

section Denied

variable {β : Type} {session : Session σ} {fault : Fault}

theorem bind_refused {first : Action (Session σ) α} {next : α → Action (Session σ) β}
    (refused : first session = (.refused fault, session)) :
    (first >>= next) session = (.refused fault, session) := by
  rw [bind_def, Action.bind, refused]

theorem attempt_refused {action : Action (Session σ) α}
    (refused : action session = (.refused fault, session)) :
    action.attempt session = (.returned (.error fault), session) := by
  rw [Action.attempt, refused]

theorem changeTree_refused {change : ParameterTree → Except Fault (α × ParameterTree)}
    (refused : change session.tree = .error fault) :
    changeTree change session = (.refused fault, session) :=
  (bind_of_returned rfl).trans (bind_refused (by rw [refused]; rfl))

theorem readTree_refused {read : ParameterTree → Except Fault α}
    (refused : read session.tree = .error fault) :
    readTree read session = (.refused fault, session) :=
  (bind_of_returned rfl).trans (by rw [refused]; rfl)

/-- **A dead context is denied what it asks for, and nothing happens.** -/
theorem serve_denied (callees : Callees σ) {stream : StreamId}
    (unknown : ¬ session.tree.Knows stream) {request : Request} {answer : request.Answer}
    (denied : request.denied? stream = some answer) :
    serve callees request session = (.returned answer, session) := by
  cases request with
  | push owner name value =>
    obtain ⟨rfl, same⟩ := Option.ite_none_right_eq_some.mp denied
    cases same
    refine attempt_refused (bind_refused (changeTree_refused ?_))
    exact ParameterTree.store_unknown unknown _ _ _
  | create owner name type initial setter =>
    obtain ⟨rfl, same⟩ := Option.ite_none_right_eq_some.mp denied
    cases same
    refine attempt_refused (bind_refused (changeTree_refused ?_))
    rw [ParameterTree.create_unknown unknown]
    rfl
  | value owner filter name =>
    obtain ⟨rfl, same⟩ := Option.ite_none_right_eq_some.mp denied
    cases same
    refine attempt_refused (readTree_refused ?_)
    rw [ParameterTree.parameterAt_unknown unknown]
    rfl
  | _ => cases denied

end Denied

end Session

namespace Host

open StreamControl.Action Session

/-! ## Numbers that have been given up -/

/-- A stream has been numbered and is unknown. -/
def Buried (stream : StreamId) (host : Host σ) : Prop :=
  ¬ host.session.tree.Knows stream ∧ stream.number < host.nextStream

/-- User code makes no difference to it. -/
theorem lax_buried (stream : StreamId) (host : Host σ) :
    Lax fun session : Session σ => Buried stream { host with session } where
  record _ buried := buried
  memory _ buried := buried
  tally _ buried := buried
  channel _ buried := buried
  edit edit buried := ⟨mt (edit.kept.knows stream).mp buried.1, buried.2⟩
  recordQuery _ buried := buried
  queue _ _ _ buried := buried

/-- **A stream that is no more does not come back.** -/
theorem enduring_buried (code : UserCode σ) (stream : StreamId) :
    Enduring code (Buried stream : Host σ → Prop) := by
  rintro deed before after does ⟨unknown, numbered⟩
  cases does with
  | stir before after session _ nextStream =>
    rw [Buried, session, nextStream]
    exact ⟨unknown, numbered⟩
  | run _ program _ ends | outside _ program ends =>
    exact ((lax_buried stream _).keeps_run code program).of_ne_exhausted ⟨unknown, numbered⟩ ends
  | drain _ ends =>
    have lax := lax_buried stream before
    have drained : Keeps _ False False _ := lax.keeps_drain (lax.keeps_callback code)
    exact drained.of_ne_exhausted ⟨unknown, numbered⟩ ends
  | attach _ room =>
    have next : before.nextStream < before.nextStream + 1 :=
      UInt32.lt_add_one fun last => room (by rw [last]; decide)
    refine ⟨fun known => ?_, UInt32.lt_trans numbered next⟩
    rcases (ParameterTree.knows_addStream _ _ _).mp known with rfl | old
    · exact UInt32.lt_irrefl _ numbered
    · exact unknown old
  | enroll _ added =>
    exact ⟨mt (ParameterTree.knows_addFilter_iff added stream).mp unknown, numbered⟩
  | mark _ marked =>
    exact ⟨mt ((ParameterTree.sameFilters_setStarted marked).knows stream).mp unknown, numbered⟩
  | settle _ stopped =>
    exact ⟨mt ((ParameterTree.kept_dropUnkept _ stopped).knows stream).mp unknown, numbered⟩
  | forget _ other =>
    exact ⟨fun known => unknown ((ParameterTree.knows_removeStream _ _ _).mp known).2, numbered⟩
  | _ => exact ⟨unknown, numbered⟩

/-- While a stream is no more, leaving out the requests through its contexts makes no
difference to a program. -/
theorem unheard_muted (stream : StreamId) (host : Host σ) :
    Unheard (Program.muted stream) fun session : Session σ => Buried stream { host with session } := by
  intro callees all α program
  have lax := lax_buried stream host
  have remembers (memory : σ) : Keeps (fun session => Buried stream { host with session }) True True
      (modify fun session => { session with memory }) := keeps_modify fun _ => lax.memory memory
  induction program with
  | done | panic => exact alike_refl _
  | inspect next ih => exact alike_get fun session => ih session.memory
  | remember memory next ih => exact (remembers memory).alike fun _ => ih
  | ask request next ih =>
    simp only [Program.muted]
    split
    · rename_i answer denied
      intro session buried
      rw [Program.run, bind_of_returned (serve_denied callees buried.1 denied)]
      exact ih answer session buried
    · exact ((keeps_serve_of_callees lax all request).mono False.elim id).alike ih

/-- **User code that is muted for a stream that is no more does what it did.** -/
theorem foreign_muted (code : UserCode σ) (stream : StreamId) :
    Foreign (Program.muted stream) code (Buried stream) where
  enduring := enduring_buried code stream
  lax := lax_buried stream
  done _ := rfl
  unheard := unheard_muted stream

/-! ## The numbers of a history -/

/-- The stream that an episode was to attach: it gets the next number, whatever becomes of it. -/
def Episode.offered? : Episode σ → Option StreamId
  | ⟨.addStream _, before, _, _⟩ => some ⟨before.nextStream⟩
  | _ => none

/-- The stream that is no more after an episode: it was detached, or could not be attached. -/
def Episode.ceased? : Episode σ → Option StreamId
  | ⟨.removeStream stream, _, .returned _, _⟩ => some stream
  | episode => episode.unattached?

/-- The streams that were to be attached, in order. -/
def History.offered (history : History σ) : List StreamId :=
  history.episodes.filterMap Episode.offered?

/-- The streams that were attached, in order. -/
def History.attached (history : History σ) : List StreamId :=
  history.episodes.filterMap fun episode => episode.attached?.map Prod.fst

/-- What nothing but an attempt to attach a stream changes. -/
theorem survives_nextStream {code : UserCode σ} {operation : Operation σ} {host : Host σ}
    (other : ∀ graph, operation ≠ .addStream graph)
    (ends : (operation.perform code host).1 ≠ .exhausted) :
    (operation.perform code host).2.nextStream = host.nextStream := by
  refine Episode.survives (P := fun after => after.nextStream = host.nextStream)
    (fun deed involved before after does same => ?_) rfl ends
  cases does with
  | stir _ _ _ _ nextStream => exact nextStream.trans same
  | attach =>
    cases operation with
    | addStream graph => exact absurd rfl (other graph)
    | _ => exact involved.elim
  | _ => exact same

/-- What an episode does with the numbers of streams. -/
structure Episode.Numbers (episode : Episode σ) : Prop where
  /-- An attempt to attach a stream takes a number, as long as there are any. -/
  next : ∀ stream, episode.offered? = some stream → episode.before.nextStream + 1 ≠ 0 →
    episode.after.nextStream = episode.before.nextStream + 1
  /-- Nothing else does. -/
  other : episode.offered? = none → episode.after.nextStream = episode.before.nextStream
  /-- A stream is attached with the number that was taken for it. -/
  attached : ∀ stream, episode.attached?.map Prod.fst = some stream → episode.offered? = some stream
  /-- Only construct functions of its own filters are called, with contexts of that number. -/
  handed : ∀ stream, episode.offered? = some stream → ∃ visits,
    episode.after.session.journal.visits = episode.before.session.journal.visits ++ visits ∧
      ∀ visit ∈ visits, IsConstruction stream visit

/-- An attempt to attach a stream, when there are no numbers left. -/
theorem Episode.numbers_full {graph : FilterGraph} {host : Host σ} {reason : String}
    (full : host.nextStream + 1 = 0) :
    (⟨.addStream graph, host, .panicked reason, host⟩ : Episode σ).Numbers where
  next _ _ room := absurd full room
  other := nofun
  attached := nofun
  handed _ _ := ⟨[], (List.append_nil _).symm, nofun⟩

theorem Numbers.episode {graph : FilterGraph} {stream : StreamId} {visits : List Visit}
    {outline : Outline} {before after : Host σ} (numbers : Numbers stream visits outline before after)
    {ending : Ending StreamId} (attached : ∀ other, ending = .returned other → other = stream) :
    (⟨.addStream graph, before, ending, after⟩ : Episode σ).Numbers where
  next _ _ _ := numbers.nextStream
  other := nofun
  attached other same := by
    cases ending with
    | returned found =>
      cases same
      cases attached _ rfl
      exact congrArg some (congrArg StreamId.mk numbers.number.symm)
    | _ => cases same
  handed other same := by
    cases same
    have own : stream = ⟨before.nextStream⟩ := congrArg StreamId.mk numbers.number
    exact ⟨visits, numbers.wrote.visits_eq, own ▸ numbers.constructions⟩

theorem Episode.numbers (code : UserCode σ) (operation : Operation σ) (host : Host σ)
    (ends : (operation.perform code host).1 ≠ .exhausted) :
    (Episode.of code operation host).Numbers := by
  cases operation with
  | addStream graph =>
    refine Episode.of_meets ((meets_addStream code graph host).mono ?_ ?_ ?_) ends
    · rintro stream after ⟨-, -, numbers⟩
      exact numbers.episode fun other same => (Ending.returned.inj same).symm
    · rintro fault after ⟨stream, visits, -, numbers⟩
      exact numbers.episode nofun
    · rintro reason after (⟨full, rfl⟩ | ⟨stream, names, visits, filter, -, numbers⟩)
      · exact Episode.numbers_full full
      · exact numbers.episode nofun
  | _ => exact ⟨nofun, fun _ => survives_nextStream nofun ends, nofun, nofun⟩

variable {code : UserCode σ} {history : History σ}

theorem History.offered_extend (operation : Operation σ) :
    (history.extend code operation).offered =
      history.offered ++ (Episode.of code operation history.host).offered?.toList := by
  rw [offered, extend, List.filterMap_append, List.filterMap_cons, List.filterMap_nil]
  cases (Episode.of code operation history.host).offered? <;> rfl

theorem History.attached_extend (operation : Operation σ) :
    (history.extend code operation).attached = history.attached ++
      ((Episode.of code operation history.host).attached?.map Prod.fst).toList := by
  rw [attached, extend, List.filterMap_append, List.filterMap_cons, List.filterMap_nil]
  cases (Episode.of code operation history.host).attached? <;> rfl

theorem Episode.offered?_before {episode : Episode σ} {stream : StreamId}
    (offered : episode.offered? = some stream) : stream = ⟨episode.before.nextStream⟩ := by
  obtain ⟨operation, before, ending, after⟩ := episode
  cases operation with
  | addStream graph => exact (Option.some.inj offered).symm
  | _ => cases offered

theorem History.episode_numbers (reachable : history.Reachable code) :
    ∀ episode ∈ history.episodes, episode.Numbers := by
  refine reachable.induction (motive := fun history => ∀ episode ∈ history.episodes, episode.Numbers)
    (fun _ _ _ _ member => (List.not_mem_nil member).elim) ?_
  intro history operation _ ih _ ends episode member
  rcases List.mem_append.mp member with old | new
  · exact ih episode old
  · rw [List.mem_singleton.mp new]
    exact Episode.numbers code operation history.host ends

/-- **Every attempt to attach a stream takes the next number**, as long as there are any. -/
theorem History.offered_numbers (reachable : history.Reachable code)
    (few : history.offered.length < UInt32.size - 1) :
    history.host.nextStream.toNat = 1 + history.offered.length ∧
      history.offered.map (·.number.toNat) = List.range' 1 history.offered.length := by
  refine reachable.induction (motive := fun history => history.offered.length < UInt32.size - 1 →
    history.host.nextStream.toNat = 1 + history.offered.length ∧
      history.offered.map (·.number.toNat) = List.range' 1 history.offered.length)
    (fun _ _ _ _ => ⟨rfl, rfl⟩) ?_ few
  intro history operation _ ih _ ends few
  have numbers := Episode.numbers code operation history.host ends
  rw [History.offered_extend] at few ⊢
  cases taken : (Episode.of code operation history.host).offered? with
  | none =>
    rw [taken, Option.toList_none, List.append_nil] at few
    rw [Option.toList_none, List.append_nil]
    obtain ⟨next, all⟩ := ih few
    exact ⟨(congrArg UInt32.toNat (numbers.other taken)).trans next, all⟩
  | some stream =>
    rw [taken, Option.toList_some, List.length_append, List.length_singleton] at few
    rw [Option.toList_some, List.length_append, List.length_singleton]
    obtain ⟨next, all⟩ := ih (by omega)
    have own : stream.number.toNat = 1 + history.offered.length := by
      rw [Episode.offered?_before taken]
      exact next
    have size : UInt32.size = 4294967296 := rfl
    have grown : (history.host.nextStream + 1).toNat = 1 + (history.offered.length + 1) := by
      rw [UInt32.toNat_add, next, UInt32.toNat_one]
      omega
    have room : history.host.nextStream + 1 ≠ 0 := fun full => by
      rw [full, UInt32.toNat_zero] at grown
      omega
    constructor
    · exact (congrArg UInt32.toNat (numbers.next stream taken room)).trans grown
    · rw [List.map_append, all, List.map_singleton, own, ← List.range'_1_concat]

/-- The streams that were attached are among those that were to be, in the same order. -/
theorem History.attached_sublist (reachable : history.Reachable code) :
    history.attached.Sublist history.offered := by
  refine reachable.induction (motive := fun history => history.attached.Sublist history.offered)
    (fun _ _ _ => List.nil_sublist _) ?_
  intro history operation _ ih _ ends
  rw [History.attached_extend, History.offered_extend]
  refine ih.append ?_
  have numbers := Episode.numbers code operation history.host ends
  cases found : (Episode.of code operation history.host).attached?.map Prod.fst with
  | none => exact List.nil_sublist _
  | some stream => rw [numbers.attached stream found]

/-! ## Streams that are no more -/

theorem Episode.buried_of_ceased {past : Past} {operation : Operation σ} {host : Host σ}
    (sound : Sound past host) (ends : (operation.perform code host).1 ≠ .exhausted)
    {stream : StreamId} (ceased : (Episode.of code operation host).ceased? = some stream) :
    Buried stream (operation.perform code host).2 := by
  revert ceased
  cases operation with
  | addStream graph =>
    refine Episode.of_meets (motive := fun episode => episode.ceased? = some stream →
      Buried stream episode.after) ((meets_addStream code graph host).mono
        (fun _ _ _ same => by cases same) ?_ fun _ _ _ same => by cases same) ends
    rintro fault after ⟨other, visits, unknown, numbers⟩ same
    cases same
    have own : other = ⟨host.nextStream⟩ := congrArg StreamId.mk numbers.number
    exact ⟨own ▸ unknown, numbers.lt⟩
  | removeStream removed =>
    refine Episode.of_meets (motive := fun episode => episode.ceased? = some stream →
      Buried stream episode.after) ((meets_removeStream code removed host).mono ?_
        (fun _ _ _ same => by cases same) fun _ _ _ same => by cases same) ends
    rintro graph after ⟨found, -, detaches⟩ same
    cases same
    refine ⟨detaches.forgotten, ?_⟩
    rw [detaches.nextStream]
    exact sound.numbered _ graph found
  | _ => exact nofun

/-- **A stream that could not be attached, or was detached, is no more for good.** -/
theorem History.buried (reachable : history.Reachable code) :
    ∀ episode ∈ history.episodes, ∀ stream, episode.ceased? = some stream →
      Buried stream history.host := by
  refine reachable.induction (motive := fun history => ∀ episode ∈ history.episodes, ∀ stream,
    episode.ceased? = some stream → Buried stream history.host)
    (fun _ _ _ _ member => (List.not_mem_nil member).elim) ?_
  intro history operation reachable ih _ ends episode member stream ceased
  rcases List.mem_append.mp member with old | new
  · exact Episode.survives (fun deed _ => enduring_buried code stream deed)
      (ih episode old stream ceased) ends
  · rw [List.mem_singleton.mp new] at ceased
    exact Episode.buried_of_ceased (History.sound reachable) ends ceased

/-- The contexts of a stream are dead, whatever is done next. -/
structure Dead (code : UserCode σ) (stream : StreamId) (host : Host σ) : Prop where
  /-- Whatever is asked through one is denied; nothing changes, and nothing is called. -/
  denied : ∀ (callees : Callees σ) (request : Request) (answer : request.Answer),
    request.denied? stream = some answer →
      Session.serve callees request host.session = (.returned answer, host.session)
  /-- User code that goes on as if it had been denied at once makes no difference to any
  operation. -/
  operations : ∀ operation : Operation σ,
    operation.perform (code.muted stream) host = operation.perform code host
  /-- Nor does a program of somebody outside that does so. -/
  programs : ∀ {α : Type} (program : Program σ α),
    (code.muted stream).run (program.muted stream) host.session = code.run program host.session

theorem Buried.dead {stream : StreamId} {host : Host σ} (buried : Buried stream host)
    (code : UserCode σ) : Dead code stream host where
  denied callees _ _ denied := serve_denied callees buried.1 denied
  operations operation := ((foreign_muted code stream).alike_perform operation host buried).symm
  programs program := ((unheard_muted stream host).alike_run (lax_buried stream host) code program
    host.session buried).symm

/-- **Dead contexts stay dead.**  As long as there are numbers left, streams are attached with
ever greater numbers, and those that could not be attached use theirs up.  Once a stream could
not be attached or has been detached, its contexts are dead, whatever is done later, be it that
the same filter graph is attached once more. -/
theorem dead_contexts (reachable : history.Reachable code)
    (few : history.offered.length < UInt32.size - 1) :
    history.offered.Pairwise (· < ·) ∧ history.attached.Sublist history.offered ∧
      history.attached.Pairwise (· < ·) ∧
      (∀ episode ∈ history.episodes, ∀ stream, episode.offered? = some stream →
        ∃ visits, episode.after.session.journal.visits =
          episode.before.session.journal.visits ++ visits ∧
            ∀ visit ∈ visits, IsConstruction stream visit) ∧
      ∀ episode ∈ history.episodes, ∀ stream, episode.ceased? = some stream →
        Dead code stream history.host := by
  have numbers : (history.offered.map (·.number.toNat)).Pairwise (· < ·) := by
    rw [(History.offered_numbers reachable few).2]
    exact List.pairwise_lt_range'
  have ascending : history.offered.Pairwise (· < ·) :=
    (List.pairwise_map.mp numbers).imp fun less => UInt32.lt_iff_toNat_lt.mpr less
  have sublist := History.attached_sublist reachable
  exact ⟨ascending, sublist, ascending.sublist sublist,
    fun episode member => (History.episode_numbers reachable episode member).handed,
    fun episode member stream ceased =>
      (History.buried reachable episode member stream ceased).dead code⟩

/-- What a filter does that pushes a value through every context that it has. -/
def pushThrough : List FilterContext → Program (List FilterContext) (Except Fault Unit)
  | [] => .done (.ok ())
  | context :: rest => .ask (.push context "gain" (.bool false)) fun _ => pushThrough rest

/-- User code that keeps the contexts of all its filters, and pushes through them all whenever
a filter is started.  One filter refuses to be constructed. -/
def hoardingCode : UserCode (List FilterContext) where
  callback _ _ := .done 0
  construct _ _ := .done .ok
  help _ := .done ""
  preStart _ _ := .done .proceed
  filterHook _ _ _ := .done .ok
  destroy _ := .done .ok
  filter reference function context :=
    match function with
    | .construct => .inspect fun contexts => .remember (context :: contexts) <|
        .ask (.create context "gain" .bool (.bool true) none) fun _ =>
          .done (if reference = 7 then .error (.unknownFilter "sink") else .ok ())
    | .start => .inspect pushThrough
    | .stop => .done (.ok ())
  setter _ _ _ := .done none
  nesting := 1

/-- A history in which a stream is detached and attached again, and another one cannot be
attached. -/
def hoardingHistory : History (List FilterContext) :=
  .after hoardingCode
    { episodes := [], host := onChannel { room := 1 } { eventCapacity := 1 } [] }
    [.addStream (FilterGraph.empty.append "source" (some 0)), .removeStream ⟨1⟩,
      .addStream (FilterGraph.empty.append "source" (some 7)),
      .addStream (FilterGraph.empty.append "source" (some 0))]

theorem hoardingHistory_reachable : hoardingHistory.Reachable hoardingCode := by
  refine ⟨_, _, _, create_smallest _, History.leads_after _ ⟨⟨⟨?_, ?new⟩, ?_⟩,
    ⟨⟨?_, nofun⟩, ?_⟩, ⟨⟨?_, ?new'⟩, ?_⟩, ⟨⟨?_, ?again⟩, ?_⟩, trivial⟩⟩
  case new | new' =>
    intro graph same
    cases same
    exact .add .new rfl
  case again =>
    intro graph same
    cases same
    exact .detached (List.mem_append_left _ (List.mem_append_right _ (List.mem_singleton_self _)))
      rfl
  all_goals decide +kernel

/-- The contexts of the stream that was detached and of the one that could not be attached are
dead; that of the stream attached again under a new number is not. -/
theorem dead_contexts_hoarding :
    hoardingHistory.host.session.memory =
        [⟨⟨3⟩, "source"⟩, ⟨⟨2⟩, "source"⟩, ⟨⟨1⟩, "source"⟩] ∧
      hoardingHistory.offered = [⟨1⟩, ⟨2⟩, ⟨3⟩] ∧ hoardingHistory.attached = [⟨1⟩, ⟨3⟩] ∧
      Dead hoardingCode ⟨1⟩ hoardingHistory.host ∧ Dead hoardingCode ⟨2⟩ hoardingHistory.host ∧
      hoardingHistory.host.session.tree.Knows ⟨3⟩ := by
  have offered : hoardingHistory.offered = [⟨1⟩, ⟨2⟩, ⟨3⟩] := by
    decide +kernel
  have few : hoardingHistory.offered.length < UInt32.size - 1 := by
    rw [offered]
    decide
  obtain ⟨-, -, -, -, dead⟩ := dead_contexts hoardingHistory_reachable few
  have ceased : hoardingHistory.episodes.filterMap Episode.ceased? = [⟨1⟩, ⟨2⟩] := by
    decide +kernel
  have gone (stream : StreamId) (member : stream ∈ [(⟨1⟩ : StreamId), ⟨2⟩]) :
      Dead hoardingCode stream hoardingHistory.host := by
    rw [← ceased] at member
    obtain ⟨episode, listed, same⟩ := List.mem_filterMap.mp member
    exact dead episode listed stream same
  have known : (hoardingHistory.host.session.tree.streams.find? ⟨3⟩).isSome = true := by
    decide +kernel
  refine ⟨?_, offered, ?_, gone _ (by simp), gone _ (by simp), known⟩ <;> decide +kernel

end Host

end StreamControl
