import Mathlib.Data.List.Sort
import StreamControl.Proofs.Subscriptions
import StreamControl.Session.Run

/-!
# Walking over parameters

A walk looks the parameters that are meant up once, before its first visit.  So it goes over
the parameters as they were then, in the order of streams, filters and names
(`ParameterTree.mem_select`, `ParameterTree.select_inOrder`), whatever its visitor does to
them meanwhile.  `Program.Visited` tells the calls of a visitor as they happen, each in the
session that the one before it left; `Program.forEach_visits` says which calls a walk makes,
and that it counts them.

To subscribe to a filter without naming a parameter comes to the same as walking over the
parameters that serve the type, and then subscribing to each by its name: the walk, the
wildcard and the named subscription agree on which parameters those are
(`ParameterTree.subscribe_visited`).
-/

set_option autoImplicit false

namespace StreamControl

/-! ## What is meant, and in which order -/

namespace ParameterInfo

/-- Where the parameter was found. -/
def address (info : ParameterInfo) : Address := ⟨info.stream, info.filter, info.name⟩

/-- Streams come first, then filters, then names. -/
def Before (one other : ParameterInfo) : Prop :=
  one.stream < other.stream ∨ one.stream = other.stream ∧
    (one.filter < other.filter ∨ one.filter = other.filter ∧ one.name < other.name)

end ParameterInfo

/-- A parameter is meant unless it is excluded by the stream, the filter, the name or the
type asked for. -/
structure Selector.Means (selector : Selector) (info : ParameterInfo) : Prop where
  /-- It is of the stream asked for. -/
  stream : ∀ stream, selector.stream = some stream → info.stream = stream
  /-- It is of the filter asked for. -/
  filter : ∀ filter, selector.filter = some filter → info.filter = filter
  /-- It has the name asked for. -/
  name : ∀ name, selector.name = some name → info.name = name
  /-- It serves the type asked for. -/
  type : selector.type = .any ∨ info.type = .any ∨ info.type = selector.type

theorem Selector.matches_iff {selector : Selector} {info : ParameterInfo} :
    selector.matches info = true ↔ selector.Means info := by
  simp only [Selector.matches, ValueType.accepts, Bool.and_eq_true, Bool.or_eq_true,
    Option.all_eq_true, decide_eq_true_eq]
  constructor
  · rintro ⟨⟨⟨stream, filter⟩, name⟩, type⟩
    refine ⟨?_, ?_, ?_, or_assoc.mp type⟩
    · intro it asked
      exact (stream it asked).symm
    · intro it asked
      exact (filter it asked).symm
    · intro it asked
      exact (name it asked).symm
  · rintro ⟨stream, filter, name, type⟩
    refine ⟨⟨⟨?_, ?_⟩, ?_⟩, or_assoc.mpr type⟩
    · intro it asked
      exact (stream it asked).symm
    · intro it asked
      exact (filter it asked).symm
    · intro it asked
      exact (name it asked).symm

namespace ParameterTree

variable {tree : ParameterTree} {info : ParameterInfo}

/-- The tree has a parameter at the place of an info, with that type and that value. -/
def Shows (tree : ParameterTree) (info : ParameterInfo) : Prop :=
  ∃ parameter, tree.parameter? info.address = some parameter ∧
    parameter.type = info.type ∧ parameter.value = info.value

theorem mem_infos : info ∈ tree.infos ↔ tree.Shows info := by
  simp only [infos, List.mem_flatMap, List.mem_map, Prod.exists, OrderedMap.mem_entries_iff,
    Shows, parameter?, Option.bind_eq_some_iff, ParameterInfo.address]
  constructor
  · rintro ⟨stream, filters, known, filter, entry, owner, name, parameter, there, rfl⟩
    exact ⟨parameter, ⟨filters, known, entry, owner, there⟩, rfl, rfl⟩
  · rintro ⟨parameter, ⟨filters, known, entry, owner, there⟩, type, value⟩
    exact ⟨info.stream, filters, known, info.filter, entry, owner, info.name, parameter, there,
      by rw [type, value]⟩

/-- Parameters are listed in the order of their streams, filters and names. -/
theorem infos_inOrder (tree : ParameterTree) : tree.infos.Pairwise ParameterInfo.Before := by
  rw [infos, List.pairwise_flatMap]
  constructor
  · rintro ⟨stream, filters⟩ _
    rw [List.pairwise_flatMap]
    constructor
    · rintro ⟨filter, entry⟩ _
      rw [List.pairwise_map]
      refine entry.parameters.increasing.imp ?_
      intro one other before
      exact .inr ⟨rfl, .inr ⟨rfl, before⟩⟩
    · refine filters.increasing.imp ?_
      intro one other before info member further member'
      obtain ⟨_, _, rfl⟩ := List.mem_map.mp member
      obtain ⟨_, _, rfl⟩ := List.mem_map.mp member'
      exact .inr ⟨rfl, .inl before⟩
  · refine tree.streams.increasing.imp ?_
    intro one other before info member further member'
    obtain ⟨_, _, member⟩ := List.mem_flatMap.mp member
    obtain ⟨_, _, member'⟩ := List.mem_flatMap.mp member'
    obtain ⟨_, _, rfl⟩ := List.mem_map.mp member
    obtain ⟨_, _, rfl⟩ := List.mem_map.mp member'
    exact .inl before

/-- What is selected is what is there and is meant. -/
theorem mem_select {selector : Selector} :
    info ∈ tree.select selector ↔ tree.Shows info ∧ selector.Means info := by
  rw [select, List.mem_filter, mem_infos, Selector.matches_iff]

theorem select_inOrder (tree : ParameterTree) (selector : Selector) :
    (tree.select selector).Pairwise ParameterInfo.Before :=
  tree.infos_inOrder.filter _

end ParameterTree

/-! ## The calls of a visitor -/

namespace Program

variable {σ τ α β : Type} {callees : Callees σ}

theorem run_bind (program : Program σ α) (next : α → Program σ β) :
    (program >>= next).run callees =
      (program.run callees >>= fun result => (next result).run callees) := by
  induction program with
  | done result => rfl
  | panic reason => rfl
  | inspect read ih =>
    change (get >>= fun session : Session σ => (read session.memory >>= next).run callees) = _
    simp only [ih, run, bind_assoc]
  | remember memory rest ih =>
    change (modify _ >>= fun _ => (rest >>= next).run callees) = _
    simp only [ih, run, bind_assoc]
  | ask request rest ih =>
    change (Session.serve callees request >>= fun answer =>
      (rest answer >>= next).run callees) = _
    simp only [ih, run, bind_assoc]

/-- The calls of a visitor that starts in a state and in a session: the parameters it has been
called for, how the last call ended, and the session it left.  It is called again only if it
returned without breaking off. -/
inductive Visited (callees : Callees σ) (visit : τ → ParameterInfo → Program σ (Bool × τ))
    (state : τ) (session : Session σ) :
    List ParameterInfo → Ending (Bool × τ) → Session σ → Prop where
  /-- There was no call yet. -/
  | start : Visited callees visit state session [] (.returned (false, state)) session
  /-- One more call, in the session that the calls before it left. -/
  | call {called : List ParameterInfo} {between after : Session σ} {current : τ}
      {ending : Ending (Bool × τ)} (info : ParameterInfo)
      (calls : Visited callees visit state session called (.returned (false, current)) between)
      (ends : (visit current info).run callees between = (ending, after)) :
      Visited callees visit state session (called ++ [info]) ending after

section Visits

variable {visit : τ → ParameterInfo → Program σ (Bool × τ)} {state first : τ}
  {session between after : Session σ} {called : List ParameterInfo}
  {ending : Ending (Bool × τ)}

/-- Calls that follow a first one that did not break off. -/
theorem Visited.after_first {info : ParameterInfo}
    (begins : (visit state info).run callees session = (.returned (false, first), between))
    (calls : Visited callees visit first between called ending after) :
    Visited callees visit state session (info :: called) ending after := by
  induction calls with
  | start =>
    rw [← List.nil_append [info]]
    exact .call info .start begins
  | call further _ ends ih =>
    rw [← List.cons_append]
    exact .call further ih ends

/-- How a walk ends whose last call has ended: it counts the calls if that one returned. -/
def counted (calls : Nat) : Ending (Bool × τ) → Ending (Nat × τ)
  | .returned (_, state) => .returned (calls, state)
  | .refused fault => .refused fault
  | .panicked reason => .panicked reason
  | .exhausted => .exhausted

/-- A walk over a list calls its visitor for the parameters of the list, from the front and up
to the first call that does not return or breaks off. -/
theorem walk_visits (callees : Callees σ) (visit : τ → ParameterInfo → Program σ (Bool × τ))
    (infos : List ParameterInfo) : ∀ (state : τ) (session : Session σ),
    ∃ called rest ending after, infos = called ++ rest ∧
      Visited callees visit state session called ending after ∧
      (∀ final, ending = .returned (false, final) → rest = []) ∧
      (walk visit state infos).run callees session = (counted called.length ending, after) := by
  induction infos with
  | nil =>
    intro state session
    exact ⟨[], [], _, session, rfl, .start, fun _ _ => rfl, rfl⟩
  | cons info rest ih =>
    intro state session
    rw [walk, run_bind, Action.bind_def, Action.bind]
    cases ends : (visit state info).run callees session with
    | mk ending between =>
      have call : Visited callees visit state session ([] ++ [info]) ending between :=
        .call info .start ends
      cases ending with
      | returned result =>
        obtain ⟨breaks, current⟩ := result
        cases breaks with
        | true => exact ⟨[info], rest, _, between, rfl, call, nofun, rfl⟩
        | false =>
          obtain ⟨called, unvisited, ending, after, split, calls, whole, walked⟩ :=
            ih current between
          refine ⟨info :: called, unvisited, ending, after, congrArg (info :: ·) split,
            calls.after_first ends, whole, ?_⟩
          change (walk visit current rest >>= _).run callees between = _
          rw [run_bind, Action.bind_def, Action.bind, walked]
          cases ending <;> rfl
      | refused fault => exact ⟨[info], rest, _, between, rfl, call, nofun, rfl⟩
      | panicked reason => exact ⟨[info], rest, _, between, rfl, call, nofun, rfl⟩
      | exhausted => exact ⟨[info], rest, _, between, rfl, call, nofun, rfl⟩

end Visits

/-- **A walk visits what is meant at the moment it begins.**  The parameters it goes over are
those that the tree then has and the selector means, with the types and the values they then
have, in the order of streams, filters and names, and so none of them twice.  The visitor is
called for them from the front, each time in the session that the call before left, up to the
first call that breaks off or does not return, or else to the last parameter.  The walk gives
the number of calls. -/
theorem forEach_visits (callees : Callees σ) (selector : Selector)
    (visit : τ → ParameterInfo → Program σ (Bool × τ)) (state : τ) (session : Session σ) :
    ∃ meant called rest ending after, meant = called ++ rest ∧
      (∀ info, info ∈ meant ↔ session.tree.Shows info ∧ selector.Means info) ∧
      meant.Pairwise ParameterInfo.Before ∧
      Visited callees visit state session called ending after ∧
      (∀ final, ending = .returned (false, final) → rest = []) ∧
      (forEach selector visit state).run callees session =
        (counted called.length ending, after) := by
  obtain ⟨called, rest, ending, after, split, calls, whole, walked⟩ :=
    walk_visits callees visit (session.tree.select selector) state session
  refine ⟨session.tree.select selector, called, rest, ending, after, split, ?_, ?_, calls, whole,
    ?_⟩
  · intro info
    exact ParameterTree.mem_select
  · exact session.tree.select_inOrder selector
  · exact walked

/-- Notes the names of parameters, and goes on. -/
def noteName (names : List String) (info : ParameterInfo) : Program σ (Bool × List String) :=
  done (false, names ++ [info.name])

theorem walk_noteName (callees : Callees σ) (infos : List ParameterInfo) :
    ∀ (names : List String) (session : Session σ),
    (walk noteName names infos).run callees session =
      (.returned (infos.length, names ++ infos.map (·.name)), session) := by
  induction infos with
  | nil =>
    intro names session
    simp [walk, run, Action.pure_def]
  | cons info rest ih =>
    intro names session
    change ((walk noteName (names ++ [info.name]) rest >>= fun result =>
      pure (result.1 + 1, result.2)).run callees) session = _
    rw [run_bind, Action.bind_of_returned (ih _ session)]
    simp [pure, run, Action.pure]

end Program

/-! ## Subscribing without a name -/

namespace ParameterTree

variable {tree after : ParameterTree} {stream : StreamId} {filter name : String}
  {entry : FilterEntry} {type : ValueType} {callback : Callback} {context : UserContext}
  {flags : SubscribeFlags}

theorem parameter?_of_filterAt (found : tree.filterAt stream filter = .ok entry) (name : String) :
    tree.parameter? ⟨stream, filter, name⟩ = entry.parameters.find? name := by
  obtain ⟨filters, known, owner⟩ := filterAt_eq_ok_iff.mp found
  rw [parameter?, known, Option.bind_some, owner, Option.bind_some]

/-- The names of the parameters that a walk over one filter goes over are those that the
filter has for parameters that serve the type. -/
theorem names_select (found : tree.filterAt stream filter = .ok entry) :
    (tree.select { stream := some stream, filter := some filter, type }).map (·.name) =
      (entry.parameters.entries.filter (·.2.type.accepts type)).map (·.1) := by
  have meant : ∀ info, info ∈ tree.select { stream := some stream, filter := some filter, type } ↔
      info.stream = stream ∧ info.filter = filter ∧ tree.Shows info ∧
        info.type.accepts type = true := by
    intro info
    simp only [select, List.mem_filter, mem_infos, Selector.matches, Option.all_some,
      Option.all_none, Bool.and_true, Bool.and_eq_true, decide_eq_true_eq]
    grind
  refine List.Pairwise.eq_of_mem_iff (r := (· < ·)) ?_ ?_ ?_
  · rw [List.pairwise_map]
    refine (tree.select_inOrder _).imp_of_mem ?_
    intro one other member member' before
    obtain ⟨stream, filter, _⟩ := (meant one).mp member
    obtain ⟨stream', filter', _⟩ := (meant other).mp member'
    rcases before with before | ⟨_, before | ⟨_, before⟩⟩
    · rw [stream, stream'] at before
      exact absurd before (UInt32.lt_irrefl _)
    · rw [filter, filter'] at before
      exact absurd before (String.lt_irrefl _)
    · exact before
  · rw [List.pairwise_map]
    exact entry.parameters.increasing.filter _
  · intro name
    simp only [List.mem_map, meant, List.mem_filter, Prod.exists, OrderedMap.mem_entries_iff]
    constructor
    · rintro ⟨info, ⟨rfl, rfl, ⟨parameter, there, type, _⟩, serves⟩, rfl⟩
      rw [ParameterInfo.address, parameter?_of_filterAt found] at there
      exact ⟨_, parameter, ⟨there, type ▸ serves⟩, rfl⟩
    · rintro ⟨name, parameter, ⟨there, serves⟩, rfl⟩
      refine ⟨⟨stream, filter, name, parameter.type, parameter.value⟩,
        ⟨rfl, rfl, ⟨parameter, ?_, rfl, rfl⟩, serves⟩, rfl⟩
      rw [ParameterInfo.address, parameter?_of_filterAt found, there]

/-- Subscribes a callback to parameters of a filter by their names, one after the other; gives
how many subscriptions were made, or what the first refusal was. -/
def subscribeEach (tree : ParameterTree) (stream : StreamId) (filter : String) (type : ValueType)
    (callback : Callback) (context : UserContext) (flags : SubscribeFlags) :
    List String → Except Fault (Nat × ParameterTree)
  | [] => .ok (0, tree)
  | name :: rest => do
    let (made, tree) ← tree.subscribe stream filter (some name) type callback context flags
    let (more, tree) ← tree.subscribeEach stream filter type callback context flags rest
    return (made + more, tree)

/-- A parameter that can be subscribed to by its name, as far as its type goes. -/
def Serves (tree : ParameterTree) (stream : StreamId) (filter : String) (type : ValueType)
    (name : String) : Prop :=
  ∃ parameter, tree.parameter? ⟨stream, filter, name⟩ = some parameter ∧
    parameter.type.accepts type = true

theorem Serves.subscribe (serves : tree.Serves stream filter type name) :
    tree.subscribe stream filter (some name) type callback context flags =
      .ok (tree.subscribeAll stream filter callback context flags [name]) := by
  obtain ⟨parameter, there, serves⟩ := serves
  simp only [parameter?, Option.bind_eq_some_iff] at there
  obtain ⟨filters, known, entry, owner, there⟩ := there
  have found := filterAt_eq_ok_iff.mpr ⟨filters, known, owner⟩
  simp only [ParameterTree.subscribe, found, bind, Except.bind, there, serves, if_true]

/-- Subscribing takes no parameter away and changes no declared type. -/
theorem Serves.subscribeAll (names : List String) (serves : tree.Serves stream filter type name) :
    (tree.subscribeAll stream filter callback context flags names).2.Serves stream filter type
      name := by
  refine subscribeAll_induction
    (R := fun before after => before.Serves stream filter type name →
      after.Serves stream filter type name) ?_ ?_ ?_ stream filter names tree serves
  · rintro before after _ same ⟨parameter, there, serves⟩
    exact ⟨parameter, (same _).trans there, serves⟩
  · intro before between after one two serves
    exact two (one serves)
  · rintro before after other found at_ _ _ same ⟨parameter, there, serves⟩
    rw [Serves, same]
    split
    · rename_i here
      rw [here, at_, Option.some.injEq] at there
      exact ⟨_, rfl, there ▸ serves⟩
    · exact ⟨parameter, there, serves⟩

/-- Names are subscribed to one after the other. -/
theorem subscribeAll_cons (tree : ParameterTree) (rest : List String) :
    tree.subscribeAll stream filter callback context flags (name :: rest) =
      let first := tree.subscribeAll stream filter callback context flags [name]
      let further := first.2.subscribeAll stream filter callback context flags rest
      (first.1 + further.1, further.2) := by
  simp only [subscribeAll]
  cases tree.parameterAt stream filter name with
  | error fault => simp
  | ok parameter => simp

/-- Subscribing by name, one after the other, is not refused where every name serves the type,
and it is the subscription to all of the names. -/
theorem subscribeEach_eq (names : List String) : ∀ tree : ParameterTree,
    (∀ name ∈ names, tree.Serves stream filter type name) →
      tree.subscribeEach stream filter type callback context flags names =
        .ok (tree.subscribeAll stream filter callback context flags names) := by
  induction names with
  | nil =>
    intro tree _
    rfl
  | cons name rest ih =>
    intro tree serves
    obtain ⟨first, others⟩ := List.forall_mem_cons.mp serves
    have further := ih (tree.subscribeAll stream filter callback context flags [name]).2
      fun other member => (others other member).subscribeAll [name]
    rw [subscribeEach, first.subscribe, subscribeAll_cons tree rest]
    simp only [bind, Except.bind, further]
    rfl

/-- **To subscribe without a name is to subscribe by name to what a walk goes over.**  At a
filter that is known, the wildcard is never refused; neither is any of the subscriptions by
name, made one after the other in the order of the walk.  They make as many subscriptions, and
leave the same tree, with the same numbers of subscriptions. -/
theorem subscribe_visited {σ : Type} (callees : Callees σ) (session : Session σ)
    (found : session.tree.filterAt stream filter = .ok entry) (type : ValueType)
    (callback : Callback) (context : UserContext) (flags : SubscribeFlags) :
    ∃ names made after, names.Pairwise (· < ·) ∧
      (Program.forEach { stream := some stream, filter := some filter, type }
        Program.noteName []).run callees session = (.returned (names.length, names), session) ∧
      session.tree.subscribeEach stream filter type callback context flags names =
        .ok (made, after) ∧
      session.tree.subscribe stream filter none type callback context flags =
        .ok (made, after) := by
  have serves : ∀ name ∈ (entry.parameters.entries.filter (·.2.type.accepts type)).map (·.1),
      session.tree.Serves stream filter type name := by
    intro name member
    simp only [List.mem_map, List.mem_filter, Prod.exists, OrderedMap.mem_entries_iff] at member
    obtain ⟨_, parameter, ⟨there, serves⟩, rfl⟩ := member
    exact ⟨parameter, (parameter?_of_filterAt found _).trans there, serves⟩
  refine ⟨_, _, _, ?_, ?_, subscribeEach_eq _ _ serves, ?_⟩
  · rw [List.pairwise_map]
    exact entry.parameters.increasing.filter _
  · have walked := Program.walk_noteName callees
      (session.tree.select { stream := some stream, filter := some filter, type }) [] session
    rw [List.nil_append, names_select found] at walked
    rw [← names_select found, List.length_map, names_select found]
    exact walked
  · simp only [ParameterTree.subscribe, found, bind, Except.bind]

/-- A callback that shows how loud a mixer is. -/
def meter : Callback := { code := 0, label := some "meter" }

/-- A mixer: of its three parameters one has the callback subscribed to it, one is not of the
type of the others, and one takes values of every type. -/
def mixer : FilterEntry where
  parameters := OrderedMap.empty
    |>.insert "delay" ⟨.uint64, .uint64 3, none, [⟨0, meter, {}, false⟩]⟩
    |>.insert "gain" ⟨.double, .none, none, []⟩
    |>.insert "mode" ⟨.any, .none, none, []⟩

/-- A session with a mixer. -/
def mixerSession : Session Unit where
  tree := { streams := OrderedMap.empty.insert ⟨1⟩ (OrderedMap.empty.insert "mixer" mixer),
            nextSubscription := 1 }
  channel := { room := 1 }
  memory := ()

/-- A callback that is not to be there twice is subscribed, of what serves the type, to what
does not have it yet. -/
theorem subscribe_visited_mixer :
    mixerSession.tree.filterAt ⟨1⟩ "mixer" = .ok mixer ∧
    ∃ after, mixerSession.tree.subscribeEach ⟨1⟩ "mixer" .uint64 meter {}
        { keepOne := true } ["delay", "mode"] = .ok (1, after) ∧
      mixerSession.tree.subscribe ⟨1⟩ "mixer" none .uint64 meter {}
        { keepOne := true } = .ok (1, after) := by
  have found : mixerSession.tree.filterAt ⟨1⟩ "mixer" = .ok mixer := rfl
  let silent : Callees Unit := ⟨fun _ _ => Action.exhaust, fun _ _ _ _ => Action.exhaust⟩
  obtain ⟨names, made, after, _, walked, each, all⟩ :=
    subscribe_visited silent mixerSession found .uint64 meter {} { keepOne := true }
  have walks : ((Program.forEach { stream := some ⟨1⟩, filter := some "mixer", type := .uint64 }
      Program.noteName []).run silent mixerSession).1 = .returned (2, ["delay", "mode"]) := by
    decide +kernel
  have adds : (mixerSession.tree.subscribe ⟨1⟩ "mixer" none .uint64 meter {}
      { keepOne := true }).map (·.1) = .ok 1 := by
    rfl
  rw [walked, Ending.returned.injEq, Prod.mk.injEq] at walks
  rw [all, Except.map, Except.ok.injEq] at adds
  exact ⟨found, after, walks.2 ▸ adds ▸ each, adds ▸ all⟩

end ParameterTree

end StreamControl
