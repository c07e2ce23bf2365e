import Mathlib.Data.List.Infix
import StreamControl.Proofs.Silence

/-!
# How the parameter tree changes

The journal notes every tree there has been, and each of them follows from the one before
by a change of one of a few kinds (`Journal.Change`).  User code stores values and adds
parameters and subscriptions; a push that is through takes out the subscriptions that it
has found to be over; and a host makes streams and filters known, marks filters, removes
subscriptions when a stream stops, and forgets streams.

Some of the kinds can be told by what the journal says around them.  The journal also tells
which subscriptions the pushes under way have found to be over (`Journal.reckonings`): what a
push takes out in the end is what it has reckoned.  And whatever a host removes when a stream
stops, it announces the stop before it announces anything else.

`Session.Traced` is the invariant.  While a stop is drained, that it will be announced is owed.
-/

set_option autoImplicit false

namespace StreamControl

/-! ## What pushes find to be over -/

namespace Entry

/-- The pushes that are under way after an entry, with the numbers of the subscriptions
that each has found to be over, given those before. -/
def reckonedFrom (pushes : List (Address × List Nat)) : Entry → List (Address × List Nat)
  | pushing stream filter parameter => (⟨stream, filter, parameter⟩, []) :: pushes
  | pushed _ _ _ => pushes.tail
  | left (.callback (.subscription id) _ _) exit =>
    match pushes with
    | [] => []
    | (address, spent) :: outer =>
      (address, spent ++ if exit = .succeeded then [] else [id]) :: outer
  | _ => pushes

theorem reckonedFrom_of_isAside {entry : Entry} (aside : entry.isAside = true)
    (pushes : List (Address × List Nat)) : entry.reckonedFrom pushes = pushes := by
  have silent := subscriber?_of_isAside aside
  unfold reckonedFrom
  split
  · cases aside
  · cases aside
  · cases silent
  · rfl

theorem treeFrom_of_not_isGrown {entry : Entry} (still : entry.isGrown = false)
    (tree : ParameterTree) : entry.treeFrom tree = tree := by
  cases entry <;> first | rfl | cases still

end Entry

namespace Journal

/-- The pushes that are under way after some entries, the push that began last first, with
the numbers of the subscriptions that each has found to be over. -/
def reckonings (entries : List Entry) : List (Address × List Nat) :=
  entries.foldl Entry.reckonedFrom []

variable {entries earlier later shown : List Entry} {entry : Entry}

theorem reckonings_concat :
    reckonings (entries ++ [entry]) = entry.reckonedFrom (reckonings entries) := by
  rw [reckonings, reckonings, List.foldl_append]
  rfl

/-- **Induction over what a journal shows**, entry by entry from some moment on. -/
theorem since_induction {P : List Entry → Prop} (now : P shown)
    (step : ∀ earlier entry later, entries = shown ++ earlier ++ entry :: later →
      P (shown ++ earlier) → P (shown ++ earlier ++ [entry]))
    (isPrefix : shown ++ later <+: entries) : P (shown ++ later) := by
  induction later using List.reverseRecOn with
  | nil => rwa [List.append_nil]
  | append_singleton earlier entry ih =>
    obtain ⟨rest, split⟩ := isPrefix
    rw [← List.append_assoc] at split ⊢
    rw [List.append_assoc, List.singleton_append] at split
    exact step earlier entry rest split.symm (ih ⟨entry :: rest, split⟩)

/-- The same from the beginning on. -/
theorem prefix_induction {P : List Entry → Prop} (new : P [])
    (step : ∀ earlier entry later, entries = earlier ++ entry :: later →
      P earlier → P (earlier ++ [entry])) (isPrefix : shown <+: entries) : P shown :=
  @since_induction entries shown [] P new step isPrefix

/-! ## Kinds of changes -/

/-- The subscriptions in a stream that do not stay have been removed, and no news have been
sent since. -/
def Settling (entries : List Entry) (stream : StreamId) : Prop :=
  ∃ before between, entries = before ++ .grown ((treeAfter before).dropUnkept stream).2 :: between ∧
    between.find? Entry.isNews = none

theorem Settling.append {stream : StreamId} (settling : Settling entries stream)
    {more : List Entry} (quiet : more.find? Entry.isNews = none) : Settling (entries ++ more) stream := by
  obtain ⟨before, between, split, none⟩ := settling
  refine ⟨before, between ++ more, by rw [split, List.append_assoc, List.cons_append], ?_⟩
  rw [List.find?_append, none, quiet, Option.none_or]

/-- What comes first of the news after a change, or what is owed. -/
def Announces (owed : Option StreamId) (later : List Entry) (stream : StreamId) : Prop :=
  later.find? Entry.isNews = some (.sent (.streamStopped stream)) ∨
    owed = some stream ∧ later.find? Entry.isNews = none

/-- How a tree may follow upon what was there before. -/
inductive Change (owed : Option StreamId) (earlier later : List Entry) : ParameterTree → Prop where
  /-- User code adds to the tree. -/
  | add {after : ParameterTree} (addition : (treeAfter earlier).Addition after) :
      Change owed earlier later after
  /-- A value is stored. -/
  | store {after : ParameterTree} (address : Address) {value : Value}
      {subscribers : List Subscription}
      (stored : (treeAfter earlier).store address.stream address.filter address.name value =
        .ok (subscribers, after)) : Change owed earlier later after
  /-- A push is through: what it has found to be over is taken out. -/
  | lapse (address : Address) {spent : List Nat} {outer : List (Address × List Nat)}
      (reckoned : reckonings earlier = (address, spent) :: outer)
      (through : later.head? = some (.pushed address.stream address.filter address.name)) :
      Change owed earlier later
        ((treeAfter earlier).unsubscribe address.stream address.filter address.name spent)
  /-- A stream is made known that never was. -/
  | attach (stream : StreamId) (new : ∀ shown, shown <+: earlier → ¬ (treeAfter shown).Knows stream) :
      Change owed earlier later ((treeAfter earlier).addStream stream)
  /-- A filter is made known. -/
  | enroll {after : ParameterTree} {stream : StreamId} {filter : String}
      (added : (treeAfter earlier).addFilter stream filter = .ok after) :
      Change owed earlier later after
  /-- A filter is marked. -/
  | mark {after : ParameterTree} {stream : StreamId} {filter : String} {started : Bool}
      (marked : (treeAfter earlier).setStarted stream filter started = .ok after) :
      Change owed earlier later after
  /-- The subscriptions in a stream that do not stay are removed, since it stops. -/
  | settle (stream : StreamId) (announces : Announces owed later stream) :
      Change owed earlier later ((treeAfter earlier).dropUnkept stream).2
  /-- A stream is forgotten. -/
  | forget (stream : StreamId) : Change owed earlier later ((treeAfter earlier).removeStream stream)

/-- Every tree follows by such a change. -/
def Changes (owed : Option StreamId) (entries : List Entry) : Prop :=
  ∀ earlier after later, entries = earlier ++ .grown after :: later →
    Change owed earlier later after

variable {owed : Option StreamId} {tree : ParameterTree}

/-- A change stays of its kind when more is written, if what is owed is announced first. -/
theorem Change.append {owed' : Option StreamId} (change : Change owed earlier later tree)
    (more : List Entry) (announces : ∀ stream, owed = some stream → Announces owed' more stream) :
    Change owed' earlier (later ++ more) tree := by
  cases change with
  | add addition => exact .add addition
  | store address stored => exact .store address stored
  | lapse address reckoned through =>
    refine .lapse address reckoned ?_
    rw [List.head?_append, through]
    rfl
  | attach stream new => exact .attach stream new
  | enroll added => exact .enroll added
  | mark marked => exact .mark marked
  | settle stream announced =>
    refine .settle stream ?_
    rw [Announces, List.find?_append]
    rcases announced with announced | ⟨owes, quiet⟩
    · exact .inl (by rw [announced, Option.some_or])
    · rw [quiet, Option.none_or]
      exact announces stream owes
  | forget stream => exact .forget stream

/-- A tree is noted, and further entries after it; none of them notes a tree. -/
theorem Changes.plant {owed' : Option StreamId} (changes : Changes owed entries)
    (change : Change owed' entries later tree)
    (announces : ∀ stream, owed = some stream → Announces owed' (.grown tree :: later) stream)
    (still : ∀ entry ∈ later, entry.isGrown = false) : Changes owed' (entries ++ .grown tree :: later) := by
  intro earlier after rest split
  rcases eq_or_before_or_after split with ⟨rfl, same, rfl⟩ | ⟨more, -, rfl⟩ | ⟨more, before, rfl⟩
  · cases same
    exact change
  · cases still _ (List.mem_append_right more List.mem_cons_self)
  · exact (changes earlier after more before).append _ announces

/-- An entry is written that notes no tree. -/
theorem Changes.concat {owed' : Option StreamId} (changes : Changes owed entries)
    (announces : ∀ stream, owed = some stream → Announces owed' [entry] stream)
    (still : entry.isGrown = false) : Changes owed' (entries ++ [entry]) := by
  intro earlier after rest split
  rcases eq_last_or_before split with ⟨-, rfl, -⟩ | ⟨more, before, rfl⟩
  · cases still
  · exact (changes earlier after more before).append _ announces

/-- As long as no news are sent, what is owed stays owed. -/
theorem announces_of_quiet (quiet : later.find? Entry.isNews = none) :
    ∀ stream, owed = some stream → Announces owed later stream :=
  fun _ owes => .inr ⟨owes, quiet⟩

end Journal

/-- A push that is through has just taken out what it has found to be over. -/
def Entry.IsThrough (earlier : List Entry) (entry : Entry) : Prop :=
  ∀ stream filter parameter, entry = .pushed stream filter parameter →
    ∃ before spent outer, earlier = before ++
        [.grown ((Journal.treeAfter before).unsubscribe stream filter parameter spent)] ∧
      Journal.reckonings before = (⟨stream, filter, parameter⟩, spent) :: outer

/-- Whether an entry shows that a push is through, or announces that a stream has
stopped. -/
def Entry.isClosing : Entry → Bool
  | .pushed .. | .sent (.streamStopped _) => true
  | _ => false

/-- When it is announced that a stream has stopped, subscriptions have been removed. -/
def Entry.IsDue (earlier : List Entry) (entry : Entry) : Prop :=
  ∀ stream, entry = .sent (.streamStopped stream) → Journal.Settling earlier stream

namespace Session

open StreamControl.Action Journal

variable {σ : Type}

/-! ## Pushes that are kept account of -/

/-- A property of sessions may depend on the pushes that are under way.  If entries turn it into
the property for the pushes that they leave, and the first and the last step of a push do so too,
then it survives a push whose callbacks keep it, whatever is under way. -/
theorem keeps_publish_reckoning {P : List (Address × List Nat) → Session σ → Prop}
    {callees : Callees σ}
    (callbacks : ∀ pushes reference delivery,
      Keeps (P pushes) False True (callees.callback reference delivery))
    (pliant : ∀ pushes, Pliant (P pushes))
    (write : ∀ {pushes} {session : Session σ} (entry : Entry), entry.isGrown = false →
      entry.isNews = false → entry.isClosing = false → P pushes session →
        P (entry.reckonedFrom pushes) { session with journal := session.journal.push entry })
    (address : Address) {value : Value} {pushes : List (Address × List Nat)}
    (begin : ∀ {session : Session σ} {subscribers tree},
      session.tree.store address.stream address.filter address.name value =
          .ok (subscribers, tree) →
        P pushes session → P ((address, []) :: pushes) { session with
          tree, journal := (session.journal.push (.grown tree)).push
            (.pushing address.stream address.filter address.name) })
    (finish : ∀ {session : Session σ} {spent}, P ((address, spent) :: pushes) session →
      P pushes { session with
        tree := session.tree.unsubscribe address.stream address.filter address.name spent
        journal := (session.journal.push (.grown (session.tree.unsubscribe address.stream
          address.filter address.name spent))).push
            (.pushed address.stream address.filter address.name) }) :
    Keeps (P pushes) True True
      (publish callees address.stream address.filter address.name value) := by
  refine keeps_publish_of (R := fun _ spent => P ((address, spent) :: pushes))
    (fun _ _ _ => begin) ?turn fun _ _ => finish
  case turn =>
    intro subscription rest spent session holds
    have left {session : Session σ} (exit : Exit)
        (holds : P ((address, spent) :: pushes) session) :=
      write (.left (.callback (.subscription subscription.id) subscription.callback
        ⟨value, address.stream, address.filter, address.name, subscription.context⟩) exit)
        rfl rfl rfl holds
    refine meets_dispatch_of (callbacks ((address, spent) :: pushes) _ _)
      (fun _ => ?_) (fun _ => ?_) (fun code between holds => ?_) (fun between holds => ?_)
      fun _ => pliant _
    · exact write (.entered _) rfl rfl rfl holds
    · rw [DispatchOutcome.endsSubscription, if_neg Bool.false_ne_true, List.append_nil]
      exact write (.skipped ..) rfl rfl rfl holds
    · by_cases zero : code = 0
      · simpa [Entry.reckonedFrom, DispatchOutcome.endsSubscription, zero] using
          left .succeeded holds
      · simpa [Entry.reckonedFrom, DispatchOutcome.endsSubscription, zero] using left .failed holds
    · exact left .panicked holds

/-! ## The trace of a session -/

/-- The journal accounts for every tree, while some pushes are under way and an announcement
may be owed.  The number is that of the next stream. -/
structure Traced (number : UInt32) (owed : Option StreamId) (pushes : List (Address × List Nat))
    (session : Session σ) : Prop where
  /-- The journal shows the tree. -/
  tree : session.tree = treeAfter session.journal.toList
  /-- The journal shows the pushes under way. -/
  reckoned : reckonings session.journal.toList = pushes
  /-- Streams that have been known have been numbered. -/
  numbered : ∀ shown, shown <+: session.journal.toList → ∀ stream, (treeAfter shown).Knows stream →
    stream.number < number
  /-- Every tree follows from the one before. -/
  changes : Changes owed session.journal.toList
  /-- Pushes have taken out what was over. -/
  through : session.journal.Throughout Entry.IsThrough
  /-- Stops have removed subscriptions. -/
  due : session.journal.Throughout Entry.IsDue
  /-- So has the stop whose announcement is owed. -/
  owes : ∀ stream, owed = some stream → Settling session.journal.toList stream

namespace Traced

variable {number : UInt32} {owed : Option StreamId} {pushes : List (Address × List Nat)}
  {session : Session σ}

/-- Streams have been known only below a number if they had been before the last entry, and
are after it. -/
theorem numbered_concat {entries : List Entry} {entry : Entry}
    (numbered : ∀ shown, shown <+: entries → ∀ stream, (treeAfter shown).Knows stream →
      stream.number < number)
    (last : ∀ stream, (treeAfter (entries ++ [entry])).Knows stream → stream.number < number) :
    ∀ shown, shown <+: entries ++ [entry] → ∀ stream, (treeAfter shown).Knows stream →
      stream.number < number := by
  intro shown isPrefix stream knows
  rcases List.prefix_concat_iff.mp isPrefix with rfl | before
  · exact last stream knows
  · exact numbered shown before stream knows

theorem numbered_note (traced : Traced number owed pushes session) {entry : Entry}
    (still : entry.isGrown = false) : ∀ shown, shown <+: session.journal.toList ++ [entry] →
      ∀ stream, (treeAfter shown).Knows stream → stream.number < number := by
  refine numbered_concat traced.numbered fun stream knows => ?_
  rw [treeAfter_concat, Entry.treeFrom_of_not_isGrown still] at knows
  exact traced.numbered _ List.prefix_rfl stream knows

/-- An entry is written that notes no tree and is no news, unless none are owed. -/
theorem write (traced : Traced number owed pushes session) {entry : Entry}
    {pushes' : List (Address × List Nat)} (still : entry.isGrown = false)
    (old : owed ≠ none → entry.isNews = false) (reckons : entry.reckonedFrom pushes = pushes')
    (closes : entry.isClosing = false) :
    Traced number owed pushes' { session with journal := session.journal.push entry } := by
  have quiet : ∀ stream, owed = some stream → List.find? Entry.isNews [entry] = none :=
    fun stream owes => by rw [List.find?_cons, old (owes ▸ nofun)]; rfl
  have through : ∀ stream filter parameter, entry ≠ .pushed stream filter parameter := by
    rintro _ _ _ rfl
    cases closes
  have due : ∀ stream, entry ≠ .sent (.streamStopped stream) := by
    rintro _ rfl
    cases closes
  refine { tree := ?tree, reckoned := ?reckoned, numbered := ?numbered, changes := ?changes,
           through := traced.through.push fun _ _ _ same => absurd same (through _ _ _),
           due := traced.due.push fun _ same => absurd same (due _), owes := ?owes } <;>
    dsimp only <;> rw [Array.toList_push]
  case tree => rw [treeAfter_concat, Entry.treeFrom_of_not_isGrown still, traced.tree]
  case reckoned => rw [reckonings_concat, traced.reckoned, reckons]
  case numbered => exact traced.numbered_note still
  case changes =>
    exact traced.changes.concat (fun stream owes => .inr ⟨owes, quiet stream owes⟩) still
  case owes => exact fun stream owes => (traced.owes stream owes).append (quiet stream owes)

/-- What is owed is announced. -/
theorem announce {stream : StreamId} (traced : Traced number (some stream) pushes session) :
    Traced number none pushes
      { session with journal := session.journal.push (.sent (.streamStopped stream)) } := by
  refine { tree := ?tree, reckoned := ?reckoned, numbered := ?numbered, changes := ?changes,
           through := traced.through.push nofun, due := traced.due.push ?due, owes := nofun }
  case tree =>
    dsimp only
    rw [Array.toList_push, treeAfter_concat, traced.tree, Entry.treeFrom_of_not_isGrown rfl]
  case reckoned =>
    dsimp only
    rw [Array.toList_push, reckonings_concat, traced.reckoned, Entry.reckonedFrom_of_isAside rfl]
  case numbered =>
    dsimp only
    rw [Array.toList_push]
    exact traced.numbered_note rfl
  case changes =>
    dsimp only
    rw [Array.toList_push]
    refine traced.changes.concat ?_ rfl
    rintro _ ⟨⟩
    exact .inl rfl
  case due =>
    rintro _ ⟨⟩
    exact traced.owes stream rfl

/-- An entry is written that is about neither a push nor a subscription. -/
theorem note (traced : Traced number owed pushes session) {entry : Entry}
    (aside : entry.isAside = true) (still : entry.isGrown = false) (old : entry.isNews = false) :
    Traced number owed pushes { session with journal := session.journal.push entry } := by
  refine traced.write still (fun _ => old) (Entry.reckonedFrom_of_isAside aside _) ?_
  cases entry with
  | pushed => cases aside
  | sent event => cases event <;> first | rfl | cases old
  | _ => rfl

/-- The tree is changed, and that is noted. -/
theorem plant (traced : Traced number owed pushes session) {tree : ParameterTree}
    {number' : UInt32} {owed' : Option StreamId}
    (change : Change owed' session.journal.toList [] tree)
    (above : ∀ below : UInt32, below < number → below < number')
    (numbered : ∀ stream, tree.Knows stream → stream.number < number')
    (announces : ∀ stream, owed = some stream → owed' = some stream)
    (owes : ∀ stream, owed' = some stream →
      Settling (session.journal.toList ++ [.grown tree]) stream) :
    Traced number' owed' pushes
      { session with tree, journal := session.journal.push (.grown tree) } := by
  refine { tree := ?tree, reckoned := ?reckoned, numbered := ?numbered, changes := ?changes,
           through := traced.through.push nofun, due := traced.due.push nofun, owes := ?owes } <;>
    dsimp only <;> rw [Array.toList_push]
  case tree => rw [treeAfter_concat, Entry.treeFrom]
  case reckoned =>
    rw [reckonings_concat, traced.reckoned, Entry.reckonedFrom_of_isAside rfl]
  case numbered =>
    refine numbered_concat (fun shown before stream knows =>
      above _ (traced.numbered shown before stream knows)) fun stream knows => ?_
    rw [treeAfter_concat] at knows
    exact numbered stream knows
  case changes =>
    exact traced.changes.plant change (fun stream owes => .inr ⟨announces stream owes, rfl⟩)
      fun _ member => (List.not_mem_nil member).elim
  case owes => exact owes

/-- The tree is changed otherwise than by removing subscriptions when a stream stops, and no
stream is made known. -/
theorem change (traced : Traced number owed pushes session) {tree : ParameterTree}
    (change : Change owed session.journal.toList [] tree)
    (knows : ∀ stream, tree.Knows stream → session.tree.Knows stream) :
    Traced number owed pushes
      { session with tree, journal := session.journal.push (.grown tree) } := by
  refine traced.plant change (fun _ below => below) (fun stream known => ?_) (fun _ owes => owes)
    fun stream owes => ?_
  · exact traced.numbered _ List.prefix_rfl stream (traced.tree ▸ knows stream known)
  · exact (traced.owes stream owes).append rfl

/-- The subscriptions in a stream that do not stay are removed; that the stream has stopped is
owed from then on. -/
theorem settle (traced : Traced number none pushes session) (stream : StreamId) :
    Traced number (some stream) pushes { session with
      tree := (session.tree.dropUnkept stream).2
      journal := session.journal.push (.grown (session.tree.dropUnkept stream).2) } := by
  have kept := ParameterTree.kept_dropUnkept session.tree stream
  have change : Change (some stream) session.journal.toList []
      (session.tree.dropUnkept stream).2 := traced.tree ▸ .settle stream (.inr ⟨rfl, rfl⟩)
  refine traced.plant change (fun _ below => below) (fun other known => ?_) nofun ?_
  · exact traced.numbered _ List.prefix_rfl other (traced.tree ▸ (kept.knows other).mp known)
  · rintro _ ⟨⟩
    exact ⟨session.journal.toList, [], by rw [← traced.tree], rfl⟩

/-! ## User code -/

theorem slack (number : UInt32) (owed : Option StreamId) (pushes : List (Address × List Nat)) :
    Slack (Traced number owed pushes : Session σ → Prop) where
  remark isRemark traced :=
    traced.note (Entry.isAside_of_isRemark isRemark) (Entry.isGrown_of_isRemark isRemark)
      (Entry.not_news_of_isPlain (Entry.isPlain_of_isRemark isRemark))
  memory _ traced := { traced with }
  tally _ traced := { traced with }
  channel _ traced := { traced with }
  add addition traced :=
    traced.change (.add (traced.tree ▸ addition))
      fun stream => (addition.edit.kept.knows stream).mp
  recordQuery ofQuery traced :=
    traced.note (Entry.isAside_of_isOfQuery ofQuery) (Entry.isGrown_of_isOfQuery ofQuery)
      (Entry.not_news_of_isOfQuery ofQuery)
  queue _ _ _ traced := { traced with }

/-- A push begins when its value has been stored. -/
theorem begin (traced : Traced number owed pushes session) (address : Address) {value : Value}
    {subscribers : List Subscription} {tree : ParameterTree}
    (stored : session.tree.store address.stream address.filter address.name value =
      .ok (subscribers, tree)) :
    Traced number owed ((address, []) :: pushes) { session with
      tree, journal := (session.journal.push (.grown tree)).push
        (.pushing address.stream address.filter address.name) } := by
  have kept := ParameterTree.kept_store stored
  have planted := traced.change (.store address (traced.tree ▸ stored))
    fun stream => (kept.knows stream).mp
  exact planted.write rfl (fun _ => rfl) rfl rfl

/-- A push is through. -/
theorem finish {address : Address} {spent : List Nat}
    (traced : Traced number owed ((address, spent) :: pushes) session) :
    Traced number owed pushes { session with
      tree := session.tree.unsubscribe address.stream address.filter address.name spent
      journal := (session.journal.push (.grown (session.tree.unsubscribe address.stream
        address.filter address.name spent))).push
          (.pushed address.stream address.filter address.name) } := by
  generalize lapsed : session.tree.unsubscribe address.stream address.filter address.name spent =
    tree
  have quiet : List.find? Entry.isNews
      [.grown tree, .pushed address.stream address.filter address.name] = none := rfl
  have grown : reckonings (session.journal.toList ++ [.grown tree]) = (address, spent) :: pushes := by
    rw [reckonings_concat, traced.reckoned, Entry.reckonedFrom_of_isAside rfl]
  -- Both entries come at once, since the first is explained by the second.
  have both : ((session.journal.push (.grown tree)).push
      (.pushed address.stream address.filter address.name)).toList = session.journal.toList ++
        [.grown tree, .pushed address.stream address.filter address.name] := by
    rw [Array.toList_push, Array.toList_push, List.append_assoc]
    rfl
  have shows : treeAfter (session.journal.toList ++
      [.grown tree, .pushed address.stream address.filter address.name]) = tree := by
    rw [← List.singleton_append, ← List.append_assoc, treeAfter_concat, treeAfter_concat]
    rfl
  have through : Journal.Throughout Entry.IsThrough (session.journal.push (.grown tree)) :=
    traced.through.push nofun
  have due : Journal.Throughout Entry.IsDue (session.journal.push (.grown tree)) :=
    traced.due.push nofun
  refine { tree := ?tree, reckoned := ?reckoned, numbered := ?numbered, changes := ?changes,
           through := through.push ?through, due := due.push nofun, owes := ?owes }
  case tree =>
    dsimp only
    rw [both, shows]
  case reckoned =>
    dsimp only
    rw [Array.toList_push, reckonings_concat, Array.toList_push, grown]
    rfl
  case numbered =>
    dsimp only
    have kept := ParameterTree.kept_unsubscribe session.tree address.stream address.filter
      address.name spent
    have numbered : ∀ stream, tree.Knows stream → stream.number < number := fun stream knows =>
      traced.numbered _ List.prefix_rfl stream
        (traced.tree ▸ (kept.knows stream).mp (lapsed.symm ▸ knows))
    rw [Array.toList_push, Array.toList_push]
    refine numbered_concat (numbered_concat traced.numbered fun stream knows => ?_)
      fun stream knows => ?_
    · rw [treeAfter_concat] at knows
      exact numbered stream knows
    · rw [treeAfter_concat, treeAfter_concat] at knows
      exact numbered stream knows
  case changes =>
    dsimp only
    rw [both]
    refine traced.changes.plant ?_ (announces_of_quiet quiet) (by simp [Entry.isGrown])
    rw [← lapsed, traced.tree]
    exact .lapse address traced.reckoned rfl
  case through =>
    rintro _ _ _ ⟨⟩
    refine ⟨session.journal.toList, spent, pushes, ?_, traced.reckoned⟩
    rw [Array.toList_push, ← traced.tree, lapsed]
  case owes =>
    intro stream owes
    dsimp only
    rw [both]
    exact (traced.owes stream owes).append quiet

section Callees

variable {callees : Callees σ}
  (callbacks : ∀ (pushes : List (Address × List Nat)) reference delivery,
    Keeps (Traced number owed pushes) False True (callees.callback reference delivery))
include callbacks

/-- When a push is through, only those are under way that were before. -/
theorem keeps_publish (pushes : List (Address × List Nat)) (stream : StreamId)
    (filter name : String) (value : Value) :
    Keeps (Traced number owed pushes) True True (publish callees stream filter name value) :=
  keeps_publish_reckoning callbacks (fun _ => (slack _ _ _).toPliant)
    (fun _ still old closes traced => traced.write still (fun _ => old) rfl closes)
    ⟨stream, filter, name⟩ (fun stored traced => traced.begin ⟨stream, filter, name⟩ stored) finish

end Callees

theorem keeps_run {α : Type} (code : UserCode σ) (pushes : List (Address × List Nat))
    (program : Program σ α) : Keeps (Traced number owed pushes) False True (code.run program) :=
  Slack.keeps_run_of code (slack number owed) (fun _ => keeps_publish) pushes program

theorem keeps_drain (code : UserCode σ) (pushes : List (Address × List Nat)) :
    Keeps (Traced number owed pushes) False False (drain code.callees) :=
  Slack.keeps_drain_of code (slack number owed) (fun _ => keeps_publish) pushes

end Traced

end Session

namespace Host

open StreamControl.Action Session Journal

variable {σ : Type}

/-! ## Histories -/

/-- A trace survives whatever a host does, apart from what it does when a stream has
stopped. -/
theorem survives_traced (code : UserCode σ) {owed : Option StreamId} {deed : Deed}
    (other : deed.isOfStop = false) (news : deed = .note true → owed = none) :
    Survives code (fun host => Traced host.nextStream owed [] host.session) deed := by
  intro before after does traced
  cases does with
  | stir before after session _ nextStream =>
    rw [session, nextStream]
    exact traced
  | @write _ entry ofHost shown shows =>
    refine traced.write (Entry.isGrown_of_isOfHost ofHost) (fun owing => ?_)
      (Entry.reckonedFrom_of_isAside (Entry.isAside_of_isOfHost ofHost) _) ?_
    · cases shown with
      | false => exact shows
      | true => exact absurd (news rfl) owing
    · cases entry with
      | sent event => cases event <;> first | rfl | cases ofHost
      | _ => first | rfl | cases ofHost
  | send => exact { traced with }
  | fail _ _ _ _ _ failure =>
    exact failing_of (P := Traced before.nextStream owed []) (fun _ _ traced => { traced with })
      (fun _ _ _ _ traced => traced.note rfl rfl rfl) (fun _ _ _ traced => traced.note rfl rfl rfl)
      (fun _ traced => traced.note rfl rfl (Event.not_news_of_isFailure failure)) traced
  | run _ program _ ends | outside _ program ends =>
    exact (Traced.keeps_run code [] program).of_ne_exhausted traced ends
  | drain _ ends => exact (Traced.keeps_drain code []).of_ne_exhausted traced ends
  | attach _ room =>
    have next : before.nextStream < before.nextStream + 1 :=
      UInt32.lt_add_one fun last => room (last ▸ rfl)
    have change : Change owed before.session.journal.toList []
        (before.session.tree.addStream ⟨before.nextStream⟩) := by
      rw [traced.tree]
      refine .attach _ fun shown isPrefix knows => ?_
      exact UInt32.lt_irrefl _ (traced.numbered shown isPrefix _ knows)
    refine traced.plant change (fun below small => UInt32.lt_trans small next)
      (fun stream known => ?_) (fun _ owes => owes) fun stream owes => ?_
    · rcases (ParameterTree.knows_addStream _ _ _).mp known with rfl | old
      · exact next
      · exact UInt32.lt_trans
          (traced.numbered _ List.prefix_rfl stream (traced.tree ▸ old)) next
    · exact (traced.owes stream owes).append rfl
  | enroll _ added =>
    refine traced.change (.enroll (traced.tree ▸ added)) fun other known => ?_
    exact (ParameterTree.knows_addFilter_iff added other).mp known
  | mark _ marked =>
    refine traced.change (.mark (traced.tree ▸ marked)) fun stream => ?_
    exact ((ParameterTree.sameFilters_setStarted marked).knows stream).mp
  | settle | announce => cases other
  | forget _ stream =>
    have change : Change owed before.session.journal.toList []
        (before.session.tree.removeStream stream) := traced.tree ▸ .forget stream
    exact traced.change change fun other known =>
      ((ParameterTree.knows_removeStream _ _ _).mp known).2
  | skip | shutDown => exact traced
  | join | leave => exact traced.note rfl rfl rfl
  | discard | close => exact { traced with }

/-- When a stream has stopped, subscriptions are removed, and then the stop is announced. -/
theorem keeps_stop_traced (code : UserCode σ) (stream : StreamId) :
    Keeps (fun host => Traced host.nextStream none [] host.session) True True
      (stop code stream) := by
  have survives {owed : Option StreamId} (deed : Deed) (other : deed.isOfStop = false)
      (news : deed = .note true → owed = none) := survives_traced code other news
  intro host traced
  refine (meets_stop_by (R := fun _ host => Traced host.nextStream (some stream) [] host.session)
    (Q := fun _ host => Traced host.nextStream (some stream) [] host.session)
    (S := fun _ host => Traced host.nextStream none [] host.session)
    (Patient.stepping ⟨⟨survives _ rfl nofun, survives _ rfl nofun, survives _ rfl nofun⟩,
      survives _ rfl fun _ => rfl⟩)
    (survives _ rfl nofun) ?settle (fun _ => survives _ rfl nofun)
    (fun _ => Steady.mute ⟨survives _ rfl nofun, survives _ rfl nofun, survives _ rfl nofun⟩)
    ?announce
    traced).mono (fun _ _ traced => traced) (fun _ _ traced => ⟨trivial, traced⟩)
    fun _ _ traced => ⟨trivial, traced⟩
  case settle => exact fun host traced => traced.settle stream
  case announce =>
    intro removed before after does traced
    cases does with
    | announce => exact traced.announce

theorem traced_new (channel : Broadcast Event) (config : Config) (memory : σ) :
    Traced 1 none [] (onChannel channel config memory).session where
  tree := rfl
  reckoned := rfl
  numbered shown isPrefix _ knows := by
    rw [List.prefix_nil.mp isPrefix] at knows
    cases knows
  changes earlier _ _ split := by cases earlier <;> cases split
  through earlier _ _ split := by cases earlier <;> cases split
  due earlier _ _ split := by cases earlier <;> cases split
  owes := nofun

variable {code : UserCode σ} {history : History σ}

/-- The journal accounts for every tree that there has been. -/
theorem History.traced (reachable : history.Reachable code) :
    Traced history.host.nextStream none [] history.host.session := by
  obtain ⟨config, memory, host, created, leads⟩ := reachable
  obtain ⟨channel, rfl⟩ := eq_of_create created
  exact leads.endures_by
    (P := fun host => Traced host.nextStream none [] host.session)
    (fun _ other => survives_traced code other fun _ => rfl) (keeps_stop_traced code)
    (traced_new channel config memory)

end Host

end StreamControl
