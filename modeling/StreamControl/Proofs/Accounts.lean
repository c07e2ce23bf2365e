import Mathlib.Algebra.BigOperators.Group.List.Basic
import Mathlib.Algebra.Group.Basic
import Mathlib.Algebra.Group.Int.Defs
import Mathlib.Algebra.Group.Nat.Defs
import Mathlib.Algebra.Group.Pi.Basic
import Mathlib.Algebra.GroupWithZero.Nat
import StreamControl.Proofs.Enduring
import StreamControl.Proofs.Ledger
import StreamControl.Proofs.Silence

/-!
# What is counted

What comes of handing a value to a callback is put down in several places: in the
tally, in a counter, and in an event.  Each is written by a step of its own, and
further callbacks may run before the first has been put down.

The books of a session are how much there is of everything that is put down
(`Session.books`).  They are right if they agree with each other but for the callbacks
that are still under way (`Books.Right`).  That is a matter of equations between sums,
so what is added to right books is looked at by itself (`Books.Right.add`): whatever
is put down, before and after a callback, for a query and for a failed hook, is right
(`keeps_dispatch`, `keeps_query`, `enduring_books`).

Nothing of this depends on a host.  `Session.Bare` is what comes of a session that is
used for nothing but to hand values to callbacks, which may do the same.
-/

set_option autoImplicit false

namespace StreamControl

/-! ## Accounts -/

/-- What is counted: by the tally, or by the entries of a journal. -/
inductive Account where
  /-- The tally says that a callback ran. -/
  | invoked
  /-- The tally says that it returned a code other than zero. -/
  | failed
  /-- The tally says that a callback takes the wrong number of inputs. -/
  | mismatched
  /-- The tally says that a callback panicked. -/
  | panicked
  /-- A callback was entered. -/
  | begun
  /-- A callback was entered that takes the wrong number of inputs. -/
  | misfit
  /-- A callback that was entered ended. -/
  | ended (exit : Exit)
  /-- A callback was left out. -/
  | skipped
  /-- A query was accepted. -/
  | accepted
  /-- A counter was increased. -/
  | counted (metric : Metric)
  /-- It was announced that a callback takes the wrong number of inputs. -/
  | signatureMismatch
  /-- It was announced that a callback returned a code other than zero. -/
  | callbackFailed
  /-- It was announced that a callback panicked. -/
  | callbackPanicked
  /-- It was announced that a query was rejected. -/
  | queryRejected
  /-- It was announced that a hook failed, or the construction of a controller. -/
  | hookFailed
  deriving DecidableEq

/-- Whether something is counted by the tally. -/
def Account.isTallied : Account → Bool
  | invoked | failed | mismatched | panicked => true
  | _ => false

/-- What an event is counted as. -/
def Event.account? : Event → Option Account
  | signatureMismatch .. => some .signatureMismatch
  | callbackFailed .. => some .callbackFailed
  | callbackPanicked .. => some .callbackPanicked
  | queryRejected .. => some .queryRejected
  | hookFailed .. | constructFailed .. => some .hookFailed
  | _ => none

/-- What an entry is counted as. -/
def Entry.account? : Entry → Option Account
  | .entered (.callback _ callback _) => some (if callback.isWellFormed then .begun else .misfit)
  | .left (.callback ..) exit => some (.ended exit)
  | .skipped .. => some .skipped
  | .accepted .. => some .accepted
  | .counted metric _ _ => some (.counted metric)
  | .sent event => event.account?
  | _ => none

/-- No entry is counted as what the tally counts. -/
theorem Entry.isTallied_of_account? {entry : Entry} {account : Account}
    (shown : entry.account? = some account) : account.isTallied = false := by
  cases entry with
  | entered call =>
    cases call with
    | callback cause callback delivery =>
      cases shown
      split <;> rfl
    | _ => cases shown
  | left call =>
    cases call with
    | callback =>
      cases shown
      rfl
    | _ => cases shown
  | sent event => cases event <;> cases shown <;> rfl
  | _ => cases shown <;> rfl

/-- What a tally is increased by when it is known what came of handing a value to a
callback. -/
def DispatchOutcome.tallied : DispatchOutcome → List Account
  | .invoked code => .invoked :: if code = 0 then [] else [.failed]
  | .mismatched _ => [.mismatched]
  | .panicked => [.panicked]

/-- What is counted and announced then. -/
def DispatchOutcome.announced : DispatchOutcome → List Account
  | .invoked code => .counted .callbacksInvoked :: if code = 0 then [] else [.callbackFailed]
  | .mismatched _ => [.counted .signatureMismatches, .signatureMismatch]
  | .panicked => [.callbackPanicked]

/-! ## Books -/

/-- How much there is of everything that is counted. -/
abbrev Books := Account → Nat

/-- How many entries are counted as what. -/
def Journal.number (journal : Journal) : Books := fun account =>
  journal.toList.countP (·.account? = some account)

/-- What a tally counts. -/
def Tally.number (tally : Tally) : Books
  | .invoked => tally.invoked
  | .failed => tally.failed
  | .mismatched => tally.mismatched
  | .panicked => tally.panicked
  | _ => 0

/-- What is put down, one of each. -/
def posting (accounts : List Account) : Books := fun account => accounts.count account

theorem posting_append (first second : List Account) :
    posting (first ++ second) = posting first + posting second :=
  funext fun _ => List.count_append

theorem Journal.number_push (journal : Journal) (entry : Entry) :
    Journal.number (journal.push entry) = journal.number + posting entry.account?.toList := by
  funext account
  rw [Pi.add_apply, Journal.number, Array.toList_push, List.countP_append]
  refine congrArg (journal.number account + ·) ?_
  cases shown : entry.account? with
  | none => simp [posting, shown]
  | some other => by_cases same : other = account <;> simp [posting, shown, same]

theorem Tally.number_add (tally : Tally) (outcome : DispatchOutcome) :
    (tally.add outcome).number = tally.number + posting outcome.tallied := by
  funext account
  cases outcome with
  | invoked code =>
    by_cases zero : code = 0 <;> cases account <;>
      simp [Tally.add, Tally.number, posting, DispatchOutcome.tallied, zero]
  | mismatched found =>
    cases account <;> simp [Tally.add, Tally.number, posting, DispatchOutcome.tallied]
  | panicked =>
    cases account <;> simp [Tally.add, Tally.number, posting, DispatchOutcome.tallied]

/-! ## Counters -/

namespace OrderedMap

variable {κ υ : Type} [LE κ] [LT κ] [DecidableLT κ] [DecidableEq κ] [Std.IsLinearOrder κ]
  [Std.LawfulOrderLT κ]

/-- The weights of all values together. -/
def total {κ υ : Type} [LT κ] (weight : υ → Nat) (map : OrderedMap κ υ) : Nat :=
  (map.entries.map fun entry => weight entry.2).sum

theorem sum_insertIn (weight : υ → Nat) (key : κ)
    (value : υ) {entries : List (κ × υ)} (increasing : entries.Pairwise fun a b => a.1 < b.1) :
    ((insertIn key value entries).map fun entry => weight entry.2).sum +
        ((lookIn key entries).map weight).getD 0 =
      (entries.map fun entry => weight entry.2).sum + weight value := by
  induction entries with
  | nil => simp [insertIn, lookIn]
  | cons first rest ih =>
    obtain ⟨other, old⟩ := first
    obtain ⟨before, increasing⟩ := List.pairwise_cons.mp increasing
    have further := ih increasing
    rw [insertIn, lookIn]
    split
    · rename_i less
      have absent : lookIn key rest = none := lookIn_eq_none_of_below fun entry member =>
        Std.lt_trans less (before entry member)
      have differs : other ≠ key := fun same => Std.lt_irrefl (same ▸ less)
      rw [if_neg differs, absent]
      simp only [List.map_cons, List.sum_cons, Option.map_none, Option.getD_none]
      omega
    · split
      · rename_i same
        simp only [List.map_cons, List.sum_cons, Option.map_some, Option.getD_some]
        omega
      · simp only [List.map_cons, List.sum_cons]
        omega

/-- A value takes the place of the one that was filed under its key. -/
theorem total_insert (weight : υ → Nat) (map : OrderedMap κ υ) (key : κ) (value : υ) :
    (map.insert key value).total weight + ((map.find? key).map weight).getD 0 =
      map.total weight + weight value :=
  sum_insertIn weight key value map.increasing

end OrderedMap

namespace Journal

/-- The sum of a counter over all its labels. -/
def sum (journal : Journal) (metric : Metric) : Nat :=
  ((journal.totals.filter (·.1 = metric)).map fun total => total.2.2.2).sum

/-- The counts of a metric after one more entry. -/
def counting (metric : Metric) (counts : OrderedMap String (OrderedMap String Nat)) (entry : Entry) :
    OrderedMap String (OrderedMap String Nat) :=
  match entry with
  | .counted counted first second =>
    if counted = metric then
      let row := (counts.find? first).getD .empty
      counts.insert first (row.insert second ((row.find? second).getD 0 + 1))
    else counts
  | _ => counts

theorem counts_eq (journal : Journal) (metric : Metric) :
    journal.counts metric = journal.toList.foldl (counting metric) .empty := rfl

/-- The counts of a metric, all together. -/
def grandTotal (counts : OrderedMap String (OrderedMap String Nat)) : Nat :=
  counts.total fun row => row.total id

theorem grandTotal_counting (metric : Metric) (counts : OrderedMap String (OrderedMap String Nat))
    (entry : Entry) :
    grandTotal (counting metric counts entry) =
      grandTotal counts + if entry.account? = some (.counted metric) then 1 else 0 := by
  cases entry with
  | counted other first second =>
    simp only [counting, Entry.account?, Option.some.injEq, Account.counted.injEq]
    split
    · have before : ((counts.find? first).map fun row => row.total id).getD 0 =
          ((counts.find? first).getD .empty).total id := by
        cases counts.find? first <;> rfl
      generalize (counts.find? first).getD .empty = row at before ⊢
      have inner := row.total_insert id second ((row.find? second).getD 0 + 1)
      have outer := counts.total_insert (fun row => row.total id) first
        (row.insert second ((row.find? second).getD 0 + 1))
      rw [Option.map_id, id, id] at inner
      rw [grandTotal, grandTotal]
      omega
    · rfl
  | sent event => cases event <;> rfl
  | entered call =>
    cases call with
    | callback cause callback delivery =>
      simp only [Entry.account?]
      split <;> rfl
    | _ => rfl
  | left call => cases call <;> rfl
  | _ => rfl

/-- What is shown of one metric. -/
theorem filter_totals (journal : Journal) (metric : Metric) :
    journal.totals.filter (·.1 = metric) =
      (journal.counts metric).entries.flatMap fun row =>
        row.2.entries.map fun cell => (metric, row.1, cell.1, cell.2) := by
  have part (other : Metric) : ((journal.counts other).entries.flatMap fun row =>
      row.2.entries.map fun cell => (other, row.1, cell.1, cell.2)).filter (·.1 = metric) =
        if other = metric then (journal.counts metric).entries.flatMap fun row =>
          row.2.entries.map fun cell => (metric, row.1, cell.1, cell.2) else [] := by
    split
    · rename_i same
      rw [same, List.filter_eq_self]
      intro total member
      obtain ⟨row, -, inside⟩ := List.mem_flatMap.mp member
      obtain ⟨cell, -, rfl⟩ := List.mem_map.mp inside
      exact decide_eq_true rfl
    · rename_i differs
      rw [List.filter_eq_nil_iff]
      intro total member same
      obtain ⟨row, -, inside⟩ := List.mem_flatMap.mp member
      obtain ⟨cell, -, rfl⟩ := List.mem_map.mp inside
      exact differs (of_decide_eq_true same)
  rw [totals, List.filter_flatMap]
  simp only [part]
  cases metric <;> simp [Metric.all]

/-- **A counter shows how often it was increased**, whatever its labels. -/
theorem sum_eq (journal : Journal) (metric : Metric) :
    journal.sum metric = journal.number (.counted metric) := by
  have shown : journal.sum metric = grandTotal (journal.counts metric) := by
    rw [sum, filter_totals, List.map_flatMap, List.flatMap_def, List.sum_flatten, List.map_map]
    simp only [grandTotal, OrderedMap.total, Function.comp_def, List.map_map]
    rfl
  have counted (entries : List Entry) (counts : OrderedMap String (OrderedMap String Nat)) :
      grandTotal (entries.foldl (counting metric) counts) =
        grandTotal counts + entries.countP (·.account? = some (.counted metric)) := by
    induction entries generalizing counts with
    | nil => rfl
    | cons entry rest ih =>
      rw [List.foldl_cons, ih, grandTotal_counting, List.countP_cons, Nat.add_assoc]
      simp only [decide_eq_true_eq, Nat.add_comm]
  rw [shown, counts_eq, counted, number]
  exact Nat.zero_add _

end Journal

/-! ## Books that agree -/

namespace Books

/-- Books that agree, while so many callbacks are under way. -/
structure Right (underWay : Int) (books : Books) : Prop where
  /-- Every callback that was entered has ended or is under way. -/
  begun : (books .begun : Int) = books (.ended .succeeded) + books (.ended .failed) +
    books (.ended .panicked) + underWay
  /-- The callbacks that ran. -/
  invoked : books .invoked = books (.ended .succeeded) + books (.ended .failed)
  /-- Those of them that failed. -/
  failed : books .failed = books (.ended .failed)
  /-- The callbacks that were left out. -/
  mismatched : books .mismatched = books .skipped
  /-- The callbacks that panicked. -/
  panicked : books .panicked = books (.ended .panicked)
  /-- Their counter shows the callbacks that ran. -/
  invokedCounted : books (.counted .callbacksInvoked) = books .invoked
  /-- Their counter shows the callbacks that were left out. -/
  mismatchedCounted : books (.counted .signatureMismatches) = books .mismatched
  /-- Each of them was announced. -/
  mismatchedSent : books .signatureMismatch = books .mismatched
  /-- Each failure was announced. -/
  failedSent : books .callbackFailed = books .failed
  /-- Each panic was announced. -/
  panickedSent : books .callbackPanicked = books .panicked
  /-- Each rejection was counted and announced. -/
  rejected : books (.counted .queriesRejected) = books .queryRejected
  /-- Each acceptance was counted. -/
  accepted : books (.counted .queriesAccepted) = books .accepted
  /-- Each failure of a hook was counted and announced. -/
  hookFailed : books (.counted .hookFailures) = books .hookFailed
  /-- No callback was entered that takes the wrong number of inputs. -/
  fitting : books .misfit = 0

variable {books more : Books} {underWay further : Int}

/-- **Right books stay right** when something is added that is right by itself. -/
theorem Right.add (right : books.Right underWay) (other : more.Right further) :
    (books + more).Right (underWay + further) := by
  obtain ⟨_, _, _, _, _, _, _, _, _, _, _, _, _, _⟩ := right
  obtain ⟨_, _, _, _, _, _, _, _, _, _, _, _, _, _⟩ := other
  constructor <;> simp only [Pi.add_apply] <;> omega

/-! ### What is put down -/

theorem right_begun : (posting [.begun]).Right 1 := by constructor <;> rfl

theorem right_returned (code : Int32) :
    (posting ([.ended (if code = 0 then .succeeded else .failed)] ++
      ((DispatchOutcome.invoked code).tallied ++ (DispatchOutcome.invoked code).announced))).Right
        (-1) := by
  rw [DispatchOutcome.tallied, DispatchOutcome.announced]
  split <;> constructor <;> rfl

theorem right_panicked :
    (posting ([.ended .panicked] ++
      (DispatchOutcome.panicked.tallied ++ DispatchOutcome.panicked.announced))).Right (-1) := by
  constructor <;> rfl

theorem right_skipped (found : Nat) :
    (posting ([.skipped] ++ ((DispatchOutcome.mismatched found).tallied ++
      (DispatchOutcome.mismatched found).announced))).Right 0 := by
  constructor <;> rfl

theorem right_accepted : (posting [.counted .queriesAccepted, .accepted]).Right 0 := by
  constructor <;> rfl

theorem right_rejected : (posting [.counted .queriesRejected, .queryRejected]).Right 0 := by
  constructor <;> rfl

theorem right_hookFailed : (posting [.counted .hookFailures, .hookFailed]).Right 0 := by
  constructor <;> rfl

end Books

namespace Session

open StreamControl.Action

variable {σ α : Type} {refusal panic : Prop}

/-! ## The books of a session -/

/-- How much there is of everything in a session. -/
def books (session : Session σ) : Books := session.tally.number + session.journal.number

theorem books_push (session : Session σ) (entry : Entry) :
    books { session with journal := session.journal.push entry } =
      session.books + posting entry.account?.toList :=
  (congrArg (session.tally.number + ·) (Journal.number_push _ _)).trans (add_assoc _ _ _).symm

/-- The books of a session agree, while so many callbacks are under way. -/
def Agreed (underWay : Int) (session : Session σ) : Prop := session.books.Right underWay

variable {underWay : Int} {session : Session σ}

theorem Agreed.push (agreed : Agreed underWay session) {entry : Entry}
    (quiet : entry.account? = none) :
    Agreed underWay { session with journal := session.journal.push entry } := by
  rw [Agreed, books_push, quiet]
  exact agreed

theorem Agreed.plant (agreed : Agreed underWay session) (tree : ParameterTree) :
    Agreed underWay { session with tree, journal := session.journal.push (.grown tree) } :=
  have noted : Agreed underWay { session with journal := session.journal.push (.grown tree) } :=
    agreed.push rfl
  noted

theorem agreed_nimble (underWay : Int) : Nimble (Agreed underWay : Session σ → Prop) where
  message _ _ agreed := agreed.push rfl
  memory _ agreed := agreed
  add _ agreed := agreed.plant _

theorem agreed_supple (underWay : Int) : Supple (Agreed underWay : Session σ → Prop) where
  toMild := (agreed_nimble underWay).toMild
  queue _ _ _ agreed := agreed

/-- In a new session nothing has been counted. -/
theorem agreed_new (channel : Broadcast Event) (memory : σ) :
    Agreed 0 ({ channel, memory } : Session σ) := by
  constructor <;> rfl

/-! ## Putting things down -/

/-- An action that puts down so much, and returns. -/
def Posts (accounts : List Account) (action : Action (Session σ) α) : Prop :=
  ∀ session, action.Meets session
    (fun _ after => after.books = session.books + posting accounts) (fun _ _ => False)
    (fun _ _ => False)

theorem posts_pure (value : α) : Posts [] (pure value : Action (Session σ) α) := fun _ => rfl

theorem posts_record (entry : Entry) :
    Posts entry.account?.toList (record entry : Action (Session σ) Unit) :=
  fun session => books_push session entry

theorem posts_emit (event : Event) :
    Posts event.account?.toList (emit event : Action (Session σ) Unit) :=
  fun session => books_push session (.sent event)

theorem posts_addToTally (outcome : DispatchOutcome) :
    Posts outcome.tallied (addToTally outcome : Action (Session σ) Unit) := fun session => by
  have tallied := congrArg (· + session.journal.number) (Tally.number_add session.tally outcome)
  exact tallied.trans (add_right_comm _ _ _)

theorem Posts.bind {β : Type} {accounts more : List Account} {first : Action (Session σ) α}
    {next : α → Action (Session σ) β} (one : Posts accounts first)
    (two : ∀ value, Posts more (next value)) : Posts (accounts ++ more) (first >>= next) := by
  refine fun session => meets_bind.mpr ((one session).always fun value between posted => ?_)
  refine (two value between).always fun _ after further => ?_
  rw [further, posted, posting_append, add_assoc]

/-- What is right by itself keeps the books right. -/
theorem Posts.keeps {accounts : List Account} {action : Action (Session σ) α}
    (posts : Posts accounts action) (right : (posting accounts).Right 0) :
    Keeps (Agreed underWay) refusal panic action := fun session agreed =>
  (posts session).always fun _ after posted => by
    have added := agreed.add right
    rwa [← posted, add_zero] at added

/-! ## Handing values to callbacks -/

/-- What came of handing a value to a callback is put down in the tally, counted and
announced. -/
theorem posts_report (delivery : Delivery) (outcome : DispatchOutcome) :
    Posts (outcome.tallied ++ outcome.announced)
      (report delivery outcome : Action (Session σ) Unit) := by
  refine (posts_addToTally outcome).bind fun _ => ?_
  cases outcome with
  | invoked code =>
    rw [DispatchOutcome.announced]
    split
    · rename_i zero
      refine (posts_record _).bind fun _ => ?_
      rw [if_neg (not_not.mpr zero)]
      exact posts_pure ()
    · rename_i failed
      refine (posts_record _).bind fun _ => ?_
      rw [if_pos failed]
      exact (posts_record _).bind fun _ => posts_emit _
  | mismatched found =>
    exact (posts_record _).bind fun _ => (posts_record _).bind fun _ => posts_emit _
  | panicked => exact (posts_record _).bind fun _ => posts_emit _

/-- **A value is handed to a callback**: while the callback is under way, others may be
called, and before and after it the books are right. -/
theorem keeps_dispatch {callees : Callees σ} {callback : Callback} {delivery : Delivery}
    (inside : ∀ underWay,
      Keeps (Agreed underWay) False True (callees.callback callback.code delivery))
    (cause : Cause) : Keeps (Agreed underWay) refusal panic (dispatch callees cause callback delivery) := by
  intro session agreed
  -- What has still to be put down when it is known what came of the call.
  let owed (outcome : DispatchOutcome) (session : Session σ) : Prop :=
    (session.books + posting (outcome.tallied ++ outcome.announced)).Right underWay
  have noted (entry : Entry) {outcome : DispatchOutcome} {session : Session σ} {more : Int}
      (agreed : Agreed (underWay + more) session)
      (right : (posting (entry.account?.toList ++
        (outcome.tallied ++ outcome.announced))).Right (-more)) :
      owed outcome { session with journal := session.journal.push entry } := by
    have added := agreed.add right
    rw [posting_append, ← add_assoc, ← books_push] at added
    rwa [Int.add_neg_cancel_right] at added
  have delivered : (deliver callees cause callback delivery).Meets session owed
      (fun _ _ => False) (fun _ _ => False) := by
    refine meets_deliver_of (inside (underWay + 1)) (fun wellFormed => ?_) (fun malformed => ?_)
      (fun code session agreed => ?_) fun session agreed => ?_
    · have begun := agreed.add Books.right_begun
      rw [Agreed, books_push, Entry.account?, if_pos wellFormed]
      exact begun
    · have still : Agreed (underWay + 0) session := by rwa [add_zero]
      exact noted _ still (Books.right_skipped _)
    · exact noted _ agreed (Books.right_returned code)
    · exact noted _ agreed Books.right_panicked
  rw [dispatch, meets_bind]
  refine delivered.always fun outcome between owed => ?_
  rw [meets_bind]
  refine (posts_report delivery outcome between).always fun _ final posted => ?_
  rw [meets_pure, Agreed, posted]
  exact owed

/-! ## User code -/

/-- An accepted query is counted. -/
theorem books_accepting (query : Query) (session : Session σ) :
    (session.accepting query).books =
      session.books + posting [.counted .queriesAccepted, .accepted] := by
  have counted := books_push session (.counted .queriesAccepted query.filter query.parameter)
  have accepted := books_push
    { session with
      journal := session.journal.push (.counted .queriesAccepted query.filter query.parameter) }
    (.accepted session.nextTicket query)
  rw [counted, add_assoc, ← posting_append] at accepted
  exact accepted

section Callees

variable {callees : Callees σ}
  (callbacks : ∀ underWay reference delivery,
    Keeps (Agreed underWay) False True (callees.callback reference delivery))
include callbacks

theorem keeps_query (query : Query) :
    Keeps (Agreed underWay) refusal panic (Session.query callees query) := by
  intro session agreed
  cases located : session.tree.locate query.stream query.filter query.parameter with
  | error fault =>
    rw [Session.query, meets_bind, meets_get, located]
    have rejected : Posts [.counted .queriesRejected, .queryRejected]
        (do
          count .queriesRejected query.filter query.parameter
          log .debug "parameter query rejected"
          emit (.queryRejected query.stream query.filter query.parameter fault.message)
          return .error fault : Action (Session σ) (Except QueryFault Unit)) :=
      (posts_record _).bind fun _ => (posts_record _).bind fun _ => (posts_emit _).bind fun _ =>
        posts_pure _
    exact rejected.keeps Books.right_rejected session agreed
  | ok found =>
    obtain ⟨entry, parameter⟩ := found
    rw [meets_query_iff located]
    have accepting : Agreed underWay (session.accepting query) := by
      have added := agreed.add Books.right_accepted
      rwa [← books_accepting query, add_zero] at added
    have supple := agreed_supple (σ := σ) underWay
    have answers ticket callback delivery : Keeps (Agreed underWay) refusal panic
        (dispatch callees (.query ticket) callback delivery) :=
      keeps_dispatch (fun _ => callbacks _ _ _) (.query ticket)
    exact supple.keeps_attend answers _ _ _ _ _ accepting

theorem keeps_publish (stream : StreamId) (filter name : String) (value : Value) :
    Keeps (Agreed underWay) True panic (publish callees stream filter name value) := by
  refine keeps_publish_of_keeps ?_ (fun _ => keeps_dispatch (fun _ => callbacks _ _ _) _) ?_
  · exact fun session _ tree _ agreed => (agreed.plant tree).push rfl
  · exact fun _ _ agreed => (agreed.plant _).push rfl

end Callees

/-- Callbacks and setters keep the books right, whatever is under way. -/
theorem Agreed.callees_keep (code : UserCode σ) (depth : Nat) (busy : List Address)
    (underWay : Int) :
    (code.calleesTo depth busy).All (Keeps (Agreed underWay) False True) :=
  code.callees_keep_of agreed_nimble (fun _ callbacks _ => keeps_query callbacks)
    (fun _ callbacks _ => keeps_publish callbacks) depth busy underWay

theorem Agreed.keeps_run (code : UserCode σ) (program : Program σ α) :
    Keeps (Agreed underWay) False True (code.run program) :=
  code.run_keeps_of agreed_nimble (fun _ callbacks _ => keeps_query callbacks)
    (fun _ callbacks _ => keeps_publish callbacks) underWay program

theorem Agreed.keeps_drain (code : UserCode σ) :
    Keeps (Agreed underWay) refusal panic (drain code.callees) :=
  (agreed_supple underWay).keeps_drain fun _ _ _ =>
    keeps_dispatch (fun underWay =>
      (Agreed.callees_keep code code.nesting [] underWay).callback _ _) _

/-- A failed hook is counted and announced. -/
theorem Agreed.failing (agreed : Agreed underWay session) (controller hook : String) (level : Level)
    (text : String) {event : Event} (failure : event.isFailure = true) :
    Agreed underWay (session.failing controller hook level text event) := by
  have announced : event.account? = some .hookFailed := by
    cases event <;> first | rfl | cases failure
  have posts : Posts ([.counted .hookFailures] ++ ([] ++ event.account?.toList))
      (do
        count .hookFailures controller hook
        log level text
        emit event : Action (Session σ) Unit) :=
    (posts_record _).bind fun _ => (posts_record _).bind fun _ => posts_emit event
  rw [announced] at posts
  have keeps : Keeps (Agreed underWay) False False _ := posts.keeps Books.right_hookFailed
  exact keeps session agreed

end Session

/-! ## Hosts -/

/-- What a host writes itself is not counted. -/
theorem Entry.account?_of_isOfHost {entry : Entry} (ofHost : entry.isOfHost = true) :
    entry.account? = none := by
  cases entry with
  | sent event => cases event <;> first | rfl | cases ofHost
  | entered call | left call => cases call <;> first | rfl | cases ofHost
  | _ => first | rfl | cases ofHost

namespace Host

variable {σ : Type}

/-- **Whatever a host does keeps the books right.** -/
theorem enduring_agreed (code : UserCode σ) :
    Enduring code fun host => host.session.Agreed 0 := by
  intro deed before after does agreed
  cases does with
  | stir before after session =>
    rw [session]
    exact agreed
  | write host ofHost => exact agreed.push (Entry.account?_of_isOfHost ofHost)
  | fail host controller hook level text failure =>
    exact agreed.failing controller hook level text failure
  | run _ program _ ends | outside _ program ends =>
    exact (Session.Agreed.keeps_run code program).of_ne_exhausted agreed ends
  | drain _ ends =>
    have drained : Action.Keeps (Session.Agreed 0) False False (Session.drain code.callees) :=
      Session.Agreed.keeps_drain code
    exact drained.of_ne_exhausted agreed ends
  | attach | enroll | mark | settle | forget => exact agreed.plant _
  | announce | join | leave => exact agreed.push rfl
  | send | skip | shutDown | discard | close => exact agreed

/-- In every host that there may be, the books are right. -/
theorem History.agreed {code : UserCode σ} {history : History σ} (reachable : history.Reachable code) :
    history.host.session.Agreed 0 := by
  obtain ⟨config, memory, host, created, leads⟩ := reachable
  obtain ⟨channel, rfl⟩ := eq_of_create created
  exact leads.endures (enduring_agreed code) (Session.agreed_new channel memory)

end Host

/-! ## Sessions without a host -/

namespace Session

open StreamControl.Action

variable {σ : Type}

/-- What can be done when nothing is at hand but the means of handing values to
callbacks: that is done, the tally is looked at, and the memory is used.  The callbacks
can do the same. -/
inductive Deals : {α : Type} → Action (Session σ) α → Prop where
  | pure {α : Type} (value : α) : Deals (Pure.pure value)
  | panic {α : Type} (reason : String) : Deals (Action.panic reason : Action (Session σ) α)
  | exhaust {α : Type} : Deals (Action.exhaust : Action (Session σ) α)
  | memory : Deals do return (← get).memory
  | remember (memory : σ) : Deals (modify fun session => { session with memory })
  | tally : Deals do return (← get).tally
  | bind {α β : Type} {first : Action (Session σ) α} {next : α → Action (Session σ) β}
      (one : Deals first) (two : ∀ value, Deals (next value)) : Deals (first >>= next)
  | dispatch {callees : Callees σ} {callback : Callback} {delivery : Delivery}
      (inside : Deals (callees.callback callback.code delivery)) :
      Deals (Session.dispatch callees .direct callback delivery)

/-- What comes of a new session that is used for nothing else. -/
inductive Bare : Session σ → Prop where
  | new (channel : Broadcast Event) (memory : σ) : Bare { channel, memory }
  | deal {α : Type} {session : Session σ} {action : Action (Session σ) α} (bare : Bare session)
      (deals : Deals action) (ends : (action session).1 ≠ .exhausted) : Bare (action session).2
  | listen {session : Session σ} (bare : Bare session)
      (change : Broadcast Event → Broadcast Event) :
      Bare { session with channel := change session.channel }

theorem Deals.keeps {α : Type} {action : Action (Session σ) α} (deals : Deals action) :
    ∀ underWay, Keeps (Agreed underWay) False True action := by
  induction deals with
  | pure value => exact fun _ => keeps_pure value
  | panic reason => exact fun _ => keeps_panic reason
  | exhaust => exact fun _ => keeps_exhaust
  | memory | tally => exact fun _ => keeps_get.bind fun _ => keeps_pure _
  | remember memory => exact fun _ => keeps_modify fun _ agreed => agreed
  | bind _ _ one two => exact fun underWay => (one underWay).bind fun value => two value underWay
  | dispatch _ inside => exact fun _ => keeps_dispatch inside .direct

/-- In every session without a host, the books are right. -/
theorem Bare.agreed {session : Session σ} (bare : Bare session) : session.Agreed 0 := by
  induction bare with
  | new channel memory => exact agreed_new channel memory
  | deal _ deals ends agreed => exact (deals.keeps 0).of_ne_exhausted agreed ends
  | listen _ _ agreed => exact agreed

/-! ## Callbacks that are left out -/

/-- An action returns a value without user code being entered. -/
def Tacit {α : Type} (action : Action (Session σ) α) (session : Session σ) (value : α) : Prop :=
  ∃ after entries, action session = (.returned value, after) ∧
    after.journal.toList = session.journal.toList ++ entries ∧ ∀ call, .entered call ∉ entries

theorem tacit_pure {α : Type} (value : α) (session : Session σ) :
    Tacit (pure value) session value :=
  ⟨session, [], rfl, (List.append_nil _).symm, fun _ => List.not_mem_nil⟩

theorem tacit_get (session : Session σ) : Tacit get session session :=
  ⟨session, [], rfl, (List.append_nil _).symm, fun _ => List.not_mem_nil⟩

theorem tacit_modify {change : Session σ → Session σ} {session : Session σ}
    (same : (change session).journal = session.journal) : Tacit (modify change) session () :=
  ⟨change session, [], rfl, by rw [same, List.append_nil], fun _ => List.not_mem_nil⟩

theorem tacit_record (entry : Entry) (other : ∀ call, .entered call ≠ entry) (session : Session σ) :
    Tacit (record entry) session () :=
  ⟨_, [entry], rfl, Array.toList_push, fun call member => other call (List.mem_singleton.mp member)⟩

theorem tacit_log (level : Level) (text : String) (session : Session σ) :
    Tacit (log level text) session () := tacit_record (.message level text) (fun _ => nofun) session

theorem tacit_count (metric : Metric) (first second : String) (session : Session σ) :
    Tacit (count metric first second) session () :=
  tacit_record (.counted metric first second) (fun _ => nofun) session

theorem Tacit.bind {α β : Type} {first : Action (Session σ) α} {next : α → Action (Session σ) β}
    {session : Session σ} {value : α} {result : β} (one : Tacit first session value)
    (two : ∀ between, first session = (.returned value, between) → Tacit (next value) between result) :
    Tacit (first >>= next) session result := by
  obtain ⟨between, entries, run, written, unentered⟩ := one
  obtain ⟨after, more, further, rest, never⟩ := two between run
  refine ⟨after, entries ++ more, (bind_of_returned run).trans further, ?_, fun call member => ?_⟩
  · rw [rest, written, List.append_assoc]
  · exact (List.mem_append.mp member).elim (unentered call) (never call)

theorem tacit_emit (event : Event) (session : Session σ) : Tacit (emit event) session () :=
  Tacit.bind (tacit_modify rfl) fun _ _ => tacit_record (.sent event) (fun _ => nofun) _

/-- Handing a value to a callback that takes the wrong number of inputs enters no user
code. -/
theorem tacit_dispatch (callees : Callees σ) (cause : Cause) {callback : Callback}
    (misfit : callback.isWellFormed = false) (delivery : Delivery) (session : Session σ) :
    Tacit (dispatch callees cause callback delivery) session (.mismatched callback.arity) := by
  have skipped : Tacit (deliver callees cause callback delivery) session
      (.mismatched callback.arity) := by
    rw [deliver, if_neg (misfit ▸ Bool.false_ne_true)]
    exact Tacit.bind (tacit_record (.skipped cause callback delivery) (fun _ same => by cases same) _)
      fun _ _ => tacit_pure _ _
  have reported (session : Session σ) :
      Tacit (report delivery (.mismatched callback.arity)) session () :=
    Tacit.bind (tacit_modify rfl) fun _ _ => Tacit.bind (tacit_count _ _ _ _) fun _ _ =>
      Tacit.bind (tacit_log _ _ _) fun _ _ => tacit_emit _ _
  exact skipped.bind fun _ _ => (reported _).bind fun _ _ => tacit_pure _ _

theorem tacit_accept (query : Query) (session : Session σ) :
    Tacit (accept query) session session.nextTicket := by
  refine (tacit_get session).bind fun between same => ?_
  cases same
  exact Tacit.bind (tacit_modify rfl) fun _ _ =>
    Tacit.bind (tacit_record (.accepted _ query) (fun _ => nofun) _) fun _ _ => tacit_pure _ _

/-- Nor is any entered when a query is made to wait. -/
theorem tacit_defer (callees : Callees σ) (ticket : Nat) {query : Query} {session : Session σ}
    {entry : FilterEntry} {parameter : Parameter}
    (located : session.tree.locate query.stream query.filter query.parameter =
      .ok (entry, parameter)) (idle : ¬ entry.started = true) :
    Tacit (defer callees ticket query) session () := by
  refine (tacit_get session).bind fun between same => ?_
  cases same
  split
  · refine Tacit.bind (tacit_modify rfl) fun between same => ?_
    cases same
    refine Tacit.bind (tacit_log _ _ _) fun between same => ?_
    cases same
    refine Tacit.bind (tacit_get _) fun between same => ?_
    cases same
    dsimp only
    rw [located]
    dsimp only
    rw [if_neg idle]
    exact tacit_pure _ _
  · exact tacit_log _ _ _

/-- **A query is accepted whatever inputs its callback takes**, and if that is the wrong
number of inputs no user code is entered for it. -/
theorem tacit_query (callees : Callees σ) {query : Query} {session : Session σ}
    {found : FilterEntry × Parameter} (misfit : query.callback.isWellFormed = false)
    (located : session.tree.locate query.stream query.filter query.parameter = .ok found) :
    Tacit (Session.query callees query) session (.ok ()) := by
  obtain ⟨entry, parameter⟩ := found
  refine (tacit_get session).bind fun between same => ?_
  cases same
  rw [located]
  refine Tacit.bind (tacit_count _ _ _ _) fun between same => ?_
  cases same
  refine Tacit.bind (tacit_accept _ _) fun between same => ?_
  cases same
  dsimp only
  split
  · exact Tacit.bind (tacit_dispatch callees _ misfit _ _) fun _ _ =>
      Tacit.bind (tacit_log _ _ _) fun _ _ => tacit_pure _ _
  · rename_i idle
    exact Tacit.bind (tacit_defer callees _ located idle) fun _ _ => tacit_pure _ _

/-! ## What an observer sees -/

/-- What is counted in a session agrees with what was announced and with what was done. -/
structure Accounted (session : Session σ) : Prop where
  /-- Each value that was handed to a callback is counted once, and as one thing. -/
  handled : session.tally.invoked + session.tally.mismatched + session.tally.panicked =
    session.journal.number .begun + session.journal.number .skipped
  /-- Callbacks that ran returned zero, or they failed. -/
  invoked : session.tally.invoked =
    session.journal.number (.ended .succeeded) + session.journal.number (.ended .failed)
  /-- Those that failed are counted. -/
  failed : session.tally.failed = session.journal.number (.ended .failed)
  /-- Those that were left out are counted. -/
  mismatched : session.tally.mismatched = session.journal.number .skipped
  /-- Those that panicked are counted. -/
  panicked : session.tally.panicked = session.journal.number (.ended .panicked)
  /-- The counter of the callbacks that ran agrees. -/
  invokedCounter : session.tally.invoked = session.journal.sum .callbacksInvoked
  /-- The counter of those that were left out agrees. -/
  mismatchedCounter : session.tally.mismatched = session.journal.sum .signatureMismatches
  /-- Those that were left out were announced. -/
  mismatchedEvents : session.tally.mismatched = session.journal.number .signatureMismatch
  /-- Those that failed were announced. -/
  failedEvents : session.tally.failed = session.journal.number .callbackFailed
  /-- Those that panicked were announced. -/
  panickedEvents : session.tally.panicked = session.journal.number .callbackPanicked
  /-- The counter of rejected queries agrees with their events. -/
  rejected : session.journal.sum .queriesRejected = session.journal.number .queryRejected
  /-- The counter of accepted queries agrees with their number. -/
  accepted : session.journal.sum .queriesAccepted = session.journal.number .accepted
  /-- The counter of failed hooks agrees with the events about failures. -/
  hookFailed : session.journal.sum .hookFailures = session.journal.number .hookFailed
  /-- Only callbacks that take five inputs were entered. -/
  fitting : ∀ cause callback delivery,
    .entered (.callback cause callback delivery) ∈ session.journal.toList →
      callback.arity = callbackArity

/-- What books say of each account is said by the tally or by the journal. -/
theorem books_eq (session : Session σ) (account : Account) :
    session.books account = if account.isTallied = true then session.tally.number account
      else session.journal.number account := by
  rw [books, Pi.add_apply]
  split
  · rename_i tallied
    have none : session.journal.number account = 0 := by
      refine List.countP_eq_zero.mpr fun entry _ shown => ?_
      rw [Entry.isTallied_of_account? (of_decide_eq_true shown)] at tallied
      cases tallied
    rw [none, Nat.add_zero]
  · rename_i other
    have none : session.tally.number account = 0 := by
      cases account <;> first | rfl | exact absurd rfl other
    rw [none, Nat.zero_add]

/-- Right books say the same in the observer's terms. -/
theorem Agreed.accounted {session : Session σ} (agreed : Agreed 0 session) : session.Accounted := by
  obtain ⟨begun, invoked, failed, mismatched, panicked, invokedCounted, mismatchedCounted,
    mismatchedSent, failedSent, panickedSent, rejected, accepted, hookFailed, fitting⟩ := agreed
  simp only [books_eq, Account.isTallied, Bool.false_eq_true, if_true, if_false, Tally.number,
    ← Journal.sum_eq] at *
  refine ⟨by omega, invoked, failed, mismatched, panicked, invokedCounted.symm,
    mismatchedCounted.symm, mismatchedSent.symm, failedSent.symm, panickedSent.symm, rejected,
    accepted, hookFailed, fun cause callback delivery member => ?_⟩
  have fits := List.countP_eq_zero.mp fitting _ member
  simp only [Entry.account?, decide_eq_true_eq, Option.some.injEq] at fits
  by_contra other
  exact fits (if_neg fun wellFormed => other (of_decide_eq_true wellFormed))

/-- A value that is handed to a callback is counted once, after whatever the callback
does, as what came of it. -/
theorem counted_once {callees : Callees σ} {cause : Cause} {callback : Callback}
    {delivery : Delivery} {session after : Session σ} {outcome : DispatchOutcome}
    (run : dispatch callees cause callback delivery session = (.returned outcome, after)) :
    ∃ between, deliver callees cause callback delivery session = (.returned outcome, between) ∧
      after.tally = between.tally.add outcome := by
  obtain ⟨found, between, delivered, reporting⟩ := bind_eq_returned_iff.mp run
  obtain ⟨_, reported, report, last⟩ := bind_eq_returned_iff.mp reporting
  cases last
  refine ⟨between, delivered, ?_⟩
  have tally : (Session.report delivery outcome).Meets between
      (fun _ after => after.tally = between.tally.add outcome) (fun _ _ => False)
      (fun _ _ => False) := by
    refine meets_bind.mpr (meets_modify.mpr ?_)
    cases outcome with
    | invoked code =>
      refine meets_bind.mpr (meets_modify.mpr ?_)
      dsimp only
      split <;> rfl
    | mismatched | panicked => rfl
  exact tally.of_returned report

end Session

namespace Host

open StreamControl.Action Session

variable {σ : Type}

/-- **What is counted agrees with what was done and announced**, in every host there
may be and in every session without a host.  Each value that is handed to a callback is
counted once, when the callback has ended.  A query whose callback takes the wrong number of
inputs is accepted, and no user code is entered for it. -/
theorem accounts_agree :
    (∀ (code : UserCode σ) (history : History σ), history.Reachable code →
      history.host.session.Accounted) ∧
    (∀ session : Session σ, session.Bare → session.Accounted) ∧
    (∀ (callees : Callees σ) cause callback delivery session outcome after,
      dispatch callees cause callback delivery session = (.returned outcome, after) →
        ∃ between, deliver callees cause callback delivery session = (.returned outcome, between) ∧
          after.tally = between.tally.add outcome) ∧
    ∀ (callees : Callees σ) (query : Query) (session : Session σ) found,
      session.tree.locate query.stream query.filter query.parameter = .ok found →
        query.callback.arity ≠ callbackArity → Tacit (Session.query callees query) session (.ok ()) :=
  ⟨fun _ _ reachable => (History.agreed reachable).accounted, fun _ bare => bare.agreed.accounted,
    fun _ _ _ _ _ _ _ => counted_once,
    fun callees _ _ _ located misfit => tacit_query callees (decide_eq_false misfit) located⟩

/-- Callbacks without a host: the first fails, and the others hand the value on to it and
then panic. -/
def tangledCallees : Callees Unit where
  callback reference delivery :=
    if reference = 0 then pure 1
    else do
      let _ ← dispatch { callback := fun _ _ => pure 1, setter := fun _ _ _ _ => pure none }
        .direct { code := 0 } delivery
      Action.panic "enough"
  setter _ _ _ _ := pure none

/-- What comes of handing a value to one of the others. -/
def tangledSession : Session Unit :=
  (dispatch tangledCallees .direct { code := 1 } (echoDelivery true)
    { channel := { room := 1 }, memory := () }).2

/-- The callbacks of a host are called while others are under way, and so are those without
a host; all of them are counted, and a query whose callback takes four inputs is accepted. -/
theorem accounts_agree_tangled :
    (echoHistory.host.session.Accounted ∧
      echoHistory.host.session.tally = { invoked := 4, failed := 2 }) ∧
    (tangledSession.Accounted ∧
      tangledSession.tally = { invoked := 1, failed := 1, panicked := 1 }) ∧
    (∃ between : Session Unit, tangledSession.tally = between.tally.add .panicked) ∧
    Tacit (Session.query echoCode.callees
      { stream := ⟨1⟩, filter := "source", parameter := "gain", callback := { code := 0, arity := 4 } })
        echoHistory.host.session (.ok ()) := by
  obtain ⟨hosts, others, once, misfits⟩ := accounts_agree (σ := Unit)
  have run : dispatch tangledCallees .direct { code := 1 } (echoDelivery true)
      { channel := { room := 1 }, memory := () } = (.returned .panicked, tangledSession) := rfl
  have bare : tangledSession.Bare := .deal (.new { room := 1 } ())
    (.dispatch (.bind (.dispatch (.pure 1)) fun _ => .panic _)) (by rw [run]; nofun)
  obtain ⟨between, -, counted⟩ := once _ _ _ _ _ _ _ run
  have isOk : (echoHistory.host.session.tree.locate ⟨1⟩ "source" "gain").isOk = true := by
    decide +kernel
  obtain ⟨found, located⟩ : ∃ found,
      echoHistory.host.session.tree.locate ⟨1⟩ "source" "gain" = .ok found := by
    cases located : echoHistory.host.session.tree.locate ⟨1⟩ "source" "gain" with
    | ok found => exact ⟨found, rfl⟩
    | error fault =>
      rw [located] at isOk
      cases isOk
  refine ⟨⟨hosts echoCode echoHistory echoHistory_reachable, ?_⟩, ⟨others _ bare, ?_⟩,
    ⟨between, counted⟩, misfits _ _ _ found located ?_⟩ <;> decide +kernel

end Host

end StreamControl
