import Mathlib.Algebra.BigOperators.Group.List.Basic
import Mathlib.Algebra.Ring.Nat
import Mathlib.Data.Fintype.Basic
import Mathlib.Data.Fintype.EquivFin
import Mathlib.Logic.Relation
import StreamControl.Proofs.FilterNames

/-!
# Links lead nowhere back

The filters that `FilterGraph.spread` finds are those that chains of links
lead to (`mem_spread_iff`): what is found is at the end of such a chain, and a
chain is followed to its end, since every round follows all links that leave
what has been found and there are as many rounds as links.  So two filters can
be linked exactly if they are different filters of the graph and no chain
leads from the second to the first (`link_eq_ok_iff`).

A link that is made closes no circle: a chain from a filter back to itself
that uses the new link would contain one from the sink of the link to its
source (`chain_concat`).  A graph that was built therefore has no circles
(`WellLinked`).  In a finite graph without circles nobody can go back along
links for ever, nor forward, so every filter can be reached from one without
inputs and reaches one without outputs (`exists_root`).
-/

set_option autoImplicit false

namespace StreamControl

open Relation

/-! ## Chains of links -/

/-- Some link joins the output of one filter to the input of another. -/
def Joined (links : List Link) (source sink : Nat) : Prop := ⟨source, sink⟩ ∈ links

section Chains

variable {links more : List Link} {link : Link} {origin target : Nat}

theorem Joined.of_mem (member : link ∈ links) : Joined links link.source link.sink := member

theorem joined_concat : Joined (links ++ [link]) origin target ↔
    Joined links origin target ∨ origin = link.source ∧ target = link.sink := by
  cases link
  simp [Joined]

/-- More links make more chains. -/
theorem chain_mono (sub : links ⊆ more) (chain : ReflTransGen (Joined links) origin target) :
    ReflTransGen (Joined more) origin target :=
  ReflTransGen.mono (p := Joined more) (fun _ _ joined => sub joined) _ _ chain

/-- A chain in a graph with one link more is a chain without it, or leads up to
the link and on from it. -/
theorem chain_concat (chain : TransGen (Joined (links ++ [link])) origin target) :
    TransGen (Joined links) origin target ∨
      ReflTransGen (Joined links) origin link.source ∧
        ReflTransGen (Joined links) link.sink target := by
  -- The last step of the chain is an old link or the new one.
  induction chain with
  | single joined =>
    rcases joined_concat.mp joined with old | ⟨rfl, rfl⟩
    · exact .inl (.single old)
    · exact .inr ⟨.refl, .refl⟩
  | tail _ joined ih =>
    rcases joined_concat.mp joined with old | ⟨rfl, rfl⟩
    · exact ih.imp (·.tail old) fun ⟨upTo, on⟩ => ⟨upTo, on.tail old⟩
    · exact .inr ⟨ih.elim (·.to_reflTransGen) (·.1), .refl⟩

/-- A link between filters that no chain joins the other way closes no circle. -/
theorem acyclic_concat (acyclic : ∀ filter, ¬ TransGen (Joined links) filter filter)
    (apart : ¬ ReflTransGen (Joined links) link.sink link.source) (filter : Nat) :
    ¬ TransGen (Joined (links ++ [link])) filter filter := fun circle =>
  (chain_concat circle).elim (acyclic filter) fun ⟨upTo, on⟩ => apart (on.trans upTo)

/-- **Whoever goes back along steps that lead nowhere back comes to a beginning**,
if there are finitely many places to go back to. -/
theorem exists_root {step : Nat → Nat → Prop} {count place : Nat}
    (bounded : ∀ before after, step before after → before < count)
    (acyclic : ∀ place, ¬ TransGen step place place) (present : place < count) :
    ∃ root < count, (∀ before, ¬ step before root) ∧ ReflTransGen step root place := by
  let Before (first second : Fin count) : Prop := TransGen step first second
  have : IsTrans (Fin count) Before := ⟨fun _ _ _ => TransGen.trans⟩
  have : Std.Irrefl Before := ⟨fun place => acyclic place⟩
  refine (Finite.wellFounded_of_trans_of_irrefl Before).induction
    (C := fun place : Fin count => ∃ root < count, (∀ before, ¬ step before root) ∧
      ReflTransGen step root place) ⟨place, present⟩ fun place earlier => ?_
  by_cases first : ∀ before, ¬ step before place
  · exact ⟨place, place.isLt, first, .refl⟩
  · obtain ⟨before, taken⟩ := not_forall_not.mp first
    obtain ⟨root, there, begins, chain⟩ :=
      earlier ⟨before, bounded before place taken⟩ (.single taken)
    exact ⟨root, there, begins, chain.tail taken⟩

end Chains

/-! ## Following links -/

namespace FilterGraph

section Spreading

variable {rounds : Nat} {found : List Nat} {links : List Link} {origin target : Nat}

/-- What spreading finds is at the end of a chain. -/
theorem chain_of_mem_spread (member : target ∈ spread rounds found links) :
    ∃ origin ∈ found, ReflTransGen (Joined links) origin target := by
  induction rounds generalizing found links with
  | zero => exact ⟨target, member, .refl⟩
  | succ rounds ih =>
    rw [spread] at member
    split at member
    · exact ⟨target, member, .refl⟩
    · obtain ⟨middle, among, chain⟩ := ih member
      have chain := chain_mono (List.filter_subset_self _) chain
      rcases List.mem_append.mp among with old | new
      · exact ⟨middle, old, chain⟩
      · obtain ⟨link, followed, rfl⟩ := List.mem_map.mp new
        obtain ⟨joined, start⟩ := List.mem_filter.mp followed
        exact ⟨link.source, of_decide_eq_true start, .head (.of_mem joined) chain⟩

/-- Of a chain that begins in what has been found, the part after its last link
from there is left for the rounds to come. -/
theorem rest_of_chain (begins : origin ∈ found)
    (chain : ReflTransGen (Joined links) origin target) :
    ∃ next ∈ found ++ (links.filter fun link => link.source ∈ found).map (·.sink),
      ReflTransGen (Joined (links.filter fun link => link.source ∉ found)) next target := by
  induction chain with
  | refl => exact ⟨origin, List.mem_append_left _ begins, .refl⟩
  | @tail middle target _ joined ih =>
    by_cases there : middle ∈ found
    · have followed : ⟨middle, target⟩ ∈ links.filter fun link => link.source ∈ found :=
        List.mem_filter.mpr ⟨joined, decide_eq_true there⟩
      exact ⟨target, List.mem_append_right _ (List.mem_map_of_mem followed), .refl⟩
    · obtain ⟨next, among, chain⟩ := ih
      exact ⟨next, among, chain.tail (List.mem_filter.mpr ⟨joined, decide_eq_true there⟩)⟩

/-- Spreading follows every chain to its end, given a round for each link. -/
theorem mem_spread_of_chain (enough : links.length ≤ rounds) (begins : origin ∈ found)
    (chain : ReflTransGen (Joined links) origin target) : target ∈ spread rounds found links := by
  induction rounds generalizing found links origin with
  | zero =>
    obtain rfl : links = [] := List.eq_nil_of_length_eq_zero (Nat.le_zero.mp enough)
    cases chain with
    | refl => exact begins
    | tail _ joined => cases joined
  | succ rounds ih =>
    rw [spread]
    split
    · rename_i none
      -- No link leaves what has been found, so the chain consists of no links.
      rcases chain.cases_head with rfl | ⟨next, joined, -⟩
      · exact begins
      · have followed : ⟨origin, next⟩ ∈ links.filter fun link => link.source ∈ found :=
          List.mem_filter.mpr ⟨joined, decide_eq_true begins⟩
        rw [List.isEmpty_iff.mp none] at followed
        cases followed
    · rename_i some
      obtain ⟨next, among, rest⟩ := rest_of_chain begins chain
      refine ih ?_ among rest
      have fewer : (links.filter fun link => link.source ∉ found).length < links.length := by
        rw [List.length_filter_lt_length_iff_exists]
        obtain ⟨link, followed⟩ := List.exists_mem_of_ne_nil _
          (List.isEmpty_eq_false_iff.mp (Bool.of_not_eq_true some))
        obtain ⟨member, start⟩ := List.mem_filter.mp followed
        exact ⟨link, member, by simpa using start⟩
      exact Nat.le_of_lt_succ (Nat.lt_of_lt_of_le fewer enough)

/-- **Spreading finds what chains of links lead to.** -/
theorem mem_spread_iff (enough : links.length ≤ rounds) :
    target ∈ spread rounds found links ↔
      ∃ origin ∈ found, ReflTransGen (Joined links) origin target :=
  ⟨chain_of_mem_spread, fun ⟨_, begins, chain⟩ => mem_spread_of_chain enough begins chain⟩

end Spreading

variable {graph : FilterGraph}

/-- A filter is reached from another if a chain of links leads there. -/
theorem reaches_iff {origin target : Nat} :
    graph.reaches origin target ↔ ReflTransGen (Joined graph.links) origin target := by
  rw [reaches, decide_eq_true_iff, mem_spread_iff (Nat.le_refl _)]
  simp

/-! ## Linking -/

/-- **When two filters can be linked**: they are different filters of the
graph and no chain leads back. -/
theorem link_eq_ok_iff {source sink : Nat} {linked : FilterGraph} :
    graph.link source sink = .ok linked ↔
      (source < graph.nodes.length ∧ sink < graph.nodes.length ∧ source ≠ sink ∧
        ¬ TransGen (Joined graph.links) sink source) ∧
      linked = { graph with links := graph.links ++ [⟨source, sink⟩] } := by
  have back : graph.reaches sink source ↔
      source = sink ∨ TransGen (Joined graph.links) sink source :=
    reaches_iff.trans reflTransGen_iff_eq_or_transGen
  by_cases hasSource : source < graph.nodes.length
  · by_cases hasSink : sink < graph.nodes.length
    · rw [link, if_neg (Nat.not_le.mpr hasSource), if_neg (Nat.not_le.mpr hasSink)]
      by_cases reached : graph.reaches sink source
      · have blocked := back.mp reached
        simp only [if_pos reached, reduceCtorEq, false_iff]
        rintro ⟨⟨-, -, different, apart⟩, -⟩
        exact blocked.elim different apart
      · obtain ⟨different, apart⟩ := not_or.mp (back.not.mp reached)
        simp only [if_neg reached, Except.ok.injEq, hasSource, hasSink, different, apart,
          ne_eq, not_false_eq_true, true_and]
        exact eq_comm
    · rw [link, if_neg (Nat.not_le.mpr hasSource), if_pos (Nat.not_lt.mp hasSink)]
      simp [hasSink]
  · rw [link, if_pos (Nat.not_lt.mp hasSource)]
    simp [hasSource]

theorem attempt_link_eq_ok_iff {source sink : Nat} {linked : FilterGraph} :
    graph.attempt (.link source sink) = .ok (none, linked) ↔
      graph.link source sink = .ok linked := by
  rw [attempt]
  cases graph.link source sink <;> simp

/-- The links of a graph join its filters and close no circle. -/
structure WellLinked (graph : FilterGraph) : Prop where
  /-- Both ends of a link are filters. -/
  ends : ∀ link ∈ graph.links, link.source < graph.nodes.length ∧ link.sink < graph.nodes.length
  /-- No chain of links leads from a filter back to it. -/
  acyclic : ∀ filter, ¬ TransGen (Joined graph.links) filter filter

theorem wellLinked_empty : WellLinked empty where
  ends := nofun
  acyclic _ circle := by
    obtain ⟨_, joined, -⟩ := TransGen.head'_iff.mp circle
    cases joined

/-- Growing closes no circle. -/
theorem Grows.wellLinked {number : Option Nat} {after : FilterGraph}
    (grows : graph.Grows number after) (well : graph.WellLinked) : after.WellLinked := by
  cases grows with
  | append name code nextAuto free =>
    refine ⟨fun link member => ?_, well.acyclic⟩
    have longer : (graph.append name code).nodes.length = graph.nodes.length + 1 :=
      List.length_append
    obtain ⟨source, sink⟩ := well.ends link member
    exact ⟨longer ▸ Nat.lt_succ_of_lt source, longer ▸ Nat.lt_succ_of_lt sink⟩
  | link source sink hasSource hasSink apart =>
    refine ⟨fun link member => ?_, acyclic_concat well.acyclic fun chain => ?_⟩
    · rcases List.mem_append.mp member with old | new
      · exact well.ends link old
      · rw [List.mem_singleton.mp new]
        exact ⟨hasSource, hasSink⟩
    · exact Bool.eq_false_iff.mp apart (reaches_iff.mpr chain)

/-- The links of a graph that was built close no circle. -/
theorem wellLinked_built (edits : List Edit) : (built edits).WellLinked :=
  built_induction wellLinked_empty (fun well grows => grows.wellLinked well) edits

/-! ## Where links begin and end -/

/-- A number is met once among those up to a bound that is above it. -/
theorem sum_met_range (here count : Nat) :
    ((List.range count).map fun index => if here = index then 1 else 0).sum =
      if here < count then 1 else 0 := by
  induction count with
  | zero => rfl
  | succ count ih =>
    rw [List.range_succ, List.map_append, List.sum_append, ih]
    simp only [List.map_cons, List.map_nil, List.sum_cons, List.sum_nil]
    split <;> split <;> split <;> omega

/-- Every link has one end of a kind, so the ends at all filters are as many
as there are links. -/
theorem sum_countP_range {links : List Link} {count : Nat} (place : Link → Nat)
    (bounded : ∀ link ∈ links, place link < count) :
    ((List.range count).map fun index => links.countP (place · = index)).sum = links.length := by
  induction links with
  | nil => simp
  | cons link rest ih =>
    obtain ⟨here, later⟩ := List.forall_mem_cons.mp bounded
    simp only [List.countP_cons, decide_eq_true_eq, List.sum_map_add, ih later, sum_met_range,
      if_pos here, List.length_cons]

theorem map_slots {β : Type} (look : FilterSlot → β) (read : Nat → β)
    (same : ∀ index node, look (graph.slotOf index node) = read index) :
    graph.slots.map look = (List.range graph.nodes.length).map read := by
  refine List.ext_getElem? fun position => ?_
  rw [slots_eq, List.getElem?_map, List.getElem?_mapIdx, List.getElem?_map]
  by_cases present : position < graph.nodes.length
  · simp [present, same]
  · simp [present]

theorem slotOf_mem_slots {index : Nat} (present : index < graph.nodes.length) :
    graph.slotOf index graph.nodes[index] ∈ graph.slots := by
  rw [slots_eq]
  exact List.mem_mapIdx.mpr ⟨index, present, rfl⟩

/-- **Every filter is reached from a source.** -/
theorem WellLinked.exists_source (well : graph.WellLinked) {index : Nat}
    (present : index < graph.nodes.length) :
    ∃ source ∈ graph.sources, ReflTransGen (Joined graph.links) source.index index := by
  obtain ⟨root, there, begins, chain⟩ :=
    exists_root (fun _ _ joined => (well.ends _ joined).1) well.acyclic present
  have unlinked : graph.inputs root = 0 := List.countP_eq_zero.mpr fun link member same =>
    begins link.source (of_decide_eq_true same ▸ Joined.of_mem member)
  exact ⟨_, List.mem_filter.mpr ⟨slotOf_mem_slots there, decide_eq_true unlinked⟩, chain⟩

/-- **Every filter reaches a sink.** -/
theorem WellLinked.exists_sink (well : graph.WellLinked) {index : Nat}
    (present : index < graph.nodes.length) :
    ∃ sink ∈ graph.sinks, ReflTransGen (Joined graph.links) index sink.index := by
  have bounded (sink source : Nat) (joined : Function.swap (Joined graph.links) sink source) :
      sink < graph.nodes.length := (well.ends _ joined).2
  have acyclic (filter : Nat) : ¬ TransGen (Function.swap (Joined graph.links)) filter filter :=
    fun circle => well.acyclic filter (transGen_swap.mp circle)
  obtain ⟨root, there, begins, chain⟩ := exists_root bounded acyclic present
  have unlinked : graph.outputs root = 0 := List.countP_eq_zero.mpr fun link member same =>
    begins link.sink (of_decide_eq_true same ▸ Joined.of_mem member)
  exact ⟨_, List.mem_filter.mpr ⟨slotOf_mem_slots there, decide_eq_true unlinked⟩,
    reflTransGen_swap.mp chain⟩

/-! ## What building comes to -/

/-- **Graphs without circles.**  However a graph is built, with numbers that
may belong to other graphs, no chain of its links leads from a filter back to
it.  Two filters can be linked exactly if both are there, they differ and no
chain leads back, and then the link is added, whether or not there is one like
it; an edit that is refused changes nothing.  The inputs of all filters are as
many as the links, and so are the outputs, and every filter is reached from a
source and reaches a sink. -/
theorem built_without_circles (edits : List Edit) :
    (∀ filter, ¬ TransGen (Joined (built edits).links) filter filter) ∧
    (∀ link ∈ (built edits).links, link.source < (built edits).nodes.length ∧
      link.sink < (built edits).nodes.length) ∧
    (∀ source sink, (∃ linked, (built edits).attempt (.link source sink) = .ok (none, linked)) ↔
      source < (built edits).nodes.length ∧ sink < (built edits).nodes.length ∧ source ≠ sink ∧
        ¬ TransGen (Joined (built edits).links) sink source) ∧
    (∀ source sink linked, (built edits).attempt (.link source sink) = .ok (none, linked) →
      built (edits ++ [.link source sink]) = linked ∧
      linked = { built edits with links := (built edits).links ++ [⟨source, sink⟩] }) ∧
    (∀ change fault, (built edits).attempt change = .error fault →
      built (edits ++ [change]) = built edits) ∧
    ((built edits).slots.map (·.inputs)).sum = (built edits).links.length ∧
    ((built edits).slots.map (·.outputs)).sum = (built edits).links.length ∧
    (∀ index < (built edits).nodes.length,
      (∃ source ∈ (built edits).sources,
        ReflTransGen (Joined (built edits).links) source.index index) ∧
      (∃ sink ∈ (built edits).sinks,
        ReflTransGen (Joined (built edits).links) index sink.index)) ∧
    ((built edits).nodes ≠ [] → (built edits).sources ≠ [] ∧ (built edits).sinks ≠ []) := by
  have well := wellLinked_built edits
  have ends {index : Nat} (present : index < (built edits).nodes.length) :=
    And.intro (well.exists_source present) (well.exists_sink present)
  refine ⟨well.acyclic, well.ends, fun source sink => ?_, fun source sink linked done => ?_,
    fun change fault refused => ?_, ?_, ?_, fun _ present => ends present, fun filled => ?_⟩
  · simp only [attempt_link_eq_ok_iff, link_eq_ok_iff, exists_and_left, exists_eq, and_true]
  · refine ⟨?_, (link_eq_ok_iff.mp (attempt_link_eq_ok_iff.mp done)).2⟩
    rw [built_concat, edit, done]
  · rw [built_concat, edit, refused]
  · rw [map_slots (·.inputs) (built edits).inputs fun _ _ => rfl]
    exact sum_countP_range (·.sink) fun link member => (well.ends link member).2
  · rw [map_slots (·.outputs) (built edits).outputs fun _ _ => rfl]
    exact sum_countP_range (·.source) fun link member => (well.ends link member).1
  · obtain ⟨⟨source, first, -⟩, sink, last, -⟩ := ends (List.length_pos_iff.mpr filled)
    exact ⟨List.ne_nil_of_mem first, List.ne_nil_of_mem last⟩

end FilterGraph

end StreamControl
