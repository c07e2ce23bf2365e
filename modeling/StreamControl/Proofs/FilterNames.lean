import Mathlib.Data.List.Nodup
import Mathlib.Data.List.Perm.Subperm
import Mathlib.Order.Bounds.Basic
import StreamControl.Proofs.StartAndStop

/-!
# How the filters of a graph are numbered and named

A graph is built by adding filters, under names of the caller's choice or
under generated ones, and by linking them (`FilterGraph.Edit`).  An edit that
is refused leaves the graph as it was, and any other one adds a filter under a
name that was free or a link that closes no circle (`FilterGraph.Grows`).

The filters of a graph that was built so are numbered from zero in the order
in which they were added, and their names are distinct.  So numbers and names
determine each other (`find?_eq_some_iff`), and a map in which every new
filter is filed under its name, whether or not something is there already,
never loses one (`find?_index`).

A generated name consists of a prefix and a number, and different numbers give
different names.  Of any `n + 1` numbers in a row one therefore has a name that
none of `n` filters has, and a search among them comes to an end, at the least
number whose name is free (`isLeast_firstFree`).
-/

set_option autoImplicit false

namespace StreamControl

namespace FilterGraph

variable {graph : FilterGraph}

/-! ## Numbers and names -/

theorem map_name_slot? (graph : FilterGraph) (index : Nat) :
    (graph.slot? index).map (·.name) = graph.names[index]? := by
  rw [names, List.getElem?_map, slot?, Option.map_map]
  rfl

theorem find?_eq_findIdx? (graph : FilterGraph) (name : String) :
    graph.find? name = graph.names.findIdx? (· = name) := by
  rw [names, List.findIdx?_map]
  rfl

theorem isSome_find?_iff {name : String} : (graph.find? name).isSome ↔ name ∈ graph.names := by
  rw [find?_eq_findIdx?, List.findIdx?_isSome, List.any_eq_true]
  simp

/-- **Numbers and distinct names determine each other.** -/
theorem find?_eq_some_iff (distinct : graph.names.Nodup) {name : String} {index : Nat} :
    graph.find? name = some index ↔ graph.names[index]? = some name := by
  rw [find?_eq_findIdx?, List.findIdx?_eq_some_iff_getElem]
  constructor
  · rintro ⟨present, here, -⟩
    rw [List.getElem?_eq_getElem present, of_decide_eq_true here]
  · intro here
    obtain ⟨present, here⟩ := List.getElem?_eq_some_iff.mp here
    refine ⟨present, decide_eq_true here, fun earlier before same => ?_⟩
    have same : graph.names[earlier] = graph.names[index] :=
      (of_decide_eq_true same).trans here.symm
    exact absurd (distinct.getElem_inj_iff.mp same) (Nat.ne_of_lt before)

@[simp] theorem names_append (graph : FilterGraph) (name : String) (code : Option CodeRef) :
    (graph.append name code).names = graph.names ++ [name] := by
  simp [names, append]

/-! ## Generated names -/

/-- Different numbers give different names: the digits can be read back. -/
theorem autoName_injective : Function.Injective autoName := by
  intro first second same
  have same : toString first = toString second := (String.append_right_inj _).mp same
  rw [Nat.toString_eq_ofList_toDigits, Nat.toString_eq_ofList_toDigits] at same
  have read (number : Nat) : Nat.ofDigitChars 10 (Nat.toDigits 10 number) 0 = number :=
    Nat.ofDigitChars_toDigits (by decide) (by decide)
  rw [← read first, String.ofList_injective same, read second]

/-- Not all of the generated names with one number more than there are filters
are taken. -/
theorem exists_free (graph : FilterGraph) (start : Nat) :
    ∃ number, start ≤ number ∧ number ≤ start + graph.nodes.length ∧
      autoName number ∉ graph.names := by
  by_contra none
  have taken : (List.range' start (graph.nodes.length + 1)).map autoName ⊆ graph.names := by
    intro name member
    obtain ⟨number, among, rfl⟩ := List.mem_map.mp member
    obtain ⟨low, high⟩ := List.mem_range'_1.mp among
    by_contra free
    exact none ⟨number, low, by omega, free⟩
  have distinct := List.Nodup.map autoName_injective (List.nodup_range' (s := start)
    (n := graph.nodes.length + 1))
  have short := (List.subperm_of_subset distinct taken).length_le
  rw [List.length_map, List.length_range', names, List.length_map] at short
  exact Nat.not_succ_le_self _ short

/-- A search that is allowed to try as many taken numbers as there may be ends
at the least one whose name is free. -/
theorem isLeast_firstFree_of_free {tries start : Nat}
    (free : ∃ number, start ≤ number ∧ number ≤ start + tries ∧ autoName number ∉ graph.names) :
    IsLeast {number | start ≤ number ∧ autoName number ∉ graph.names}
      (graph.firstFree tries start) := by
  induction tries generalizing start with
  | zero =>
    obtain ⟨number, low, high, free⟩ := free
    obtain rfl : number = start := Nat.le_antisymm high low
    exact ⟨⟨Nat.le_refl _, free⟩, fun _ other => other.1⟩
  | succ tries ih =>
    obtain ⟨number, low, high, free⟩ := free
    rw [firstFree]
    split
    · rename_i taken
      have taken : autoName start ∈ graph.names := isSome_find?_iff.mp taken
      have beyond {other : Nat} (low : start ≤ other) (free : autoName other ∉ graph.names) :
          start + 1 ≤ other :=
        Nat.lt_of_le_of_ne low fun same => free (same ▸ taken)
      obtain ⟨⟨low', free'⟩, least⟩ := ih ⟨number, beyond low free, by omega, free⟩
      exact ⟨⟨by omega, free'⟩, fun other ⟨low, free⟩ => least ⟨beyond low free, free⟩⟩
    · rename_i untaken
      have free : autoName start ∉ graph.names := fun taken => untaken (isSome_find?_iff.mpr taken)
      exact ⟨⟨Nat.le_refl _, free⟩, fun _ other => other.1⟩

/-- **The search for a free generated name ends at the least free number**,
and allowing more tries than there are filters makes no difference. -/
theorem isLeast_firstFree (graph : FilterGraph) (start : Nat) {tries : Nat}
    (enough : graph.nodes.length ≤ tries) :
    IsLeast {number | start ≤ number ∧ autoName number ∉ graph.names}
      (graph.firstFree tries start) := by
  obtain ⟨number, low, high, free⟩ := graph.exists_free start
  exact isLeast_firstFree_of_free ⟨number, low, by omega, free⟩

/-! ## Building -/

/-- Something done to build a graph. -/
inductive Edit where
  /-- A filter is added under a name. -/
  | add (name : String) (code : Option CodeRef)
  /-- A filter is added under a generated name. -/
  | addAuto (code : Option CodeRef)
  /-- Two filters are linked, by numbers that may or may not be those of filters. -/
  | link (source sink : Nat)

/-- What comes of an edit: the number of the new filter, if there is one, and
the graph afterwards, or the reason why the edit is refused. -/
def attempt (graph : FilterGraph) : Edit → Except Fault (Option Nat × FilterGraph)
  | .add name code =>
    match graph.add name code with
    | .ok (number, grown) => .ok (some number, grown)
    | .error fault => .error fault
  | .addAuto code => .ok (some (graph.addAuto code).1, (graph.addAuto code).2)
  | .link source sink =>
    match graph.link source sink with
    | .ok linked => .ok (none, linked)
    | .error problem => .error problem.toFault

/-- The graph after an edit; after a refused one it is the same graph. -/
def edit (graph : FilterGraph) (change : Edit) : FilterGraph :=
  match graph.attempt change with
  | .ok (_, after) => after
  | .error _ => graph

/-- The graph after some edits of a new one. -/
def built (edits : List Edit) : FilterGraph := edits.foldl edit .empty

theorem built_concat (edits : List Edit) (change : Edit) :
    built (edits ++ [change]) = (built edits).edit change := by
  rw [built, List.foldl_append]
  rfl

/-- The numbers that filters are given in the course of some edits. -/
def numbersGiven (graph : FilterGraph) : List Edit → List Nat
  | [] => []
  | change :: rest =>
    match graph.attempt change with
    | .ok (number, after) => number.toList ++ after.numbersGiven rest
    | .error _ => graph.numbersGiven rest

/-- What an edit that is not refused does to a graph. -/
inductive Grows (graph : FilterGraph) : Option Nat → FilterGraph → Prop where
  /-- It adds a filter under a name that was free. -/
  | append (name : String) (code : Option CodeRef) (nextAuto : Nat) (free : name ∉ graph.names) :
      Grows graph (some graph.nodes.length) { graph.append name code with nextAuto }
  /-- It links two filters of which the first cannot be reached from the second. -/
  | link (source sink : Nat) (hasSource : source < graph.nodes.length)
      (hasSink : sink < graph.nodes.length) (apart : graph.reaches sink source = false) :
      Grows graph none { graph with links := graph.links ++ [{ source, sink }] }

theorem add_of_taken {name : String} (taken : name ∈ graph.names) (code : Option CodeRef) :
    graph.add name code = .error (.duplicateFilter name) :=
  if_pos (isSome_find?_iff.mpr taken)

theorem add_of_free {name : String} (free : name ∉ graph.names) (code : Option CodeRef) :
    graph.add name code = .ok (graph.nodes.length, graph.append name code) :=
  if_neg fun taken => free (isSome_find?_iff.mp taken)

/-- An edit that is not refused makes the graph grow. -/
theorem grows_of_attempt {change : Edit} {number : Option Nat} {after : FilterGraph}
    (done : graph.attempt change = .ok (number, after)) : graph.Grows number after := by
  cases change with
  | add name code =>
    by_cases taken : name ∈ graph.names
    · rw [attempt, add_of_taken taken] at done
      cases done
    · rw [attempt, add_of_free taken] at done
      cases done
      exact .append name code graph.nextAuto taken
  | addAuto code =>
    cases done
    exact .append _ code _ (graph.isLeast_firstFree graph.nextAuto (Nat.le_refl _)).1.2
  | link source sink =>
    simp only [attempt, FilterGraph.link] at done
    by_cases hasSource : graph.nodes.length ≤ source
    · simp [hasSource] at done
    · by_cases hasSink : graph.nodes.length ≤ sink
      · simp [hasSource, hasSink] at done
      · by_cases reached : graph.reaches sink source
        · simp [hasSource, hasSink, reached] at done
        · simp only [if_neg hasSource, if_neg hasSink, if_neg reached] at done
          cases done
          exact .link source sink (Nat.lt_of_not_le hasSource) (Nat.lt_of_not_le hasSink)
            (Bool.of_not_eq_true reached)

/-- What growing keeps, edits keep. -/
theorem foldl_edit_induction {motive : FilterGraph → Prop}
    (grows : ∀ {graph number after}, motive graph → Grows graph number after → motive after)
    (edits : List Edit) (first : motive graph) : motive (edits.foldl edit graph) := by
  induction edits generalizing graph with
  | nil => exact first
  | cons change rest ih =>
    refine ih ?_
    unfold edit
    split
    · rename_i done
      exact grows first (grows_of_attempt done)
    · exact first

/-- **Induction over the graphs that can be built**: what a new graph has and
growing keeps. -/
theorem built_induction {motive : FilterGraph → Prop} (new : motive .empty)
    (grows : ∀ {graph number after}, motive graph → Grows graph number after → motive after)
    (edits : List Edit) : motive (built edits) :=
  foldl_edit_induction grows edits new

/-- Names stay distinct. -/
theorem Grows.distinct {number : Option Nat} {after : FilterGraph}
    (grows : graph.Grows number after) (distinct : graph.names.Nodup) : after.names.Nodup := by
  cases grows with
  | append name code nextAuto free =>
    change (graph.append name code).names.Nodup
    rw [names_append]
    exact List.nodup_append.mpr ⟨distinct, List.nodup_singleton name,
      fun old member new same => by rintro rfl; exact free (List.mem_singleton.mp same ▸ member)⟩
  | link => exact distinct

/-- The names of a graph that was built are distinct. -/
theorem distinct_built (edits : List Edit) : (built edits).names.Nodup :=
  built_induction .nil (fun distinct grows => grows.distinct distinct) edits

/-- Numbers are given out in order. -/
theorem range_append_numbersGiven (edits : List Edit) (graph : FilterGraph) :
    List.range graph.nodes.length ++ graph.numbersGiven edits =
      List.range (edits.foldl edit graph).nodes.length := by
  induction edits generalizing graph with
  | nil => simp [numbersGiven]
  | cons change rest ih =>
    rw [List.foldl_cons, numbersGiven, edit]
    split
    · rename_i number after done
      rw [← ih, ← List.append_assoc]
      congr 1
      cases grows_of_attempt done with
      | append name code => simp [append, List.range_succ]
      | link => simp
    · exact ih graph

/-! ## A map kept beside the graph -/

/-- The map from names to numbers that comes of filing every filter under its
name as it is added, in place of what is filed there. -/
def index (graph : FilterGraph) : OrderedMap String Nat :=
  graph.names.zipIdx.foldl (fun map entry => map.insert entry.1 entry.2) .empty

theorem index_of_names_append {after : FilterGraph} {name : String}
    (names : after.names = graph.names ++ [name]) :
    after.index = graph.index.insert name graph.nodes.length := by
  rw [index, names, List.zipIdx_append, List.foldl_append]
  simp [index, FilterGraph.names]

/-- Filing a filter that is added under a free name keeps the map right. -/
theorem Grows.find?_index {number : Option Nat} {after : FilterGraph}
    (grows : graph.Grows number after) (right : ∀ name, graph.index.find? name = graph.find? name)
    (name : String) : after.index.find? name = after.find? name := by
  cases grows with
  | append new code nextAuto free =>
    have names : { graph.append new code with nextAuto }.names = graph.names ++ [new] :=
      graph.names_append new code
    have absent : graph.find? new = none :=
      Option.not_isSome_iff_eq_none.mp fun taken => free (isSome_find?_iff.mp taken)
    rw [index_of_names_append names, find?_eq_findIdx?, names, List.findIdx?_append,
      ← find?_eq_findIdx?]
    by_cases same : new = name
    · subst same
      rw [OrderedMap.find?_insert_self, absent]
      simp [FilterGraph.names]
    · rw [OrderedMap.find?_insert_of_ne _ same, right]
      simp [same]
  | link => exact right name

/-- The map kept beside a graph that was built says what the graph says. -/
theorem find?_index (edits : List Edit) (name : String) :
    (built edits).index.find? name = (built edits).find? name :=
  built_induction (motive := fun graph => ∀ name, graph.index.find? name = graph.find? name)
    (fun _ => rfl) (fun right grows => grows.find?_index right) edits name

/-! ## What building comes to -/

/-- **Filters and their names.**  However a graph is built, its filters have
the numbers from zero on in the order in which they were added, and their
names are distinct, so the number of a name is the number of the filter that
has it, both in the graph and in the map kept beside it.  A name that is taken
is refused, which changes nothing, and one that is free is given to the next
number.  A generated name is that of the least number, from the counter on,
whose name is free; the search ends there after at most as many tries as there
are filters, so it never fails. -/
theorem filters_named_once (edits : List Edit) :
    (built edits).slots.map (·.index) = List.range (built edits).nodes.length ∧
    empty.numbersGiven edits = List.range (built edits).nodes.length ∧
    (built edits).names.Nodup ∧
    (∀ name index, (built edits).find? name = some index ↔
      ((built edits).slot? index).map (·.name) = some name) ∧
    (∀ name, (built edits).index.find? name = (built edits).find? name) ∧
    (∀ name code, name ∈ (built edits).names →
      (built edits).attempt (.add name code) = .error (.duplicateFilter name) ∧
      built (edits ++ [.add name code]) = built edits) ∧
    (∀ name code, name ∉ (built edits).names →
      (built edits).attempt (.add name code) =
        .ok (some (built edits).nodes.length, (built edits).append name code) ∧
      built (edits ++ [.add name code]) = (built edits).append name code ∧
      (built (edits ++ [.add name code])).index =
        (built edits).index.insert name (built edits).nodes.length) ∧
    (∀ code, ∃ number,
      IsLeast {number | (built edits).nextAuto ≤ number ∧ autoName number ∉ (built edits).names}
        number ∧
      number ≤ (built edits).nextAuto + (built edits).nodes.length ∧
      (∀ tries, (built edits).nodes.length ≤ tries →
        (built edits).firstFree tries (built edits).nextAuto = number) ∧
      (built edits).attempt (.addAuto code) =
        .ok (some (built edits).nodes.length,
          { (built edits).append (autoName number) code with nextAuto := number + 1 }) ∧
      built (edits ++ [.addAuto code]) =
        { (built edits).append (autoName number) code with nextAuto := number + 1 } ∧
      (built (edits ++ [.addAuto code])).index =
        (built edits).index.insert (autoName number) (built edits).nodes.length) := by
  have distinct := distinct_built edits
  refine ⟨?_, ?_, distinct, fun name index => ?_, find?_index edits, fun name code taken => ?_,
    fun name code free => ?_, fun code => ?_⟩
  · rw [index_slots, slots_eq, List.length_mapIdx, List.range_eq_range']
  · exact range_append_numbersGiven edits .empty
  · rw [map_name_slot?, find?_eq_some_iff distinct]
  · rw [built_concat, edit, attempt, add_of_taken taken]
    exact ⟨rfl, rfl⟩
  · rw [built_concat, edit, attempt, add_of_free free]
    exact ⟨rfl, rfl, index_of_names_append (names_append _ name code)⟩
  · have least {tries : Nat} (enough : (built edits).nodes.length ≤ tries) :=
      (built edits).isLeast_firstFree (built edits).nextAuto enough
    obtain ⟨number, low, high, free⟩ := (built edits).exists_free (built edits).nextAuto
    refine ⟨_, least (Nat.le_refl _), ?_, fun tries enough => ?_, rfl, built_concat _ _, ?_⟩
    · exact Nat.le_trans ((least (Nat.le_refl _)).2 ⟨low, free⟩) high
    · exact (least enough).unique (least (Nat.le_refl _))
    · rw [built_concat]
      exact index_of_names_append (names_append _ _ code)

/-- A taken generated name is passed over. -/
example : (built [.add "filter_0" none, .addAuto none]).names = ["filter_0", "filter_1"] := by
  decide +kernel

end FilterGraph

end StreamControl
