import Mathlib.Data.String.Basic
import StreamControl.ControllerName

/-!
# What a controller is called

The two rules for names are stated here once more, from the outside, and the
definitions are proved to follow them.

`IsStem` and `IsPart` say what a path without its suffix is and which
components of it make a name, without saying how either is computed; each has
exactly one solution.  `derive_spells` is the rule for derived names: they are
the part after the last `controllers` directory, but for one kind of path.  A
path whose last component is itself called `controllers` is not shortened at
all, also where an earlier `controllers` directory could be cut off.

`resolve_decides` is the rule for choosing a name.  A derived name is numbered
when it is taken, and only the first free candidate is held against the limit;
`utf8ByteSize_numbered_mono` says why nothing is missed by that.
-/

set_option autoImplicit false

namespace StreamControl.ControllerName

/-! ## Paths without their suffix -/

/-- `before` is what is left of a path when a module suffix is cut off. -/
def Cuts (path before : List Char) : Prop :=
  ∃ suffix ∈ moduleSuffixes, path = before ++ suffix

/-- What can name a module: it is not empty, and not the end of a directory. -/
def Names (before : List Char) : Prop :=
  before ≠ [] ∧ ¬['/'] <:+ before

/-- A path without its module suffix; the whole path if there is none or if
what is left could not name a module. -/
def IsStem (path left : List Char) : Prop :=
  (Cuts path left ∧ Names left) ∨ ((∀ before, Cuts path before → ¬Names before) ∧ left = path)

theorem beforeSuffix?_eq_some_iff {path suffix before : List Char} :
    beforeSuffix? path suffix = some before ↔ path = before ++ suffix := by
  rw [beforeSuffix?]
  constructor
  · intro found
    split at found
    · rename_i ends
      obtain ⟨start, rfl⟩ := List.isSuffixOf_iff_suffix.mp ends
      simp at found
      rw [found]
    · cases found
  · rintro rfl
    rw [if_pos (List.isSuffixOf_iff_suffix.mpr (List.suffix_append before suffix))]
    simp

/-- No module suffix is the end of another, so a path has one at most. -/
theorem suffix_unique {path : List Char} {first second : List Char}
    (listed : first ∈ moduleSuffixes) (listed' : second ∈ moduleSuffixes)
    (ends : first <:+ path) (ends' : second <:+ path) : first = second := by
  have long : ∀ suffix ∈ moduleSuffixes, suffix.length = 3 := by decide
  rcases List.suffix_or_suffix_of_suffix ends ends' with within | within
  · exact within.eq_of_length ((long _ listed).trans (long _ listed').symm)
  · exact (within.eq_of_length ((long _ listed').trans (long _ listed).symm)).symm

theorem Cuts.unique {path before before' : List Char} (cuts : Cuts path before)
    (cuts' : Cuts path before') : before' = before := by
  obtain ⟨suffix, listed, split⟩ := cuts
  obtain ⟨suffix', listed', split'⟩ := cuts'
  have same : suffix = suffix' :=
    suffix_unique listed listed' ⟨before, split.symm⟩ ⟨before', split'.symm⟩
  subst same
  exact List.append_cancel_right (split'.symm.trans split)

/-- Which text is left when the first suffix that fits is cut off. -/
theorem findSome?_beforeSuffix?_eq_some_iff {path before : List Char} :
    moduleSuffixes.findSome? (beforeSuffix? path) = some before ↔ Cuts path before := by
  constructor
  · intro found
    obtain ⟨suffix, listed, cut⟩ := List.exists_of_findSome?_eq_some found
    exact ⟨suffix, listed, beforeSuffix?_eq_some_iff.mp cut⟩
  · rintro ⟨suffix, listed, split⟩
    cases found : moduleSuffixes.findSome? (beforeSuffix? path) with
    | none =>
      have none_of := List.findSome?_eq_none_iff.mp found suffix listed
      rw [beforeSuffix?_eq_some_iff.mpr split] at none_of
      cases none_of
    | some other =>
      obtain ⟨suffix', listed', cut⟩ := List.exists_of_findSome?_eq_some found
      exact congrArg some
        (Cuts.unique ⟨suffix, listed, split⟩ ⟨suffix', listed', beforeSuffix?_eq_some_iff.mp cut⟩)

theorem not_names_iff {before : List Char} :
    ¬Names before ↔ before = [] ∨ before.getLast? = some '/' := by
  rw [Names, List.singleton_suffix_iff_getLast?_eq_some]
  tauto

/-- `stem` finds the path without its suffix. -/
theorem isStem_iff {path left : List Char} : IsStem path left ↔ left = stem path := by
  cases found : moduleSuffixes.findSome? (beforeSuffix? path) with
  | none =>
    have uncut (before : List Char) : ¬Cuts path before := fun cuts => by
      rw [findSome?_beforeSuffix?_eq_some_iff.mpr cuts] at found
      cases found
    have whole : stem path = path := by rw [stem, found]
    rw [whole]
    exact ⟨fun is => is.elim (fun both => (uncut _ both.1).elim) And.right,
      fun same => .inr ⟨fun before cuts => (uncut _ cuts).elim, same⟩⟩
  | some before =>
    have cuts := findSome?_beforeSuffix?_eq_some_iff.mp found
    by_cases names : Names before
    · have cut : stem path = before := by
        simp only [stem, found]
        exact if_neg fun bad => not_names_iff.mpr bad names
      rw [cut]
      constructor
      · rintro (⟨cuts', -⟩ | ⟨nameless, -⟩)
        · exact cuts.unique cuts'
        · exact (nameless before cuts names).elim
      · rintro rfl
        exact .inl ⟨cuts, names⟩
    · have whole : stem path = path := by
        simp only [stem, found]
        exact if_pos (not_names_iff.mp names)
      rw [whole]
      constructor
      · rintro (⟨cuts', names'⟩ | ⟨-, same⟩)
        · exact (names (cuts.unique cuts' ▸ names')).elim
        · exact same
      · rintro rfl
        exact .inr ⟨fun other cuts' => cuts.unique cuts' ▸ names, rfl⟩

/-! ## Components -/

theorem modifyHead_nil_append (texts : List (List Char)) :
    texts.modifyHead (fun text => [] ++ text) = texts := by
  cases texts <;> rfl

theorem pieces_eq (word path : List Char) :
    pieces word path = (path.splitOn '/').modifyHead (word ++ ·) := by
  induction path generalizing word with
  | nil => simp [pieces]
  | cons c rest ih =>
    rw [pieces, List.splitOn_cons_eq_if_modifyHead]
    by_cases slash : c = '/'
    · rw [if_pos slash, ih, modifyHead_nil_append, if_pos (beq_iff_eq.mpr slash),
        List.modifyHead_cons, List.append_nil]
    · have joined : (fun piece : List Char => (word ++ [c]) ++ piece) =
          (fun piece => word ++ piece) ∘ List.cons c := by
        funext piece
        simp
      rw [if_neg slash, ih, if_neg (fun same => slash (beq_iff_eq.mp same)),
        List.modifyHead_modifyHead, joined]

/-- The components of a path are what its slashes set apart, without the
empty ones. -/
theorem components_eq (path : List Char) :
    components path = (path.splitOn '/').filter (· ≠ []) := by
  rw [components, pieces_eq, modifyHead_nil_append]

/-! ## The part that makes the name -/

/-- Which components make a name: those after the last `controllers` that has
a component after it, or all of them if there is none. -/
def IsPart (parts part : List (List Char)) : Prop :=
  (∃ before, parts = before ++ directory :: part ∧ part ≠ [] ∧ directory ∉ part.dropLast) ∨
    (directory ∉ parts.dropLast ∧ part = parts)

theorem afterLast?_eq_none {mark : List Char} {parts : List (List Char)} (never : mark ∉ parts) :
    afterLast? mark parts = none := by
  induction parts with
  | nil => rfl
  | cons first rest ih =>
    have other : first ≠ mark := fun same => never (same ▸ List.mem_cons_self)
    rw [afterLast?, ih fun later => never (List.mem_cons_of_mem first later)]
    exact if_neg other

theorem afterLast?_append_cons {mark : List Char} (before : List (List Char))
    {part : List (List Char)} (last : mark ∉ part) :
    afterLast? mark (before ++ mark :: part) = some part := by
  induction before with
  | nil => simp [afterLast?, afterLast?_eq_none last]
  | cons first before ih => rw [List.cons_append, afterLast?, ih]

/-- A list that has a mark has a last one. -/
theorem exists_last {mark : List Char} {parts : List (List Char)} (has : mark ∈ parts) :
    ∃ before part, parts = before ++ mark :: part ∧ mark ∉ part := by
  obtain ⟨after, before, split, last⟩ :=
    List.eq_append_cons_of_mem (List.mem_reverse.mpr has)
  refine ⟨before.reverse, after.reverse, ?_, fun later => last (List.mem_reverse.mp later)⟩
  rw [← List.reverse_reverse parts, split]
  simp

/-- What is found does follow a mark. -/
theorem exists_of_afterLast? {mark : List Char} {parts part : List (List Char)}
    (found : afterLast? mark parts = some part) : ∃ before, parts = before ++ mark :: part := by
  by_cases has : mark ∈ parts
  · obtain ⟨before, part', split, last⟩ := exists_last has
    rw [split, afterLast?_append_cons before last] at found
    exact ⟨before, Option.some.inj found ▸ split⟩
  · rw [afterLast?_eq_none has] at found
    cases found

theorem exists_isPart (parts : List (List Char)) : ∃ part, IsPart parts part := by
  by_cases has : directory ∈ parts.dropLast
  · obtain ⟨before, part, split, last⟩ := exists_last has
    have filled : parts ≠ [] := fun empty => by simp [empty] at has
    refine ⟨part ++ [parts.getLast filled], .inl ⟨before, ?_, by simp, by simpa using last⟩⟩
    rw [← List.cons_append, ← List.append_assoc, ← split, List.dropLast_append_getLast]
  · exact ⟨parts, .inr ⟨has, rfl⟩⟩

theorem dropLast_split {parts part before : List (List Char)}
    (split : parts = before ++ directory :: part) (filled : part ≠ []) :
    parts.dropLast = before ++ directory :: part.dropLast := by
  rw [split, List.dropLast_append_of_ne_nil (List.cons_ne_nil _ _),
    List.dropLast_cons_of_ne_nil filled]

theorem IsPart.unique {parts part part' : List (List Char)} (is : IsPart parts part)
    (is' : IsPart parts part') : part' = part := by
  obtain ⟨before, split, filled, last⟩ | ⟨never, rfl⟩ := is <;>
    obtain ⟨before', split', filled', last'⟩ | ⟨never', rfl⟩ := is'
  · -- Both begin after the last `controllers` among all components but the last.
    have same : some part.dropLast = some part'.dropLast := by
      rw [← afterLast?_append_cons before last, ← afterLast?_append_cons before' last',
        ← dropLast_split split filled, ← dropLast_split split' filled']
    have ending : some (part.getLast filled) = some (part'.getLast filled') := by
      rw [← List.getLast?_eq_some_getLast, ← List.getLast?_eq_some_getLast,
        ← List.getLast?_cons_of_ne_nil filled, ← List.getLast?_cons_of_ne_nil filled',
        ← List.getLast?_append_of_ne_nil before (List.cons_ne_nil _ _),
        ← List.getLast?_append_of_ne_nil before' (List.cons_ne_nil _ _), ← split, ← split']
    rw [← List.dropLast_append_getLast filled, ← List.dropLast_append_getLast filled',
      Option.some.inj same, Option.some.inj ending]
  · exact (never' (dropLast_split split filled ▸ List.mem_append_cons_self)).elim
  · exact (never (dropLast_split split' filled' ▸ List.mem_append_cons_self)).elim
  · rfl

/-- The components that make a name, when the last of all is not `controllers`,
are the part; when it is, they are all. -/
theorem nameComponents_eq {parts part : List (List Char)} (is : IsPart parts part) :
    nameComponents parts = if parts.getLast? = some directory then parts else part := by
  obtain ⟨before, split, filled, last⟩ | ⟨never, rfl⟩ := is
  · have ending : parts.getLast? = part.getLast? := by
      rw [split, List.getLast?_append_of_ne_nil _ (List.cons_ne_nil _ _),
        List.getLast?_cons_of_ne_nil filled]
    by_cases ends : parts.getLast? = some directory
    · have shape : part.dropLast ++ [directory] = part :=
        List.dropLast_append_getLast? _ (ending ▸ ends)
      rw [if_pos ends, nameComponents, split, ← shape, ← List.cons_append, ← List.append_assoc,
        afterLast?_append_cons _ List.not_mem_nil]
    · have elsewhere : directory ∉ part := fun within =>
        last (List.mem_dropLast_of_mem_of_ne_getLast? within fun same => ends (ending ▸ same.symm))
      obtain ⟨first, rest, rfl⟩ := List.exists_cons_of_ne_nil filled
      rw [if_neg ends, nameComponents, split, afterLast?_append_cons before elsewhere]
  · rw [ite_self, nameComponents]
    split
    · rename_i first rest found
      obtain ⟨before, split⟩ := exists_of_afterLast? found
      exact (never (dropLast_split split (List.cons_ne_nil _ _) ▸ List.mem_append_cons_self)).elim
    · rfl

/-! ## Deriving a name -/

/-- The name that components make. -/
def joined (parts : List (List Char)) : String :=
  "/".intercalate (parts.map String.ofList)

theorem toList_joined (parts : List (List Char)) :
    (joined parts).toList = ['/'].intercalate parts := by
  rw [joined, String.toList_intercalate]
  simp

theorem derive_eq (path : String) :
    derive path = joined (nameComponents (components (stem path.toList))) := by
  rw [← String.toList_inj, derive, toList_joined, String.toList_ofList]

theorem length_intercalate_lt (before : List (List Char)) (first : List Char)
    {part : List (List Char)} (filled : part ≠ []) :
    (['/'].intercalate part).length < (['/'].intercalate (before ++ first :: part)).length := by
  induction before with
  | nil =>
    rw [List.nil_append, List.intercalate_cons_of_ne_nil filled]
    simp only [List.length_append, List.length_singleton]
    omega
  | cons head before ih =>
    rw [List.cons_append, List.intercalate_cons_of_ne_nil (by simp)]
    simp only [List.length_append, List.length_singleton]
    omega

/-- A part that begins after a directory does not make the name that all components make. -/
theorem joined_ne {parts part before : List (List Char)}
    (split : parts = before ++ directory :: part) (filled : part ≠ []) :
    joined parts ≠ joined part := by
  intro same
  have shorter := length_intercalate_lt before directory filled
  rw [← split, ← toList_joined, ← toList_joined, same] at shorter
  exact Nat.lt_irrefl _ shorter

/-- The rule for derived names.  A path has one stem, its components have one part
that should make the name, and they do make it, unless the last component is
`controllers`: then all of them make it, which is another name as soon as an
earlier component is `controllers` too. -/
theorem derive_spells (path : String) :
    ∃ left parts part,
      (∀ other, IsStem path.toList other ↔ other = left) ∧
      parts = (left.splitOn '/').filter (· ≠ []) ∧
      (∀ other, IsPart parts other ↔ other = part) ∧
      derive path = joined (if parts.getLast? = some directory then parts else part) ∧
      (derive path = joined part ↔
        ¬(parts.getLast? = some directory ∧ directory ∈ parts.dropLast)) := by
  obtain ⟨part, is⟩ := exists_isPart (components (stem path.toList))
  refine ⟨stem path.toList, components (stem path.toList), part, fun other => isStem_iff,
    components_eq _, fun other => ⟨is.unique, fun same => same ▸ is⟩, ?_, ?_⟩
  · rw [derive_eq, nameComponents_eq is]
  · rw [derive_eq, nameComponents_eq is]
    by_cases ends : (components (stem path.toList)).getLast? = some directory
    · rw [if_pos ends]
      obtain ⟨before, split, filled, -⟩ | ⟨never, same⟩ := is
      · have earlier : directory ∈ (components (stem path.toList)).dropLast :=
          dropLast_split split filled ▸ List.mem_append_cons_self
        exact ⟨fun same => (joined_ne split filled same).elim,
          fun apart => (apart ⟨ends, earlier⟩).elim⟩
      · exact ⟨fun _ both => never both.2, fun _ => congrArg joined same.symm⟩
    · rw [if_neg ends]
      exact ⟨fun _ both => ends both.1, fun _ => rfl⟩

/-- A module that is called `controllers` and lies in such a directory keeps both in its name. -/
example : derive "controllers/controllers.so" = "controllers/controllers" := by decide

/-! ## Candidates for a derived name -/

/-- The names that can be chosen for a module, best first: the derived one, then that with a
number, from two on. -/
def candidates (base : String) : List String :=
  base :: (List.range' 2 10000).map fun number => base ++ "-" ++ toString number

theorem candidates_eq (base : String) : candidates base = base :: alternatives base := rfl

theorem utf8Len_of_isDigit {digits : List Char} (digital : ∀ digit ∈ digits, digit.isDigit) :
    String.utf8Len digits = digits.length := by
  induction digits with
  | nil => rfl
  | cons digit digits ih =>
    have small : digit.utf8Size = 1 := by
      have within := digital digit List.mem_cons_self
      simp only [Char.isDigit, Bool.and_eq_true, decide_eq_true_eq] at within
      exact Char.utf8Size_eq_one_iff.mpr
        (UInt32.le_trans within.2 (by decide : (57 : UInt32) ≤ 127))
    have rest := ih fun other among => digital other (List.mem_cons_of_mem _ among)
    rw [String.utf8Len_cons, small, rest, List.length_cons]

theorem utf8ByteSize_toString (number : Nat) :
    (toString number).utf8ByteSize = (Nat.toDigits 10 number).length := by
  rw [Nat.toString_eq_ofList_toDigits, String.utf8ByteSize_ofList]
  exact utf8Len_of_isDigit fun digit => Nat.isDigit_of_mem_toDigits (by decide) (by decide)

/-- A greater number is not written shorter. -/
theorem length_toDigits_mono {first second : Nat} (le : first ≤ second) :
    (Nat.toDigits 10 first).length ≤ (Nat.toDigits 10 second).length := by
  have bounded : second < 10 ^ (Nat.toDigits 10 second).length :=
    (Nat.length_toDigits_le_iff (by decide) Nat.length_toDigits_pos).mp le_rfl
  exact (Nat.length_toDigits_le_iff (by decide) Nat.length_toDigits_pos).mpr
    (Nat.lt_of_le_of_lt le bounded)

theorem utf8ByteSize_numbered (base : String) (number : Nat) :
    (numbered base number).utf8ByteSize =
      base.utf8ByteSize + 1 + (Nat.toDigits 10 number).length := by
  rw [numbered, String.utf8ByteSize_append, String.utf8ByteSize_append, utf8ByteSize_toString]
  rfl

theorem utf8ByteSize_numbered_mono (base : String) {first second : Nat} (le : first ≤ second) :
    (numbered base first).utf8ByteSize ≤ (numbered base second).utf8ByteSize := by
  rw [utf8ByteSize_numbered, utf8ByteSize_numbered]
  exact Nat.add_le_add_left (length_toDigits_mono le) _

/-- No candidate is shorter than one before it. -/
theorem pairwise_candidates (base : String) :
    (candidates base).Pairwise fun first second => first.utf8ByteSize ≤ second.utf8ByteSize := by
  rw [candidates_eq, alternatives, List.pairwise_cons]
  constructor
  · intro name among
    obtain ⟨number, -, rfl⟩ := List.mem_map.mp among
    rw [utf8ByteSize_numbered]
    omega
  · exact List.pairwise_map.mpr ((List.pairwise_le_range').imp (utf8ByteSize_numbered_mono base))

theorem le_of_mem_candidates {base name : String} (among : name ∈ candidates base) :
    base.utf8ByteSize ≤ name.utf8ByteSize := by
  rcases List.mem_cons.mp among with rfl | later
  · exact le_rfl
  · exact (List.pairwise_cons.mp (pairwise_candidates base)).1 name later

/-- The first free candidate is a shortest one of those that are free. -/
theorem le_of_find?_candidates {base name other : String} {taken : String → Bool}
    (found : (candidates base).find? (fun name => !taken name) = some name)
    (among : other ∈ candidates base) (free : taken other = false) :
    name.utf8ByteSize ≤ other.utf8ByteSize := by
  obtain ⟨-, before, after, split, used⟩ := List.find?_eq_some_iff_append.mp found
  have sorted := pairwise_candidates base
  rw [split] at among sorted
  rcases List.mem_append.mp among with early | late
  · have := used other early
    simp [free] at this
  · rcases List.mem_cons.mp late with rfl | late
    · exact le_rfl
    · exact (List.pairwise_cons.mp (List.pairwise_append.mp sorted).2.1).1 other late

/-! ## Choosing a name -/

/-- A name that is free and not too long. -/
def Usable (limit : Nat) (taken : String → Bool) (name : String) : Prop :=
  taken name = false ∧ name.utf8ByteSize ≤ limit

instance (limit : Nat) (taken : String → Bool) (name : String) :
    Decidable (Usable limit taken name) :=
  inferInstanceAs (Decidable (_ ∧ _))

theorem checkLength_eq_ok_iff {limit : Nat} {name other : String} :
    checkLength limit name = .ok other ↔ name = other ∧ name.utf8ByteSize ≤ limit := by
  rw [checkLength]
  split <;> simp <;> omega

theorem checkLength_of_le {limit : Nat} {name : String} (fits : name.utf8ByteSize ≤ limit) :
    checkLength limit name = .ok name := if_neg (Nat.not_lt.mpr fits)

theorem checkLength_of_lt {limit : Nat} {name : String} (long : limit < name.utf8ByteSize) :
    checkLength limit name = .error (.nameTooLong name limit) := if_pos long

/-- What becomes of a name that was asked for. -/
structure Asked (limit : Nat) (taken : String → Bool) (name : String)
    (outcome : Except Fault String) : Prop where
  /-- It is granted exactly if it can be used. -/
  granted : outcome = .ok name ↔ Usable limit taken name
  /-- No other name is given in its place. -/
  unchanged : ∀ other, outcome = .ok other → other = name
  /-- It is refused as taken, also if it is too long. -/
  used : taken name = true → outcome = .error (.controllerExists name)
  /-- A free one is refused as too long. -/
  long : taken name = false → limit < name.utf8ByteSize →
    outcome = .error (.nameTooLong name limit)

/-- What becomes of a name that is derived. -/
structure Derived (limit : Nat) (taken : String → Bool) (base : String)
    (outcome : Except Fault String) : Prop where
  /-- There is a name exactly if some candidate can be used. -/
  granted : (∃ name, outcome = .ok name) ↔ ∃ name ∈ candidates base, Usable limit taken name
  /-- It is the first candidate that is free. -/
  first : ∀ name, outcome = .ok name →
    (candidates base).find? (fun name => !taken name) = some name
  /-- A name that is too long as it is derived is refused as such, whatever is free. -/
  baseLong : limit < base.utf8ByteSize → outcome = .error (.nameTooLong base limit)
  /-- So is the first free candidate. -/
  firstLong : ∀ name, base.utf8ByteSize ≤ limit →
    (candidates base).find? (fun name => !taken name) = some name →
    limit < name.utf8ByteSize → outcome = .error (.nameTooLong name limit)
  /-- If none is free, this is what is said, unless the first was too long. -/
  exhausted : base.utf8ByteSize ≤ limit → (∀ name ∈ candidates base, taken name = true) →
    outcome = .error (.nameExhausted base)

theorem resolve_asked {path name : String} (limit : Nat) (taken : String → Bool)
    (given : name ≠ "") :
    resolve path (some name) limit taken =
      if taken name then .error (.controllerExists name) else checkLength limit name := by
  rw [resolve, Option.filter_some_pos (by simpa using given)]

/-- Without a name that was asked for, all hangs on the first free candidate. -/
theorem resolve_derived {path : String} {requested : Option String} (limit : Nat)
    (taken : String → Bool) (none_given : requested = none ∨ requested = some "") :
    resolve path requested limit taken =
      if limit < (derive path).utf8ByteSize then .error (.nameTooLong (derive path) limit)
      else match (candidates (derive path)).find? (fun name => !taken name) with
        | some name => checkLength limit name
        | none => .error (.nameExhausted (derive path)) := by
  have nothing : requested.filter (fun name => name ≠ "") = none := by
    rcases none_given with rfl | rfl <;> rfl
  rw [resolve, nothing, candidates_eq, List.find?_cons]
  by_cases long : limit < (derive path).utf8ByteSize
  · have refused := checkLength_of_lt long
    simp only [if_pos long, refused, bind, Except.bind]
  · rw [if_neg long, checkLength_of_le (Nat.not_lt.mp long)]
    cases used : taken (derive path) with
    | true =>
      cases found : (alternatives (derive path)).find? (fun name => !taken name) <;>
        simp [bind, Except.bind, used, found]
    | false => simp [bind, Except.bind, used, checkLength_of_le (Nat.not_lt.mp long)]

theorem asked (path : String) {name : String} (limit : Nat) (taken : String → Bool)
    (given : name ≠ "") : Asked limit taken name (resolve path (some name) limit taken) := by
  rw [resolve_asked limit taken given]
  cases used : taken name with
  | true => constructor <;> simp [Usable, used]
  | false =>
    rw [if_neg Bool.false_ne_true]
    exact {
      granted := checkLength_eq_ok_iff.trans (by simp [Usable, used])
      unchanged := fun other granted => (checkLength_eq_ok_iff.mp granted).1.symm
      used := fun taken => by simp [used] at taken
      long := fun _ long => checkLength_of_lt long }

theorem derived (path : String) {requested : Option String} (limit : Nat)
    (taken : String → Bool) (none_given : requested = none ∨ requested = some "") :
    Derived limit taken (derive path) (resolve path requested limit taken) := by
  rw [resolve_derived limit taken none_given]
  by_cases long : limit < (derive path).utf8ByteSize
  · rw [if_pos long]
    have useless (name : String) (among : name ∈ candidates (derive path)) :
        ¬Usable limit taken name := fun usable =>
      absurd (le_of_mem_candidates among) (Nat.not_le.mpr (Nat.lt_of_le_of_lt usable.2 long))
    constructor
    · constructor
      · rintro ⟨_, ⟨⟩⟩
      · rintro ⟨name, among, usable⟩
        exact (useless name among usable).elim
    · exact fun _ granted => nomatch granted
    · exact fun _ => rfl
    · exact fun _ fits => absurd fits (Nat.not_le.mpr long)
    · exact fun fits => absurd fits (Nat.not_le.mpr long)
  · rw [if_neg long]
    cases found : (candidates (derive path)).find? (fun name => !taken name) with
    | none =>
      have used (name : String) (among : name ∈ candidates (derive path)) : taken name = true := by
        simpa using List.find?_eq_none.mp found name among
      constructor
      · constructor
        · rintro ⟨_, ⟨⟩⟩
        · rintro ⟨name, among, free, -⟩
          rw [used name among] at free
          cases free
      · exact fun _ granted => nomatch granted
      · exact fun tooLong => absurd tooLong long
      · exact fun _ _ found' => nomatch found.symm.trans found'
      · exact fun _ _ => rfl
    | some name =>
      have among := List.mem_of_find?_eq_some found
      have free : taken name = false := by simpa using List.find?_some found
      constructor
      · simp only [checkLength_eq_ok_iff]
        constructor
        · rintro ⟨_, rfl, fits⟩
          exact ⟨name, among, free, fits⟩
        · rintro ⟨other, among', free', fits⟩
          -- The first free one is no longer than this one.
          exact ⟨name, rfl, le_trans (le_of_find?_candidates found among' free') fits⟩
      · exact fun other granted => found.trans (congrArg some (checkLength_eq_ok_iff.mp granted).1)
      · exact fun tooLong => absurd tooLong long
      · intro other _ found' tooLong
        cases Option.some.inj (found.symm.trans found')
        exact checkLength_of_lt tooLong
      · intro _ used
        rw [used name among] at free
        cases free

/-- The rule for choosing a name.  A name that was asked for is granted or refused; otherwise
the first free candidate is granted, and then it can be used, or none of them can. -/
theorem resolve_decides (path : String) (requested : Option String) (limit : Nat)
    (taken : String → Bool) :
    (∀ name, requested = some name → name ≠ "" →
      Asked limit taken name (resolve path requested limit taken)) ∧
    (requested = none ∨ requested = some "" →
      Derived limit taken (derive path) (resolve path requested limit taken)) ∧
    ∀ name, resolve path requested limit taken = .ok name → Usable limit taken name := by
  refine ⟨?_, derived path limit taken, ?_⟩
  · rintro name rfl given
    exact asked path limit taken given
  · intro name granted
    by_cases none_given : requested = none ∨ requested = some ""
    · have rule := derived path limit taken none_given
      obtain ⟨other, among, usable⟩ := rule.granted.mp ⟨name, granted⟩
      have found := rule.first name granted
      exact ⟨by simpa using List.find?_some found,
        le_trans (le_of_find?_candidates found among usable.1) usable.2⟩
    · obtain ⟨other, rfl⟩ := Option.ne_none_iff_exists'.mp fun none => none_given (.inl none)
      have given : other ≠ "" := fun empty => none_given (.inr (congrArg some empty))
      have rule := asked path limit taken given
      cases rule.unchanged name granted
      exact rule.granted.mp granted

/-- A module whose own name is taken gets the first number, unless that makes the name
too long. -/
theorem resolve_decides_numbered :
    (fun name : String => name == "mon") "mon" = true ∧
      resolve "controllers/mon.so" none 4 (· == "mon") = .error (.nameTooLong "mon-2" 4) ∧
      resolve "controllers/mon.so" none 5 (· == "mon") = .ok "mon-2" := by
  have spelled : derive "controllers/mon.so" = "mon" := by decide
  have found : (candidates "mon").find? (fun name => !(name == "mon")) = some "mon-2" := by rfl
  refine ⟨rfl, ?_, ?_⟩
  · have rule := (resolve_decides "controllers/mon.so" none 4 (· == "mon")).2.1 (.inl rfl)
    rw [spelled] at rule
    exact rule.firstLong "mon-2" (by decide) found (by decide)
  · have rule := (resolve_decides "controllers/mon.so" none 5 (· == "mon")).2.1 (.inl rfl)
    rw [spelled] at rule
    obtain ⟨name, granted⟩ := rule.granted.mpr
      ⟨"mon-2", List.mem_of_find?_eq_some found, by decide⟩
    cases Option.some.inj (found.symm.trans (rule.first name granted))
    exact granted

end StreamControl.ControllerName
