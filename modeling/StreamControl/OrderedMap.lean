/-!
# Ordered maps

Everything a host enumerates by key is enumerated in key order: streams by
number, the filters of a stream and the parameters of a filter by name.  An
`OrderedMap` keeps its entries as a list with strictly increasing keys, so
two maps with the same entries are the same map and the order of a listing
is never a choice.

Lookup compares keys for equality only.  The laws of lookup after a change
(`find?_insert_self`, `find?_insert_of_ne`, `find?_erase_self`,
`find?_erase_of_ne`, `find?_modify_self`, `find?_modify_of_ne`) therefore do
not mention the order; `OrderedMap.ext_find?` says that lookups determine
the map.
-/

set_option autoImplicit false

namespace StreamControl

/-- A finite map, kept as its entries in strictly increasing key order. -/
structure OrderedMap (κ υ : Type) [LT κ] where
  /-- The entries, smallest key first. -/
  entries : List (κ × υ)
  /-- Keys increase from each entry to every later one. -/
  increasing : entries.Pairwise fun a b => a.1 < b.1

namespace OrderedMap

/-! ## Entry lists -/

section EntryLists

variable {κ υ : Type}

/-- The value filed under a key, by comparing keys from the front. -/
def lookIn [DecidableEq κ] (key : κ) : List (κ × υ) → Option υ
  | [] => none
  | (k, v) :: rest => if k = key then some v else lookIn key rest

/-- Files a value under a key, replacing what was there. -/
def insertIn [LT κ] [DecidableLT κ] [DecidableEq κ] (key : κ) (value : υ) :
    List (κ × υ) → List (κ × υ)
  | [] => [(key, value)]
  | (k, v) :: rest =>
    if key < k then (key, value) :: (k, v) :: rest
    else if k = key then (key, value) :: rest
    else (k, v) :: insertIn key value rest

theorem mem_insertIn [LT κ] [DecidableLT κ] [DecidableEq κ] {key : κ} {value : υ} {entry : κ × υ}
    {list : List (κ × υ)} (h : entry ∈ insertIn key value list) :
    entry = (key, value) ∨ entry ∈ list := by
  induction list with
  | nil => simpa [insertIn] using h
  | cons head rest ih =>
    obtain ⟨k, v⟩ := head
    simp only [insertIn] at h
    split at h
    · simpa using h
    · split at h
      · rcases List.mem_cons.mp h with h | h
        · exact .inl h
        · exact .inr (List.mem_cons_of_mem _ h)
      · rcases List.mem_cons.mp h with h | h
        · exact .inr (h ▸ List.mem_cons_self)
        · exact (ih h).imp id (List.mem_cons_of_mem _)

theorem insertIn_increasing [LE κ] [LT κ] [DecidableLT κ] [DecidableEq κ] [Std.IsLinearOrder κ]
    [Std.LawfulOrderLT κ] (key : κ) (value : υ) {list : List (κ × υ)}
    (h : list.Pairwise fun a b => a.1 < b.1) :
    (insertIn key value list).Pairwise fun a b => a.1 < b.1 := by
  induction list with
  | nil => simp [insertIn]
  | cons head rest ih =>
    obtain ⟨k, v⟩ := head
    obtain ⟨hhead, hrest⟩ := List.pairwise_cons.mp h
    simp only [insertIn]
    split
    · rename_i hlt
      refine List.pairwise_cons.mpr ⟨fun entry hentry => ?_, h⟩
      rcases List.mem_cons.mp hentry with rfl | hentry
      · exact hlt
      · exact Std.lt_trans hlt (hhead entry hentry)
    · rename_i hnlt
      split
      · rename_i heq
        subst heq
        exact List.pairwise_cons.mpr ⟨hhead, hrest⟩
      · rename_i hne
        refine List.pairwise_cons.mpr ⟨fun entry hentry => ?_, ih hrest⟩
        rcases mem_insertIn hentry with rfl | hentry
        · rcases Std.lt_trichotomy key k with hlt | heq | hlt
          · exact absurd hlt hnlt
          · exact absurd heq.symm hne
          · exact hlt
        · exact hhead entry hentry

theorem lookIn_insertIn_self [LT κ] [DecidableLT κ] [DecidableEq κ] (key : κ) (value : υ)
    (list : List (κ × υ)) : lookIn key (insertIn key value list) = some value := by
  induction list with
  | nil => simp [insertIn, lookIn]
  | cons head rest ih =>
    obtain ⟨k, v⟩ := head
    simp only [insertIn]
    split
    · simp [lookIn]
    · split
      · simp [lookIn]
      · rename_i hne
        simp [lookIn, hne, ih]

theorem lookIn_insertIn_of_ne [LT κ] [DecidableLT κ] [DecidableEq κ] {key other : κ} (h : key ≠ other)
    (value : υ) (list : List (κ × υ)) :
    lookIn other (insertIn key value list) = lookIn other list := by
  induction list with
  | nil => simp [insertIn, lookIn, h]
  | cons head rest ih =>
    obtain ⟨k, v⟩ := head
    simp only [insertIn]
    split
    · simp [lookIn, h]
    · split
      · rename_i heq
        subst heq
        simp [lookIn, h]
      · simp [lookIn, ih]

theorem lookIn_filter_self [DecidableEq κ] (key : κ) (list : List (κ × υ)) :
    lookIn key (list.filter fun entry => entry.1 ≠ key) = none := by
  induction list with
  | nil => rfl
  | cons head rest ih =>
    by_cases h : head.1 = key
    · rw [List.filter_cons_of_neg (by simpa using h)]
      exact ih
    · rw [List.filter_cons_of_pos (by simpa using h)]
      simpa [lookIn, h] using ih

theorem lookIn_filter_of_ne [DecidableEq κ] {key other : κ} (hne : key ≠ other) (list : List (κ × υ)) :
    lookIn other (list.filter fun entry => entry.1 ≠ key) = lookIn other list := by
  induction list with
  | nil => rfl
  | cons head rest ih =>
    by_cases h : head.1 = key
    · rw [List.filter_cons_of_neg (by simpa using h), ih]
      simp [lookIn, h, hne]
    · rw [List.filter_cons_of_pos (by simpa using h)]
      simp only [lookIn, ih]

theorem lookIn_map [DecidableEq κ] {ω : Type} (f : κ → υ → ω) (key : κ) (list : List (κ × υ)) :
    lookIn key (list.map fun entry => (entry.1, f entry.1 entry.2)) =
      (lookIn key list).map (f key) := by
  induction list with
  | nil => rfl
  | cons head rest ih =>
    by_cases h : head.1 = key
    · subst h
      simp [lookIn]
    · simpa [lookIn, h] using ih

theorem mem_of_lookIn [DecidableEq κ] {key : κ} {value : υ} {list : List (κ × υ)}
    (h : lookIn key list = some value) : (key, value) ∈ list := by
  induction list with
  | nil => simp [lookIn] at h
  | cons head rest ih =>
    obtain ⟨k, v⟩ := head
    simp only [lookIn] at h
    split at h
    · rename_i hk
      subst hk
      cases h
      exact List.mem_cons_self
    · exact List.mem_cons_of_mem _ (ih h)

theorem lookIn_of_mem [LE κ] [LT κ] [DecidableEq κ] [Std.IsLinearOrder κ] [Std.LawfulOrderLT κ]
    {key : κ} {value : υ} {list : List (κ × υ)} (sorted : list.Pairwise fun a b => a.1 < b.1)
    (h : (key, value) ∈ list) : lookIn key list = some value := by
  induction list with
  | nil => cases h
  | cons head rest ih =>
    obtain ⟨hhead, hrest⟩ := List.pairwise_cons.mp sorted
    rcases List.mem_cons.mp h with rfl | hmem
    · simp [lookIn]
    · have hlt : head.1 < key := hhead (key, value) hmem
      have hne : head.1 ≠ key := fun heq => Std.lt_irrefl (heq ▸ hlt)
      simpa [lookIn, hne] using ih hrest hmem

theorem lookIn_eq_none_of_below [LE κ] [LT κ] [DecidableEq κ] [Std.IsLinearOrder κ]
    [Std.LawfulOrderLT κ] {key : κ} {list : List (κ × υ)} (h : ∀ entry ∈ list, key < entry.1) :
    lookIn key list = none := by
  induction list with
  | nil => rfl
  | cons head rest ih =>
    have hne : head.1 ≠ key := fun heq => Std.lt_irrefl (heq ▸ h head List.mem_cons_self)
    simpa [lookIn, hne] using ih fun entry hentry => h entry (List.mem_cons_of_mem _ hentry)

theorem eq_of_lookIn_eq [LE κ] [LT κ] [DecidableEq κ] [Std.IsLinearOrder κ] [Std.LawfulOrderLT κ]
    {left right : List (κ × υ)} (hleft : left.Pairwise fun a b => a.1 < b.1)
    (hright : right.Pairwise fun a b => a.1 < b.1) (h : ∀ key, lookIn key left = lookIn key right) :
    left = right := by
  induction left generalizing right with
  | nil =>
    cases right with
    | nil => rfl
    | cons head rest => simpa [lookIn] using h head.1
  | cons first firsts ih =>
    cases right with
    | nil => simpa [lookIn] using h first.1
    | cons second seconds =>
      obtain ⟨hfirst, hfirsts⟩ := List.pairwise_cons.mp hleft
      obtain ⟨hsecond, hseconds⟩ := List.pairwise_cons.mp hright
      rcases Std.lt_trichotomy first.1 second.1 with hlt | heq | hlt
      · have hnone : lookIn first.1 (second :: seconds) = none :=
          lookIn_eq_none_of_below fun entry hentry => by
            rcases List.mem_cons.mp hentry with rfl | hentry
            · exact hlt
            · exact Std.lt_trans hlt (hsecond entry hentry)
        exact absurd (h first.1) (by rw [hnone]; simp [lookIn])
      · have hvalue : first.2 = second.2 := by simpa [lookIn, heq] using h first.1
        have hrest : firsts = seconds := ih hfirsts hseconds fun key => by
          by_cases hkey : first.1 = key
          · rw [lookIn_eq_none_of_below fun entry hentry => hkey ▸ hfirst entry hentry,
              lookIn_eq_none_of_below fun entry hentry => (heq.symm.trans hkey) ▸ hsecond entry hentry]
          · simpa [lookIn, hkey, heq ▸ hkey] using h key
        rw [hrest, Prod.ext heq hvalue]
      · have hnone : lookIn second.1 (first :: firsts) = none :=
          lookIn_eq_none_of_below fun entry hentry => by
            rcases List.mem_cons.mp hentry with rfl | hentry
            · exact hlt
            · exact Std.lt_trans hlt (hfirst entry hentry)
        exact absurd (h second.1) (by rw [hnone]; simp [lookIn])

end EntryLists

/-! ## The operations -/

variable {κ υ : Type} [LE κ] [LT κ] [DecidableLT κ] [DecidableEq κ] [Std.IsLinearOrder κ]
  [Std.LawfulOrderLT κ]

omit [LE κ] [DecidableLT κ] [DecidableEq κ] [Std.IsLinearOrder κ] [Std.LawfulOrderLT κ] in
/-- Maps with the same entries are equal. -/
@[ext] theorem ext {m n : OrderedMap κ υ} (h : m.entries = n.entries) : m = n := by
  cases m
  cases n
  cases h
  rfl

/-- The map without entries. -/
def empty {κ υ : Type} [LT κ] : OrderedMap κ υ := ⟨[], .nil⟩

instance {κ υ : Type} [LT κ] : Inhabited (OrderedMap κ υ) := ⟨empty⟩

instance {κ υ : Type} [LT κ] [DecidableEq κ] [DecidableEq υ] : DecidableEq (OrderedMap κ υ) :=
  fun m n => decidable_of_iff (m.entries = n.entries) ⟨ext, fun h => h ▸ rfl⟩

/-- The value filed under a key. -/
def find? {κ υ : Type} [LT κ] [DecidableEq κ] (m : OrderedMap κ υ) (key : κ) : Option υ :=
  lookIn key m.entries

/-- Whether a key is present. -/
def contains {κ υ : Type} [LT κ] [DecidableEq κ] (m : OrderedMap κ υ) (key : κ) : Bool :=
  (m.find? key).isSome

/-- Files a value under a key, replacing what was there. -/
def insert (m : OrderedMap κ υ) (key : κ) (value : υ) : OrderedMap κ υ :=
  ⟨insertIn key value m.entries, insertIn_increasing key value m.increasing⟩

/-- Removes a key. -/
def erase {κ υ : Type} [LT κ] [DecidableEq κ] (m : OrderedMap κ υ) (key : κ) : OrderedMap κ υ :=
  ⟨m.entries.filter fun entry => entry.1 ≠ key, m.increasing.filter _⟩

/-- Changes every value, keeping the keys. -/
def mapValues {κ υ ω : Type} [LT κ] (f : κ → υ → ω) (m : OrderedMap κ υ) : OrderedMap κ ω :=
  ⟨m.entries.map fun entry => (entry.1, f entry.1 entry.2), m.increasing.map _ fun _ _ h => h⟩

/-- Changes the value filed under one key, if there is one. -/
def modify {κ υ : Type} [LT κ] [DecidableEq κ] (m : OrderedMap κ υ) (key : κ) (f : υ → υ) :
    OrderedMap κ υ :=
  m.mapValues fun k v => if k = key then f v else v

/-- The keys, smallest first. -/
def keys {κ υ : Type} [LT κ] (m : OrderedMap κ υ) : List κ := m.entries.map Prod.fst

/-- The values, in key order. -/
def values {κ υ : Type} [LT κ] (m : OrderedMap κ υ) : List υ := m.entries.map Prod.snd

/-- The number of entries. -/
def size {κ υ : Type} [LT κ] (m : OrderedMap κ υ) : Nat := m.entries.length

/-! ## Lookup after a change -/

omit [LE κ] [DecidableLT κ] [Std.IsLinearOrder κ] [Std.LawfulOrderLT κ] in
@[simp] theorem find?_empty (key : κ) : (empty : OrderedMap κ υ).find? key = none := rfl

@[simp] theorem find?_insert_self (m : OrderedMap κ υ) (key : κ) (value : υ) :
    (m.insert key value).find? key = some value :=
  lookIn_insertIn_self key value m.entries

theorem find?_insert_of_ne (m : OrderedMap κ υ) {key other : κ} (h : key ≠ other) (value : υ) :
    (m.insert key value).find? other = m.find? other :=
  lookIn_insertIn_of_ne h value m.entries

omit [LE κ] [DecidableLT κ] [Std.IsLinearOrder κ] [Std.LawfulOrderLT κ] in
@[simp] theorem find?_erase_self (m : OrderedMap κ υ) (key : κ) : (m.erase key).find? key = none :=
  lookIn_filter_self key m.entries

omit [LE κ] [DecidableLT κ] [Std.IsLinearOrder κ] [Std.LawfulOrderLT κ] in
theorem find?_erase_of_ne (m : OrderedMap κ υ) {key other : κ} (h : key ≠ other) :
    (m.erase key).find? other = m.find? other :=
  lookIn_filter_of_ne h m.entries

omit [LE κ] [DecidableLT κ] [Std.IsLinearOrder κ] [Std.LawfulOrderLT κ] in
@[simp] theorem find?_mapValues {ω : Type} (f : κ → υ → ω) (m : OrderedMap κ υ) (key : κ) :
    (m.mapValues f).find? key = (m.find? key).map (f key) :=
  lookIn_map f key m.entries

omit [LE κ] [DecidableLT κ] [Std.IsLinearOrder κ] [Std.LawfulOrderLT κ] in
@[simp] theorem find?_modify_self (m : OrderedMap κ υ) (key : κ) (f : υ → υ) :
    (m.modify key f).find? key = (m.find? key).map f := by
  simp [modify]

omit [LE κ] [DecidableLT κ] [Std.IsLinearOrder κ] [Std.LawfulOrderLT κ] in
theorem find?_modify_of_ne (m : OrderedMap κ υ) {key other : κ} (h : key ≠ other) (f : υ → υ) :
    (m.modify key f).find? other = m.find? other := by
  simp [modify, Ne.symm h]

omit [DecidableLT κ] in
/-- An entry is in the map exactly when lookup finds it. -/
theorem mem_entries_iff {m : OrderedMap κ υ} {key : κ} {value : υ} :
    (key, value) ∈ m.entries ↔ m.find? key = some value :=
  ⟨lookIn_of_mem m.increasing, mem_of_lookIn⟩

omit [DecidableLT κ] in
/-- **Lookups determine the map.** -/
theorem ext_find? {m n : OrderedMap κ υ} (h : ∀ key, m.find? key = n.find? key) : m = n :=
  ext (eq_of_lookIn_eq m.increasing n.increasing h)

end OrderedMap

end StreamControl
