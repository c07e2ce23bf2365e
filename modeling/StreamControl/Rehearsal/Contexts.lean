import StreamControl.Callback

/-!
# Tables of contexts

A rehearsal gives names to the contexts it uses.  Two names stand for the
same thing only where the table says that it is shared.
-/

set_option autoImplicit false

namespace StreamControl.Rehearsal

/-- What a name is to stand for. -/
inductive ContextPlan where
  /-- A text of its own. -/
  | text (content : String)
  /-- A number of its own. -/
  | number (content : UInt64)
  /-- A text shared by all who give the same. -/
  | shared (content : String)
  /-- Nothing. -/
  | nothing
  deriving DecidableEq, Inhabited

/-- The contexts of a rehearsal, by name. -/
abbrev ContextTable := List (String × UserContext)

/-- The context a plan stands for, if a thing of its own is given the number
`fresh`; `earlier` are the plans before it. -/
def ContextPlan.context (earlier : List ContextPlan) (fresh : Nat) : ContextPlan → UserContext
  | .text content => ⟨some ⟨fresh, .text content⟩⟩
  | .number content => ⟨some ⟨fresh, .number content⟩⟩
  | .shared content => ⟨some ⟨earlier.idxOf (.shared content), .text content⟩⟩
  | .nothing => {}

/-- The table of some plans, after those in `earlier`. -/
def contextsAfter (earlier : List ContextPlan) : List (String × ContextPlan) → ContextTable
  | [] => []
  | (name, plan) :: rest =>
    (name, plan.context (earlier ++ [plan]) earlier.length) ::
      contextsAfter (earlier ++ [plan]) rest

/-- The table of some plans. -/
def contextTable (plans : List (String × ContextPlan)) : ContextTable := contextsAfter [] plans

/-- The names that stand for what a context carries. -/
def namesOf (table : ContextTable) (context : UserContext) : List String :=
  (table.filter (·.2.same context)).map (·.1)

end StreamControl.Rehearsal
