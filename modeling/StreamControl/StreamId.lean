/-!
# Stream numbers

A host numbers its streams from one and never gives a number twice.  Streams
are listed in the order of their numbers.
-/

set_option autoImplicit false

namespace StreamControl

/-- The number a host gave a stream. -/
structure StreamId where
  /-- The number itself. -/
  number : UInt32
  deriving DecidableEq, Repr, Inhabited

namespace StreamId

instance : LE StreamId := ⟨fun a b => a.number ≤ b.number⟩

instance : LT StreamId := ⟨fun a b => a.number < b.number⟩

instance : DecidableLE StreamId := fun a b => inferInstanceAs (Decidable (a.number ≤ b.number))

instance : DecidableLT StreamId := fun a b => inferInstanceAs (Decidable (a.number < b.number))

theorem le_def {a b : StreamId} : a ≤ b ↔ a.number ≤ b.number := Iff.rfl

theorem lt_def {a b : StreamId} : a < b ↔ a.number < b.number := Iff.rfl

instance : Std.IsLinearOrder StreamId where
  le_refl a := UInt32.le_refl a.number
  le_trans a b c hab hbc := UInt32.le_trans (a := a.number) (b := b.number) (c := c.number) hab hbc
  le_antisymm a b hab hba := by
    cases a
    cases b
    exact congrArg StreamId.mk (UInt32.le_antisymm hab hba)
  le_total a b := UInt32.le_total a.number b.number

instance : Std.LawfulOrderLT StreamId where
  lt_iff a b := by
    simp only [le_def, lt_def, UInt32.not_le]
    exact ⟨fun h => ⟨UInt32.le_of_lt h, h⟩, fun h => h.2⟩

/-- How messages name a stream. -/
def text (id : StreamId) : String := "S" ++ toString id.number.toNat

/-- How a description of a larger thing shows a stream. -/
def describe (id : StreamId) : String := "StreamId(" ++ toString id.number.toNat ++ ")"

end StreamId

end StreamControl
