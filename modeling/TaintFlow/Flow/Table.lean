/-
Module: TaintFlow.Flow.Table
Purpose: A function on the first naturals, computed once. Looking an entry up gives the function's
  value at every index in range.
Main exports: Flow.Table, Flow.Table.tabulate, Flow.Table.get
-/

namespace TaintFlow.Flow

/-- What belongs to the first naturals. -/
structure Table (α : Type) where
  entries : Array α
deriving Repr, Inhabited

namespace Table

variable {α : Type}

/-- Tabulate a function on the naturals below `n`. -/
def tabulate (n : Nat) (f : Nat → α) : Table α := ⟨(Array.range n).map f⟩

/-- The entry at an index, and the default outside the range. -/
def get [Inhabited α] (t : Table α) (i : Nat) : α := (t.entries[i]?).getD default

@[simp] theorem get_tabulate [Inhabited α] {n i : Nat} {f : Nat → α} (h : i < n) :
    (tabulate n f).get i = f i := by
  simp [tabulate, get, h]

end Table

end TaintFlow.Flow
