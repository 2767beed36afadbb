/-
Module: TaintFlow.Ledger
Purpose: Values entered under keys. Each key has the values that were entered under it, in the order of
  their entry; a key under which nothing was entered has none.
Main exports: Ledger, Ledger.get, Ledger.push, Ledger.index, Ledger.get_push, Ledger.get_index
-/

namespace TaintFlow

/-- Keys, each with the values entered under it. -/
structure Ledger (κ ν : Type) where
  entries : List (κ × List ν) := []
deriving Repr, Inhabited

namespace Ledger

variable {κ ν : Type} [DecidableEq κ]

/-- The values entered under a key. -/
def get (l : Ledger κ ν) (k : κ) : List ν := (l.entries.lookup k).getD []

/-- Enter a value in a list of entries, after those that its key has. -/
def enter (k : κ) (v : ν) : List (κ × List ν) → List (κ × List ν)
  | [] => [(k, [v])]
  | (k', vs) :: rest => if k' = k then (k', vs ++ [v]) :: rest else (k', vs) :: enter k v rest

/-- Enter a value under a key. -/
def push (l : Ledger κ ν) (k : κ) (v : ν) : Ledger κ ν := { entries := enter k v l.entries }

@[simp] theorem get_empty (k : κ) : ({} : Ledger κ ν).get k = [] := rfl

theorem lookup_enter (k k' : κ) (v : ν) (entries : List (κ × List ν)) :
    ((enter k v entries).lookup k').getD [] =
      (entries.lookup k').getD [] ++ (if k = k' then [v] else []) := by
  induction entries with
  | nil =>
      by_cases hk : k' = k
      · simp [enter, hk]
      · simp [enter, List.lookup_cons, beq_eq_false_iff_ne.mpr hk, Ne.symm hk]
  | cons entry rest ih =>
      obtain ⟨k'', vs⟩ := entry
      rw [enter]
      split
      · next hk =>
          subst hk
          by_cases hk' : k' = k''
          · simp [hk']
          · simp [List.lookup_cons, beq_eq_false_iff_ne.mpr hk', Ne.symm hk']
      · next hk =>
          by_cases hk' : k' = k''
          · subst hk'
            simp [Ne.symm hk]
          · simp [List.lookup_cons, beq_eq_false_iff_ne.mpr hk', ih]

/-- Entering a value appends it to what its key has and leaves the other keys alone. -/
@[simp] theorem get_push (l : Ledger κ ν) (k k' : κ) (v : ν) :
    (l.push k v).get k' = l.get k' ++ (if k = k' then [v] else []) :=
  lookup_enter k k' v l.entries

/-! ### Items that are entered under several keys -/

/-- Enter a value under keys, one after the other. -/
def pushAll (l : Ledger κ ν) (ks : List κ) (v : ν) : Ledger κ ν := ks.foldl (fun l k => l.push k v) l

/-- The ledger of some items: each has keys and a value that is entered under them. -/
def index {α : Type} (keys : α → List κ) (value : α → ν) (items : List α) : Ledger κ ν :=
  items.foldl (fun l x => l.pushAll (keys x) (value x)) {}

/-- A value is entered under a key as often as the key is given. -/
theorem get_pushAll (l : Ledger κ ν) (ks : List κ) (k : κ) (v : ν) :
    (l.pushAll ks v).get k = l.get k ++ List.replicate (ks.count k) v := by
  unfold pushAll
  induction ks generalizing l with
  | nil => simp
  | cons k' ks ih =>
      rw [List.foldl_cons, ih, get_push, List.append_assoc]
      congr 1
      by_cases heq : k' = k
      · simp [heq, List.replicate_succ]
      · simp [heq]

/-- A key has the values of the items that have the key, in the order of the items. -/
theorem get_index {α : Type} (keys : α → List κ) (value : α → ν) (items : List α) (k : κ) :
    (index keys value items).get k =
      items.flatMap fun x => List.replicate ((keys x).count k) (value x) := by
  have hfrom : ∀ l : Ledger κ ν,
      (items.foldl (fun l x => l.pushAll (keys x) (value x)) l).get k =
        l.get k ++ items.flatMap fun x => List.replicate ((keys x).count k) (value x) := by
    induction items with
    | nil => simp
    | cons x items ih =>
        intro l
        rw [List.foldl_cons, ih, get_pushAll, List.append_assoc, List.flatMap_cons]
  rw [index, hfrom, get_empty, List.nil_append]

end Ledger

end TaintFlow
