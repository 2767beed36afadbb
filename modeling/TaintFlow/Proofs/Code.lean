/-
Module: TaintFlow.Proofs.Code
Purpose: What the check of a body accepts. Instructions pass exactly if no parameter and no value is
  defined twice and all jumps stay inside. The check walks along the instructions with the values defined
  so far, so the induction says what it asks of the instructions that are left.
Main exports: Code.Checked, Code.checkFrom_eq_ok, Code.checked_of_check
-/
import Mathlib.Data.List.Nodup
import TaintFlow.Proofs.Dump.Formed

namespace TaintFlow.Code

open Dump (bind_eq_ok)

/-- What the values and the jumps of a body satisfy, for so many parameters. -/
structure Checked (code : Code) (parameters : Nat) : Prop where
  fresh : ∀ (i : Nat) (inst : Instruction), code[i]? = some inst → ∀ v ∈ inst.defs, parameters < v
  single : ∀ (i j : Nat) (inst inst' : Instruction), code[i]? = some inst → code[j]? = some inst' →
    ∀ v, v ∈ inst.defs → v ∈ inst'.defs → i = j
  inside : ∀ (i : Nat) (inst : Instruction), code[i]? = some inst →
    ∀ target, inst.target? = some target → target < code.size

variable {parameters size index : Nat} {defined defined' : List (Value × Nat)} {v : Value}
  {vs ws : List Value} {insts : List Instruction}

/-! ### Values -/

/-- The values that are defined. -/
def keys (defined : List (Value × Nat)) : List Value := defined.map Prod.fst

theorem mem_keys_iff : v ∈ keys defined ↔ defined.lookup v ≠ none := by
  induction defined with
  | nil => simp [keys]
  | cons e defined ih =>
      obtain ⟨w, i⟩ := e
      by_cases h : v = w
      · simp [keys, h]
      · have hb : (v == w) = false := beq_eq_false_iff_ne.mpr h
        rw [List.lookup_cons, hb, ← ih]
        simp [keys, h]

/-- Values can be entered: they differ, they are new, and none is a parameter. -/
def Enterable (parameters : Nat) (defined : List (Value × Nat)) (vs : List Value) : Prop :=
  vs.Nodup ∧ ∀ v ∈ vs, parameters < v ∧ v ∉ keys defined

theorem enterable_cons (index : Nat) :
    Enterable parameters defined (v :: vs) ↔
      (parameters < v ∧ v ∉ keys defined) ∧ Enterable parameters ((v, index) :: defined) vs := by
  unfold Enterable
  rw [List.nodup_cons, List.forall_mem_cons]
  have hkeys : ∀ w, w ∉ keys ((v, index) :: defined) ↔ w ≠ v ∧ w ∉ keys defined := by
    intro w
    simp [keys]
  constructor
  · rintro ⟨⟨hv, hvs⟩, hnew, hrest⟩
    refine ⟨hnew, hvs, ?_⟩
    intro w hw
    exact ⟨(hrest w hw).1, (hkeys w).mpr ⟨ne_of_mem_of_not_mem hw hv, (hrest w hw).2⟩⟩
  · rintro ⟨hnew, hvs, hrest⟩
    refine ⟨⟨?_, hvs⟩, hnew, ?_⟩
    · intro hv
      exact ((hkeys v).mp (hrest v hv).2).1 rfl
    · intro w hw
      exact ⟨(hrest w hw).1, ((hkeys w).mp (hrest w hw).2).2⟩

theorem enterable_append (index : Nat) :
    Enterable parameters defined (vs ++ ws) ↔
      Enterable parameters defined vs ∧
        Enterable parameters ((vs.map fun v => (v, index)).reverse ++ defined) ws := by
  induction vs generalizing defined with
  | nil => simp [Enterable]
  | cons v vs ih => simp [enterable_cons index, ih, and_assoc]

/-- Entering values succeeds exactly if they can be entered, and then they are among the defined ones. -/
theorem enterDefs_eq_ok :
    enterDefs parameters index defined vs = .ok defined' ↔
      Enterable parameters defined vs ∧
        (vs.map fun v => (v, index)).reverse ++ defined = defined' := by
  induction vs generalizing defined with
  | nil => simp [enterDefs, Enterable]
  | cons v vs ih =>
      unfold enterDefs
      rw [enterable_cons index]
      split
      · next hle =>
          have hnot : ¬ parameters < v := Nat.not_lt.mpr hle
          simp [hnot]
      · next hlt =>
          have hlt : parameters < v := Nat.lt_of_not_le hlt
          cases hlookup : defined.lookup v with
          | some first =>
              have hold : v ∈ keys defined := mem_keys_iff.mpr (by simp [hlookup])
              simp [hold]
          | none =>
              have hnew : v ∉ keys defined := fun h => mem_keys_iff.mp h hlookup
              simp [ih, hlt, hnew]

/-! ### Instructions -/

/-- The check of the instructions that are left succeeds exactly if all that they define can be entered
    and their jumps stay inside. -/
theorem checkFrom_eq_ok :
    checkFrom parameters size index defined insts = .ok () ↔
      Enterable parameters defined (insts.flatMap Instruction.defs) ∧
        ∀ inst ∈ insts, ∀ target, inst.target? = some target → target < size := by
  induction insts generalizing index defined with
  | nil => simp [checkFrom, Enterable]
  | cons inst insts ih =>
      rw [List.flatMap_cons, enterable_append index, List.forall_mem_cons]
      unfold checkFrom
      simp only [bind_eq_ok, enterDefs_eq_ok, and_assoc, exists_and_left, exists_eq_left']
      refine and_congr_right fun _ => ?_
      cases htarget : inst.target? with
      | none => simp [ih]
      | some target =>
          by_cases hinside : target < size
          · simp [ih, hinside]
          · simp [hinside]

/-- In a list without repetitions, what two members have in common tells where they are. -/
theorem eq_of_mem_flatMap_nodup (h : (insts.flatMap Instruction.defs).Nodup) {i j : Nat}
    {inst inst' : Instruction} (hi : insts[i]? = some inst) (hj : insts[j]? = some inst')
    (hv : v ∈ inst.defs) (hv' : v ∈ inst'.defs) : i = j := by
  induction insts generalizing i j with
  | nil => simp at hi
  | cons first insts ih =>
      rw [List.flatMap_cons, List.nodup_append] at h
      obtain ⟨_, hrest, hdisjoint⟩ := h
      have hlater : ∀ {k : Nat} {later : Instruction}, insts[k]? = some later → v ∈ later.defs →
          v ∈ insts.flatMap Instruction.defs := by
        intro k later hk hmem
        exact List.mem_flatMap.mpr ⟨later, List.mem_of_getElem? hk, hmem⟩
      cases i with
      | zero =>
          cases j with
          | zero => rfl
          | succ j =>
              cases hi
              exact absurd rfl (hdisjoint v hv v (hlater hj hv'))
      | succ i =>
          cases j with
          | zero =>
              cases hj
              exact absurd rfl (hdisjoint v hv' v (hlater hi hv))
          | succ j => rw [ih hrest hi hj]

/-- In a body that passes the check, no parameter and no value is defined twice and all jumps stay
    inside. -/
theorem checked_of_check {code : Code} (h : code.check parameters = .ok ()) :
    code.Checked parameters := by
  obtain ⟨⟨hnodup, hfresh⟩, hinside⟩ := checkFrom_eq_ok.mp h
  have hmem : ∀ {i : Nat} {inst : Instruction}, code[i]? = some inst → inst ∈ code.toList := by
    intro i inst hi
    rw [← Array.getElem?_toList] at hi
    exact List.mem_of_getElem? hi
  constructor
  · intro i inst hi v hv
    exact (hfresh v (List.mem_flatMap.mpr ⟨inst, hmem hi, hv⟩)).1
  · intro i j inst inst' hi hj v hv hv'
    rw [← Array.getElem?_toList] at hi hj
    exact eq_of_mem_flatMap_nodup hnodup hi hj hv hv'
  · intro i inst hi target htarget
    exact hinside inst (hmem hi) target htarget

theorem nodup_defs (inst : Instruction) : inst.defs.Nodup := by
  cases inst with
  | invoke r site args => cases r <;> simp [Instruction.defs]
  | _ => simp [Instruction.defs]

/-- Such a body passes the check. -/
theorem check_of_checked {code : Code} (h : code.Checked parameters) :
    code.check parameters = .ok () := by
  refine checkFrom_eq_ok.mpr ⟨⟨?_, ?_⟩, ?_⟩
  · refine List.nodup_flatMap.mpr ⟨fun inst _ => nodup_defs inst, ?_⟩
    refine List.pairwise_iff_getElem.mpr fun i j hi hj hij v hv hv' => ?_
    have hsame := h.single i j _ _ (Array.getElem?_eq_getElem hi) (Array.getElem?_eq_getElem hj) v
    exact absurd (hsame hv hv') (Nat.ne_of_lt hij)
  · intro v hv
    obtain ⟨inst, hinst, hv⟩ := List.mem_flatMap.mp hv
    obtain ⟨i, hi⟩ := List.getElem?_of_mem hinst
    exact ⟨h.fresh i inst (by simpa using hi) v hv, by simp [keys]⟩
  · intro inst hinst target htarget
    obtain ⟨i, hi⟩ := List.getElem?_of_mem hinst
    exact h.inside i inst (by simpa using hi) target htarget

end TaintFlow.Code
