/-
Module: TaintFlow.Proofs.Distinct
Purpose: Lists that hold nothing twice. Erasing repetitions leaves such a list. Lists joined one after the
  other make such a list if each of them is one and carries a label of its own: what belongs to a part of
  a graph is told from what belongs to another part by the part.
Main exports: nodup_eraseDups, eraseDups_flatMap_congr, nodup_ite_nil, find?_key_eq_some_iff, nodup_flatMap_of_label
-/
import Mathlib.Data.List.Nodup

namespace TaintFlow

/-- The induction is on the length: the tail is filtered before its repetitions are erased. -/
theorem nodup_eraseDups {α : Type} [BEq α] [LawfulBEq α] (xs : List α) : xs.eraseDups.Nodup := by
  generalize hlength : xs.length = length
  induction length using Nat.strongRecOn generalizing xs with
  | ind length ih =>
      cases xs with
      | nil => simp
      | cons x xs =>
          rw [List.eraseDups_cons, List.nodup_cons]
          constructor
          · intro hx
            rw [List.mem_eraseDups, List.mem_filter] at hx
            simp at hx
          · refine ih _ ?_ _ rfl
            have hle := List.length_filter_le (fun y => !y == x) xs
            rw [List.length_cons] at hlength
            omega

/-- Members can be left out before repetitions are erased or after it. The induction is on the length
    again. -/
theorem eraseDups_filter {α : Type} [BEq α] [LawfulBEq α] (p : α → Bool) (xs : List α) :
    (xs.filter p).eraseDups = xs.eraseDups.filter p := by
  generalize hlength : xs.length = length
  induction length using Nat.strongRecOn generalizing xs with
  | ind length ih =>
      cases xs with
      | nil => simp
      | cons x xs =>
          have hshort : (xs.filter fun y => !y == x).length < length := by
            have hle := List.length_filter_le (fun y => !y == x) xs
            rw [List.length_cons] at hlength
            omega
          have hrest := ih _ hshort _ rfl
          rw [List.eraseDups_cons]
          by_cases hx : p x = true
          · rw [List.filter_cons_of_pos hx, List.filter_cons_of_pos hx, List.eraseDups_cons, ← hrest,
              List.filter_filter, List.filter_filter]
            simp only [Bool.and_comm]
          · -- the head is left out anyway, so it makes no difference that its repetitions are erased
            rw [List.filter_cons_of_neg hx, List.filter_cons_of_neg hx, ← hrest, List.filter_filter]
            congr 1
            apply List.filter_congr
            intro y _
            by_cases hy : y = x
            · simp [hy, hx]
            · simp [hy]

/-- What joined lists hold, each member at its first place, is found from what each of them holds. -/
theorem eraseDups_flatMap_congr {α β : Type} [BEq β] [LawfulBEq β] {f g : α → List β} {xs : List α}
    (h : ∀ x ∈ xs, (f x).eraseDups = (g x).eraseDups) :
    (xs.flatMap f).eraseDups = (xs.flatMap g).eraseDups := by
  induction xs with
  | nil => rfl
  | cons x xs ih =>
      rw [List.forall_mem_cons] at h
      have hmem : ∀ y, y ∈ f x ↔ y ∈ g x := by
        intro y
        rw [← List.mem_eraseDups, h.1, List.mem_eraseDups]
      have hrest : ∀ ys zs : List β, (zs.removeAll ys).eraseDups = zs.eraseDups.removeAll ys :=
        fun ys zs => eraseDups_filter _ zs
      have hleft : ∀ zs : List β, zs.removeAll (f x) = zs.removeAll (g x) := by
        intro zs
        apply List.filter_congr
        intro y _
        simp [hmem]
      rw [List.flatMap_cons, List.flatMap_cons, List.eraseDups_append, List.eraseDups_append, h.1, hleft,
        hrest, hrest, ih h.2]

/-- A list that is left out under some condition. -/
theorem nodup_ite_nil {α : Type} {c : Prop} [Decidable c] {xs : List α} (h : xs.Nodup) :
    (if c then xs else []).Nodup := by
  split
  · exact h
  · exact List.nodup_nil

/-- Where keys differ, looking a key up finds what has it. -/
theorem find?_key_eq_some_iff {α κ : Type} [BEq κ] [LawfulBEq κ] {xs : List α} {key : α → κ}
    (h : (xs.map key).Nodup) {k : κ} {x : α} :
    xs.find? (fun y => key y == k) = some x ↔ x ∈ xs ∧ key x = k := by
  constructor
  · intro hfind
    have hkey := List.find?_some hfind
    exact ⟨List.mem_of_find?_eq_some hfind, eq_of_beq hkey⟩
  · rintro ⟨hx, rfl⟩
    cases hfind : xs.find? (fun y => key y == key x) with
    | none =>
        have hnot := List.find?_eq_none.mp hfind x hx
        simp at hnot
    | some y =>
        have hkey := List.find?_some hfind
        rw [List.inj_on_of_nodup_map h (List.mem_of_find?_eq_some hfind) hx (eq_of_beq hkey)]

/-- Joined lists hold nothing twice, if none of them does and the labels of their members tell them
    apart. -/
theorem nodup_flatMap_of_label {α β γ : Type} {f : α → List β} {xs : List α} (key : α → γ)
    (label : β → γ) (hkeys : (xs.map key).Nodup) (hparts : ∀ x ∈ xs, (f x).Nodup)
    (hlabel : ∀ x ∈ xs, ∀ y ∈ f x, label y = key x) : (xs.flatMap f).Nodup := by
  rw [List.nodup_flatMap]
  refine ⟨hparts, List.Nodup.pairwise_of_forall_ne (List.Nodup.of_map key hkeys) ?_⟩
  intro a ha b hb hne
  refine List.disjoint_left.mpr ?_
  intro y hya hyb
  apply hne
  apply List.inj_on_of_nodup_map hkeys ha hb
  rw [← hlabel a ha y hya, hlabel b hb y hyb]

end TaintFlow
