/-
Module: TaintFlow.Proofs.PointsTo
Purpose: Points-to maps as sets of facts. Adding objects at a location adds exactly those facts; the size
  never shrinks and stays the same only if nothing was new. In a map that lists each location once and
  each object of a location once, the size is the number of facts.
Main exports: PointsTo.mem_get_add, PointsTo.add_eq_self, PointsTo.Distinct, PointsTo.facts,
  PointsTo.Reordered
-/
import Mathlib.Data.List.Nodup
import TaintFlow.PointsTo

namespace TaintFlow.PointsTo

variable {p q : PointsTo} {l l' : Location} {held incoming : List AbstractObject} {o : AbstractObject}
  {entries : List (Location × List AbstractObject)}

/-! ### Merging -/

theorem merge_cons {a : AbstractObject} :
    merge held (a :: incoming) = merge (if held.contains a then held else held ++ [a]) incoming := rfl

/-- What is held stays, in front. -/
theorem prefix_merge (held incoming : List AbstractObject) : held <+: merge held incoming := by
  induction incoming generalizing held with
  | nil => exact List.prefix_refl _
  | cons a incoming ih =>
      rw [merge_cons]
      split
      · exact ih held
      · exact (List.prefix_append held [a]).trans (ih (held ++ [a]))

theorem mem_merge : o ∈ merge held incoming ↔ o ∈ held ∨ o ∈ incoming := by
  induction incoming generalizing held with
  | nil => simp [merge]
  | cons a incoming ih =>
      rw [merge_cons, ih]
      split
      · next ha =>
          rw [List.contains_iff_mem] at ha
          constructor
          · rintro (h | h)
            · exact Or.inl h
            · exact Or.inr (List.mem_cons_of_mem a h)
          · rintro (h | h)
            · exact Or.inl h
            · rcases List.mem_cons.mp h with rfl | h
              · exact Or.inl ha
              · exact Or.inr h
      · simp [or_assoc]

theorem nodup_merge (h : held.Nodup) : (merge held incoming).Nodup := by
  induction incoming generalizing held with
  | nil => exact h
  | cons a incoming ih =>
      rw [merge_cons]
      split
      · exact ih h
      · next ha =>
          rw [List.contains_iff_mem] at ha
          refine ih (List.nodup_append.mpr ⟨h, List.nodup_singleton a, ?_⟩)
          rintro b hb c hc rfl
          exact ha (List.mem_singleton.mp hc ▸ hb)

/-- A merge that makes nothing longer changes nothing. -/
theorem merge_eq_self (h : (merge held incoming).length ≤ held.length) : merge held incoming = held :=
  ((prefix_merge held incoming).sublist.eq_of_length_le h).symm

/-! ### Entering -/

/-- The entry of a location after objects were entered somewhere. -/
theorem lookup_enter :
    (enter l incoming entries).lookup l' =
      if l' = l then some (merge ((entries.lookup l).getD []) incoming) else entries.lookup l' := by
  induction entries with
  | nil =>
      by_cases h : l' = l
      · simp [enter, h]
      · simp [enter, h]
  | cons e entries ih =>
      obtain ⟨k, os⟩ := e
      by_cases hk : k = l
      · subst hk
        by_cases h : l' = k
        · subst h
          simp [enter]
        · have hb : (l' == k) = false := beq_eq_false_iff_ne.mpr h
          simp [enter, h, hb, List.lookup_cons]
      · have hb : (l == k) = false := beq_eq_false_iff_ne.mpr fun h => hk h.symm
        simp only [enter, if_neg hk, List.lookup_cons, ih, hb]
        by_cases hl : l' = k
        · subst hl
          simp [hk]
        · have hlb : (l' == k) = false := beq_eq_false_iff_ne.mpr hl
          simp [hlb]

/-- Adding objects at a location adds exactly the facts about it. -/
theorem mem_get_add :
    o ∈ (p.add l incoming).get l' ↔ o ∈ p.get l' ∨ (l' = l ∧ o ∈ incoming) := by
  unfold add
  split
  · next hempty =>
      rw [List.isEmpty_iff] at hempty
      simp [hempty]
  · simp only [get, lookup_enter]
    by_cases h : l' = l
    · subst h
      simp [mem_merge]
    · simp [h]

/-- Facts stay. -/
theorem mem_get_add_of_mem (h : o ∈ p.get l') : o ∈ (p.add l incoming).get l' :=
  mem_get_add.mpr (Or.inl h)

/-! ### Size -/

theorem size_enter :
    (entries.flatMap Prod.snd).length ≤ ((enter l incoming entries).flatMap Prod.snd).length := by
  induction entries with
  | nil => simp
  | cons e entries ih =>
      obtain ⟨k, os⟩ := e
      unfold enter
      split
      · have := (prefix_merge os incoming).length_le
        simp only [List.flatMap_cons, List.length_append]
        omega
      · simp only [List.flatMap_cons, List.length_append]
        omega

/-- Adding objects never makes a map smaller. -/
theorem size_le_size_add : p.size ≤ (p.add l incoming).size := by
  unfold add
  split
  · exact Nat.le_refl _
  · exact size_enter

theorem enter_eq_self (hincoming : incoming ≠ [])
    (h : ((enter l incoming entries).flatMap Prod.snd).length ≤ (entries.flatMap Prod.snd).length) :
    enter l incoming entries = entries := by
  induction entries with
  | nil =>
      -- a new entry is not empty
      obtain ⟨o, ho⟩ := List.exists_mem_of_ne_nil incoming hincoming
      have hmem : o ∈ merge [] incoming := mem_merge.mpr (Or.inr ho)
      have hpos := List.length_pos_of_mem hmem
      simp only [enter, List.flatMap_cons, List.flatMap_nil, List.append_nil, List.length_nil] at h
      omega
  | cons e entries ih =>
      obtain ⟨k, os⟩ := e
      unfold enter at h ⊢
      by_cases hk : k = l
      · simp only [if_pos hk, List.flatMap_cons, List.length_append] at h ⊢
        rw [merge_eq_self (by omega)]
      · simp only [if_neg hk, List.flatMap_cons, List.length_append] at h ⊢
        rw [ih (by omega)]

/-- If adding objects does not make a map larger, it changes nothing. -/
theorem add_eq_self (h : (p.add l incoming).size ≤ p.size) : p.add l incoming = p := by
  unfold add at h ⊢
  by_cases hempty : incoming.isEmpty = true
  · rw [if_pos hempty]
  · rw [if_neg hempty] at h ⊢
    rw [enter_eq_self (by simpa using hempty) h]

theorem mem_get_of_size_add_le (h : (p.add l incoming).size ≤ p.size) (ho : o ∈ incoming) :
    o ∈ p.get l := by
  rw [← add_eq_self h]
  exact mem_get_add.mpr (Or.inr ⟨rfl, ho⟩)

/-! ### Maps that list facts once -/

/-- Each location is listed once, and each of its objects once. -/
structure Distinct (p : PointsTo) : Prop where
  locations : p.locations.Nodup
  objects : ∀ e ∈ p.entries, e.2.Nodup

theorem distinct_empty : Distinct {} := by
  constructor <;> simp [PointsTo.locations]

theorem map_fst_enter :
    (enter l incoming entries).map Prod.fst =
      if l ∈ entries.map Prod.fst then entries.map Prod.fst else entries.map Prod.fst ++ [l] := by
  induction entries with
  | nil => simp [enter]
  | cons e entries ih =>
      obtain ⟨k, os⟩ := e
      unfold enter
      split
      · next hk => simp [hk]
      · next hk =>
          have hlk : l ≠ k := fun h => hk h.symm
          simp only [List.map_cons, ih, List.mem_cons, hlk, false_or]
          split <;> simp

theorem Distinct.add (h : p.Distinct) : (p.add l incoming).Distinct := by
  unfold PointsTo.add
  split
  · exact h
  · constructor
    · unfold PointsTo.locations
      rw [map_fst_enter]
      split
      · exact h.locations
      · next hl =>
          refine List.nodup_append.mpr ⟨h.locations, List.nodup_singleton l, ?_⟩
          rintro a ha b hb rfl
          exact hl (List.mem_singleton.mp hb ▸ ha)
    · have hall : ∀ entries : List (Location × List AbstractObject), (∀ e ∈ entries, e.2.Nodup) →
          ∀ e ∈ enter l incoming entries, e.2.Nodup := by
        intro entries
        induction entries with
        | nil =>
            intro _ e he
            rw [List.mem_singleton.mp he]
            exact nodup_merge List.nodup_nil
        | cons e entries ih =>
            obtain ⟨k, os⟩ := e
            intro hes
            obtain ⟨hos, hes⟩ := List.forall_mem_cons.mp hes
            unfold enter
            split
            · exact List.forall_mem_cons.mpr ⟨nodup_merge hos, hes⟩
            · exact List.forall_mem_cons.mpr ⟨hos, ih hes⟩
      exact hall p.entries h.objects

/-- All facts of a map. -/
def facts (p : PointsTo) : List (Location × AbstractObject) :=
  p.entries.flatMap fun e => e.2.map fun o => (e.1, o)

theorem length_facts (p : PointsTo) : p.facts.length = p.size := by
  simp [facts, size, List.length_flatMap]

/-- The objects of a location are listed once. -/
theorem Distinct.nodup_get (h : p.Distinct) (l : Location) :
    (p.get l).Nodup := by
  unfold get
  cases hlookup : p.entries.lookup l with
  | none => simp
  | some os =>
      obtain ⟨before, after, heq, _⟩ := List.lookup_eq_some_iff.mp hlookup
      exact h.objects (l, os) (by simp [heq])

/-- A location that is listed once holds what is listed. -/
theorem Distinct.get_eq (h : p.Distinct) {e : Location × List AbstractObject} (he : e ∈ p.entries) :
    p.get e.1 = e.2 := by
  obtain ⟨k, os⟩ := e
  cases hlookup : p.entries.lookup k with
  | none =>
      have := List.lookup_eq_none_iff.mp hlookup _ he
      simp at this
  | some os' =>
      obtain ⟨before, after, heq, _⟩ := List.lookup_eq_some_iff.mp hlookup
      have hmem : (k, os') ∈ p.entries := by
        rw [heq]
        simp
      have hsame := List.inj_on_of_nodup_map h.locations he hmem rfl
      injection hsame with _ hos
      simp [get, hlookup, hos]

theorem mem_facts_of_mem_get (h : o ∈ p.get l) : (l, o) ∈ p.facts := by
  unfold get at h
  cases hlookup : p.entries.lookup l with
  | none => simp [hlookup] at h
  | some os =>
      simp only [hlookup, Option.getD_some] at h
      obtain ⟨before, after, heq, _⟩ := List.lookup_eq_some_iff.mp hlookup
      refine List.mem_flatMap.mpr ⟨(l, os), ?_, List.mem_map.mpr ⟨o, h, rfl⟩⟩
      rw [heq]
      simp

/-- The facts are what the locations hold. -/
theorem Distinct.mem_facts (h : p.Distinct) : (l, o) ∈ p.facts ↔ o ∈ p.get l := by
  constructor
  · intro hmem
    obtain ⟨e, he, hmem⟩ := List.mem_flatMap.mp hmem
    obtain ⟨o', ho', heq⟩ := List.mem_map.mp hmem
    injection heq with hl ho
    subst hl ho
    rw [h.get_eq he]
    exact ho'
  · exact mem_facts_of_mem_get

/-- No fact is listed twice. -/
theorem Distinct.nodup_facts (h : p.Distinct) : p.facts.Nodup := by
  rw [facts, List.nodup_flatMap]
  constructor
  · intro e he
    exact (h.objects e he).map fun _ _ heq => (Prod.mk.inj heq).2
  · have hkeys : p.entries.Pairwise fun a b => a.1 ≠ b.1 := List.pairwise_map.mp h.locations
    refine hkeys.imp ?_
    intro a b hab x hxa hxb
    obtain ⟨_, _, rfl⟩ := List.mem_map.mp hxa
    obtain ⟨_, _, heq⟩ := List.mem_map.mp hxb
    exact hab (Prod.mk.inj heq).1.symm

/-! ### The order of objects -/

/-- One map lists the objects of each location in another order than the other. -/
def Reordered (p q : PointsTo) : Prop :=
  List.Forall₂ (fun a b => a.1 = b.1 ∧ a.2.Perm b.2) p.entries q.entries

namespace Reordered

theorem mem_get (h : p.Reordered q) : o ∈ p.get l ↔ o ∈ q.get l := by
  obtain ⟨ps⟩ := p
  obtain ⟨qs⟩ := q
  unfold Reordered at h
  unfold get
  dsimp only at h ⊢
  induction h with
  | nil => rfl
  | @cons a b as bs hab _ ih =>
      obtain ⟨k, os⟩ := a
      obtain ⟨k', os'⟩ := b
      obtain ⟨hk, hos⟩ := hab
      dsimp only at hk hos
      subst hk
      simp only [List.lookup_cons]
      by_cases hl : l = k
      · subst hl
        simpa using hos.mem_iff
      · have hb : (l == k) = false := beq_eq_false_iff_ne.mpr hl
        simpa [hb] using ih

theorem size_eq (h : p.Reordered q) : p.size = q.size := by
  obtain ⟨ps⟩ := p
  obtain ⟨qs⟩ := q
  unfold Reordered at h
  unfold size
  dsimp only at h ⊢
  induction h with
  | nil => rfl
  | cons hab _ ih => simp [hab.2.length_eq, ih]

theorem distinct (h : p.Reordered q) (hp : p.Distinct) : q.Distinct := by
  obtain ⟨ps⟩ := p
  obtain ⟨qs⟩ := q
  obtain ⟨hlocations, hobjects⟩ := hp
  unfold Reordered at h
  have hkeys : ps.map Prod.fst = qs.map Prod.fst := by
    dsimp only at h
    clear hlocations hobjects
    induction h with
    | nil => rfl
    | cons hab _ ih => simp [hab.1, ih]
  refine ⟨by unfold locations at *; rw [← hkeys]; exact hlocations, ?_⟩
  dsimp only at h hobjects ⊢
  clear hlocations hkeys
  induction h with
  | nil => simp
  | cons hab _ ih =>
      obtain ⟨ha, hrest⟩ := List.forall_mem_cons.mp hobjects
      exact List.forall_mem_cons.mpr ⟨hab.2.nodup_iff.mp ha, ih hrest⟩

end Reordered

end TaintFlow.PointsTo
