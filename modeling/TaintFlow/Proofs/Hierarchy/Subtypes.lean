/-
Module: TaintFlow.Proofs.Hierarchy.Subtypes
Purpose: The subtype relation of a hierarchy. The search upwards visits what a path of declared links
  leads to; the search downwards takes the same links back, so it visits exactly the types that have the
  start among their supertypes.
Main exports: Hierarchy.find?_eq_some_iff, Hierarchy.mem_supertypes, Hierarchy.mem_subtypes,
  Hierarchy.mem_lookup, Hierarchy.exists_subclasses, Program.Parsed.nodup_names
-/
import TaintFlow.Hierarchy.Basic
import TaintFlow.Proofs.Distinct
import TaintFlow.Proofs.Dump.Formed
import TaintFlow.Proofs.Search

namespace TaintFlow

/-- The loaded classes of a parsed program have different names. -/
theorem Program.Parsed.nodup_names {p : Program} (hp : p.Parsed) (e : Exclusions) :
    (Hierarchy.ofProgram p e).names.Nodup :=
  hp.formed.names.sublist (List.filter_sublist.map ClassDecl.name)

namespace Hierarchy

open Reach (Reaches)

variable {h : Hierarchy} {s t : TypeName} {ts : List TypeName} {c : ClassDecl}

/-! ### Loaded classes -/

theorem find?_eq_some_iff (hnames : h.names.Nodup) :
    h.find? t = some c ↔ c ∈ h.classes ∧ c.name = t :=
  find?_key_eq_some_iff hnames

theorem contains_iff : h.contains t = true ↔ t ∈ h.names := by
  simp [contains, find?, names]

theorem mem_lookup (hnames : h.names.Nodup) : c ∈ h.lookup ts ↔ c ∈ h.classes ∧ c.name ∈ ts := by
  rw [lookup, List.mem_filterMap]
  constructor
  · rintro ⟨t, ht, hfind⟩
    obtain ⟨hc, rfl⟩ := (find?_eq_some_iff hnames).mp hfind
    exact ⟨hc, ht⟩
  · rintro ⟨hc, ht⟩
    exact ⟨c.name, ht, (find?_eq_some_iff hnames).mpr ⟨hc, rfl⟩⟩

/-! ### Supertypes and subtypes -/

theorem mem_supertypes : s ∈ h.supertypes t ↔ Reaches h.directSupertypes h.names t s := by
  rw [supertypes, Reach.mem_explore_iff]
  simp

/-- The links downwards are the links upwards, taken back. -/
theorem mem_directSubtypes : s ∈ h.directSubtypes t ↔ s ∈ h.names ∧ t ∈ h.directSupertypes s := by
  rw [directSubtypes, List.mem_flatMap]
  constructor
  · rintro ⟨u, hu, hmem⟩
    obtain ⟨hcount, rfl⟩ := List.mem_replicate.mp hmem
    exact ⟨hu, List.count_pos_iff.mp (Nat.pos_of_ne_zero hcount)⟩
  · rintro ⟨hs, ht⟩
    exact ⟨s, hs, List.mem_replicate.mpr ⟨Nat.ne_of_gt (List.count_pos_iff.mpr ht), rfl⟩⟩

/-- The subtypes of a type are the types that have it among their supertypes. -/
theorem mem_subtypes : s ∈ h.subtypes t ↔ t ∈ h.supertypes s := by
  rw [mem_supertypes, subtypes, Reach.mem_explore_iff]
  simp only [List.mem_singleton, exists_eq_left]
  constructor
  · intro hpath
    apply hpath.reverse
    intro a _ b hb
    exact (mem_directSubtypes.mp hb).2
  · intro hpath
    apply hpath.reverse
    intro a ha b hb
    exact mem_directSubtypes.mpr ⟨ha, hb⟩

/-- A loaded type is a supertype of its subtypes. -/
theorem isSubtype_iff (ht : t ∈ h.names) : h.isSubtype s t = true ↔ t ∈ h.supertypes s := by
  rw [isSubtype, Bool.or_eq_true, beq_iff_eq, List.contains_iff_mem]
  constructor
  · rintro (rfl | hmem)
    · exact mem_supertypes.mpr (.refl ht)
    · exact hmem
  · exact Or.inr

/-- The subclasses of a loaded type are the loaded classes that are subtypes of it. -/
theorem exists_subclasses (hnames : h.names.Nodup) (ht : h.contains t = true) :
    ∃ classes, h.subclasses t = .ok classes ∧
      ∀ c, c ∈ classes ↔ c ∈ h.classes ∧ h.isSubtype c.name t = true := by
  obtain ⟨b, hb⟩ := Option.isSome_iff_exists.mp ht
  refine ⟨h.lookup (h.subtypes t), ?_, ?_⟩
  · simp [subclasses, require, hb, bind, Except.bind]
  · intro c
    rw [mem_lookup hnames, mem_subtypes, isSubtype_iff (contains_iff.mp ht)]

end Hierarchy

end TaintFlow
