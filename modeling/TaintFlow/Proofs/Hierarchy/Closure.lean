/-
Module: TaintFlow.Proofs.Hierarchy.Closure
Purpose: The two closures of the subtype relation. Supertypes are found by going up along what classes
  declare, subtypes by going down along an index of the same declarations. Both searches agree with chains
  of declarations between loaded classes, however these are tangled: classes may extend themselves or each
  other, name an interface twice, or name types that are not there. No search turns for ever.
Main exports: Hierarchy.Extends, Hierarchy.subtypeIndex, Hierarchy.get_subtypeIndex,
  Hierarchy.mem_supertypes_iff, Hierarchy.isSubtype_trans, Hierarchy.closures_agree
-/
import Mathlib.Logic.Relation
import TaintFlow.Ledger
import TaintFlow.Proofs.Hierarchy.Subtypes
import TaintFlow.Proofs.Worklist

namespace TaintFlow.Hierarchy

open Reach (Worklist Reaches)
open Relation (ReflTransGen)

variable {h : Hierarchy} {s t : TypeName} {ts : List TypeName}

/-- A loaded class declares a loaded type as its superclass or as one of its interfaces. -/
structure Extends (h : Hierarchy) (s t : TypeName) : Prop where
  declared : ∃ c ∈ h.classes, c.name = s ∧ (c.superclass = some t ∨ t ∈ c.interfaces)
  loaded : ∃ c ∈ h.classes, c.name = t

/-! ### Declared links -/

theorem mem_names : t ∈ h.names ↔ ∃ c ∈ h.classes, c.name = t := by
  simp [names]

theorem mem_directSupertypes (hnames : h.names.Nodup) : t ∈ h.directSupertypes s ↔ h.Extends s t := by
  unfold directSupertypes
  cases hfind : h.find? s with
  | none =>
      simp only [List.not_mem_nil, false_iff]
      rintro ⟨⟨c, hc, hname, _⟩, _⟩
      rw [(find?_eq_some_iff hnames).mpr ⟨hc, hname⟩] at hfind
      cases hfind
  | some c =>
      obtain ⟨hc, hname⟩ := (find?_eq_some_iff hnames).mp hfind
      simp only [List.mem_filter, List.mem_append, Option.mem_toList, contains_iff, mem_names]
      constructor
      · intro hlink
        exact ⟨⟨c, hc, hname, hlink.1⟩, hlink.2⟩
      · rintro ⟨⟨d, hd, hdname, hlink⟩, hloaded⟩
        have hsame := (find?_eq_some_iff hnames).mpr ⟨hd, hdname⟩
        rw [hfind] at hsame
        cases hsame
        exact ⟨hlink, hloaded⟩

theorem directSupertypes_loaded (ht : t ∈ h.directSupertypes s) : t ∈ h.names := by
  unfold directSupertypes at ht
  split at ht
  · exact contains_iff.mp (List.mem_filter.mp ht).2
  · cases ht

theorem directSuperclass_loaded (ht : t ∈ h.directSuperclass s) : t ∈ h.names := by
  unfold directSuperclass at ht
  split at ht
  · exact contains_iff.mp (List.mem_filter.mp ht).2
  · cases ht

/-! ### The index of links -/

/-- Enter a class in an index, under every type that it directly extends. -/
def enterLinks (h : Hierarchy) (index : Ledger TypeName TypeName) (s : TypeName) :
    Ledger TypeName TypeName :=
  (h.directSupertypes s).foldl (fun index t => index.push t s) index

/-- The links turned round: the index in which all classes are entered, in the order of their
    declaration. -/
def subtypeIndex (h : Hierarchy) : Ledger TypeName TypeName := h.names.foldl h.enterLinks {}

/-- The index holds what going through all classes gives. -/
theorem get_subtypeIndex (h : Hierarchy) : h.subtypeIndex.get = h.directSubtypes := by
  funext t
  exact Ledger.get_index h.directSupertypes id h.names t

/-! ### Chains of links -/

/-- The supertypes of a loaded type are those to which a chain of declared links leads. -/
theorem mem_supertypes_iff (hnames : h.names.Nodup) (hs : s ∈ h.names) :
    t ∈ h.supertypes s ↔ ReflTransGen h.Extends s t := by
  rw [mem_supertypes]
  constructor
  · intro hpath
    induction hpath with
    | refl => exact .refl
    | step _ hlink _ ih => exact .tail ih ((mem_directSupertypes hnames).mp hlink)
  · intro hchain
    induction hchain with
    | refl => exact .refl hs
    | tail _ hlink ih =>
        have hmem := (mem_directSupertypes hnames).mpr hlink
        exact .step ih hmem (directSupertypes_loaded hmem)

theorem mem_names_of_mem_supertypes (ht : t ∈ h.supertypes s) : s ∈ h.names ∧ t ∈ h.names := by
  have hpath := mem_supertypes.mp ht
  exact ⟨hpath.start_mem, hpath.end_mem⟩

theorem supertypes_trans (hnames : h.names.Nodup) {r : TypeName} (hs : s ∈ h.supertypes r)
    (ht : t ∈ h.supertypes s) : t ∈ h.supertypes r := by
  obtain ⟨hr, hloaded⟩ := mem_names_of_mem_supertypes hs
  rw [mem_supertypes_iff hnames hr] at hs ⊢
  rw [mem_supertypes_iff hnames hloaded] at ht
  exact hs.trans ht

theorem isSubtype_refl (h : Hierarchy) (t : TypeName) : h.isSubtype t t = true := by
  simp [isSubtype]

/-- Subtyping is transitive on all names: what is not loaded is a subtype of itself alone. -/
theorem isSubtype_trans (hnames : h.names.Nodup) {r : TypeName} (hrs : h.isSubtype r s = true)
    (hst : h.isSubtype s t = true) : h.isSubtype r t = true := by
  simp only [isSubtype, Bool.or_eq_true, beq_iff_eq, List.contains_iff_mem] at hrs hst ⊢
  rcases hrs with rfl | hrs
  · exact hst
  · rcases hst with rfl | hst
    · exact Or.inr hrs
    · exact Or.inr (supertypes_trans hnames hrs hst)

/-! ### The searches -/

/-- Looking loaded names up gives classes of these names, in their order. -/
theorem map_name_lookup (hts : ∀ t ∈ ts, t ∈ h.names) : (h.lookup ts).map ClassDecl.name = ts := by
  induction ts with
  | nil => rfl
  | cons t ts ih =>
      rw [List.forall_mem_cons] at hts
      obtain ⟨c, hc⟩ := Option.isSome_iff_exists.mp (contains_iff.mpr hts.1)
      have hname : c.name = t := by simpa using List.find?_some hc
      rw [lookup, List.filterMap_cons_some hc, List.map_cons, hname]
      exact congrArg (t :: ·) (ih hts.2)

theorem map_name_superclassChain :
    (h.superclassChain t).map ClassDecl.name = Reach.explore h.directSuperclass h.names [t] :=
  map_name_lookup fun _ => Reach.mem_of_mem_explore

theorem map_name_subtypes : (h.lookup (h.subtypes t)).map ClassDecl.name = h.subtypes t :=
  map_name_lookup fun _ => Reach.mem_of_mem_explore

theorem subclasses_eq (ht : t ∈ h.names) : h.subclasses t = .ok (h.lookup (h.subtypes t)) := by
  obtain ⟨c, hc⟩ := Option.isSome_iff_exists.mp (contains_iff.mpr ht)
  simp [subclasses, require, hc, bind, Except.bind]

/-- The closures upwards and downwards agree with each other and with chains of declared links. The search
    downwards lists its start first and no class twice; being a subtype is reflexive and transitive on all
    names; and every search comes to an end: down along the index, up, and along the superclasses. -/
theorem closures_agree {p : Program} (hp : p.Parsed) (e : Exclusions) :
    let h := Hierarchy.ofProgram p e
    (∀ a ∈ h.names, ∃ classes, h.subclasses a = .ok classes ∧
      classes.head?.map ClassDecl.name = some a ∧ (classes.map ClassDecl.name).Nodup ∧
      (∃ k, Worklist.turns h.subtypeIndex.get k ⟨[], [a]⟩ = ⟨classes.map ClassDecl.name, []⟩) ∧
      ∀ b ∈ h.names,
        (a ∈ h.supertypes b ↔ ReflTransGen h.Extends b a) ∧
        (b ∈ classes.map ClassDecl.name ↔ ReflTransGen h.Extends b a)) ∧
    (∀ t, h.isSubtype t t = true) ∧
    (∀ r s t, h.isSubtype r s = true → h.isSubtype s t = true → h.isSubtype r t = true) ∧
    ∀ t ∈ h.names,
      (∃ k, Worklist.turns h.directSupertypes k ⟨[], [t]⟩ = ⟨h.supertypes t, []⟩) ∧
      ∃ k, Worklist.turns h.directSuperclass k ⟨[], [t]⟩ =
        ⟨(h.superclassChain t).map ClassDecl.name, []⟩ := by
  intro h
  have hnames : h.names.Nodup := hp.nodup_names e
  refine ⟨?_, h.isSubtype_refl, fun _ _ _ => isSubtype_trans hnames, ?_⟩
  · intro a ha
    refine ⟨_, subclasses_eq ha, ?_, ?_, ?_, ?_⟩
    · rw [← List.head?_map, map_name_subtypes]
      exact Reach.head?_explore ha
    · rw [map_name_subtypes]
      exact Reach.nodup_explore
    · rw [map_name_subtypes, get_subtypeIndex]
      refine ⟨_, Worklist.turns_start ?_ ha⟩
      intro s _ u hu
      exact (mem_directSubtypes.mp hu).1
    · intro b hb
      rw [map_name_subtypes, mem_subtypes, mem_supertypes_iff hnames hb]
      exact ⟨Iff.rfl, Iff.rfl⟩
  · intro t ht
    rw [map_name_superclassChain]
    refine ⟨⟨_, Worklist.turns_start ?_ ht⟩, ⟨_, Worklist.turns_start ?_ ht⟩⟩
    · intro s _ u hu
      exact directSupertypes_loaded hu
    · intro s _ u hu
      exact directSuperclass_loaded hu

namespace Tangled

/-- Two classes extend each other, one of them also itself and twice an interface, which extends a type
    that is not there. -/
def program : Program :=
  { source := "tangled"
    classes :=
      [{ name := "LA", superclass := some "LB", interfaces := ["LA", "LI", "LI"] },
        { name := "LB", superclass := some "LA" },
        { name := "LI", superclass := some "LX", isAbstract := true, isInterface := true }] }

/-- The text of the program. -/
def text : String :=
  "(program (class LA (super LB) (interfaces LA LI LI)) (class LB (super LA)) " ++
    "(class LI (interface) (super LX)))"

set_option maxRecDepth 100000 in
theorem parsed : program.Parsed := by
  have htext : text.toList = _ :=
    Dump.toList_of_append (Dump.toList_of_literal rfl) (Dump.toList_of_literal rfl)
  have hread : Dump.read "tangled" text = .ok program :=
    Dump.read_of_chars htext (by with_unfolding_all rfl) (by with_unfolding_all rfl)
  exact .of_read hread

end Tangled

/-- In the tangled program the interface has both classes as subtypes, over one chain of links for each, and
    the walk along the superclasses ends where it comes back to its start. -/
theorem closures_agree_tangled :
    Tangled.program.Parsed ∧
      let h := Hierarchy.ofProgram Tangled.program {}
      (∃ classes, h.subclasses "LI" = .ok classes ∧ classes.head?.map ClassDecl.name = some "LI" ∧
        "LB" ∈ classes.map ClassDecl.name) ∧
      "LI" ∈ h.supertypes "LB" ∧ ReflTransGen h.Extends "LB" "LI" ∧
      h.isSubtype "LB" "LI" = true ∧
      ∃ k, Worklist.turns h.directSuperclass k ⟨[], ["LA"]⟩ = ⟨["LA", "LB"], []⟩ := by
  refine ⟨Tangled.parsed, ?_⟩
  intro h
  obtain ⟨hclosures, _, htrans, hends⟩ := closures_agree Tangled.parsed {}
  have hnames : h.names = ["LA", "LB", "LI"] := by cbv
  have hloaded : ∀ t ∈ ["LA", "LB", "LI"], t ∈ h.names := fun t ht => hnames ▸ ht
  obtain ⟨classes, hclasses, hhead, _, _, hagree⟩ := hclosures "LI" (hloaded _ (by decide))
  obtain ⟨hup, hdown⟩ := hagree "LB" (hloaded _ (by decide))
  have hsupertypes : h.supertypes "LB" = ["LB", "LA", "LI"] := by cbv
  have hmem : "LI" ∈ h.supertypes "LB" := by simp [hsupertypes]
  have hchain : (h.superclassChain "LA").map ClassDecl.name = ["LA", "LB"] := by cbv
  obtain ⟨_, hwalk⟩ := hends "LA" (hloaded _ (by decide))
  rw [hchain] at hwalk
  exact ⟨⟨classes, hclasses, hhead, hdown.mpr (hup.mp hmem)⟩, hmem, hup.mp hmem,
    htrans "LB" "LA" "LI" (by cbv) (by cbv), hwalk⟩

end TaintFlow.Hierarchy
