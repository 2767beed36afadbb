/-
Module: TaintFlow.Proofs.Hierarchy.Agreement
Purpose: The three ways to find a method agree. Going through all supertypes and keeping the first method of
  each selector gives, for a selector, what looking for that selector alone gives; there is one exactly if
  some supertype declares it. Dispatch looks in fewer classes and passes over abstract methods; where the
  method is neither abstract nor out of its reach, it finds the same.
Main exports: Hierarchy.nodup_selectors, Hierarchy.exists_resolveAlong?_iff,
  Hierarchy.dispatch?_of_resolveAlong?, Hierarchy.lookups_agree
-/
import TaintFlow.Proofs.Hierarchy.Nearest

namespace TaintFlow.Hierarchy

open Reach (Reaches)
open Relation (ReflTransGen)

variable {h : Hierarchy} {t : TypeName} {s : Selector} {m : Method} {order : List TypeName}

/-! ### Superclasses among the supertypes -/

theorem directSuperclass_subset {u : TypeName} (hu : u ∈ h.directSuperclass t) :
    u ∈ h.directSupertypes t := by
  unfold directSuperclass at hu
  unfold directSupertypes
  cases hfind : h.find? t with
  | none => simp [hfind] at hu
  | some c =>
      simp only [hfind, List.mem_filter] at hu ⊢
      exact ⟨List.mem_append_left _ hu.1, hu.2⟩

theorem supertype_of_inherited {u : TypeName} (hpath : Reaches h.directSuperclass h.names t u) :
    u ∈ h.supertypes t := by
  apply mem_supertypes.mpr
  induction hpath with
  | refl ht => exact .refl ht
  | step _ hlink hmem ih => exact .step ih (directSuperclass_subset hlink) hmem

/-- The walk along the superclasses meets supertypes only. -/
theorem supertype_of_mem_superclassChain (hnames : h.names.Nodup) {c : ClassDecl}
    (hc : c ∈ h.superclassChain t) : c.name ∈ h.supertypes t := by
  rw [superclassChain, mem_lookup hnames, Reach.mem_explore_iff] at hc
  obtain ⟨_, start, hstart, hpath⟩ := hc
  rw [List.mem_singleton] at hstart
  subst hstart
  exact supertype_of_inherited hpath

/-! ### One method for each selector -/

/-- Keeping the first method of each selector leaves no selector twice. -/
theorem nodup_keepFirst {found ms : List Method}
    (hfound : (found.map fun f => f.signature.selector).Nodup) :
    ((ms.foldl (fun found m =>
        if found.any fun f => f.signature.selector == m.signature.selector then found
        else found ++ [m]) found).map fun f => f.signature.selector).Nodup := by
  induction ms generalizing found with
  | nil => exact hfound
  | cons k ms ih =>
      rw [List.foldl_cons]
      apply ih
      split
      · exact hfound
      · next hany =>
          have hnew : k.signature.selector ∉ found.map fun f => f.signature.selector := by
            simpa using hany
          rw [List.map_append, List.map_singleton, ← List.concat_eq_append]
          exact hfound.concat hnew

theorem nodup_selectors :
    ((h.allMethodsAlong order t).map fun m => m.signature.selector).Nodup :=
  nodup_keepFirst List.nodup_nil

/-- The methods of a type that have a selector. -/
def methodsFor (h : Hierarchy) (order : List TypeName) (t : TypeName) (s : Selector) : List Method :=
  (h.allMethodsAlong order t).filter fun m => m.signature.selector == s

theorem length_methodsFor_le : (h.methodsFor order t s).length ≤ 1 := by
  have hall : (h.methodsFor order t s).map (fun m => m.signature.selector) =
      List.replicate (h.methodsFor order t s).length s := by
    apply List.eq_replicate_iff.mpr
    constructor
    · exact List.length_map _
    · intro selector hselector
      obtain ⟨m, hm, rfl⟩ := List.mem_map.mp hselector
      exact eq_of_beq (List.mem_filter.mp hm).2
  have hnodup : ((h.methodsFor order t s).map fun m => m.signature.selector).Nodup :=
    nodup_selectors.sublist (List.filter_sublist.map _)
  rw [hall] at hnodup
  exact List.nodup_replicate.mp hnodup

theorem mem_methodsFor :
    m ∈ h.methodsFor order t s ↔ h.resolveAlong? order ⟨t, s.name, s.descriptor⟩ = some m := by
  rw [← mem_allMethodsAlong_iff, methodsFor, List.mem_filter, beq_iff_eq]

theorem methodsFor_eq_nil_iff :
    h.methodsFor order t s = [] ↔ h.resolveAlong? order ⟨t, s.name, s.descriptor⟩ = none := by
  simp only [List.eq_nil_iff_forall_not_mem, Option.eq_none_iff_forall_ne_some, ne_eq, mem_methodsFor]

/-! ### Declarations -/

/-- A lookup finds a method exactly if a loaded supertype declares one. -/
theorem exists_resolveAlong?_iff (hnames : h.names.Nodup) (hformed : ∀ c ∈ h.classes, c.Formed)
    (horder : order.Perm (h.supertypes t)) :
    (∃ m, h.resolveAlong? order ⟨t, s.name, s.descriptor⟩ = some m) ↔
      ∃ c ∈ h.classes, c.name ∈ h.supertypes t ∧ ∃ k, c.Declares s k := by
  constructor
  · rintro ⟨m, hm⟩
    rcases (resolveAlong?_eq_some_iff hformed).mp hm with hfirst | ⟨_, hfirst⟩
    · obtain ⟨before, c, after, hsplit, hdeclares, _⟩ := hfirst
      have hc : c ∈ h.superclassChain t := by simp [hsplit]
      exact ⟨c, mem_classes_of_lookup hc, supertype_of_mem_superclassChain hnames hc, m, hdeclares⟩
    · obtain ⟨before, c, after, hsplit, hdeclares, _⟩ := hfirst
      have hc : c ∈ h.lookup order := by simp [hsplit]
      obtain ⟨hloaded, hmem⟩ := (mem_lookup hnames).mp hc
      exact ⟨c, hloaded, horder.mem_iff.mp hmem, m, hdeclares⟩
  · exact exists_resolveAlong? hnames hformed horder

/-- A method that a lookup finds and a superclass declares is the nearest declaration along the
    superclasses: what is found in other supertypes is found only if no superclass declares the selector. -/
theorem nearest?_of_resolveAlong? (hformed : ∀ c ∈ h.classes, c.Formed)
    (hm : h.resolveAlong? order ⟨t, s.name, s.descriptor⟩ = some m)
    (hchain : ∃ c ∈ h.superclassChain t, m ∈ c.methods) : h.nearest? t s = some m := by
  obtain ⟨c, hc, hmem⟩ := hchain
  have hselector : m.signature.selector = s := selector_of_resolveAlong? hm
  rw [resolveAlong?_eq] at hm
  rcases Option.or_eq_some_iff.mp hm with hnearest | ⟨hnone, _⟩
  · exact hnearest
  · have hchainFormed : ∀ d ∈ h.superclassChain t, d.Formed :=
      fun d hd => hformed d (mem_classes_of_lookup hd)
    exact absurd ⟨hmem, hselector⟩ ((findSome?_method?_eq_none_iff hchainFormed).mp hnone c hc m)

/-- Dispatch finds what a lookup finds, if that is not abstract and a superclass declares it. -/
theorem dispatch?_of_resolveAlong? (hformed : ∀ c ∈ h.classes, c.Formed)
    (hm : h.resolveAlong? order ⟨t, s.name, s.descriptor⟩ = some m) (hconcrete : m.isAbstract = false)
    (hchain : ∃ c ∈ h.superclassChain t, m ∈ c.methods) (owner : TypeName) :
    h.dispatch? t ⟨owner, s.name, s.descriptor⟩ = some m :=
  dispatch?_of_nearest? (nearest?_of_resolveAlong? hformed hm hchain) hconcrete

/-! ### The result -/

/-- The lookups agree, for a loaded class and any enumeration of its supertypes. Among all its methods there
    is at most one for a selector; resolving the selector finds that one, and nothing if there is none; there
    is one exactly if a loaded supertype declares it; and dispatch finds it too, if it is not abstract and
    declared along the superclasses. -/
theorem lookups_agree {p : Program} (hp : p.Parsed) (e : Exclusions) {t : TypeName}
    (ht : t ∈ (Hierarchy.ofProgram p e).names) {order : List TypeName}
    (horder : order.Perm ((Hierarchy.ofProgram p e).supertypes t)) (s : Selector) :
    let h := Hierarchy.ofProgram p e
    let listed := h.methodsFor order t s
    let resolved := h.resolveAlong? order ⟨t, s.name, s.descriptor⟩
    listed.length ≤ 1 ∧ (∀ m, resolved = some m ↔ m ∈ listed) ∧ (resolved = none ↔ listed = []) ∧
    (listed ≠ [] ↔ ∃ c ∈ h.classes, ReflTransGen h.Extends t c.name ∧ ∃ k, c.Declares s k) ∧
    ∀ m ∈ listed, m.isAbstract = false → (∃ c ∈ h.superclassChain t, m ∈ c.methods) →
      ∀ owner, h.dispatch? t ⟨owner, s.name, s.descriptor⟩ = some m := by
  intro h listed resolved
  have hnames : h.names.Nodup := hp.nodup_names e
  have hformed : ∀ c ∈ h.classes, c.Formed := fun c hc =>
    hp.formed.classes c (List.mem_of_mem_filter hc)
  refine ⟨length_methodsFor_le, fun m => mem_methodsFor.symm, methodsFor_eq_nil_iff.symm, ?_, ?_⟩
  · simp only [← mem_supertypes_iff hnames ht]
    rw [← exists_resolveAlong?_iff hnames hformed horder, ← Option.ne_none_iff_exists']
    exact not_congr methodsFor_eq_nil_iff
  · intro m hm hconcrete hchain owner
    exact dispatch?_of_resolveAlong? hformed (mem_methodsFor.mp hm) hconcrete hchain owner

namespace Circular

/-- An interface declares a method. -/
def declared : Method :=
  { signature := ⟨"LI", "size", "()I"⟩, loader := .application, isAbstract := true }

/-- A class implements it. -/
def implemented : Method :=
  { signature := ⟨"LA", "size", "()I"⟩
    loader := .application
    code := #[.const 2 (.int 0), .ret (some 2)] }

/-- Two classes extend each other; one of them has the interface. -/
def program : Program :=
  { source := "circular"
    classes :=
      [{ name := "LI", isAbstract := true, isInterface := true, methods := [declared] },
        { name := "LA", superclass := some "LB", interfaces := ["LI"], methods := [implemented] },
        { name := "LB", superclass := some "LA" }] }

/-- The text of the program. -/
def text : String :=
  "(program (class LI (interface) (method size \"()I\")) " ++
    "(class LA (super LB) (interfaces LI) (method size \"()I\" (body (const 2 0) (return 2)))) " ++
    "(class LB (super LA)))"

set_option maxRecDepth 100000 in
theorem parsed : program.Parsed := by
  have htext : text.toList = _ :=
    Dump.toList_of_append
      (Dump.toList_of_append (Dump.toList_of_literal rfl) (Dump.toList_of_literal rfl))
      (Dump.toList_of_literal rfl)
  have hread : Dump.read "circular" text = .ok program :=
    Dump.read_of_chars htext (by with_unfolding_all rfl) (by with_unfolding_all rfl)
  exact .of_read hread

theorem supertypes_eq : (Hierarchy.ofProgram program {}).supertypes "LB" = ["LB", "LA", "LI"] := by cbv

theorem superclassChain_eq :
    (Hierarchy.ofProgram program {}).superclassChain "LB" = [program.classes[2], program.classes[1]] := by
  cbv

theorem listed_eq : (Hierarchy.ofProgram program {}).methodsFor ["LI", "LB", "LA"] "LB" ⟨"size", "()I"⟩ =
    [implemented] := by
  cbv

end Circular

/-- Two classes extend each other. The one that declares nothing inherits the method of the other, also if
    the interface that declares the method is enumerated first. -/
theorem lookups_agree_circular :
    Circular.program.Parsed ∧
      let h := Hierarchy.ofProgram Circular.program {}
      "LB" ∈ h.names ∧ ["LI", "LB", "LA"].Perm (h.supertypes "LB") ∧
      h.resolveAlong? ["LI", "LB", "LA"] ⟨"LB", "size", "()I"⟩ = some Circular.implemented ∧
      (∃ c ∈ h.classes, ReflTransGen h.Extends "LB" c.name ∧ ∃ k, c.Declares ⟨"size", "()I"⟩ k) ∧
      h.dispatch? "LB" ⟨"LI", "size", "()I"⟩ = some Circular.implemented := by
  have hloaded : "LB" ∈ (Hierarchy.ofProgram Circular.program {}).names := by
    have hnames : (Hierarchy.ofProgram Circular.program {}).names = ["LI", "LA", "LB"] := by cbv
    simp [hnames]
  have horder : ["LI", "LB", "LA"].Perm ((Hierarchy.ofProgram Circular.program {}).supertypes "LB") := by
    rw [Circular.supertypes_eq]
    decide
  obtain ⟨_, hresolved, _, hdeclared, hdispatch⟩ :=
    lookups_agree Circular.parsed {} hloaded horder ⟨"size", "()I"⟩
  rw [Circular.listed_eq] at hdeclared
  have hmem : Circular.implemented ∈ (Hierarchy.ofProgram Circular.program {}).methodsFor
      ["LI", "LB", "LA"] "LB" ⟨"size", "()I"⟩ := by
    rw [Circular.listed_eq]
    exact List.mem_cons_self
  have hchain : ∃ c ∈ (Hierarchy.ofProgram Circular.program {}).superclassChain "LB",
      Circular.implemented ∈ c.methods := by
    rw [Circular.superclassChain_eq]
    exact ⟨_, List.mem_cons_of_mem _ List.mem_cons_self, List.mem_cons_self⟩
  exact ⟨Circular.parsed, hloaded, horder, (hresolved _).mpr hmem, hdeclared.mp (List.cons_ne_nil _ _),
    hdispatch _ hmem rfl hchain "LI"⟩

end TaintFlow.Hierarchy
