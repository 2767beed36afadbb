/-
Module: TaintFlow.Proofs.Hierarchy.Lookup
Purpose: How the ways to find a method relate. Whatever is found is declared by a loaded class. The methods
  of a type are, for each selector, the declaration that the selector resolves to. Resolving looks along
  the superclasses and then in all supertypes; dispatch looks along the superclasses only and passes over
  abstract methods, so along the superclasses the two find the same method unless an abstract one stands
  before it.
Main exports: Hierarchy.mem_methods_of_resolve?, Hierarchy.mem_methods_of_dispatch?,
  Hierarchy.mem_allMethodsAlong, Hierarchy.nearest?, Hierarchy.Hidden, Hierarchy.dispatch?_not_hidden_iff
-/
import TaintFlow.Hierarchy.Lookup

namespace TaintFlow.Hierarchy

variable {h : Hierarchy} {en : Enumeration} {t : TypeName} {s : Selector} {m : Method}

/-! ### What is found is declared -/

theorem mem_classes_of_lookup {ts : List TypeName} {c : ClassDecl} (hc : c ∈ h.lookup ts) :
    c ∈ h.classes := by
  obtain ⟨t, _, hfind⟩ := List.mem_filterMap.mp hc
  exact List.mem_of_find?_eq_some hfind

/-- A method that a signature refers to is declared by a loaded class. -/
theorem mem_methods_of_resolve? {target : Signature} (hm : h.resolve? en target = some m) :
    m ∈ h.classes.flatMap ClassDecl.methods := by
  obtain ⟨c, hc, hmethod⟩ := List.exists_of_findSome?_eq_some hm
  have hloaded : c ∈ h.classes := by
    rcases List.mem_append.mp hc with hc | hc
    · exact mem_classes_of_lookup hc
    · exact mem_classes_of_lookup hc
  exact List.mem_flatMap.mpr ⟨c, hloaded, List.mem_of_find?_eq_some hmethod⟩

/-- A method that dispatch finds is declared by a loaded class. -/
theorem mem_methods_of_dispatch? {target : Signature} (hm : h.dispatch? t target = some m) :
    m ∈ h.classes.flatMap ClassDecl.methods := by
  obtain ⟨c, hc, hmethod⟩ := List.exists_of_findSome?_eq_some hm
  have hdeclared := (Option.filter_eq_some_iff.mp hmethod).1
  exact List.mem_flatMap.mpr
    ⟨c, mem_classes_of_lookup hc, List.mem_of_find?_eq_some hdeclared⟩

/-- The declaration that a signature refers to has its name and descriptor. -/
theorem selector_of_resolveAlong? {order : List TypeName} {target : Signature}
    (hm : h.resolveAlong? order target = some m) : m.signature.selector = target.selector := by
  obtain ⟨c, _, hmethod⟩ := List.exists_of_findSome?_eq_some hm
  simpa using List.find?_some hmethod

theorem selector_of_resolve? {target : Signature} (hm : h.resolve? en target = some m) :
    m.signature.selector = target.selector :=
  selector_of_resolveAlong? hm

/-- The method that dispatch finds has the name and descriptor of the target. -/
theorem selector_of_dispatch? {target : Signature} (hm : h.dispatch? t target = some m) :
    m.signature.selector = target.selector := by
  obtain ⟨c, _, hmethod⟩ := List.exists_of_findSome?_eq_some hm
  simpa using List.find?_some (Option.filter_eq_some_iff.mp hmethod).1

/-! ### All methods -/

/-- Of the methods with one selector the first is kept. The induction is on the methods that are left:
    one of them is kept if none with its selector was found and it is the first that has it. -/
theorem mem_keepFirst {found ms : List Method} :
    m ∈ ms.foldl (fun found m =>
        if found.any fun f => f.signature.selector == m.signature.selector then found
        else found ++ [m]) found ↔
      m ∈ found ∨ (∀ f ∈ found, f.signature.selector ≠ m.signature.selector) ∧
        ms.find? (fun f => f.signature.selector == m.signature.selector) = some m := by
  induction ms generalizing found with
  | nil => simp
  | cons k ms ih =>
      rw [List.foldl_cons, ih]
      by_cases hk : k.signature.selector = m.signature.selector
      · -- the next method has the selector: it is kept, unless one was found before
        rw [List.find?_cons_of_pos (by simpa using hk), hk]
        split
        · next hany =>
            obtain ⟨f, hf, hsame⟩ := List.any_eq_true.mp hany
            have hfound : ¬ ∀ f ∈ found, f.signature.selector ≠ m.signature.selector :=
              fun hnone => hnone f hf (eq_of_beq hsame)
            simp [hfound]
        · next hany =>
            have hnone : ∀ f ∈ found, f.signature.selector ≠ m.signature.selector :=
              fun f hf hsame => hany (List.any_eq_true.mpr ⟨f, hf, beq_iff_eq.mpr hsame⟩)
            have hlast : ¬ ∀ f ∈ found ++ [k], f.signature.selector ≠ m.signature.selector :=
              fun hall => hall k (by simp) hk
            rw [eq_false hlast, false_and, or_false, and_iff_right hnone, List.mem_append,
              List.mem_singleton, Option.some.injEq]
            exact or_congr_right eq_comm
      · -- it has another one and makes no difference
        have hne : m ≠ k := by
          rintro rfl
          exact hk rfl
        rw [List.find?_cons_of_neg (by simpa using hk)]
        split
        · rfl
        · simp [hk, hne, or_imp, forall_and]

theorem mem_allMethodsAlong {order : List TypeName} : m ∈ h.allMethodsAlong order t ↔
    h.resolveAlong? order ⟨t, m.signature.name, m.signature.descriptor⟩ = some m := by
  rw [allMethodsAlong, mem_keepFirst, List.find?_flatMap]
  simp [resolveAlong?, ClassDecl.method?, Signature.selector]

/-! ### Resolving and dispatch -/

/-- The nearest declaration along the superclasses. -/
def nearest? (h : Hierarchy) (t : TypeName) (s : Selector) : Option Method :=
  (h.superclassChain t).findSome? fun c => c.method? s

/-- An abstract method is the nearest declaration along the superclasses. -/
def Hidden (h : Hierarchy) (t : TypeName) (s : Selector) : Prop :=
  ∃ m, h.nearest? t s = some m ∧ m.isAbstract = true

theorem resolveAlong?_eq {order : List TypeName} {target : Signature} :
    h.resolveAlong? order target = (h.nearest? target.owner target.selector).or
      ((h.lookup order).findSome? fun c => c.method? target.selector) :=
  List.findSome?_append

/-- Passing over abstract methods does not pass over what comes first and is not abstract. -/
theorem dispatch?_of_nearest? {target : Signature} (hm : h.nearest? t target.selector = some m)
    (hconcrete : m.isAbstract = false) : h.dispatch? t target = some m := by
  unfold nearest? at hm
  unfold dispatch?
  generalize h.superclassChain t = chain at hm ⊢
  induction chain with
  | nil => cases hm
  | cons c chain ih =>
      rw [List.findSome?_cons] at hm ⊢
      cases hmethod : c.method? target.selector with
      | none =>
          rw [hmethod] at hm
          exact ih hm
      | some k =>
          rw [hmethod] at hm
          cases hm
          simp [Option.filter, hconcrete]

theorem dispatch?_eq_none {target : Signature} (hnone : h.nearest? t target.selector = none) :
    h.dispatch? t target = none := by
  unfold nearest? at hnone
  unfold dispatch?
  rw [List.findSome?_eq_none_iff] at hnone ⊢
  intro c hc
  rw [hnone c hc, Option.filter_none]

/-- Dispatch finds the nearest declaration, unless that is abstract. -/
theorem dispatch?_not_hidden_iff {target : Signature} :
    (h.dispatch? t target = some m ∧ ¬ h.Hidden t target.selector) ↔
      h.nearest? t target.selector = some m ∧ m.isAbstract = false := by
  constructor
  · rintro ⟨hm, hhidden⟩
    cases hnearest : h.nearest? t target.selector with
    | none =>
        rw [dispatch?_eq_none hnearest] at hm
        cases hm
    | some k =>
        have hconcrete : k.isAbstract = false := by
          apply Bool.eq_false_iff.mpr
          intro habstract
          exact hhidden ⟨k, hnearest, habstract⟩
        rw [dispatch?_of_nearest? hnearest hconcrete] at hm
        cases hm
        exact ⟨rfl, hconcrete⟩
  · rintro ⟨hnearest, hconcrete⟩
    refine ⟨dispatch?_of_nearest? hnearest hconcrete, ?_⟩
    rintro ⟨k, hk, habstract⟩
    rw [hnearest] at hk
    cases hk
    rw [hconcrete] at habstract
    cases habstract

end TaintFlow.Hierarchy
