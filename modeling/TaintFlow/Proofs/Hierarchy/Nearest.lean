/-
Module: TaintFlow.Proofs.Hierarchy.Nearest
Purpose: Which declaration a lookup finds. The first one along the superclasses comes before all others.
  Where no superclass declares the selector, the supertypes are asked in the order in which they are
  enumerated, and the first that declares it is taken, however specific it is: each declaration is found in
  some order. A lookup finds a most specific declaration if subtypes are enumerated before supertypes, which
  is always possible; in any other order it may not.
Main exports: ClassDecl.Declares, FirstDeclared, Hierarchy.MostSpecific, Hierarchy.SubtypesFirst,
  Hierarchy.nearest_declaration, Hierarchy.nearest_declaration_missed
-/
import Mathlib.Data.List.Perm.Subperm
import TaintFlow.Proofs.Dump.WellFormed
import TaintFlow.Proofs.Hierarchy.Closure
import TaintFlow.Proofs.Hierarchy.Lookup

namespace TaintFlow

/-- A class declares a method for a selector. -/
structure ClassDecl.Declares (c : ClassDecl) (s : Selector) (m : Method) : Prop where
  declared : m ∈ c.methods
  selector : m.signature.selector = s

/-- A method is the first that some classes, one after the other, declare for a selector. -/
def FirstDeclared (classes : List ClassDecl) (s : Selector) (m : Method) : Prop :=
  ∃ before c after, classes = before ++ c :: after ∧ c.Declares s m ∧
    ∀ d ∈ before, ∀ k, ¬ d.Declares s k

section

variable {classes : List ClassDecl} {s : Selector} {m : Method}

theorem ClassDecl.Formed.method?_iff {c : ClassDecl} (hc : c.Formed) :
    c.method? s = some m ↔ c.Declares s m := by
  rw [hc.method?_eq_some_iff]
  constructor
  · intro h
    exact ⟨h.1, h.2⟩
  · intro h
    exact ⟨h.declared, h.selector⟩

theorem ClassDecl.Formed.method?_eq_none_iff {c : ClassDecl} (hc : c.Formed) :
    c.method? s = none ↔ ∀ k, ¬ c.Declares s k := by
  simp only [Option.eq_none_iff_forall_ne_some, ne_eq, hc.method?_iff]

/-- Asking classes one after the other finds the first declaration. -/
theorem findSome?_method?_iff (hformed : ∀ c ∈ classes, c.Formed) :
    classes.findSome? (fun c => c.method? s) = some m ↔ FirstDeclared classes s m := by
  rw [List.findSome?_eq_some_iff]
  constructor
  · rintro ⟨before, c, after, rfl, hc, hbefore⟩
    refine ⟨before, c, after, rfl, (hformed c (by simp)).method?_iff.mp hc, ?_⟩
    intro d hd
    exact (hformed d (by simp [hd])).method?_eq_none_iff.mp (hbefore d hd)
  · rintro ⟨before, c, after, rfl, hc, hbefore⟩
    refine ⟨before, c, after, rfl, (hformed c (by simp)).method?_iff.mpr hc, ?_⟩
    intro d hd
    exact (hformed d (by simp [hd])).method?_eq_none_iff.mpr (hbefore d hd)

theorem findSome?_method?_eq_none_iff (hformed : ∀ c ∈ classes, c.Formed) :
    classes.findSome? (fun c => c.method? s) = none ↔ ∀ c ∈ classes, ∀ k, ¬ c.Declares s k := by
  rw [List.findSome?_eq_none_iff]
  constructor
  · intro h c hc
    exact (hformed c hc).method?_eq_none_iff.mp (h c hc)
  · intro h c hc
    exact (hformed c hc).method?_eq_none_iff.mpr (h c hc)

end

namespace Hierarchy

/-- No superclass of a type declares a selector, nor does the type itself. -/
def Unclaimed (h : Hierarchy) (t : TypeName) (s : Selector) : Prop :=
  ∀ c ∈ h.superclassChain t, ∀ k, ¬ c.Declares s k

/-- No supertype of a type has a declaration for a selector that is more specific than `m`: if it is a
    subtype of the type that declares `m`, then each is a subtype of the other. -/
def MostSpecific (h : Hierarchy) (t : TypeName) (s : Selector) (m : Method) : Prop :=
  ∀ c ∈ h.classes, c.name ∈ h.supertypes t → (∃ k, c.Declares s k) →
    h.isSubtype c.name m.signature.owner = true → h.isSubtype m.signature.owner c.name = true

/-- Types come before those that they are subtypes of, as far as that can be. -/
def SubtypesFirst (h : Hierarchy) (order : List TypeName) : Prop :=
  order.Pairwise fun a b => h.isSubtype b a = true → h.isSubtype a b = true

variable {h : Hierarchy} {t : TypeName} {s : Selector} {m : Method} {order : List TypeName}

/-! ### What a lookup finds -/

/-- Types in the order of an enumeration are loaded. -/
theorem names_of_perm (horder : order.Perm (h.supertypes t)) : ∀ u ∈ order, u ∈ h.names := by
  intro u hu
  exact (mem_names_of_mem_supertypes (horder.mem_iff.mp hu)).2

/-- Lookup finds the first declaration along the superclasses, or else the first among the supertypes as
    they are enumerated. -/
theorem resolveAlong?_eq_some_iff (hformed : ∀ c ∈ h.classes, c.Formed) :
    h.resolveAlong? order ⟨t, s.name, s.descriptor⟩ = some m ↔
      FirstDeclared (h.superclassChain t) s m ∨
        h.Unclaimed t s ∧ FirstDeclared (h.lookup order) s m := by
  have hchain : ∀ c ∈ h.superclassChain t, c.Formed := fun c hc => hformed c (mem_classes_of_lookup hc)
  have hrest : ∀ c ∈ h.lookup order, c.Formed := fun c hc => hformed c (mem_classes_of_lookup hc)
  rw [resolveAlong?_eq, Option.or_eq_some_iff]
  exact or_congr (findSome?_method?_iff hchain)
    (and_congr (findSome?_method?_eq_none_iff hchain) (findSome?_method?_iff hrest))

/-- The methods of a type have one for each selector: the one that lookup finds. -/
theorem mem_allMethodsAlong_iff :
    m ∈ h.allMethodsAlong order t ∧ m.signature.selector = s ↔
      h.resolveAlong? order ⟨t, s.name, s.descriptor⟩ = some m := by
  rw [mem_allMethodsAlong]
  constructor
  · rintro ⟨hm, rfl⟩
    exact hm
  · intro hm
    have hselector := selector_of_resolveAlong? hm
    obtain ⟨hname, hdescriptor⟩ := Selector.mk.inj hselector
    rw [hname, hdescriptor]
    exact ⟨hm, hselector⟩

/-- A selector that some supertype declares is found. -/
theorem exists_resolveAlong? (hnames : h.names.Nodup) (hformed : ∀ c ∈ h.classes, c.Formed)
    (horder : order.Perm (h.supertypes t))
    (hdeclared : ∃ c ∈ h.classes, c.name ∈ h.supertypes t ∧ ∃ k, c.Declares s k) :
    ∃ m, h.resolveAlong? order ⟨t, s.name, s.descriptor⟩ = some m := by
  obtain ⟨c, hc, hsuper, k, hk⟩ := hdeclared
  apply Option.ne_none_iff_exists'.mp
  intro hnone
  rw [resolveAlong?_eq, Option.or_eq_none_iff] at hnone
  have hrest : ∀ d ∈ h.lookup order, d.Formed := fun d hd => hformed d (mem_classes_of_lookup hd)
  have hmem : c ∈ h.lookup order := (mem_lookup hnames).mpr ⟨hc, horder.mem_iff.mpr hsuper⟩
  exact (findSome?_method?_eq_none_iff hrest).mp hnone.2 c hmem k hk

/-! ### Orders in which the most specific declaration comes first -/

/-- Where subtypes come first, the first declaration is most specific: whatever declares the selector comes
    after it. -/
theorem mostSpecific_of_first (hnames : h.names.Nodup) (hformed : ∀ c ∈ h.classes, c.Formed)
    (horder : order.Perm (h.supertypes t)) (hfirst : h.SubtypesFirst order)
    (hm : FirstDeclared (h.lookup order) s m) : h.MostSpecific t s m := by
  obtain ⟨before, c, after, hsplit, hc, hbefore⟩ := hm
  have hloaded : c ∈ h.classes := by
    have hmem : c ∈ h.lookup order := by simp [hsplit]
    exact mem_classes_of_lookup hmem
  have howner : m.signature.owner = c.name := (hformed c hloaded).owner m hc.declared
  rw [SubtypesFirst, ← map_name_lookup (names_of_perm horder), List.pairwise_map, hsplit,
    List.pairwise_append, List.pairwise_cons] at hfirst
  intro d hd hsuper hdeclares hsub
  rw [howner] at hsub ⊢
  have hmem : d ∈ h.lookup order := (mem_lookup hnames).mpr ⟨hd, horder.mem_iff.mpr hsuper⟩
  rw [hsplit, List.mem_append, List.mem_cons] at hmem
  rcases hmem with hd' | rfl | hd'
  · obtain ⟨k, hk⟩ := hdeclares
    exact absurd hk (hbefore d hd' k)
  · exact h.isSubtype_refl _
  · exact hfirst.2.1.1 d hd' hsub

/-- A subtype has all supertypes of what it is a subtype of, and itself besides if there is no way back. -/
theorem length_supertypes_lt (hnames : h.names.Nodup) {a b : TypeName} (hb : b ∈ h.names)
    (hsub : a ∈ h.supertypes b) (hnot : b ∉ h.supertypes a) :
    (h.supertypes a).length < (h.supertypes b).length := by
  have hself : b ∈ h.supertypes b := mem_supertypes.mpr (.refl hb)
  have hincluded : (b :: h.supertypes a) ⊆ h.supertypes b := by
    intro u hu
    rcases List.mem_cons.mp hu with rfl | hu
    · exact hself
    · exact supertypes_trans hnames hsub hu
  have hnodup : (b :: h.supertypes a).Nodup := List.nodup_cons.mpr ⟨hnot, Reach.nodup_explore⟩
  exact (hnodup.subperm hincluded).length_le

/-- The supertypes can be enumerated with subtypes first: by the number of supertypes that they have
    themselves. -/
theorem exists_subtypesFirst (hnames : h.names.Nodup) :
    ∃ order, order.Perm (h.supertypes t) ∧ h.SubtypesFirst order := by
  let least : TypeName → TypeName → Bool :=
    fun a b => decide ((h.supertypes b).length ≤ (h.supertypes a).length)
  refine ⟨(h.supertypes t).mergeSort least, List.mergeSort_perm _ _, ?_⟩
  have htrans : ∀ a b c, least a b = true → least b c = true → least a c = true := by
    intro a b c hab hbc
    simp only [least, decide_eq_true_eq] at hab hbc ⊢
    omega
  have htotal : ∀ a b, (least a b || least b a) = true := by
    intro a b
    simp only [least, Bool.or_eq_true, decide_eq_true_eq]
    omega
  apply (List.pairwise_mergeSort htrans htotal (h.supertypes t)).imp_of_mem
  intro a b ha hb hle hsub
  have ha' := (mem_names_of_mem_supertypes (List.mem_mergeSort.mp ha)).2
  have hb' := (mem_names_of_mem_supertypes (List.mem_mergeSort.mp hb)).2
  rw [isSubtype_iff ha'] at hsub
  rw [isSubtype_iff hb']
  by_contra hnot
  have hlt := length_supertypes_lt hnames hb' hsub hnot
  simp only [least, decide_eq_true_eq] at hle
  omega

/-! ### Orders in which a given declaration comes first -/

/-- Every declaration that a supertype has can come first. -/
theorem exists_order_of_declares (hnames : h.names.Nodup) {c : ClassDecl} (hc : c ∈ h.classes)
    (hsuper : c.name ∈ h.supertypes t) (hm : c.Declares s m) :
    ∃ order, order.Perm (h.supertypes t) ∧ FirstDeclared (h.lookup order) s m := by
  have hfind : h.find? c.name = some c := (find?_eq_some_iff hnames).mpr ⟨hc, rfl⟩
  refine ⟨c.name :: (h.supertypes t).erase c.name, (List.perm_cons_erase hsuper).symm, ?_⟩
  refine ⟨[], c, h.lookup ((h.supertypes t).erase c.name), ?_, hm, by simp⟩
  rw [lookup, List.filterMap_cons_some hfind]
  rfl

/-- Where no superclass declares the selector, lookup finds the first declaration in the enumeration. -/
theorem resolveAlong?_of_unclaimed (hformed : ∀ c ∈ h.classes, c.Formed) (hunclaimed : h.Unclaimed t s) :
    h.resolveAlong? order ⟨t, s.name, s.descriptor⟩ = some m ↔ FirstDeclared (h.lookup order) s m := by
  rw [resolveAlong?_eq_some_iff hformed]
  constructor
  · intro hm
    rcases hm with ⟨before, c, after, hsplit, hc, _⟩ | ⟨_, hm⟩
    · exact absurd hc (hunclaimed c (by simp [hsplit]) m)
    · exact hm
  · intro hm
    exact Or.inr ⟨hunclaimed, hm⟩

/-- So lookup finds a most specific declaration whatever the enumeration exactly if all are. -/
theorem forall_order_mostSpecific_iff (hnames : h.names.Nodup) (hformed : ∀ c ∈ h.classes, c.Formed)
    (hunclaimed : h.Unclaimed t s) :
    (∀ order m, order.Perm (h.supertypes t) →
        h.resolveAlong? order ⟨t, s.name, s.descriptor⟩ = some m → h.MostSpecific t s m) ↔
      ∀ c ∈ h.classes, c.name ∈ h.supertypes t → ∀ m, c.Declares s m → h.MostSpecific t s m := by
  constructor
  · intro hall c hc hsuper m hm
    obtain ⟨order, horder, hfirst⟩ := exists_order_of_declares hnames hc hsuper hm
    exact hall order m horder ((resolveAlong?_of_unclaimed hformed hunclaimed).mpr hfirst)
  · intro hall order m horder hm
    obtain ⟨before, c, after, hsplit, hc, _⟩ := (resolveAlong?_of_unclaimed hformed hunclaimed).mp hm
    have hmem : c ∈ h.lookup order := by simp [hsplit]
    obtain ⟨hloaded, hsuper⟩ := (mem_lookup hnames).mp hmem
    exact hall c hloaded (horder.mem_iff.mp hsuper) m hc

/-! ### The result -/

/-- A lookup finds one declaration: the first along the superclasses, or else the first in the enumeration
    of the supertypes. In the second case it is most specific if subtypes are enumerated first, and such an
    enumeration exists; it is most specific in every enumeration only if all declarations among the
    supertypes are. -/
theorem nearest_declaration {p : Program} (hp : p.Parsed) (e : Exclusions) (t : TypeName) (s : Selector)
    (hdeclared : ∃ c ∈ (Hierarchy.ofProgram p e).classes,
      c.name ∈ (Hierarchy.ofProgram p e).supertypes t ∧ ∃ k, c.Declares s k) :
    let h := Hierarchy.ofProgram p e
    let found order := h.resolveAlong? order ⟨t, s.name, s.descriptor⟩
    (∀ order, order.Perm (h.supertypes t) → ∃ m, found order = some m ∧
      (∀ k, k ∈ h.allMethodsAlong order t ∧ k.signature.selector = s ↔ k = m) ∧
      (FirstDeclared (h.superclassChain t) s m ∨
        h.Unclaimed t s ∧ FirstDeclared (h.lookup order) s m)) ∧
    (h.Unclaimed t s →
      (∀ order m, order.Perm (h.supertypes t) → h.SubtypesFirst order → found order = some m →
        h.MostSpecific t s m) ∧
      (∃ order, order.Perm (h.supertypes t) ∧ h.SubtypesFirst order) ∧
      ((∀ order m, order.Perm (h.supertypes t) → found order = some m → h.MostSpecific t s m) ↔
        ∀ c ∈ h.classes, c.name ∈ h.supertypes t → ∀ m, c.Declares s m → h.MostSpecific t s m)) := by
  intro h found
  have hnames : h.names.Nodup := hp.nodup_names e
  have hformed : ∀ c ∈ h.classes, c.Formed := fun c hc =>
    hp.formed.classes c (List.mem_of_mem_filter hc)
  constructor
  · intro order horder
    obtain ⟨m, hm⟩ := exists_resolveAlong? hnames hformed horder hdeclared
    refine ⟨m, hm, ?_, (resolveAlong?_eq_some_iff hformed).mp hm⟩
    intro k
    rw [mem_allMethodsAlong_iff, hm, Option.some.injEq]
    exact eq_comm
  · intro hunclaimed
    refine ⟨?_, exists_subtypesFirst hnames, forall_order_mostSpecific_iff hnames hformed hunclaimed⟩
    intro order m horder hsubtypes hm
    apply mostSpecific_of_first hnames hformed horder hsubtypes
    exact (resolveAlong?_of_unclaimed hformed hunclaimed).mp hm

namespace Overlapping

/-- An interface declares a method. -/
def general : Method := { signature := ⟨"LI", "read", "()I"⟩, loader := .application, isAbstract := true }

/-- An interface below it implements the method. -/
def special : Method :=
  { signature := ⟨"LJ", "read", "()I"⟩
    loader := .application
    code := #[.const 2 (.int 0), .ret (some 2)] }

/-- A class names both interfaces, the general one first. -/
def program : Program :=
  { source := "overlapping"
    classes :=
      [{ name := "LI", isAbstract := true, isInterface := true, methods := [general] },
        { name := "LJ", interfaces := ["LI"], isAbstract := true, isInterface := true,
          methods := [special] },
        { name := "LC", interfaces := ["LI", "LJ"] }] }

/-- The text of the program. -/
def text : String :=
  "(program (class LI (interface) (method read \"()I\" (abstract))) " ++
    "(class LJ (interface) (interfaces LI) (method read \"()I\" (body (const 2 0) (return 2)))) " ++
    "(class LC (interfaces LI LJ)))"

set_option maxRecDepth 100000 in
theorem parsed : program.Parsed := by
  have htext : text.toList = _ :=
    Dump.toList_of_append
      (Dump.toList_of_append (Dump.toList_of_literal rfl) (Dump.toList_of_literal rfl))
      (Dump.toList_of_literal rfl)
  have hread : Dump.read "overlapping" text = .ok program :=
    Dump.read_of_chars htext (by with_unfolding_all rfl) (by with_unfolding_all rfl)
  exact .of_read hread

theorem supertypes_eq : (Hierarchy.ofProgram program {}).supertypes "LC" = ["LC", "LI", "LJ"] := by cbv

theorem unclaimed : (Hierarchy.ofProgram program {}).Unclaimed "LC" ⟨"read", "()I"⟩ := by
  have hchain : (Hierarchy.ofProgram program {}).superclassChain "LC" = [program.classes[2]] := by cbv
  intro c hc k hk
  rw [hchain, List.mem_singleton] at hc
  subst hc
  cases hk.declared

end Overlapping

/-- Of two interfaces that declare a method, one below the other, some enumeration makes a lookup find a most
    specific declaration. -/
theorem nearest_declaration_overlapping :
    Overlapping.program.Parsed ∧
      let h := Hierarchy.ofProgram Overlapping.program {}
      (∃ c ∈ h.classes, c.name ∈ h.supertypes "LC" ∧ ∃ k, c.Declares ⟨"read", "()I"⟩ k) ∧
      h.Unclaimed "LC" ⟨"read", "()I"⟩ ∧
      ∃ order m, order.Perm (h.supertypes "LC") ∧
        h.resolveAlong? order ⟨"LC", "read", "()I"⟩ = some m ∧
        h.MostSpecific "LC" ⟨"read", "()I"⟩ m := by
  have hdeclared : ∃ c ∈ (Hierarchy.ofProgram Overlapping.program {}).classes,
      c.name ∈ (Hierarchy.ofProgram Overlapping.program {}).supertypes "LC" ∧
        ∃ k, c.Declares ⟨"read", "()I"⟩ k :=
    ⟨_, List.mem_cons_self, by simp [Overlapping.supertypes_eq], Overlapping.general, List.mem_cons_self, rfl⟩
  obtain ⟨hfound, hunclaimed⟩ := nearest_declaration Overlapping.parsed {} "LC" ⟨"read", "()I"⟩ hdeclared
  obtain ⟨hspecific, ⟨order, horder, hfirst⟩, _⟩ := hunclaimed Overlapping.unclaimed
  obtain ⟨m, hm, _⟩ := hfound order horder
  exact ⟨Overlapping.parsed, hdeclared, Overlapping.unclaimed, order, m, horder, hm,
    hspecific order m horder hfirst hm⟩

/-- The nearest declaration does not win. With supertypes taken breadth first, a class that names an
    interface and another one below it gets the method of the general interface, although the other one
    declares it too. -/
theorem nearest_declaration_missed :
    Overlapping.program.Parsed ∧
      let h := Hierarchy.ofProgram Overlapping.program {}
      h.Unclaimed "LC" ⟨"read", "()I"⟩ ∧
      h.resolve? .asFound ⟨"LC", "read", "()I"⟩ = some Overlapping.general ∧
      h.allMethods .asFound "LC" = [Overlapping.general] ∧
      ¬ h.MostSpecific "LC" ⟨"read", "()I"⟩ Overlapping.general := by
  refine ⟨Overlapping.parsed, Overlapping.unclaimed, by cbv, by cbv, ?_⟩
  intro hspecific
  have hnot : (Hierarchy.ofProgram Overlapping.program {}).isSubtype "LI" "LJ" = false := by cbv
  have hback : (Hierarchy.ofProgram Overlapping.program {}).isSubtype "LI" "LJ" = true :=
    hspecific _ (List.mem_cons_of_mem _ List.mem_cons_self) (by simp [Overlapping.supertypes_eq])
      ⟨Overlapping.special, List.mem_cons_self, rfl⟩ (by cbv)
  rw [hnot] at hback
  cases hback

end Hierarchy

end TaintFlow
