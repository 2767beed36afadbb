/-
Module: TaintFlow.Proofs.Taint.Source
Purpose: Which methods count as taint sources. They are collected from the methods that each subtype of a
  base type has, while calls run what dispatch finds. The two differ in two cases, and in these only: a
  method that only an interface implements is a source that dispatch never finds, and a method that an
  abstract declaration hides is found by dispatch and no source. Of several interfaces that declare the
  method, the one that is enumerated first decides, so each of their methods is a source in some
  enumeration.
Main exports: Hierarchy.Defaulted, Hierarchy.Offered, Hierarchy.mem_allMethods_concrete_iff,
  Hierarchy.exists_implementors, Taint.sources_dispatched, Taint.sources_not_dispatched
-/
import TaintFlow.Proofs.Hierarchy.Nearest
import TaintFlow.Taint.Source

namespace TaintFlow

namespace Taint.SourcePattern

theorem matchesSignature_iff {pattern : SourcePattern} {s : Signature} :
    pattern.matchesSignature s = true ↔
      pattern.stem.toList <+: s.name.toList ∧ s.resultType? = some pattern.result := by
  simp [matchesSignature]

/-- A signature has the beginning of the name and the result of a pattern, and it is the signature of a
    method that is found for some loaded subtype of the base that is not abstract. -/
def Describes (pattern : SourcePattern) (h : Hierarchy) (found : TypeName → Method → Prop)
    (s : Signature) : Prop :=
  pattern.stem.toList <+: s.name.toList ∧ s.resultType? = some pattern.result ∧
    ∃ c ∈ h.classes, c.isAbstract = false ∧ h.isSubtype c.name pattern.base = true ∧
      ∃ m : Method, m.signature = s ∧ found c.name m

theorem Describes.imp {pattern : SourcePattern} {h : Hierarchy} {found found' : TypeName → Method → Prop}
    {s : Signature} (hs : pattern.Describes h found s) (himp : ∀ t m, found t m → found' t m) :
    pattern.Describes h found' s := by
  obtain ⟨hname, hresult, c, hc, hclass, hsubtype, m, hm, hfound⟩ := hs
  exact ⟨hname, hresult, c, hc, hclass, hsubtype, m, hm, himp _ _ hfound⟩

end Taint.SourcePattern

namespace Hierarchy

variable {h : Hierarchy} {en : Enumeration} {t : TypeName} {s : Selector} {m : Method}

/-! ### Methods of a type and dispatch -/

/-- No superclass declares the selector, and the first of the supertypes to declare it, as they are
    enumerated, has a method for it that is not abstract. -/
structure Defaulted (h : Hierarchy) (en : Enumeration) (t : TypeName) (s : Selector) (m : Method) :
    Prop where
  unclaimed : h.Unclaimed t s
  first : FirstDeclared (h.lookup (en.arrange (h.supertypes t))) s m
  concrete : m.isAbstract = false

/-- No superclass declares the selector, and some supertype has a method for it that is not abstract. -/
structure Offered (h : Hierarchy) (t : TypeName) (s : Selector) (m : Method) : Prop where
  unclaimed : h.Unclaimed t s
  declared : ∃ c ∈ h.classes, c.name ∈ h.supertypes t ∧ c.Declares s m
  concrete : m.isAbstract = false

/-- What is offered is taken in some enumeration, and nothing else is. -/
theorem exists_defaulted_iff (hnames : h.names.Nodup) :
    (∃ en, h.Defaulted en t s m) ↔ h.Offered t s m := by
  constructor
  · rintro ⟨en, hunclaimed, ⟨before, c, after, hsplit, hc, _⟩, hconcrete⟩
    have hmem : c ∈ h.lookup (en.arrange (h.supertypes t)) := by simp [hsplit]
    obtain ⟨hloaded, hsuper⟩ := (mem_lookup hnames).mp hmem
    exact ⟨hunclaimed, ⟨c, hloaded, (en.perm _).mem_iff.mp hsuper, hc⟩, hconcrete⟩
  · rintro ⟨hunclaimed, ⟨c, hloaded, hsuper, hc⟩, hconcrete⟩
    obtain ⟨order, horder, hfirst⟩ := exists_order_of_declares hnames hloaded hsuper hc
    obtain ⟨en, rfl⟩ := Enumeration.exists_arrange horder
    exact ⟨en, hunclaimed, hfirst, hconcrete⟩

/-- A type has a method that is not abstract exactly if dispatch finds it and no abstract declaration is
    nearer, or if it comes from an interface and no superclass declares its selector. -/
theorem mem_allMethods_concrete_iff (hformed : ∀ c ∈ h.classes, c.Formed) :
    (m ∈ h.allMethods en t ∧ m.isAbstract = false) ↔
      (h.dispatch? t m.signature = some m ∧ ¬ h.Hidden t m.signature.selector) ∨
        h.Defaulted en t m.signature.selector m := by
  have hchain : ∀ c ∈ h.superclassChain t, c.Formed := fun c hc => hformed c (mem_classes_of_lookup hc)
  have hrest : ∀ c ∈ h.lookup (en.arrange (h.supertypes t)), c.Formed :=
    fun c hc => hformed c (mem_classes_of_lookup hc)
  rw [allMethods, mem_allMethodsAlong, resolveAlong?_eq, dispatch?_not_hidden_iff, Option.or_eq_some_iff]
  constructor
  · rintro ⟨hnearest | ⟨hnone, hfirst⟩, hconcrete⟩
    · exact Or.inl ⟨hnearest, hconcrete⟩
    · exact Or.inr ⟨(findSome?_method?_eq_none_iff hchain).mp hnone,
        (findSome?_method?_iff hrest).mp hfirst, hconcrete⟩
  · rintro (⟨hnearest, hconcrete⟩ | ⟨hunclaimed, hfirst, hconcrete⟩)
    · exact ⟨Or.inl hnearest, hconcrete⟩
    · exact ⟨Or.inr ⟨(findSome?_method?_eq_none_iff hchain).mpr hunclaimed,
        (findSome?_method?_iff hrest).mpr hfirst⟩, hconcrete⟩

/-! ### Sources -/

variable {pattern : Taint.SourcePattern}

/-- The sources of a pattern with a loaded base are the signatures that it describes among the methods
    of the subtypes, abstract methods apart. -/
theorem exists_implementors (hnames : h.names.Nodup) (hformed : ∀ c ∈ h.classes, c.Formed)
    (hbase : h.contains pattern.base = true) (en : Enumeration) :
    ∃ sources, h.implementors en pattern = .ok sources ∧ sources.Nodup ∧
      ∀ s, s ∈ sources ↔ pattern.Describes h (fun t m =>
        (h.dispatch? t m.signature = some m ∧ ¬ h.Hidden t m.signature.selector) ∨
          h.Defaulted en t m.signature.selector m) s := by
  obtain ⟨classes, hclasses, hmem⟩ := exists_subclasses hnames hbase
  refine ⟨_, by rw [implementors, hclasses]; rfl, nodup_eraseDups _, ?_⟩
  intro s
  rw [List.mem_eraseDups, List.mem_filter, List.mem_map, Taint.SourcePattern.matchesSignature_iff]
  constructor
  · rintro ⟨⟨m, hm, rfl⟩, hname, hresult⟩
    obtain ⟨c, hc, hm⟩ := List.mem_flatMap.mp hm
    obtain ⟨hc, hclass⟩ := List.mem_filter.mp hc
    obtain ⟨hm, hmethod⟩ := List.mem_filter.mp hm
    obtain ⟨hloaded, hsubtype⟩ := (hmem c).mp hc
    have hfound := (mem_allMethods_concrete_iff hformed).mp ⟨hm, by simpa using hmethod⟩
    exact ⟨hname, hresult, c, hloaded, by simpa using hclass, hsubtype, m, rfl, hfound⟩
  · rintro ⟨hname, hresult, c, hloaded, hclass, hsubtype, m, rfl, hfound⟩
    obtain ⟨hm, hmethod⟩ := (mem_allMethods_concrete_iff hformed).mpr hfound
    refine ⟨⟨m, List.mem_flatMap.mpr ⟨c, ?_, ?_⟩, rfl⟩, hname, hresult⟩
    · exact List.mem_filter.mpr ⟨(hmem c).mpr ⟨hloaded, hsubtype⟩, by simp [hclass]⟩
    · exact List.mem_filter.mpr ⟨hm, by simp [hmethod]⟩

/-- In some enumeration, every method that an interface offers is a source. -/
theorem exists_source_iff (hnames : h.names.Nodup) (hformed : ∀ c ∈ h.classes, c.Formed)
    (hbase : h.contains pattern.base = true) {s : Signature} :
    (∃ en sources, h.implementors en pattern = .ok sources ∧ s ∈ sources) ↔
      pattern.Describes h (fun t m =>
        (h.dispatch? t m.signature = some m ∧ ¬ h.Hidden t m.signature.selector) ∨
          h.Offered t m.signature.selector m) s := by
  constructor
  · rintro ⟨en, sources, heq, hs⟩
    obtain ⟨sources', heq', _, hmem⟩ := exists_implementors hnames hformed hbase en
    cases heq.symm.trans heq'
    apply ((hmem s).mp hs).imp
    intro t m hfound
    exact hfound.imp_right fun hdefaulted => (exists_defaulted_iff hnames).mp ⟨en, hdefaulted⟩
  · rintro ⟨hname, hresult, c, hc, hclass, hsubtype, m, hm, hfound⟩
    have hfound' : ∃ en, (h.dispatch? c.name m.signature = some m ∧
        ¬ h.Hidden c.name m.signature.selector) ∨ h.Defaulted en c.name m.signature.selector m := by
      rcases hfound with hdispatched | hoffered
      · exact ⟨.asFound, Or.inl hdispatched⟩
      · obtain ⟨en, hdefaulted⟩ := (exists_defaulted_iff hnames).mpr hoffered
        exact ⟨en, Or.inr hdefaulted⟩
    obtain ⟨en, hfound'⟩ := hfound'
    obtain ⟨sources, heq, _, hmem⟩ := exists_implementors hnames hformed hbase en
    exact ⟨en, sources, heq,
      (hmem s).mpr ⟨hname, hresult, c, hc, hclass, hsubtype, m, hm, hfound'⟩⟩

end Hierarchy

namespace Taint

/-- In each enumeration of the supertypes, a signature is a taint source exactly if the pattern describes
    it and, for some loaded subtype of the base that is not abstract, it is the signature of what dispatch
    finds, with no abstract declaration nearer, or of a method that only an interface implements: no
    superclass declares its selector, and of the supertypes that do, the one with the method is enumerated
    first. So in some enumeration every method that an interface offers is a source. -/
theorem sources_dispatched {p : Program} (hp : p.Parsed) (e : Exclusions) (pattern : SourcePattern)
    (hbase : (Hierarchy.ofProgram p e).contains pattern.base = true) :
    let h := Hierarchy.ofProgram p e
    let dispatched (t : TypeName) (m : Method) : Prop :=
      h.dispatch? t m.signature = some m ∧ ¬ h.Hidden t m.signature.selector
    (∀ en : Enumeration, ∃ sources, h.implementors en pattern = .ok sources ∧ sources.Nodup ∧
      ∀ s, s ∈ sources ↔
        pattern.Describes h (fun t m => dispatched t m ∨ h.Defaulted en t m.signature.selector m) s) ∧
    ∀ s, (∃ en sources, h.implementors en pattern = .ok sources ∧ s ∈ sources) ↔
      pattern.Describes h (fun t m => dispatched t m ∨ h.Offered t m.signature.selector m) s := by
  intro h dispatched
  have hnames : h.names.Nodup := hp.nodup_names e
  have hformed : ∀ c ∈ h.classes, c.Formed := fun c hc =>
    hp.formed.classes c (List.mem_of_mem_filter hc)
  constructor
  · intro en
    exact Hierarchy.exists_implementors hnames hformed hbase en
  · intro s
    exact Hierarchy.exists_source_iff hnames hformed hbase

/-- In the program with a map, asking for the size is a source in every enumeration: a class that is not
    abstract implements what the interface declares. -/
theorem sources_dispatched_sizes :
    let h := Hierarchy.ofProgram Sizes.program {}
    let pattern : SourcePattern := ⟨"Ljava/util/Map", "si", "I"⟩
    Sizes.program.Parsed ∧ h.contains pattern.base = true ∧
    ∀ en, ∃ sources, h.implementors en pattern = .ok sources ∧ sources.Nodup ∧
      Sizes.size.signature ∈ sources := by
  intro h pattern
  have hparsed : Sizes.program.Parsed := .of_read Sizes.read_text
  have hbase : h.contains pattern.base = true := by cbv
  refine ⟨hparsed, hbase, ?_⟩
  intro en
  obtain ⟨sources, heq, hnodup, hmem⟩ := (sources_dispatched hparsed {} pattern hbase).1 en
  have hresult : Sizes.size.signature.resultType? = some pattern.result := by cbv
  have hsubtype : h.isSubtype "LA" pattern.base = true := by cbv
  have hnearest : h.nearest? "LA" Sizes.size.signature.selector = some Sizes.size := by cbv
  refine ⟨sources, heq, hnodup, (hmem _).mpr ⟨by decide, hresult, ?_⟩⟩
  exact ⟨_, List.mem_cons_of_mem _ List.mem_cons_self, rfl, hsubtype, Sizes.size, rfl,
    Or.inl (Hierarchy.dispatch?_not_hidden_iff.mpr ⟨hnearest, rfl⟩)⟩

/-! ### Where sources and dispatch differ -/

namespace Inheriting

/-- An interface implements its method. -/
def read : Method :=
  { signature := ⟨"LI", "read", "()I"⟩
    loader := .application
    code := #[.const 2 (.int 0), .ret (some 2)] }

/-- A class inherits it. -/
def program : Program :=
  { source := "inheriting"
    classes :=
      [{ name := "LI", isAbstract := true, isInterface := true, methods := [read] },
        { name := "LC", interfaces := ["LI"] }] }

/-- The text of the program. -/
def text : String :=
  "(program (class LI (interface) (method read \"()I\" (body (const 2 0) (return 2)))) " ++
    "(class LC (interfaces LI)))"

set_option maxRecDepth 100000 in
theorem parsed : program.Parsed := by
  have htext : text.toList = _ :=
    Dump.toList_of_append (Dump.toList_of_literal rfl) (Dump.toList_of_literal rfl)
  have hread : Dump.read "inheriting" text = .ok program :=
    Dump.read_of_chars htext (by with_unfolding_all rfl) (by with_unfolding_all rfl)
  exact .of_read hread

theorem supertypes_eq : (Hierarchy.ofProgram program {}).supertypes "LC" = ["LC", "LI"] := by cbv

/-- The class has the method of the interface, in whatever order its supertypes are enumerated: no other
    method is declared. -/
theorem defaulted (en : Enumeration) :
    (Hierarchy.ofProgram program {}).Defaulted en "LC" read.signature.selector read := by
  have hchain : (Hierarchy.ofProgram program {}).superclassChain "LC" = [program.classes[1]] := by cbv
  have hunclaimed : (Hierarchy.ofProgram program {}).Unclaimed "LC" read.signature.selector := by
    intro c hc k hk
    rw [hchain, List.mem_singleton] at hc
    subst hc
    cases hk.declared
  have hformed := parsed.formed
  have hdeclared : ∃ c ∈ (Hierarchy.ofProgram program {}).classes,
      c.name ∈ (Hierarchy.ofProgram program {}).supertypes "LC" ∧
        ∃ k, c.Declares read.signature.selector k :=
    ⟨_, List.mem_cons_self, by simp [supertypes_eq], read, List.mem_cons_self, rfl⟩
  obtain ⟨m, hm⟩ := Hierarchy.exists_resolveAlong? (parsed.nodup_names {}) hformed.classes
    (en.perm _) hdeclared
  have hfirst := (Hierarchy.resolveAlong?_of_unclaimed hformed.classes hunclaimed).mp hm
  have hread : m = read := by
    obtain ⟨_, c, _, hsplit, hc, _⟩ := hfirst
    have hloaded : c ∈ (Hierarchy.ofProgram program {}).classes := by
      apply Hierarchy.mem_classes_of_lookup
      rw [hsplit]
      simp
    rcases List.mem_cons.mp hloaded with rfl | hloaded
    · exact List.mem_singleton.mp hc.declared
    · rw [List.mem_singleton.mp hloaded] at hc
      cases hc.declared
  rw [hread] at hfirst
  exact ⟨hunclaimed, hfirst, rfl⟩

end Inheriting

/-- Sources are not what dispatch finds. A method that only an interface implements is a source, in whatever
    order supertypes are enumerated, although no class dispatches to it. -/
theorem sources_not_dispatched :
    Inheriting.program.Parsed ∧
      let h := Hierarchy.ofProgram Inheriting.program {}
      let pattern : SourcePattern := ⟨"LI", "read", "I"⟩
      (∀ en, ∃ sources, h.implementors en pattern = .ok sources ∧
        Inheriting.read.signature ∈ sources) ∧
      ∀ c ∈ h.classes, c.isAbstract = false → h.dispatch? c.name Inheriting.read.signature = none := by
  refine ⟨Inheriting.parsed, ?_⟩
  intro h pattern
  constructor
  · intro en
    have hbase : h.contains pattern.base = true := by cbv
    have hsubtype : h.isSubtype "LC" pattern.base = true := by cbv
    have hresult : Inheriting.read.signature.resultType? = some pattern.result := by cbv
    obtain ⟨sources, heq, _, hmem⟩ := Hierarchy.exists_implementors
      (Inheriting.parsed.nodup_names {}) Inheriting.parsed.formed.classes hbase en
    refine ⟨sources, heq, (hmem _).mpr ⟨by decide, hresult, ?_⟩⟩
    exact ⟨_, List.mem_cons_of_mem _ List.mem_cons_self, rfl, hsubtype, Inheriting.read, rfl,
      Or.inr (Inheriting.defaulted en)⟩
  · intro c hc hclass
    rcases List.mem_cons.mp hc with rfl | hc
    · cases hclass
    · rw [List.mem_singleton.mp hc]
      cbv

end Taint

end TaintFlow
