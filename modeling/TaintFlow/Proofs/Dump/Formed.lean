/-
Module: TaintFlow.Proofs.Dump.Formed
Purpose: What every program has that the reader returns. Class names differ; a method's signature names
  its class, and no two methods of a class have one selector, so a signature determines its method; a
  method without a body has no instructions. Each reading function gets one lemma that says what its
  success means, and the lemma for a whole program is assembled along the calls.
Main exports: Program.Parsed, Method.Parsed, Program.Formed, Program.Parsed.formed,
  Program.Parsed.eq_of_signature, Dump.read_of_chars, TwoCalls.parsed
-/
import Mathlib.Data.List.Nodup
import TaintFlow.Dump.Reader

namespace TaintFlow

/-- The programs that expressions describe, wherever the expressions come from. -/
def Program.Parsed (p : Program) : Prop := ∃ source tree, Dump.program source tree = .ok p

/-- The methods of such programs. -/
def Method.Parsed (m : Method) : Prop := ∃ p : Program, p.Parsed ∧ m ∈ p.methods

/-- What the methods of a class satisfy. -/
structure ClassDecl.Formed (c : ClassDecl) : Prop where
  owner : ∀ m ∈ c.methods, m.signature.owner = c.name
  selectors : (c.methods.map fun m => m.signature.selector).Nodup
  bodiless : ∀ m ∈ c.methods, m.hasBody = false → m.code = #[]

/-- What the classes of a program satisfy. -/
structure Program.Formed (p : Program) : Prop where
  names : (p.classes.map ClassDecl.name).Nodup
  classes : ∀ c ∈ p.classes, c.Formed

namespace Dump

/-! ### Success of composed readers -/

/-- A sequence succeeds exactly when its parts do, one after the other. -/
theorem bind_eq_ok {ε α β : Type} {x : Except ε α} {f : α → Except ε β} {b : β} :
    x >>= f = .ok b ↔ ∃ a, x = .ok a ∧ f a = .ok b := by
  cases x with
  | error e => simp [bind, Except.bind]
  | ok a => simp [bind, Except.bind]

/-- Saying where a fault is changes no success. -/
theorem located_eq_ok {α : Type} {place : Place} {r : Except Cause α} {a : α} :
    located place r = .ok a ↔ r = .ok a := by
  cases r with
  | error e => simp [located, Except.mapError]
  | ok b => simp [located, Except.mapError]

/-- What each step of a fold keeps, the whole fold keeps. -/
theorem foldlM_ok {ε α β : Type} {f : β → α → Except ε β} {P : β → Prop}
    (hstep : ∀ b a b', P b → f b a = .ok b' → P b') {xs : List α} {b b' : β} (hb : P b)
    (h : xs.foldlM f b = .ok b') : P b' := by
  induction xs generalizing b with
  | nil =>
      cases h
      exact hb
  | cons a xs ih =>
      rw [List.foldlM_cons] at h
      obtain ⟨c, hc, hrest⟩ := bind_eq_ok.mp h
      exact ih (hstep b a c hb hc) hrest

/-! ### Methods -/

/-- The attributes make a method of the given signature whose instructions passed the check; one without
    a body has no instructions. -/
theorem method_ok {a : MethodAttributes} {c : ClassDecl} {s : Signature} {m : Method}
    (h : a.method c s = .ok m) :
    m.signature = s ∧ m.loader = c.loader ∧ m.code = a.body.getD #[] ∧
      m.code.check m.parameterCount = .ok () ∧ (m.hasBody = false → m.code = #[]) := by
  unfold MethodAttributes.method at h
  split at h
  · cases h
  · next hbody =>
      simp only at h
      split at h
      · cases h
      · next hcheck =>
          cases h
          refine ⟨rfl, rfl, rfl, hcheck, ?_⟩
          cases hb : a.body with
          | none => simp
          | some code =>
              simp [hb] at hbody
              simp [Method.hasBody, hbody]

/-- A method form has a selector whose descriptor can be read, and attributes. -/
theorem readMethod_parts {c : ClassDecl} {operands : List Sexp} {m : Method}
    (h : readMethod c operands = .ok m) :
    ∃ (s : Selector) (d : Descriptor) (attributes : List Sexp) (a : MethodAttributes),
      Descriptor.parse s.descriptor = .ok d ∧
      attributes.foldlM MethodAttributes.add {} = .ok a ∧
      a.method c ⟨c.name, s.name, s.descriptor⟩ = .ok m := by
  unfold readMethod at h
  obtain ⟨⟨selector, attributes⟩, _, h⟩ := bind_eq_ok.mp h
  have hbody : methodBody c selector attributes = .ok m := located_eq_ok.mp h
  unfold methodBody at hbody
  split at hbody
  · cases hbody
  · next d hd =>
      obtain ⟨a, ha, hm⟩ := bind_eq_ok.mp hbody
      exact ⟨selector, d, attributes, a, hd, ha, hm⟩

/-- A method form gives a method of the class. -/
theorem readMethod_ok {c : ClassDecl} {operands : List Sexp} {m : Method}
    (h : readMethod c operands = .ok m) :
    m.signature.owner = c.name ∧ (m.hasBody = false → m.code = #[]) := by
  obtain ⟨s, d, attributes, a, _, _, hm⟩ := readMethod_parts h
  obtain ⟨hs, _, _, _, hcode⟩ := method_ok hm
  exact ⟨by rw [hs], hcode⟩

/-! ### Classes -/

/-- A class has no method of a selector that the look-up does not find. -/
theorem selector_not_mem {c : ClassDecl} {s : Selector} (h : ¬ (c.method? s).isSome) :
    s ∉ c.methods.map fun m => m.signature.selector := by
  intro hmem
  obtain ⟨m, hm, rfl⟩ := List.mem_map.mp hmem
  apply h
  unfold ClassDecl.method?
  rw [List.find?_isSome]
  exact ⟨m, hm, by simp⟩

/-- Reading methods into a class changes nothing else about it. -/
theorem addMethods_header {c d : ClassDecl} {forms : List (List Sexp)}
    (h : addMethods c forms = .ok d) : d = { c with methods := d.methods } := by
  induction forms generalizing c with
  | nil =>
      cases h
      rfl
  | cons operands rest ih =>
      unfold addMethods at h
      obtain ⟨m, _, h⟩ := bind_eq_ok.mp h
      split at h
      · cases h
      · exact ih (c := { c with methods := c.methods ++ [m] }) h

/-- Reading further methods into a class keeps its methods in order. -/
theorem addMethods_ok {c d : ClassDecl} {forms : List (List Sexp)} (hc : c.Formed)
    (h : addMethods c forms = .ok d) : d.Formed := by
  induction forms generalizing c with
  | nil =>
      cases h
      exact hc
  | cons operands rest ih =>
      unfold addMethods at h
      obtain ⟨m, hm, h⟩ := bind_eq_ok.mp h
      obtain ⟨howner, hcode⟩ := readMethod_ok hm
      split at h
      · cases h
      · next hnew =>
          refine ih (c := { c with methods := c.methods ++ [m] }) ⟨?_, ?_, ?_⟩ h
          · intro k hk
            rcases List.mem_append.mp hk with hk | hk
            · exact hc.owner k hk
            · rw [List.mem_singleton.mp hk]
              exact howner
          · rw [List.map_append, List.nodup_append]
            refine ⟨hc.selectors, by simp, ?_⟩
            intro s hs t ht hst
            rw [List.map_singleton, List.mem_singleton] at ht
            subst ht
            exact selector_not_mem hnew (hst ▸ hs)
          · intro k hk
            rcases List.mem_append.mp hk with hk | hk
            · exact hc.bodiless k hk
            · rw [List.mem_singleton.mp hk]
              exact hcode

/-- No attribute changes the name of a class or gives it methods, and an interface is abstract. -/
theorem classAttributes_ok {n : TypeName} {attributes : List Sexp} {a : ClassAttributes}
    (h : classAttributes n attributes = .ok a) :
    a.decl.name = n ∧ n.toList.head? = some 'L' ∧ a.decl.methods = [] ∧
      (a.decl.isInterface = true → a.decl.isAbstract = true) := by
  unfold classAttributes at h
  split at h
  · next hname =>
      have hkept : a.decl.name = n ∧ a.decl.methods = [] ∧
          (a.decl.isInterface = true → a.decl.isAbstract = true) := by
        refine foldlM_ok (P := fun a => a.decl.name = n ∧ a.decl.methods = [] ∧
          (a.decl.isInterface = true → a.decl.isAbstract = true)) ?_ ⟨rfl, rfl, by simp⟩ h
        intro b item b' hb hadd
        unfold ClassAttributes.add at hadd
        obtain ⟨⟨tag, operands⟩, _, hadd⟩ := bind_eq_ok.mp hadd
        dsimp only at hadd
        split at hadd
        · obtain ⟨l, _, hadd⟩ := bind_eq_ok.mp hadd
          cases hadd
          exact hb
        · obtain ⟨s, _, hadd⟩ := bind_eq_ok.mp hadd
          cases hadd
          exact hb
        · obtain ⟨names, _, hadd⟩ := bind_eq_ok.mp hadd
          cases hadd
          exact hb
        · cases hadd
          exact ⟨hb.1, hb.2.1, fun _ => rfl⟩
        · cases hadd
          exact ⟨hb.1, hb.2.1, fun _ => rfl⟩
        · cases hadd
          exact hb
        · cases hadd
      exact ⟨hkept.1, hname, hkept.2⟩
  · cases h

/-- A class form gives a class whose methods are in order. -/
theorem readClass_ok {prior : Option TypeName} {s : Sexp} {c : ClassDecl}
    (h : readClass prior s = .ok c) : c.Formed := by
  unfold readClass at h
  obtain ⟨⟨n, attributes⟩, _, h⟩ := bind_eq_ok.mp h
  obtain ⟨a, ha, h⟩ := bind_eq_ok.mp h
  obtain ⟨_, _, hnone, _⟩ := classAttributes_ok (located_eq_ok.mp ha)
  have hempty : a.decl.Formed := by
    constructor <;> simp [hnone]
  exact addMethods_ok hempty h

/-! ### Programs -/

/-- Reading further classes into a program keeps its classes in order. -/
theorem addClasses_ok {p q : Program} {forms : List Sexp} (hp : p.Formed)
    (h : addClasses p forms = .ok q) : q.Formed := by
  induction forms generalizing p with
  | nil =>
      cases h
      exact hp
  | cons s rest ih =>
      unfold addClasses at h
      obtain ⟨c, hc, h⟩ := bind_eq_ok.mp h
      split at h
      · cases h
      · next hnew =>
          refine ih (p := { p with classes := p.classes ++ [c] }) ⟨?_, ?_⟩ h
          · rw [List.map_append, List.nodup_append]
            refine ⟨hp.names, by simp, ?_⟩
            intro a ha b hb hab
            rw [List.map_singleton, List.mem_singleton] at hb
            subst hb hab
            obtain ⟨d, hd, hname⟩ := List.mem_map.mp ha
            exact hnew (List.any_eq_true.mpr ⟨d, hd, by simp [hname]⟩)
          · intro d hd
            rcases List.mem_append.mp hd with hd | hd
            · exact hp.classes d hd
            · rw [List.mem_singleton.mp hd]
              exact readClass_ok hc

/-- The classes of a program are read one after the other into an empty program. -/
theorem program_eq_ok {source : String} {tree : Sexp} {p : Program} (h : program source tree = .ok p) :
    ∃ forms, addClasses { source } forms = .ok p := by
  unfold program at h
  obtain ⟨⟨tag, forms⟩, _, h⟩ := bind_eq_ok.mp h
  dsimp only at h
  split at h
  · exact ⟨forms, h⟩
  · cases h

/-- The program of a text is that of the expression in the text. -/
theorem exists_tree_of_read {source text : String} {p : Program} (h : read source text = .ok p) :
    ∃ tree, program source tree = .ok p := by
  unfold read at h
  split at h
  · exact ⟨_, h⟩
  · cases h

/-! ### Given texts

A text is read from its characters. Of a literal these are known without looking at its encoding. -/

theorem toList_of_literal {s : String} {cs : List Char} (h : s = String.ofList cs) :
    s.toList = cs := by
  rw [h, String.toList_ofList]

theorem toList_of_append {s t : String} {cs ds : List Char} (hs : s.toList = cs)
    (ht : t.toList = ds) : (s ++ t).toList = cs ++ ds := by
  rw [String.toList_append, hs, ht]

/-- Reading a text, one stage after the other. -/
theorem read_of_chars {source text : String} {cs : List Char} {s : Sexp} {p : Program}
    (htext : text.toList = cs) (hs : Sexp.assemble {} [] (Sexp.scan 0 .between cs) = .ok [s])
    (hp : program source s = .ok p) : read source text = .ok p := by
  unfold read Sexp.read Sexp.readAll
  rw [htext, hs]
  exact hp

end Dump

/-! ### Parsed programs -/

namespace Program.Parsed

variable {p : Program}

/-- Whatever text is read without a fault describes a program. -/
theorem of_read {source text : String} (h : Dump.read source text = .ok p) : p.Parsed :=
  ⟨source, Dump.exists_tree_of_read h⟩

theorem formed (h : p.Parsed) : p.Formed := by
  obtain ⟨source, tree, hread⟩ := h
  obtain ⟨forms, hforms⟩ := Dump.program_eq_ok hread
  apply Dump.addClasses_ok _ hforms
  constructor <;> simp

/-- A signature determines its method: it names the class, and the class has one method for the
    selector. -/
theorem eq_of_signature (h : p.Parsed) {m m' : Method} (hm : m ∈ p.methods) (hm' : m' ∈ p.methods)
    (hs : m.signature = m'.signature) : m = m' := by
  obtain ⟨c, hc, hmc⟩ := List.mem_flatMap.mp hm
  obtain ⟨c', hc', hmc'⟩ := List.mem_flatMap.mp hm'
  have hname : c.name = c'.name := by
    rw [← (h.formed.classes c hc).owner m hmc, hs, (h.formed.classes c' hc').owner m' hmc']
  have hclass : c = c' := List.inj_on_of_nodup_map h.formed.names hc hc' hname
  subst hclass
  exact List.inj_on_of_nodup_map (h.formed.classes c hc).selectors hmc hmc' (by rw [hs])

end Program.Parsed

/-- Abstract and native methods have no instructions. -/
theorem Method.Parsed.code_eq_empty {m : Method} (h : m.Parsed) (hbody : m.hasBody = false) :
    m.code = #[] := by
  obtain ⟨p, hp, hm⟩ := h
  obtain ⟨c, hc, hmc⟩ := List.mem_flatMap.mp hm
  exact (hp.formed.classes c hc).bodiless m hmc hbody

/-! ### A parsed program

One object is passed through the same method twice, so the two calls of that method have to be told
apart to follow it. -/

namespace TwoCalls

/-- Makes an object, passes it on, and passes on what comes back. -/
def main : Method :=
  { signature := ⟨"LA", "m", "()V"⟩
    loader := .application
    isStatic := true
    code := #[.new 1 "LA", .invoke (some 2) ⟨1, ⟨"LA", "f", "(LA;)LA;"⟩, .static⟩ [1],
      .invoke (some 3) ⟨2, ⟨"LA", "f", "(LA;)LA;"⟩, .static⟩ [2]] }

/-- Returns its argument. -/
def pass : Method :=
  { signature := ⟨"LA", "f", "(LA;)LA;"⟩
    loader := .application
    isStatic := true
    code := #[.ret (some 1)] }

/-- The two methods in one class. -/
def program : Program :=
  { source := "calls", classes := [{ name := "LA", methods := [main, pass] }] }

/-- The text of the program. -/
def text : String :=
  "(program (class LA " ++
    "(method m \"()V\" (static) (body (new 1 LA) " ++
      "(invoke 2 static LA f \"(LA;)LA;\" 1) (invoke 3 static LA f \"(LA;)LA;\" 2))) " ++
    "(method f \"(LA;)LA;\" (static) (body (return 1)))))"

set_option maxRecDepth 100000 in
theorem parsed : program.Parsed := by
  have htext : text.toList = _ :=
    Dump.toList_of_append (Dump.toList_of_append (Dump.toList_of_append
      (Dump.toList_of_literal rfl) (Dump.toList_of_literal rfl)) (Dump.toList_of_literal rfl))
      (Dump.toList_of_literal rfl)
  have hread : Dump.read "calls" text = .ok program :=
    Dump.read_of_chars htext (by with_unfolding_all rfl) (by with_unfolding_all rfl)
  exact .of_read hread

theorem main_mem : main ∈ program.methods := List.mem_cons_self

theorem pass_mem : pass ∈ program.methods := List.mem_cons_of_mem _ List.mem_cons_self

end TwoCalls

end TaintFlow
