/-
Module: TaintFlow.Proofs.Dump.WellFormed
Purpose: The reader returns well-formed programs only. What later stages rely on is collected in one
  property for each layer: an instruction, a body, a method, a class, a program. The instruction readers
  are the same proof with one exception each for calls and merges; the rest follows from the check of
  bodies and from where classes and methods were read.
Main exports: Instruction.Sound, Code.WellFormed, Method.WellFormed, ClassDecl.WellFormed,
  Program.WellFormed, Program.Parsed.wellFormed_class, Method.Parsed.wellFormed_code,
  Dump.read_wellFormed
-/
import TaintFlow.Proofs.Code
import TaintFlow.Proofs.Distinct
import TaintFlow.Proofs.Dump.Calls

namespace TaintFlow

/-! ### Well-formed programs -/

/-- The arguments and the result of a call are those that its declared target asks for. -/
def CallSite.Fits (site : CallSite) (result : Option Value) (arguments : List Value) : Prop :=
  ∃ d, Descriptor.parse site.target.descriptor = .ok d ∧
    arguments.length = d.parameters.length + (if site.kind = .static then 0 else 1) ∧
    (d.result = voidType → result = none)

/-- What an instruction satisfies by itself. -/
structure Instruction.Sound (inst : Instruction) : Prop where
  positive : ∀ v ∈ inst.defs ++ inst.uses, 0 < v
  merges : ∀ r vs, inst = .phi r vs → vs ≠ []
  fits : ∀ result site arguments, inst = .invoke result site arguments → site.Fits result arguments

/-- What the instructions of a body satisfy, for so many parameters: parameters and values have one
    definition, jumps stay inside, each instruction is sound by itself, and each call carries its index
    and shares its call site with no other instruction. -/
structure Code.WellFormed (code : Code) (parameters : Nat) : Prop extends code.Checked parameters where
  sound : ∀ (i : Nat) (inst : Instruction), code[i]? = some inst → inst.Sound
  located : code.Located
  unshared : ∀ (i j : Nat) (inst inst' : Instruction) (site : CallSite), code[i]? = some inst →
    code[j]? = some inst' → inst.site? = some site → inst'.site? = some site → i = j

/-- What a method of a class satisfies. -/
structure Method.WellFormed (c : ClassDecl) (m : Method) : Prop where
  owner : m.signature.owner = c.name
  loader : m.loader = c.loader
  descriptor : ∃ d, Descriptor.parse m.signature.descriptor = .ok d
  bodiless : m.isAbstract = true ∨ m.isNative = true → m.code = #[]
  code : m.code.WellFormed m.parameterCount

/-- What a class satisfies; each of its methods is found under its own selector. -/
structure ClassDecl.WellFormed (c : ClassDecl) : Prop where
  name : c.name.toList.head? = some 'L'
  interface : c.isInterface = true → c.isAbstract = true
  stored : ∀ s m, c.method? s = some m ↔ m ∈ c.methods ∧ m.signature.selector = s
  methods : ∀ m ∈ c.methods, m.WellFormed c

/-- What a program satisfies. -/
structure Program.WellFormed (p : Program) : Prop where
  names : (p.classes.map ClassDecl.name).Nodup
  classes : ∀ c ∈ p.classes, c.WellFormed

namespace Dump

/-! ### Values -/

@[grind →] theorem value_pos {s : Sexp} {v : Value} (h : value s = .ok v) : 0 < v := by
  unfold value at h
  split at h
  · split at h
    · next hpos =>
        cases h
        exact Int.pos_iff_toNat_pos.mp hpos
    · cases h
  · cases h

theorem result_pos {s : Sexp} {v : Value} (h : result s = .ok (some v)) : 0 < v := by
  unfold result at h
  split at h
  · cases h
  · cases hvalue : value s with
    | error e =>
        rw [hvalue] at h
        cases h
    | ok w =>
        rw [hvalue] at h
        cases h
        exact value_pos hvalue

/-- Values that are read one after the other. -/
theorem values_ok {ss : List Sexp} {vs : List Value} (h : ss.mapM value = .ok vs) :
    vs.length = ss.length ∧ ∀ v ∈ vs, 0 < v := by
  induction ss generalizing vs with
  | nil =>
      cases h
      simp
  | cons s ss ih =>
      rw [List.mapM_cons] at h
      obtain ⟨w, hw, h⟩ := bind_eq_ok.mp h
      obtain ⟨ws, hws, h⟩ := bind_eq_ok.mp h
      cases h
      obtain ⟨hlength, hpos⟩ := ih hws
      exact ⟨by simp [hlength], List.forall_mem_cons.mpr ⟨value_pos hw, hpos⟩⟩

/-! ### Instructions -/

/-- A call form makes a call that fits its target. -/
theorem call_sound (i : Nat) (operands : List Sexp) :
    Yields Instruction.Sound (call i operands) := by
  unfold call
  split
  · simp only [yields_bind]
    intro result hresult kindName _
    split
    · exact yields_error
    · simp only [yields_bind]
      intro owner _ method _ descriptor _ args hargs
      split
      · exact yields_error
      · next types htypes =>
          simp only [yields_ite, yields_error, yields_ok, implies_true, true_and, ne_eq, not_not]
          intro hlength hvoid
          constructor
          · intro v hv
            rcases List.mem_append.mp hv with hv | hv
            · rw [Instruction.defs, Option.mem_toList] at hv
              exact result_pos (hv ▸ hresult)
            · exact (values_ok hargs).2 v hv
          · intro r vs h
            cases h
          · intro result site arguments h
            cases h
            refine ⟨types, htypes, hlength, ?_⟩
            intro hreturns
            simpa [hreturns] using hvoid
  · exact yields_error

/-- A merge form makes a merge of at least one value. -/
theorem phi_sound {r v : Sexp} {vs : List Sexp} :
    Yields Instruction.Sound
      (do .ok (.phi (← value r) (← (v :: vs).mapM value)) : Except Cause Instruction) := by
  simp only [yields_bind, yields_ok]
  intro r hr vs hvs
  obtain ⟨hlength, hpos⟩ := values_ok hvs
  constructor
  · exact List.forall_mem_cons.mpr ⟨value_pos hr, hpos⟩
  · intro r' vs' h
    cases h
    rintro rfl
    simp at hlength
  · intro result site arguments h
    cases h

theorem instructionOf_sound (i : Nat) (tag : String) (operands : List Sexp) :
    Yields Instruction.Sound (instructionOf i tag operands) := by
  unfold instructionOf
  dsimp only
  split
  case h_12 => exact call_sound i operands
  case h_17 =>
    split
    · exact phi_sound
    · exact yields_error
  case h_18 => exact yields_error
  -- the other instructions name values that were read as such, and nothing else is asked of them
  all_goals
    split <;> simp only [yields_bind, yields_ok, yields_error]
  all_goals
    intros
    constructor <;> simp [Instruction.defs, Instruction.uses]
  all_goals grind

theorem instruction_sound (i : Nat) (s : Sexp) : Yields Instruction.Sound (instruction i s) := by
  unfold instruction
  simp only [yields_bind]
  intro f _
  exact instructionOf_sound i f.1 f.2

end Dump

/-! ### Methods and classes -/

/-- Calls that carry their indices share no call site. -/
theorem Code.Located.unshared {code : Code} (h : code.Located) {i j : Nat} {inst inst' : Instruction}
    {site : CallSite} (hi : code[i]? = some inst) (hj : code[j]? = some inst')
    (hsite : inst.site? = some site) (hsite' : inst'.site? = some site) : i = j := by
  have hpc := h i inst hi site hsite
  have hpc' := h j inst' hj site hsite'
  exact Int.ofNat_inj.mp (hpc.symm.trans hpc')

/-- A class whose methods are in order finds each of them under its selector. -/
theorem ClassDecl.Formed.method?_eq_some_iff {c : ClassDecl} (hc : c.Formed) {s : Selector}
    {m : Method} : c.method? s = some m ↔ m ∈ c.methods ∧ m.signature.selector = s :=
  find?_key_eq_some_iff hc.selectors

namespace Dump

/-- A method form of a class gives a well-formed method of it. -/
theorem readMethod_wellFormed {c : ClassDecl} {methods : List Method} {operands : List Sexp}
    {m : Method} (h : readMethod { c with methods } operands = .ok m) : m.WellFormed c := by
  obtain ⟨s, d, attributes, a, hd, _, hm⟩ := readMethod_parts h
  obtain ⟨hs, hloader, _, hcheck, hbodiless⟩ := method_ok hm
  have hlocated : m.code.Located := fun i inst hi => readMethod_code instruction_carriesIndex h hi
  refine ⟨by rw [hs], hloader, ⟨d, by rw [hs]; exact hd⟩, ?_, ?_⟩
  · intro hflag
    apply hbodiless
    rcases hflag with hflag | hflag
    · simp [Method.hasBody, hflag]
    · simp [Method.hasBody, hflag]
  · exact
      { Code.checked_of_check hcheck with
        sound := fun i inst hi => readMethod_code (Q := fun _ => Instruction.Sound) instruction_sound h hi
        located := hlocated
        unshared := fun i j inst inst' site hi hj => hlocated.unshared hi hj }

/-- A class form gives a well-formed class. -/
theorem readClass_wellFormed {prior : Option TypeName} {s : Sexp} {c : ClassDecl}
    (h : readClass prior s = .ok c) : c.WellFormed := by
  have hmethods : ∀ m ∈ c.methods, m.WellFormed c := by
    intro m hm
    obtain ⟨methods, operands, hread⟩ := readClass_cases h hm
    exact readMethod_wellFormed hread
  have hstored : ∀ s m, c.method? s = some m ↔ m ∈ c.methods ∧ m.signature.selector = s :=
    fun s m => (readClass_ok h).method?_eq_some_iff
  unfold readClass at h
  obtain ⟨⟨n, attributes⟩, _, h⟩ := bind_eq_ok.mp h
  obtain ⟨a, ha, h⟩ := bind_eq_ok.mp h
  obtain ⟨hname, hletter, _, hinterface⟩ := classAttributes_ok (located_eq_ok.mp ha)
  have hheader := addMethods_header h
  refine ⟨?_, ?_, hstored, hmethods⟩
  · rw [hheader]
    exact hname ▸ hletter
  · rw [hheader]
    exact hinterface

end Dump

/-! ### Parsed programs -/

theorem Program.Parsed.wellFormed_class {p : Program} (hp : p.Parsed) {c : ClassDecl}
    (hc : c ∈ p.classes) : c.WellFormed := by
  obtain ⟨prior, s, hread⟩ := Dump.exists_readClass hp hc
  exact Dump.readClass_wellFormed hread

theorem Method.Parsed.wellFormed_code {m : Method} (h : m.Parsed) :
    m.code.WellFormed m.parameterCount := by
  obtain ⟨p, hp, hm⟩ := h
  obtain ⟨c, hc, hm⟩ := List.mem_flatMap.mp hm
  exact ((hp.wellFormed_class hc).methods m hm).code

/-! ### A program with a map

An interface, a class that implements it with jumps and a merge, and calls with and without a result. -/

namespace Sizes

/-- Declared by the interface of maps. -/
def declared : Method :=
  { signature := ⟨"Ljava/util/Map", "size", "()I"⟩, loader := .application, isAbstract := true }

/-- Has no instructions. -/
def fill : Method :=
  { signature := ⟨"LA", "fill", "()V"⟩, loader := .application, isStatic := true, isNative := true }

/-- The size of a map, one of two numbers. -/
def size : Method :=
  { signature := ⟨"LA", "size", "()I"⟩
    loader := .application
    code := #[.const 2 (.int 1), .branch "lt" 2 2 4, .const 3 (.int 0), .goto 4, .phi 4 [2, 3],
      .ret (some 4)] }

/-- Makes a map and asks for its size. -/
def main : Method :=
  { signature := ⟨"LA", "main", "()V"⟩
    loader := .application
    isStatic := true
    code := #[.new 1 "LA", .invoke none ⟨1, fill.signature, .static⟩ [],
      .invoke (some 2) ⟨2, declared.signature, .interface⟩ [1]] }

def program : Program :=
  { source := "sizes"
    classes :=
      [{ name := "Ljava/util/Map", isAbstract := true, isInterface := true, methods := [declared] },
        { name := "LA", interfaces := ["Ljava/util/Map"], methods := [fill, size, main] }] }

/-- The text of the program. -/
def text : String :=
  "(program (class Ljava/util/Map (interface) (method size \"()I\")) " ++
    "(class LA (interfaces Ljava/util/Map) (method fill \"()V\" (static) (native)) " ++
    "(method size \"()I\" (body (const 2 1) (if lt 2 2 4) (const 3 0) (goto 4) (phi 4 2 3) (return 4))) " ++
    "(method main \"()V\" (static) (body (new 1 LA) (invoke _ static LA fill \"()V\") " ++
      "(invoke 2 interface Ljava/util/Map size \"()I\" 1)))))"

set_option maxRecDepth 100000 in
theorem read_text : Dump.read "sizes" text = .ok program := by
  have htext : text.toList = _ :=
    Dump.toList_of_append (Dump.toList_of_append (Dump.toList_of_append (Dump.toList_of_append
      (Dump.toList_of_literal rfl) (Dump.toList_of_literal rfl)) (Dump.toList_of_literal rfl))
      (Dump.toList_of_literal rfl)) (Dump.toList_of_literal rfl)
  exact Dump.read_of_chars htext (by with_unfolding_all rfl) (by with_unfolding_all rfl)

end Sizes

/-- Whatever text is read without a fault, the program is well formed. -/
theorem Dump.read_wellFormed {source text : String} {p : Program}
    (h : Dump.read source text = .ok p) : p.WellFormed := by
  have hp : p.Parsed := .of_read h
  exact ⟨hp.formed.names, fun _ hc => hp.wellFormed_class hc⟩

/-- The program with a map is read, so it is well formed. -/
theorem Dump.read_wellFormed_sizes :
    Dump.read "sizes" Sizes.text = .ok Sizes.program ∧ Sizes.program.WellFormed :=
  ⟨Sizes.read_text, Dump.read_wellFormed Sizes.read_text⟩

end TaintFlow
