/-
Module: TaintFlow.Proofs.Dump.Calls
Purpose: Calls in bodies that were read. Every method of a parsed program comes from a method form, its
  instructions from the forms in its body, and a call carries the index of its form as its program counter.
  So no two calls of a body share a call site.
Main exports: Dump.Yields, Code.Located, Dump.readMethod_code, Dump.exists_readClass,
  Dump.exists_readMethod, Method.Parsed.located, Code.Located.callIndices_eq
-/
import TaintFlow.Proofs.Dump.Formed

namespace TaintFlow

/-- If an instruction is a call, then it carries an index as its program counter. -/
def Instruction.CarriesIndex (i : Nat) (inst : Instruction) : Prop :=
  ∀ site, inst.site? = some site → site.pc = i

/-- Every call of a body carries its own index. -/
def Code.Located (code : Code) : Prop :=
  ∀ (i : Nat) (inst : Instruction), code[i]? = some inst → inst.CarriesIndex i

namespace Dump

/-! ### What readers yield -/

/-- Whatever comes out satisfies a property. -/
def Yields {ε α : Type} (P : α → Prop) (x : Except ε α) : Prop := ∀ a, x = .ok a → P a

section

variable {ε α β : Type} {P : α → Prop}

@[simp] theorem yields_ok {a : α} : Yields P (.ok a : Except ε α) ↔ P a := by
  simp [Yields]

@[simp] theorem yields_error {e : ε} : Yields P (.error e : Except ε α) := by
  simp [Yields]

@[simp] theorem yields_bind {x : Except ε β} {f : β → Except ε α} :
    Yields P (x >>= f) ↔ ∀ b, x = .ok b → Yields P (f b) := by
  constructor
  · intro h b hb a ha
    exact h a (bind_eq_ok.mpr ⟨b, hb, ha⟩)
  · intro h a ha
    obtain ⟨b, hb, ha⟩ := bind_eq_ok.mp ha
    exact h b hb a ha

@[simp] theorem yields_ite {c : Prop} [Decidable c] {x y : Except ε α} :
    Yields P (if c then x else y) ↔ (c → Yields P x) ∧ (¬ c → Yields P y) := by
  split <;> simp_all

end

/-! ### Instructions -/

/-- A call form makes a call that carries its index. -/
theorem call_carriesIndex (i : Nat) (operands : List Sexp) :
    Yields (Instruction.CarriesIndex i) (call i operands) := by
  unfold call
  split
  · simp only [yields_bind]
    intro result _ kindName _
    split
    · exact yields_error
    · simp only [yields_bind]
      intro owner _ method _ descriptor _ args _
      split
      · exact yields_error
      · simp [Instruction.CarriesIndex, Instruction.site?]
  · exact yields_error

/-- Only call forms make calls. -/
theorem instructionOf_carriesIndex (i : Nat) (tag : String) (operands : List Sexp) :
    Yields (Instruction.CarriesIndex i) (instructionOf i tag operands) := by
  unfold instructionOf
  dsimp only
  split
  case h_12 => exact call_carriesIndex i operands
  case h_18 => exact yields_error
  all_goals split <;> simp [Instruction.CarriesIndex, Instruction.site?]

theorem instruction_carriesIndex (i : Nat) (s : Sexp) :
    Yields (Instruction.CarriesIndex i) (instruction i s) := by
  unfold instruction
  simp only [yields_bind]
  intro f _
  exact instructionOf_carriesIndex i f.1 f.2

/-! ### Bodies

What the forms of a body yield at their indices holds of the instructions of the method. -/

section

variable {Q : Nat → Instruction → Prop}

/-- The instructions that forms describe, one by one. -/
theorem instructions_yield (hQ : ∀ i s, Yields (Q i) (instruction i s)) {forms : List Sexp} {i : Nat}
    {code : List Instruction} (h : instructions i forms = .ok code) {k : Nat} {inst : Instruction}
    (hk : code[k]? = some inst) : Q (i + k) inst := by
  induction forms generalizing i k code with
  | nil =>
      cases h
      cases hk
  | cons s rest ih =>
      obtain ⟨first, hfirst, h⟩ := bind_eq_ok.mp h
      obtain ⟨later, hlater, h⟩ := bind_eq_ok.mp h
      cases h
      cases k with
      | zero =>
          cases hk
          exact hQ i s _ hfirst
      | succ k =>
          have hrest := ih hlater hk
          rwa [Nat.add_right_comm, Nat.add_assoc] at hrest

/-- The attributes of a method give it a body. -/
theorem add_body (hQ : ∀ i s, Yields (Q i) (instruction i s)) {a a' : MethodAttributes} {item : Sexp}
    (ha : ∀ code : Code, a.body = some code → ∀ (i : Nat) (inst : Instruction),
      code[i]? = some inst → Q i inst)
    (h : a.add item = .ok a') :
    ∀ code : Code, a'.body = some code → ∀ (i : Nat) (inst : Instruction),
      code[i]? = some inst → Q i inst := by
  unfold MethodAttributes.add at h
  obtain ⟨⟨tag, operands⟩, _, h⟩ := bind_eq_ok.mp h
  dsimp only at h
  split at h
  · cases h
    exact ha
  · cases h
    exact ha
  · cases h
    exact ha
  · split at h
    · cases h
    · obtain ⟨body, hbody, h⟩ := bind_eq_ok.mp h
      cases h
      rintro code ⟨⟩ i inst hi
      have hyield := instructions_yield hQ hbody (by simpa using hi)
      rwa [Nat.zero_add] at hyield
  · cases h

/-- The instructions of a method that was read. -/
theorem readMethod_code (hQ : ∀ i s, Yields (Q i) (instruction i s)) {c : ClassDecl}
    {operands : List Sexp} {m : Method} (h : readMethod c operands = .ok m) {i : Nat}
    {inst : Instruction} (hi : m.code[i]? = some inst) : Q i inst := by
  obtain ⟨s, d, attributes, a, _, ha, hm⟩ := readMethod_parts h
  obtain ⟨_, _, hcode, _⟩ := method_ok hm
  have hbody := foldlM_ok
    (P := fun a : MethodAttributes => ∀ code : Code, a.body = some code →
      ∀ (i : Nat) (inst : Instruction), code[i]? = some inst → Q i inst)
    (fun _ _ _ => add_body hQ) (by simp) ha
  rw [hcode] at hi
  cases hsome : a.body with
  | none =>
      rw [hsome] at hi
      simp at hi
  | some code =>
      rw [hsome] at hi
      exact hbody code hsome i inst hi

end

/-! ### Programs -/

/-- A method of a class that was read was there before, or comes from a method form. -/
theorem addMethods_cases {c d : ClassDecl} {forms : List (List Sexp)}
    (h : addMethods c forms = .ok d) {m : Method} (hm : m ∈ d.methods) :
    m ∈ c.methods ∨ ∃ methods operands, readMethod { c with methods } operands = .ok m := by
  induction forms generalizing c with
  | nil =>
      cases h
      exact Or.inl hm
  | cons operands rest ih =>
      unfold addMethods at h
      obtain ⟨k, hk, h⟩ := bind_eq_ok.mp h
      split at h
      · cases h
      · rcases ih h with hm | hm
        · rcases List.mem_append.mp hm with hm | hm
          · exact Or.inl hm
          · rw [List.mem_singleton.mp hm]
            exact Or.inr ⟨c.methods, operands, hk⟩
        · exact Or.inr hm

/-- Every method of a class that was read comes from a method form of the class. -/
theorem readClass_cases {prior : Option TypeName} {s : Sexp} {c : ClassDecl}
    (h : readClass prior s = .ok c) {m : Method} (hm : m ∈ c.methods) :
    ∃ methods operands, readMethod { c with methods } operands = .ok m := by
  unfold readClass at h
  obtain ⟨⟨n, attributes⟩, _, h⟩ := bind_eq_ok.mp h
  obtain ⟨a, ha, h⟩ := bind_eq_ok.mp h
  obtain ⟨_, _, hnone, _⟩ := classAttributes_ok (located_eq_ok.mp ha)
  rcases addMethods_cases h hm with hm | ⟨methods, operands, hm⟩
  · rw [hnone] at hm
    cases hm
  · refine ⟨methods, operands, ?_⟩
    rw [addMethods_header h]
    exact hm

theorem addClasses_cases {p q : Program} {forms : List Sexp} (h : addClasses p forms = .ok q)
    {c : ClassDecl} (hc : c ∈ q.classes) :
    c ∈ p.classes ∨ ∃ prior s, readClass prior s = .ok c := by
  induction forms generalizing p with
  | nil =>
      cases h
      exact Or.inl hc
  | cons s rest ih =>
      unfold addClasses at h
      obtain ⟨d, hd, h⟩ := bind_eq_ok.mp h
      split at h
      · cases h
      · rcases ih h with hc | hc
        · rcases List.mem_append.mp hc with hc | hc
          · exact Or.inl hc
          · rw [List.mem_singleton.mp hc]
            exact Or.inr ⟨_, s, hd⟩
        · exact Or.inr hc

/-- Every class of a parsed program comes from a class form. -/
theorem exists_readClass {p : Program} (hp : p.Parsed) {c : ClassDecl} (hc : c ∈ p.classes) :
    ∃ prior s, readClass prior s = .ok c := by
  obtain ⟨source, tree, hread⟩ := hp
  obtain ⟨forms, hforms⟩ := program_eq_ok hread
  rcases addClasses_cases hforms hc with hc | hc
  · cases hc
  · exact hc

/-- Every method of a parsed program comes from a method form. -/
theorem exists_readMethod {p : Program} (hp : p.Parsed) {m : Method} (hm : m ∈ p.methods) :
    ∃ c operands, readMethod c operands = .ok m := by
  obtain ⟨c, hc, hm⟩ := List.mem_flatMap.mp hm
  obtain ⟨prior, s, hread⟩ := exists_readClass hp hc
  obtain ⟨methods, operands, hmethod⟩ := readClass_cases hread hm
  exact ⟨_, operands, hmethod⟩

end Dump

/-- The calls of a parsed method carry their indices. -/
theorem Method.Parsed.located {m : Method} (h : m.Parsed) : m.code.Located := by
  obtain ⟨p, hp, hm⟩ := h
  obtain ⟨c, operands, hread⟩ := Dump.exists_readMethod hp hm
  exact fun i inst hi => Dump.readMethod_code Dump.instruction_carriesIndex hread hi

/-! ### Call sites -/

/-- A call site belongs to one instruction. -/
theorem Code.Located.callIndices_eq {code : Code} (h : code.Located) {i : Nat} {inst : Instruction}
    {site : CallSite} (hi : code[i]? = some inst) (hsite : inst.site? = some site) :
    code.callIndices site = [i] := by
  have hmem : ∀ j, j ∈ code.callIndices site ↔ j ∈ [i] := by
    intro j
    simp only [Code.callIndices, List.mem_filter, List.mem_range, beq_iff_eq,
      Option.bind_eq_some_iff, List.mem_singleton]
    constructor
    · rintro ⟨_, inst', hj, hsite'⟩
      exact Int.ofNat_inj.mp ((h j inst' hj site hsite').symm.trans (h i inst hi site hsite))
    · rintro rfl
      exact ⟨(Array.getElem?_eq_some_iff.mp hi).1, inst, hi, hsite⟩
  have hnodup : (code.callIndices site).Nodup := List.nodup_range.filter _
  exact List.perm_singleton.mp
    ((List.perm_ext_iff_of_nodup hnodup (List.nodup_singleton i)).mpr hmem)

end TaintFlow
