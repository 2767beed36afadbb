/-
Module: TaintFlow.Proofs.Dump.RoundTrip
Purpose: Reading undoes writing. A program is regular if it is well formed, its classes and methods are
  told apart by their names, no interface has a method that is native only, and no constant is a symbol;
  the reader returns regular programs only, and it gets every regular program back from its written form.
  Reader and writer are compared layer by layer: values, instructions, methods, classes, programs.
Main exports: Method.Regular, ClassDecl.Regular, Program.Regular, Dump.instruction_toSexp,
  Dump.readMethod_methodOperands, Dump.readClass_toSexp, Dump.program_toSexp, Program.Parsed.regular,
  Dump.reading_undoes_writing
-/
import TaintFlow.Dump.Writer
import TaintFlow.Proofs.Dump.WellFormed

namespace TaintFlow

/-! ### Regular programs -/

/-- A symbol in the place of a constant stands for its name, so no constant is a symbol. -/
def Instruction.NoSymbol (inst : Instruction) : Prop := ∀ r s, inst ≠ .const r (.symbol s)

/-- What the reader guarantees about a method of a class. -/
structure Method.Regular (c : ClassDecl) (m : Method) : Prop extends m.WellFormed c where
  constants : ∀ inst ∈ m.code.toList, inst.NoSymbol
  abstract : c.isInterface = true → m.hasBody = false → m.isAbstract = true

/-- What the reader guarantees about a class. -/
structure ClassDecl.Regular (c : ClassDecl) : Prop extends c.WellFormed where
  selectors : (c.methods.map fun m => m.signature.selector).Nodup
  regular : ∀ m ∈ c.methods, m.Regular c

/-- What the reader guarantees about a program. -/
structure Program.Regular (p : Program) : Prop where
  names : (p.classes.map ClassDecl.name).Nodup
  classes : ∀ c ∈ p.classes, c.Regular

theorem CallKind.ofName?_name (k : CallKind) : CallKind.ofName? k.name = some k := by
  cases k <;> rfl

namespace Dump

/-! ### Values and names -/

@[simp] theorem ok_bind {ε α β : Type} (a : α) (f : α → Except ε β) :
    ((.ok a : Except ε α) >>= f) = f a := rfl

@[simp] theorem name_str (s : String) : name (.str s) = .ok s := rfl

@[simp] theorem name_symbol (s : String) : name (.symbol s) = .ok s := rfl

theorem value_writeValue {v : Value} (h : 0 < v) : value (writeValue v) = .ok v := by
  simp [value, writeValue, h]

theorem index_int (t : Nat) : index (.int t) = .ok t := by
  simp [index]

theorem result_writeResult {r : Option Value} (h : ∀ v ∈ r, 0 < v) :
    result (writeResult r) = .ok r := by
  cases r with
  | none => rfl
  | some v =>
      change (value (writeValue v)).map some = _
      rw [value_writeValue (h v rfl)]
      rfl

/-- Reading one by one what was written one by one. -/
theorem mapM_map_eq_ok {ε α β : Type} {f : β → Except ε α} {g : α → β} {xs : List α}
    (h : ∀ x ∈ xs, f (g x) = .ok x) : (xs.map g).mapM f = .ok xs := by
  induction xs with
  | nil => rfl
  | cons x xs ih =>
      obtain ⟨hx, hxs⟩ := List.forall_mem_cons.mp h
      rw [List.map_cons, List.mapM_cons, hx, ih hxs]
      rfl

theorem mapM_value {vs : List Value} (h : ∀ v ∈ vs, 0 < v) :
    (vs.map writeValue).mapM value = .ok vs :=
  mapM_map_eq_ok fun v hv => value_writeValue (h v hv)

/-! ### Instructions -/

/-- A call that fits its target is read back, at its own index. -/
theorem call_operands {r : Option Value} {site : CallSite} {args : List Value} {i : Nat}
    (hr : ∀ v ∈ r, 0 < v) (hargs : ∀ v ∈ args, 0 < v) (hpc : site.pc = i) (hfits : site.Fits r args) :
    call i (writeResult r :: .symbol site.kind.name :: .str site.target.owner ::
      .str site.target.name :: .str site.target.descriptor :: args.map writeValue) =
        .ok (.invoke r site args) := by
  obtain ⟨d, hd, hlength, hvoid⟩ := hfits
  obtain ⟨pc, target, kind⟩ := site
  dsimp only at hd hlength hpc ⊢
  subst hpc
  have htypes : target.types = .ok d := hd
  have hresult : ¬ (r.isSome && d.result == voidType) = true := by
    intro h
    rw [Bool.and_eq_true, beq_iff_eq] at h
    rw [hvoid h.2] at h
    cases h.1
  simp only [call, result_writeResult hr, CallKind.ofName?_name, mapM_value hargs, htypes, hlength,
    ok_bind, name_symbol, name_str]
  rw [if_neg (by simp), if_neg hresult]

/-- A constant that is no symbol stands for itself. -/
theorem constant_eq {r : Value} {v : Sexp} (h : (Instruction.const r v).NoSymbol) : constant v = v := by
  cases v with
  | symbol s => exact absurd rfl (h r s)
  | _ => rfl

/-- Every sound instruction is read back, at its own index. In each case the form is opened first: the
    tag has told which instruction it is, and what is left to read are its operands. -/
theorem instruction_toSexp {inst : Instruction} {i : Nat} (hsound : inst.Sound)
    (hindex : inst.CarriesIndex i) (hconst : inst.NoSymbol) :
    instruction i inst.toSexp = .ok inst := by
  have read : ∀ v ∈ inst.defs ++ inst.uses, value (writeValue v) = .ok v :=
    fun v hv => value_writeValue (hsound.positive v hv)
  cases inst with
  | const r v =>
      change (do .ok (Instruction.const (← value (writeValue r)) (constant v))) = _
      rw [read r (by simp [Instruction.defs]), constant_eq hconst]
      rfl
  | new r t =>
      change (do .ok (Instruction.new (← value (writeValue r)) t)) = _
      rw [read r (by simp [Instruction.defs])]
      rfl
  | binary r op a b =>
      change (do .ok (Instruction.binary (← value (writeValue r)) op (← value (writeValue a))
        (← value (writeValue b)))) = _
      rw [read r (by simp [Instruction.defs]), read a (by simp [Instruction.uses]),
        read b (by simp [Instruction.uses])]
      rfl
  | unary r op a =>
      change (do .ok (Instruction.unary (← value (writeValue r)) op (← value (writeValue a)))) = _
      rw [read r (by simp [Instruction.defs]), read a (by simp [Instruction.uses])]
      rfl
  | cast r a t =>
      change (do .ok (Instruction.cast (← value (writeValue r)) (← value (writeValue a)) t)) = _
      rw [read r (by simp [Instruction.defs]), read a (by simp [Instruction.uses])]
      rfl
  | getField r base f =>
      cases base with
      | none =>
          change (do .ok (Instruction.getField (← value (writeValue r)) none f)) = _
          rw [read r (by simp [Instruction.defs])]
          rfl
      | some b =>
          change (do .ok (Instruction.getField (← value (writeValue r)) (some (← value (writeValue b))) f))
            = _
          rw [read r (by simp [Instruction.defs]), read b (by simp [Instruction.uses])]
          rfl
  | putField base f v =>
      cases base with
      | none =>
          change (do .ok (Instruction.putField none f (← value (writeValue v)))) = _
          rw [read v (by simp [Instruction.uses])]
          rfl
      | some b =>
          change (do .ok (Instruction.putField (some (← value (writeValue b))) f (← value (writeValue v))))
            = _
          rw [read b (by simp [Instruction.uses]), read v (by simp [Instruction.uses])]
          rfl
  | arrayLoad r a j =>
      change (do .ok (Instruction.arrayLoad (← value (writeValue r)) (← value (writeValue a))
        (← value (writeValue j)))) = _
      rw [read r (by simp [Instruction.defs]), read a (by simp [Instruction.uses]),
        read j (by simp [Instruction.uses])]
      rfl
  | arrayStore a j v =>
      change (do .ok (Instruction.arrayStore (← value (writeValue a)) (← value (writeValue j))
        (← value (writeValue v)))) = _
      rw [read a (by simp [Instruction.uses]), read j (by simp [Instruction.uses]),
        read v (by simp [Instruction.uses])]
      rfl
  | invoke r site args =>
      have hr : ∀ v ∈ r, 0 < v := fun v hv =>
        hsound.positive v (List.mem_append_left _ (Option.mem_toList.mpr hv))
      have hargs : ∀ v ∈ args, 0 < v := fun v hv =>
        hsound.positive v (List.mem_append_right _ hv)
      exact call_operands hr hargs (hindex site rfl) (hsound.fits r site args rfl)
  | branch op a b target =>
      change (do .ok (Instruction.branch op (← value (writeValue a)) (← value (writeValue b))
        (← index (.int target)))) = _
      rw [read a (by simp [Instruction.uses]), read b (by simp [Instruction.uses]), index_int]
      rfl
  | goto target =>
      change (do .ok (Instruction.goto (← index (.int target)))) = _
      rw [index_int]
      rfl
  | ret v =>
      cases v with
      | none => rfl
      | some v =>
          change (do .ok (Instruction.ret (some (← value (writeValue v))))) = _
          rw [read v (by simp [Instruction.uses])]
          rfl
  | throw v =>
      change (do .ok (Instruction.throw (← value (writeValue v)))) = _
      rw [read v (by simp [Instruction.uses])]
      rfl
  | phi r vs =>
      cases vs with
      | nil => exact absurd rfl (hsound.merges r [] rfl)
      | cons v vs =>
          have hvs : ∀ w ∈ v :: vs, 0 < w := fun w hw =>
            hsound.positive w (List.mem_append_right _ hw)
          change (do .ok (Instruction.phi (← value (writeValue r))
            (← ((v :: vs).map writeValue).mapM value))) = _
          rw [read r (by simp [Instruction.defs]), mapM_value hvs]
          rfl

/-- The instructions of a body are read back, from some index on. -/
theorem instructions_toSexp {insts : List Instruction} {i : Nat}
    (h : ∀ (k : Nat) (inst : Instruction), insts[k]? = some inst →
      inst.Sound ∧ inst.CarriesIndex (i + k) ∧ inst.NoSymbol) :
    instructions i (insts.map Instruction.toSexp) = .ok insts := by
  induction insts generalizing i with
  | nil => rfl
  | cons inst rest ih =>
      obtain ⟨hsound, hindex, hconst⟩ := h 0 inst rfl
      rw [Nat.add_zero] at hindex
      have hrest := ih (i := i + 1) fun k later hk => by
        obtain ⟨hsound, hindex, hconst⟩ := h (k + 1) later hk
        exact ⟨hsound, by rwa [Nat.add_right_comm], hconst⟩
      rw [List.map_cons, instructions, instruction_toSexp hsound hindex hconst, hrest]
      rfl

/-! ### Methods -/

/-- The forms of a method's attributes. -/
def attributeForms (m : Method) : List Sexp :=
  flagForm "static" m.isStatic ++ flagForm "abstract" m.isAbstract ++
    flagForm "native" m.isNative ++
    (if m.hasBody then [tagged "body" (m.code.toList.map Instruction.toSexp)] else [])

/-- What follows the tag in the form of a method. -/
def methodOperands (m : Method) : List Sexp :=
  .str m.signature.name :: .str m.signature.descriptor :: attributeForms m

/-- An optional form is read as one more attribute, or as none. -/
theorem foldlM_flagForm {ε α : Type} {f : α → Sexp → Except ε α} {tag : String} {a b : α} {wanted : Bool}
    (htrue : wanted = true → f a (tagged tag []) = .ok b) (hfalse : wanted = false → a = b) :
    (flagForm tag wanted).foldlM f a = .ok b := by
  cases wanted with
  | true =>
      change (f a (tagged tag []) >>= fun a => .ok a) = _
      rw [htrue rfl]
      rfl
  | false =>
      rw [hfalse rfl]
      rfl

/-- The attributes that a method is written with. -/
def attributesOf (m : Method) : MethodAttributes :=
  { isStatic := m.isStatic
    isAbstract := m.isAbstract
    isNative := m.isNative
    body := if m.hasBody then some m.code else none }

/-- The body of a regular method is read back. -/
theorem add_bodyForm {c : ClassDecl} {m : Method} (hm : m.Regular c) {a : MethodAttributes}
    (ha : a.body = none) :
    a.add (tagged "body" (m.code.toList.map Instruction.toSexp)) =
      .ok { a with body := some m.code } := by
  have hcode : instructions 0 (m.code.toList.map Instruction.toSexp) = .ok m.code.toList := by
    refine instructions_toSexp fun k inst hk => ?_
    have hk' : m.code[k]? = some inst := by simpa using hk
    refine ⟨hm.code.sound k inst hk', ?_, hm.constants inst (List.mem_of_getElem? hk)⟩
    rw [Nat.zero_add]
    exact hm.code.located k inst hk'
  change (if a.body.isSome then Except.error Cause.twoBodies
    else do
      let code ← instructions 0 (m.code.toList.map Instruction.toSexp)
      .ok { a with body := some code.toArray }) = _
  rw [ha, hcode]
  rfl

/-- The attributes of a regular method are read back. -/
theorem foldlM_attributes {c : ClassDecl} {m : Method} (hm : m.Regular c) :
    (attributeForms m).foldlM MethodAttributes.add {} = .ok (attributesOf m) := by
  have hstatic : (flagForm "static" m.isStatic).foldlM MethodAttributes.add {} =
      .ok { isStatic := m.isStatic } :=
    foldlM_flagForm (fun h => by rw [h]; rfl) (fun h => by rw [h])
  have habstract : (flagForm "abstract" m.isAbstract).foldlM MethodAttributes.add
      { isStatic := m.isStatic } = .ok { isStatic := m.isStatic, isAbstract := m.isAbstract } :=
    foldlM_flagForm (fun h => by rw [h]; rfl) (fun h => by rw [h])
  have hnative : (flagForm "native" m.isNative).foldlM MethodAttributes.add
      { isStatic := m.isStatic, isAbstract := m.isAbstract } =
        .ok { isStatic := m.isStatic, isAbstract := m.isAbstract, isNative := m.isNative } :=
    foldlM_flagForm (fun h => by rw [h]; rfl) (fun h => by rw [h])
  rw [attributeForms, List.foldlM_append, List.foldlM_append, List.foldlM_append, hstatic, ok_bind,
    habstract, ok_bind, hnative, ok_bind, attributesOf]
  split
  · rw [List.foldlM_cons, add_bodyForm hm rfl]
    rfl
  · rfl

/-- Attributes that allow what they ask for make a method, if its instructions pass the check. -/
theorem method_eq_ok {a : MethodAttributes} {c : ClassDecl} {s : Signature} {m : Method}
    (hallowed : ¬ (a.body.isSome && (a.isAbstract || a.isNative)) = true)
    (hm : { signature := s
            loader := c.loader
            isStatic := a.isStatic
            isAbstract := a.isAbstract || (c.isInterface && a.body.isNone)
            isNative := a.isNative
            code := a.body.getD #[] } = m)
    (hcheck : m.code.check m.parameterCount = .ok ()) : a.method c s = .ok m := by
  subst hm
  unfold MethodAttributes.method
  rw [if_neg hallowed]
  dsimp only at hcheck ⊢
  rw [hcheck]

/-- The attributes of a regular method make the method, in its class, whatever methods the class has
    so far. -/
theorem method_attributesOf {c : ClassDecl} {m : Method} (hm : m.Regular c) (methods : List Method) :
    (attributesOf m).method { c with methods }
      ⟨c.name, m.signature.name, m.signature.descriptor⟩ = .ok m := by
  have hallowed : ¬ ((attributesOf m).body.isSome && (m.isAbstract || m.isNative)) = true := by
    cases h : m.isAbstract || m.isNative with
    | false => simp
    | true => simp [attributesOf, Method.hasBody, h]
  have hflags : (m.isAbstract || (c.isInterface && (attributesOf m).body.isNone)) = m.isAbstract := by
    cases hbody : m.hasBody with
    | true => simp [attributesOf, hbody]
    | false =>
        have habstract := hm.abstract
        cases hinterface : c.isInterface <;> simp_all
  have hcode : (attributesOf m).body.getD #[] = m.code := by
    cases hbody : m.hasBody with
    | true => simp [attributesOf, hbody]
    | false =>
        have hflag : m.isAbstract = true ∨ m.isNative = true := by
          simpa [Method.hasBody, or_iff_not_imp_left] using hbody
        simp [attributesOf, hbody, hm.bodiless hflag]
  have hsignature : (⟨c.name, m.signature.name, m.signature.descriptor⟩ : Signature) = m.signature := by
    rw [← hm.owner]
  refine method_eq_ok hallowed ?_ (Code.check_of_checked hm.code.toChecked)
  rw [hcode, hsignature, ← hm.loader]
  exact congrArg (fun flag => { m with isAbstract := flag }) hflags

/-- A regular method is read back, whatever methods its class has so far. -/
theorem readMethod_methodOperands {c : ClassDecl} {m : Method} (hm : m.Regular c)
    (methods : List Method) : readMethod { c with methods } (methodOperands m) = .ok m := by
  obtain ⟨d, hd⟩ := hm.descriptor
  refine located_eq_ok.mpr ?_
  change methodBody { c with methods } m.signature.selector (attributeForms m) = _
  unfold methodBody
  rw [show Descriptor.parse m.signature.selector.descriptor = .ok d from hd, foldlM_attributes hm]
  exact method_attributesOf hm methods

/-! ### Classes -/

/-- The forms of a class's attributes other than its methods. -/
def headForms (c : ClassDecl) : List Sexp :=
  tagged "loader" [.symbol c.loader.name] ::
    c.superclass.toList.map (fun s => tagged "super" [.str s]) ++
    (if c.interfaces.isEmpty then [] else [tagged "interfaces" (c.interfaces.map .str)]) ++
    flagForm "abstract" c.isAbstract ++ flagForm "interface" c.isInterface

theorem add_interfaces (a : ClassAttributes) (names : List TypeName) :
    a.add (tagged "interfaces" (names.map .str)) =
      .ok { a with decl := { a.decl with interfaces := names } } := by
  change ((names.map Sexp.str).mapM name >>= fun names =>
    Except.ok ({ a with decl := { a.decl with interfaces := names } } : ClassAttributes)) = _
  rw [mapM_map_eq_ok fun n _ => name_str n]
  rfl

/-- The attributes of a class other than its methods are read back. -/
theorem foldlM_headForms {c : ClassDecl} (hc : c.isInterface = true → c.isAbstract = true) :
    (headForms c).foldlM ClassAttributes.add { decl := { name := c.name } } =
      .ok { decl := { c with methods := [] } } := by
  have hloader : [tagged "loader" [.symbol c.loader.name]].foldlM ClassAttributes.add
      { decl := { name := c.name } } = .ok { decl := { name := c.name, loader := c.loader } } := by
    cases c.loader <;> rfl
  have hsuper : (c.superclass.toList.map fun s => tagged "super" [.str s]).foldlM ClassAttributes.add
      { decl := { name := c.name, loader := c.loader } } =
        .ok { decl := { name := c.name, loader := c.loader, superclass := c.superclass } } := by
    cases c.superclass <;> rfl
  have hinterfaces :
      (if c.interfaces.isEmpty then [] else [tagged "interfaces" (c.interfaces.map .str)]).foldlM
        ClassAttributes.add
        { decl := { name := c.name, loader := c.loader, superclass := c.superclass } } =
      .ok { decl := { c with isAbstract := false, isInterface := false, methods := [] } } := by
    cases hnames : c.interfaces with
    | nil => simp [pure, Except.pure]
    | cons n names =>
        rw [if_neg (by simp), List.foldlM_cons, add_interfaces]
        rfl
  have habstract : (flagForm "abstract" c.isAbstract).foldlM ClassAttributes.add
      { decl := { c with isAbstract := false, isInterface := false, methods := [] } } =
        .ok { decl := { c with isInterface := false, methods := [] } } :=
    foldlM_flagForm (fun h => by rw [h]; rfl) (fun h => by rw [h])
  have hinterface : (flagForm "interface" c.isInterface).foldlM ClassAttributes.add
      { decl := { c with isInterface := false, methods := [] } } =
        .ok { decl := { c with methods := [] } } :=
    foldlM_flagForm (fun h => by rw [hc h, h]; rfl) (fun h => by rw [h])
  rw [headForms, ← List.singleton_append, List.foldlM_append, List.foldlM_append, List.foldlM_append,
    List.foldlM_append, hloader, ok_bind, hsuper, ok_bind, hinterfaces, ok_bind, habstract, ok_bind,
    hinterface]

/-- The forms of methods are kept for later. -/
theorem foldlM_methods (ms : List Method) (a : ClassAttributes) :
    (ms.map Method.toSexp).foldlM ClassAttributes.add a =
      .ok { a with methodForms := (ms.map methodOperands).reverse ++ a.methodForms } := by
  induction ms generalizing a with
  | nil => rfl
  | cons m ms ih =>
      have hadd : a.add m.toSexp = .ok { a with methodForms := methodOperands m :: a.methodForms } := rfl
      rw [List.map_cons, List.foldlM_cons, hadd, ok_bind, ih]
      simp

/-- Methods that are told apart by their selectors are read back into their class, after those that
    were read before. -/
theorem addMethods_methodOperands {c : ClassDecl} {before after : List Method}
    (hafter : ∀ m ∈ after, m.Regular c)
    (hselectors : ((before ++ after).map fun m => m.signature.selector).Nodup) :
    addMethods { c with methods := before } (after.map methodOperands) =
      .ok { c with methods := before ++ after } := by
  induction after generalizing before with
  | nil => rw [List.append_nil]; rfl
  | cons m after ih =>
      obtain ⟨hm, hrest⟩ := List.forall_mem_cons.mp hafter
      have hnew : ¬ (({ c with methods := before } : ClassDecl).method? m.signature.selector).isSome := by
        unfold ClassDecl.method?
        rw [List.find?_isSome]
        rintro ⟨m', hm', hsame⟩
        rw [List.map_append, List.nodup_append] at hselectors
        exact hselectors.2.2 _ (List.mem_map_of_mem hm') _ List.mem_cons_self (by simpa using hsame)
      rw [List.map_cons, addMethods, readMethod_methodOperands hm before, ok_bind, if_neg hnew]
      have hassoc : before ++ m :: after = before ++ [m] ++ after := by simp
      rw [hassoc] at hselectors ⊢
      exact ih hrest hselectors

/-- A regular class is read back, whatever class was read before it. -/
theorem readClass_toSexp {c : ClassDecl} (hc : c.Regular) (prior : Option TypeName) :
    readClass prior c.toSexp = .ok c := by
  have hattributes : classAttributes c.name (headForms c ++ c.methods.map Method.toSexp) =
      .ok { decl := { c with methods := [] }, methodForms := (c.methods.map methodOperands).reverse } := by
    unfold classAttributes
    rw [if_pos hc.name, List.foldlM_append, foldlM_headForms hc.interface, ok_bind, foldlM_methods,
      List.append_nil]
  have hheader : located { type := prior } (classHeader c.toSexp) =
      .ok (c.name, headForms c ++ c.methods.map Method.toSexp) := rfl
  unfold readClass
  rw [hheader, ok_bind]
  dsimp only
  rw [located_eq_ok.mpr hattributes, ok_bind]
  dsimp only
  rw [List.reverse_reverse]
  exact addMethods_methodOperands hc.regular hc.selectors

/-! ### Programs -/

/-- Classes that are told apart by their names are read back into a program, after those that were read
    before. -/
theorem addClasses_toSexp {source : String} {before after : List ClassDecl}
    (hafter : ∀ c ∈ after, c.Regular) (hnames : ((before ++ after).map ClassDecl.name).Nodup) :
    addClasses { source, classes := before } (after.map ClassDecl.toSexp) =
      .ok { source, classes := before ++ after } := by
  induction after generalizing before with
  | nil => rw [List.append_nil]; rfl
  | cons c after ih =>
      obtain ⟨hc, hrest⟩ := List.forall_mem_cons.mp hafter
      have hnew : ¬ (before.any fun d => d.name == c.name) = true := by
        rw [List.any_eq_true]
        rintro ⟨d, hd, hsame⟩
        rw [List.map_append, List.nodup_append] at hnames
        exact hnames.2.2 _ (List.mem_map_of_mem hd) _ List.mem_cons_self (by simpa using hsame)
      rw [List.map_cons, addClasses, readClass_toSexp hc, ok_bind, if_neg hnew]
      have hassoc : before ++ c :: after = before ++ [c] ++ after := by simp
      rw [hassoc] at hnames ⊢
      exact ih hrest hnames

/-- A regular program is read back, as coming from wherever it is read. -/
theorem program_toSexp {p : Program} (hp : p.Regular) (source : String) :
    program source p.toSexp = .ok { p with source } := by
  have hread : addClasses { source, classes := [] } (p.classes.map ClassDecl.toSexp) =
      .ok { source, classes := [] ++ p.classes } := addClasses_toSexp hp.classes hp.names
  exact hread

/-! ### What the reader returns -/

@[simp] theorem constant_ne_symbol (v : Sexp) (s : String) : constant v ≠ .symbol s := by
  cases v <;> simp [constant]

theorem call_noSymbol (i : Nat) (operands : List Sexp) :
    Yields Instruction.NoSymbol (call i operands) := by
  unfold call
  split
  · simp only [yields_bind]
    intro result _ kindName _
    split
    · exact yields_error
    · simp only [yields_bind]
      intro owner _ method _ descriptor _ args _
      split
      · exact yields_error
      · simp [Instruction.NoSymbol]
  · exact yields_error

/-- No form makes a constant of a symbol. -/
theorem instructionOf_noSymbol (i : Nat) (tag : String) (operands : List Sexp) :
    Yields Instruction.NoSymbol (instructionOf i tag operands) := by
  unfold instructionOf
  dsimp only
  split
  case h_12 => exact call_noSymbol i operands
  case h_18 => exact yields_error
  all_goals split <;> simp [Instruction.NoSymbol]

theorem instruction_noSymbol (i : Nat) (s : Sexp) : Yields Instruction.NoSymbol (instruction i s) := by
  unfold instruction
  simp only [yields_bind]
  intro f _
  exact instructionOf_noSymbol i f.1 f.2

/-- A method of an interface that has no body is abstract, even if it is native. -/
theorem method_abstract {a : MethodAttributes} {c : ClassDecl} {s : Signature} {m : Method}
    (h : a.method c s = .ok m) (hinterface : c.isInterface = true) (hbody : m.hasBody = false) :
    m.isAbstract = true := by
  unfold MethodAttributes.method at h
  split at h
  · cases h
  · next hallowed =>
      dsimp only at h
      split at h
      · cases h
      · cases h
        cases hb : a.body <;> simp_all [Method.hasBody]

/-- A method form of a class gives a regular method of it. -/
theorem readMethod_regular {c : ClassDecl} {methods : List Method} {operands : List Sexp}
    {m : Method} (h : readMethod { c with methods } operands = .ok m) : m.Regular c := by
  obtain ⟨s, d, attributes, a, _, _, hm⟩ := readMethod_parts h
  refine { readMethod_wellFormed h with constants := ?_, abstract := method_abstract hm }
  intro inst hinst
  obtain ⟨i, hi⟩ := List.getElem?_of_mem hinst
  exact readMethod_code (Q := fun _ => Instruction.NoSymbol) instruction_noSymbol h (by simpa using hi)

/-- A class form gives a regular class. -/
theorem readClass_regular {prior : Option TypeName} {s : Sexp} {c : ClassDecl}
    (h : readClass prior s = .ok c) : c.Regular := by
  refine { readClass_wellFormed h with selectors := (readClass_ok h).selectors, regular := ?_ }
  intro m hm
  obtain ⟨methods, operands, hread⟩ := readClass_cases h hm
  exact readMethod_regular hread

/-- Reading classes into a program does not change where it comes from. -/
theorem addClasses_source {p q : Program} {forms : List Sexp} (h : addClasses p forms = .ok q) :
    q.source = p.source := by
  induction forms generalizing p with
  | nil =>
      cases h
      rfl
  | cons s rest ih =>
      unfold addClasses at h
      obtain ⟨c, _, h⟩ := bind_eq_ok.mp h
      split at h
      · cases h
      · exact ih (p := { p with classes := p.classes ++ [c] }) h

theorem read_source {source text : String} {p : Program} (h : read source text = .ok p) :
    p.source = source := by
  obtain ⟨tree, htree⟩ := exists_tree_of_read h
  obtain ⟨forms, hforms⟩ := program_eq_ok htree
  exact addClasses_source hforms

end Dump

/-- The reader returns regular programs only. -/
theorem Program.Parsed.regular {p : Program} (hp : p.Parsed) : p.Regular := by
  refine ⟨hp.formed.names, fun c hc => ?_⟩
  obtain ⟨prior, s, hread⟩ := Dump.exists_readClass hp hc
  exact Dump.readClass_regular hread

/-- Reading undoes writing: the written form of a regular program is read as that program, class by class,
    method by method and instruction by instruction; and every program that was ever read is regular, so
    it is read again unchanged. -/
theorem Dump.reading_undoes_writing :
    (∀ (p : Program) (source : String), p.Regular →
      Dump.program source p.toSexp = .ok { p with source }) ∧
    ∀ (source text : String) (p : Program), Dump.read source text = .ok p →
      p.Regular ∧ Dump.program source p.toSexp = .ok p := by
  refine ⟨fun p source hp => program_toSexp hp source, ?_⟩
  intro source text p hread
  have hp : p.Regular := Program.Parsed.regular (.of_read hread)
  refine ⟨hp, ?_⟩
  rw [program_toSexp hp, ← read_source hread]

/-- The program with a map, written and read again. -/
theorem Dump.reading_undoes_writing_sizes :
    Dump.read "sizes" Sizes.text = .ok Sizes.program ∧ Sizes.program.Regular ∧
      Dump.program "sizes" Sizes.program.toSexp = .ok Sizes.program ∧
      Dump.program "copy" Sizes.program.toSexp = .ok { Sizes.program with source := "copy" } :=
  have hread := Dump.reading_undoes_writing.2 "sizes" Sizes.text Sizes.program Sizes.read_text
  ⟨Sizes.read_text, hread.1, hread.2,
    Dump.reading_undoes_writing.1 Sizes.program "copy" hread.1⟩

end TaintFlow
