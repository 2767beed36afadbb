/-
Module: TaintFlow.Proofs.Dump.AttributeOrder
Purpose: The order of attributes in a dump makes no difference, as long as attributes of one tag keep theirs.
  An attribute is read on its own and then put with the others; attributes of different tags can be put in
  either order, with the same success and the same result. So a list of attributes may be rearranged: each
  attribute in turn is moved past others that have another tag. Methods are read when all other attributes
  of their class are known, wherever they stand among these.
Main exports: Dump.tag?, Dump.Rearranged, Dump.Independent, Dump.Independent.foldlM,
  Dump.ClassAttributes.independent_add, Dump.MethodAttributes.independent_add, Dump.Reordered,
  Dump.attribute_order_irrelevant
-/
import Mathlib.Data.List.Forall2
import Mathlib.Data.List.Perm.Basic
import TaintFlow.Proofs.Dump.Formed

namespace TaintFlow.Dump

/-! ### Rearranged forms -/

/-- The tag of a form, if it has one. -/
def tag? : Sexp → Option String
  | .list (.symbol tag :: _) => some tag
  | _ => none

/-- The same forms in another order, in which the forms of each tag keep theirs. -/
structure Rearranged (forms forms' : List Sexp) : Prop where
  perm : forms.Perm forms'
  order : ∀ tag, forms.filter (fun s => tag? s == some tag) = forms'.filter fun s => tag? s == some tag

namespace Rearranged

variable {x : Sexp} {xs ys : List Sexp}

/-- The first of some forms stands, in another order of theirs, behind forms of other tags only. -/
theorem exists_split (h : Rearranged (x :: xs) ys) :
    ∃ before after, ys = before ++ x :: after ∧ ∀ y ∈ before, tag? x = none ∨ tag? y ≠ tag? x := by
  cases htag : tag? x with
  | none =>
      obtain ⟨before, after, hys⟩ := List.append_of_mem (h.perm.subset List.mem_cons_self)
      exact ⟨before, after, hys, fun _ _ => Or.inl rfl⟩
  | some tag =>
      have horder := h.order tag
      rw [List.filter_cons_of_pos (by simp [htag])] at horder
      obtain ⟨before, after, hys, hbefore, _⟩ := List.filter_eq_cons_iff.mp horder.symm
      refine ⟨before, after, hys, fun y hy => Or.inr ?_⟩
      simpa using hbefore y hy

/-- Without that form, the others are rearranged. -/
theorem tail {before after : List Sexp} (h : Rearranged (x :: xs) (before ++ x :: after))
    (hbefore : ∀ y ∈ before, tag? x = none ∨ tag? y ≠ tag? x) : Rearranged xs (before ++ after) where
  perm := (h.perm.trans List.perm_middle).cons_inv
  order := by
    intro tag
    have horder := h.order tag
    rw [List.filter_append, List.filter_cons, List.filter_cons] at horder
    rw [List.filter_append]
    by_cases htag : tag? x = some tag
    · have hnone : before.filter (fun s => tag? s == some tag) = [] := by
        apply List.filter_eq_nil_iff.mpr
        intro y hy
        have hne := hbefore y hy
        simp only [htag] at hne
        simpa using hne
      simpa [htag, hnone] using horder
    · simpa [htag] using horder

end Rearranged

/-! ### Steps that can be taken in either order -/

section

variable {ε α β γ : Type} {step : β → Sexp → Except ε β} {x : Sexp} {xs ys before after : List Sexp} {b : β}

@[simp] theorem toOption_ok {a : α} : (.ok a : Except ε α).toOption = some a := rfl

@[simp] theorem toOption_error {e : ε} : (.error e : Except ε α).toOption = none := rfl

theorem toOption_eq_some_iff {r : Except ε α} {a : α} : r.toOption = some a ↔ r = .ok a := by
  cases r <;> simp

theorem toOption_eq_none_iff {r : Except ε α} : r.toOption = none ↔ ∃ e, r = .error e := by
  cases r <;> simp

@[simp] theorem toOption_bind (r : Except ε α) (f : α → Except ε β) :
    (r >>= f).toOption = r.toOption.bind fun a => (f a).toOption := by
  cases r <;> rfl

/-- Forms of different tags can be taken in either order, and so can a form without a tag and any other. -/
def Independent (step : β → Sexp → Except ε β) : Prop :=
  ∀ b x y, tag? x = none ∨ tag? y ≠ tag? x →
    (step b x).toOption.bind (fun b' => (step b' y).toOption) =
      (step b y).toOption.bind fun b' => (step b' x).toOption

theorem toOption_foldlM_cons :
    ((x :: xs).foldlM step b).toOption =
      (step b x).toOption.bind fun b' => (xs.foldlM step b').toOption := by
  rw [List.foldlM_cons, toOption_bind]

namespace Independent

/-- A form can be moved to the front, past forms of other tags. -/
theorem move (h : Independent step) (hbefore : ∀ y ∈ before, tag? x = none ∨ tag? y ≠ tag? x) (b : β) :
    ((before ++ x :: after).foldlM step b).toOption =
      ((x :: (before ++ after)).foldlM step b).toOption := by
  induction before generalizing b with
  | nil => rfl
  | cons y before ih =>
      rw [List.forall_mem_cons] at hbefore
      have hrest := ih hbefore.2
      simp only [List.cons_append, toOption_foldlM_cons] at hrest ⊢
      simp only [hrest, ← Option.bind_assoc]
      rw [h b x y hbefore.1]

/-- Rearranged forms have the same outcome. The induction is on the first list: its head is moved to the
    front of the second one. -/
theorem foldlM (h : Independent step) (hxs : Rearranged xs ys) (b : β) :
    (xs.foldlM step b).toOption = (ys.foldlM step b).toOption := by
  induction xs generalizing ys b with
  | nil => rw [List.nil_perm.mp hxs.perm]
  | cons x xs ih =>
      obtain ⟨before, after, rfl, hbefore⟩ := hxs.exists_split
      have hrest := ih (hxs.tail hbefore)
      rw [h.move hbefore, toOption_foldlM_cons, toOption_foldlM_cons]
      simp only [hrest]

/-- Steps that read a form on its own and then put what they have read are independent, if things of
    different tags can be put in either order. -/
theorem of_read {read : Sexp → Option γ} {put : β → γ → Option β} {kind : γ → String}
    (hstep : ∀ b x, (step b x).toOption = (read x).bind (put b))
    (htag : ∀ x u, read x = some u → tag? x = some (kind u))
    (hput : ∀ b u v, kind u ≠ kind v →
      (put b u).bind (fun b' => put b' v) = (put b v).bind fun b' => put b' u) :
    Independent step := by
  intro b x y hne
  simp only [hstep]
  cases hx : read x with
  | none => simp
  | some u =>
      cases hy : read y with
      | none => simp
      | some v =>
          have hkinds : kind u ≠ kind v := by
            intro heq
            rw [htag x u hx, htag y v hy, heq] at hne
            simp at hne
          simpa using hput b u v hkinds

end Independent

end

theorem tag?_of_form {s : Sexp} {tag : String} {operands : List Sexp} (h : form s = .ok (tag, operands)) :
    tag? s = some tag := by
  unfold form at h
  split at h
  · cases h
    rfl
  · cases h
  · cases h

/-! ### Attributes of methods -/

/-- One attribute of a method. -/
inductive MethodAttribute where
  | static
  | abstract
  | native
  | body (code : Code)

namespace MethodAttribute

/-- The tag of an attribute. -/
def tag : MethodAttribute → String
  | .static => "static"
  | .abstract => "abstract"
  | .native => "native"
  | .body _ => "body"

/-- The attribute that a form describes, whatever stands beside it. -/
def read (item : Sexp) : Except Cause MethodAttribute := do
  let (tag, operands) ← form item
  match tag with
  | "static" => .ok .static
  | "abstract" => .ok .abstract
  | "native" => .ok .native
  | "body" => do
      let code ← instructions 0 operands
      .ok (.body code.toArray)
  | _ => .error (.unknownMethodAttribute tag)

theorem tag?_of_read {item : Sexp} {u : MethodAttribute} (h : (read item).toOption = some u) :
    tag? item = some u.tag := by
  obtain ⟨⟨tag, operands⟩, hform, hread⟩ := bind_eq_ok.mp (toOption_eq_some_iff.mp h)
  rw [tag?_of_form hform]
  dsimp only at hread
  split at hread
  · cases hread
    rfl
  · cases hread
    rfl
  · cases hread
    rfl
  · obtain ⟨code, _, hread⟩ := bind_eq_ok.mp hread
    cases hread
    rfl
  · cases hread

end MethodAttribute

namespace MethodAttributes

/-- Put an attribute with others; there can be one body only. -/
def put (a : MethodAttributes) : MethodAttribute → Option MethodAttributes
  | .static => some { a with isStatic := true }
  | .abstract => some { a with isAbstract := true }
  | .native => some { a with isNative := true }
  | .body code => if a.body.isSome then none else some { a with body := some code }

theorem toOption_add (a : MethodAttributes) (item : Sexp) :
    (a.add item).toOption = (MethodAttribute.read item).toOption.bind a.put := by
  unfold add MethodAttribute.read
  rw [toOption_bind, toOption_bind]
  cases form item with
  | error e => rfl
  | ok parts =>
      obtain ⟨tag, operands⟩ := parts
      simp only [toOption_ok, Option.bind_some]
      split
      · rfl
      · rfl
      · rfl
      · -- a second body is refused whether it can be read or not
        cases hbody : a.body.isSome <;> cases instructions 0 operands <;> simp [put, hbody]
      · simp

/-- Flags and a body do not get in each other's way. -/
theorem put_comm (a : MethodAttributes) {u v : MethodAttribute} (h : u.tag ≠ v.tag) :
    (a.put u).bind (fun a' => a'.put v) = (a.put v).bind fun a' => a'.put u := by
  cases hbody : a.body <;> cases u <;> cases v <;> simp [put, MethodAttribute.tag, hbody] at h ⊢

theorem independent_add : Independent add :=
  .of_read toOption_add (fun _ _ => MethodAttribute.tag?_of_read) fun a _ _ => a.put_comm

end MethodAttributes

/-! ### Attributes of classes -/

/-- One attribute of a class. -/
inductive ClassAttribute where
  | loader (loader : Loader)
  | superclass (name : TypeName)
  | interfaces (names : List TypeName)
  | abstract
  | interface
  | method (operands : List Sexp)

namespace ClassAttribute

/-- The tag of an attribute. -/
def tag : ClassAttribute → String
  | .loader _ => "loader"
  | .superclass _ => "super"
  | .interfaces _ => "interfaces"
  | .abstract => "abstract"
  | .interface => "interface"
  | .method _ => "method"

/-- The attribute that a form describes, whatever stands beside it. -/
def read (item : Sexp) : Except Cause ClassAttribute := do
  let (tag, operands) ← form item
  match tag with
  | "loader" => do
      let l ← Dump.loader operands
      .ok (.loader l)
  | "super" => do
      let s ← Dump.superclass operands
      .ok (.superclass s)
  | "interfaces" => do
      let names ← operands.mapM name
      .ok (.interfaces names)
  | "abstract" => .ok .abstract
  | "interface" => .ok .interface
  | "method" => .ok (.method operands)
  | _ => .error (.unknownClassAttribute tag)

theorem tag?_of_read {item : Sexp} {u : ClassAttribute} (h : (read item).toOption = some u) :
    tag? item = some u.tag := by
  obtain ⟨⟨tag, operands⟩, hform, hread⟩ := bind_eq_ok.mp (toOption_eq_some_iff.mp h)
  rw [tag?_of_form hform]
  dsimp only at hread
  split at hread
  · obtain ⟨l, _, hread⟩ := bind_eq_ok.mp hread
    cases hread
    rfl
  · obtain ⟨s, _, hread⟩ := bind_eq_ok.mp hread
    cases hread
    rfl
  · obtain ⟨names, _, hread⟩ := bind_eq_ok.mp hread
    cases hread
    rfl
  · cases hread
    rfl
  · cases hread
    rfl
  · cases hread
    rfl
  · cases hread

end ClassAttribute

namespace ClassAttributes

/-- Put an attribute with others; of attributes with one tag the last counts, and methods are kept. -/
def put (a : ClassAttributes) : ClassAttribute → ClassAttributes
  | .loader l => { a with decl := { a.decl with loader := l } }
  | .superclass s => { a with decl := { a.decl with superclass := some s } }
  | .interfaces names => { a with decl := { a.decl with interfaces := names } }
  | .abstract => { a with decl := { a.decl with isAbstract := true } }
  | .interface => { a with decl := { a.decl with isAbstract := true, isInterface := true } }
  | .method operands => { a with methodForms := operands :: a.methodForms }

theorem toOption_add (a : ClassAttributes) (item : Sexp) :
    (a.add item).toOption = (ClassAttribute.read item).toOption.bind fun u => some (a.put u) := by
  unfold add ClassAttribute.read
  rw [toOption_bind, toOption_bind]
  cases form item with
  | error e => rfl
  | ok parts =>
      obtain ⟨tag, operands⟩ := parts
      simp only [toOption_ok, Option.bind_some]
      split
      · cases Dump.loader operands <;> rfl
      · cases Dump.superclass operands <;> rfl
      · cases operands.mapM name <;> rfl
      · rfl
      · rfl
      · rfl
      · simp

/-- Attributes of different tags change different parts, or both make the class abstract. -/
theorem put_comm (a : ClassAttributes) {u v : ClassAttribute} (h : u.tag ≠ v.tag) :
    (a.put u).put v = (a.put v).put u := by
  cases u <;> cases v <;> simp [put, ClassAttribute.tag] at h ⊢

theorem independent_add : Independent add :=
  .of_read toOption_add (fun _ _ => ClassAttribute.tag?_of_read)
    fun a _ _ h => congrArg some (a.put_comm h)

end ClassAttributes

/-! ### Reading methods -/

@[simp] theorem toOption_located {α : Type} {place : Place} {r : Except Cause α} :
    (located place r).toOption = r.toOption := by
  cases r <;> rfl

/-- Two method forms, without their tags, describe the same method, or none, in every class. -/
def SameMethod (operands operands' : List Sexp) : Prop :=
  ∀ c, (readMethod c operands).toOption = (readMethod c operands').toOption

theorem methodBody_rearranged {attributes attributes' : List Sexp} (h : Rearranged attributes attributes')
    (c : ClassDecl) (selector : Selector) :
    (methodBody c selector attributes).toOption = (methodBody c selector attributes').toOption := by
  unfold methodBody
  split
  · rfl
  · rw [toOption_bind, toOption_bind, MethodAttributes.independent_add.foldlM h]

/-- A method form may have its attributes rearranged. -/
theorem SameMethod.of_rearranged {name descriptor : Sexp} {attributes attributes' : List Sexp}
    (h : Rearranged attributes attributes') :
    SameMethod (name :: descriptor :: attributes) (name :: descriptor :: attributes') := by
  intro c
  simp only [readMethod, methodHeader, toOption_bind, toOption_located, toOption_ok, Option.bind_assoc,
    Option.bind_some, methodBody_rearranged h]

/-- Methods are read into a class one after the other, each in the class as it is by then. -/
theorem addMethods_congr {forms forms' : List (List Sexp)} (h : List.Forall₂ SameMethod forms forms')
    (c : ClassDecl) : (addMethods c forms).toOption = (addMethods c forms').toOption := by
  induction h generalizing c with
  | nil => rfl
  | cons hsame _ ih =>
      simp only [addMethods, toOption_bind, hsame c]
      congr 1
      funext m
      split
      · rfl
      · exact ih _

/-! ### Reading classes -/

/-- The class that attributes make, once its methods are read. -/
def ClassAttributes.outcome (a : ClassAttributes) : Option ClassDecl :=
  (addMethods a.decl a.methodForms.reverse).toOption

/-- Attributes that differ in how methods are written, and not in what these are. -/
structure ClassAttributes.Like (a a' : ClassAttributes) : Prop where
  decl : a.decl = a'.decl
  methodForms : List.Forall₂ SameMethod a.methodForms a'.methodForms

namespace ClassAttributes.Like

variable {a a' : ClassAttributes}

theorem outcome_eq (h : a.Like a') : a.outcome = a'.outcome := by
  unfold outcome
  rw [h.decl]
  exact addMethods_congr (List.forall₂_reverse_iff.mpr h.methodForms) _

theorem method {operands operands' : List Sexp} (h : a.Like a') (hsame : SameMethod operands operands') :
    (a.put (.method operands)).Like (a'.put (.method operands')) :=
  ⟨h.decl, .cons hsame h.methodForms⟩

theorem put (h : a.Like a') (u : ClassAttribute) : (a.put u).Like (a'.put u) := by
  cases u with
  | method operands => exact h.method fun _ => rfl
  | _ => exact ⟨by simp only [ClassAttributes.put, h.decl], h.methodForms⟩

end ClassAttributes.Like

/-- An attribute of a class, and the same one where the attributes of a method may be rearranged. -/
inductive SameAttribute : Sexp → Sexp → Prop where
  | refl (s : Sexp) : SameAttribute s s
  | method {name descriptor : Sexp} {attributes attributes' : List Sexp} :
      Rearranged attributes attributes' →
      SameAttribute (.list (.symbol "method" :: name :: descriptor :: attributes))
        (.list (.symbol "method" :: name :: descriptor :: attributes'))

/-- The induction goes along both lists; what has been read so far differs in the forms of methods only. -/
theorem outcome_congr {attributes attributes' : List Sexp}
    (h : List.Forall₂ SameAttribute attributes attributes') {a a' : ClassAttributes} (hlike : a.Like a') :
    (attributes.foldlM ClassAttributes.add a).toOption.bind ClassAttributes.outcome =
      (attributes'.foldlM ClassAttributes.add a').toOption.bind ClassAttributes.outcome := by
  induction h generalizing a a' with
  | nil => exact hlike.outcome_eq
  | @cons s s' _ _ hsame _ ih =>
      simp only [toOption_foldlM_cons, Option.bind_assoc]
      cases hsame with
      | refl =>
          rw [ClassAttributes.toOption_add, ClassAttributes.toOption_add]
          cases (ClassAttribute.read s).toOption with
          | none => rfl
          | some u => exact ih (hlike.put u)
      | method hrearranged => exact ih (hlike.method (.of_rearranged hrearranged))

/-- Class forms that differ in the order of attributes only: those of the class, and those of each method,
    are rearranged. -/
inductive Reordered : Sexp → Sexp → Prop where
  | mk {name : Sexp} {attributes between attributes' : List Sexp} :
      List.Forall₂ SameAttribute attributes between → Rearranged between attributes' →
      Reordered (.list (.symbol "class" :: name :: attributes))
        (.list (.symbol "class" :: name :: attributes'))

theorem toOption_readClass {prior : Option TypeName} {n : Sexp} {attributes : List Sexp} :
    (readClass prior (.list (.symbol "class" :: n :: attributes))).toOption =
      (name n).toOption.bind fun n => if n.toList.head? = some 'L' then
        (attributes.foldlM ClassAttributes.add { decl := { name := n } }).toOption.bind
          ClassAttributes.outcome
      else none := by
  have hheader : classHeader (.list (.symbol "class" :: n :: attributes)) =
      name n >>= fun n => .ok (n, attributes) := rfl
  simp only [readClass, hheader, toOption_bind, toOption_located, toOption_ok, Option.bind_assoc,
    Option.bind_some]
  congr 1
  funext n
  unfold classAttributes
  split <;> rfl

/-- Reordered class forms describe the same class, or none. -/
theorem Reordered.toOption_eq {s s' : Sexp} (h : Reordered s s') (prior prior' : Option TypeName) :
    (readClass prior s).toOption = (readClass prior' s').toOption := by
  obtain ⟨hsame, hrearranged⟩ := h
  rw [toOption_readClass, toOption_readClass]
  congr 1
  funext n
  rw [outcome_congr hsame ⟨rfl, .nil⟩, ClassAttributes.independent_add.foldlM hrearranged]

/-- The order of attributes is irrelevant. A class form whose attributes, and those of its methods, are
    rearranged is refused exactly if it was refused before; and what it describes is the same class, with the
    same attributes and the same methods in the same order. -/
theorem attribute_order_irrelevant {s s' : Sexp} (h : Reordered s s') (prior prior' : Option TypeName) :
    ((∃ f, readClass prior s = .error f) ↔ ∃ f, readClass prior' s' = .error f) ∧
      ∀ c c', readClass prior s = .ok c → readClass prior' s' = .ok c' → c = c' := by
  have heq := h.toOption_eq prior prior'
  constructor
  · rw [← toOption_eq_none_iff, ← toOption_eq_none_iff, heq]
  · intro c c' hc hc'
    rw [hc, hc', toOption_ok, toOption_ok] at heq
    exact Option.some.inj heq

namespace Shuffled

/-- A method with its flag before its body. -/
def method : Sexp :=
  .list [.symbol "method", .symbol "size", .str "()I", .list [.symbol "static"],
    .list [.symbol "body", .list [.symbol "const", .int 1, .int 0], .list [.symbol "return", .int 1]]]

/-- The method with its body first. -/
def method' : Sexp :=
  .list [.symbol "method", .symbol "size", .str "()I",
    .list [.symbol "body", .list [.symbol "const", .int 1, .int 0], .list [.symbol "return", .int 1]],
    .list [.symbol "static"]]

/-- A method that has nothing but a signature. -/
def bare : Sexp := .list [.symbol "method", .symbol "name", .str "()I"]

/-- A class form in which the interface and two loaders come after the methods. -/
def form : Sexp :=
  .list [.symbol "class", .symbol "LA", method, bare, .list [.symbol "loader", .symbol "application"],
    .list [.symbol "interface"], .list [.symbol "loader", .symbol "primordial"]]

/-- The same class form with the methods last. -/
def form' : Sexp :=
  .list [.symbol "class", .symbol "LA", .list [.symbol "interface"],
    .list [.symbol "loader", .symbol "application"], method', .list [.symbol "loader", .symbol "primordial"],
    bare]

/-- The class that both describe: an interface, whose bare method is abstract. -/
def decl : ClassDecl :=
  { name := "LA"
    loader := .primordial
    isAbstract := true
    isInterface := true
    methods :=
      [{ signature := ⟨"LA", "size", "()I"⟩, loader := .primordial, isStatic := true
         code := #[.const 1 (.int 0), .ret (some 1)] },
        { signature := ⟨"LA", "name", "()I"⟩, loader := .primordial, isAbstract := true }] }

theorem rearranged_method :
    Rearranged
      [.list [.symbol "static"],
        .list [.symbol "body", .list [.symbol "const", .int 1, .int 0], .list [.symbol "return", .int 1]]]
      [.list [.symbol "body", .list [.symbol "const", .int 1, .int 0], .list [.symbol "return", .int 1]],
        .list [.symbol "static"]] where
  perm := .swap _ _ _
  order := by
    intro tag
    by_cases hstatic : "static" = tag
    · simp [tag?, ← hstatic]
    · simp [tag?, hstatic, List.filter_cons]

theorem rearranged_class :
    Rearranged
      [method', bare, .list [.symbol "loader", .symbol "application"], .list [.symbol "interface"],
        .list [.symbol "loader", .symbol "primordial"]]
      [.list [.symbol "interface"], .list [.symbol "loader", .symbol "application"], method',
        .list [.symbol "loader", .symbol "primordial"], bare] where
  perm := by
    have hmoved : ∀ a b c d e : Sexp, [a, b, c, d, e].Perm [d, c, a, e, b] := by
      intro a b c d e
      have hd : ([a, b, c] ++ d :: [e]).Perm (d :: ([a, b, c] ++ [e])) := List.perm_middle
      have hc : ([a, b] ++ c :: [e]).Perm (c :: ([a, b] ++ [e])) := List.perm_middle
      exact hd.trans ((hc.trans (((List.Perm.swap _ _ _).cons a).cons c)).cons d)
    exact hmoved _ _ _ _ _
  order := by
    intro tag
    by_cases hmethod : "method" = tag
    · simp [tag?, method', bare, ← hmethod]
    · by_cases hloader : "loader" = tag
      · simp [tag?, method', bare, ← hloader]
      · simp [tag?, method', bare, hmethod, hloader, List.filter_cons]

theorem reordered : Reordered form form' :=
  .mk (.cons (.method rearranged_method) (.cons (.refl _) (.cons (.refl _) (.cons (.refl _)
    (.cons (.refl _) .nil))))) rearranged_class

theorem readClass_form : readClass none form = .ok decl := by with_unfolding_all rfl

end Shuffled

/-- An interface whose methods stand before its other attributes, with one flag before the body it belongs to,
    is read like the same interface with the methods last. -/
theorem attribute_order_irrelevant_shuffled :
    Reordered Shuffled.form Shuffled.form' ∧ readClass none Shuffled.form = .ok Shuffled.decl ∧
      readClass none Shuffled.form' = .ok Shuffled.decl := by
  refine ⟨Shuffled.reordered, Shuffled.readClass_form, ?_⟩
  obtain ⟨hfails, hsame⟩ := attribute_order_irrelevant Shuffled.reordered none none
  cases hread : readClass none Shuffled.form' with
  | error f =>
      obtain ⟨f', hf'⟩ := hfails.mpr ⟨f, hread⟩
      rw [Shuffled.readClass_form] at hf'
      cases hf'
  | ok c => rw [hsame _ _ Shuffled.readClass_form hread]

end TaintFlow.Dump
