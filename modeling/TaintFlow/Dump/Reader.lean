/-
Module: TaintFlow.Dump.Reader
Purpose: Reading programs. A class form has a name and attributes in any order; its methods are read
  after all other attributes, since they depend on the class's loader and on whether it is an
  interface. A method form has a name, a descriptor, flags and at most one body.
Main exports: Dump.readMethod, Dump.readClass, Dump.program, Dump.read
-/
import TaintFlow.Dump.Form

namespace TaintFlow.Dump

/-- What the attributes of a method say. -/
structure MethodAttributes where
  isStatic : Bool := false
  isAbstract : Bool := false
  isNative : Bool := false
  body : Option Code := none
deriving Repr, Inhabited

/-- Take one more attribute of a method into account. -/
def MethodAttributes.add (a : MethodAttributes) (item : Sexp) : Except Cause MethodAttributes := do
  let (tag, operands) ← form item
  match tag with
  | "static" => .ok { a with isStatic := true }
  | "abstract" => .ok { a with isAbstract := true }
  | "native" => .ok { a with isNative := true }
  | "body" =>
      if a.body.isSome then .error .twoBodies
      else
        let code ← instructions 0 operands
        .ok { a with body := some code.toArray }
  | _ => .error (.unknownMethodAttribute tag)

/-- The method that attributes make of a signature: a method of an interface is abstract unless it has
    a body, and its instructions must form a body. -/
def MethodAttributes.method (a : MethodAttributes) (c : ClassDecl) (signature : Signature) :
    Except Cause Method :=
  if a.body.isSome && (a.isAbstract || a.isNative) then .error .forbiddenBody
  else
    let m : Method :=
      { signature
        loader := c.loader
        isStatic := a.isStatic
        isAbstract := a.isAbstract || (c.isInterface && a.body.isNone)
        isNative := a.isNative
        code := a.body.getD #[] }
    match m.code.check m.parameterCount with
    | .error reason => .error (.malformedBody reason)
    | .ok () => .ok m

/-- The name and the descriptor at the head of a method form, and its attributes. -/
def methodHeader : List Sexp → Except Cause (Selector × List Sexp)
  | n :: d :: attributes => do
      let n ← name n
      let d ← name d
      .ok (⟨n, d⟩, attributes)
  | _ => .error .shortMethod

/-- What follows the header of a method form. -/
def methodBody (c : ClassDecl) (selector : Selector) (attributes : List Sexp) :
    Except Cause Method := do
  match Descriptor.parse selector.descriptor with
  | .error reason => .error (.methodDescriptor reason)
  | .ok _ =>
      let a ← attributes.foldlM MethodAttributes.add {}
      a.method c ⟨c.name, selector.name, selector.descriptor⟩

/-- Read the operands of a method form of class `c`. -/
def readMethod (c : ClassDecl) (operands : List Sexp) : Except Fault Method := do
  let (selector, attributes) ← located { type := c.name } (methodHeader operands)
  located { type := c.name, method := selector } (methodBody c selector attributes)

/-- The attributes of a class that are not methods, and the operands of its method forms, last
    first. -/
structure ClassAttributes where
  decl : ClassDecl
  methodForms : List (List Sexp) := []
deriving Repr, Inhabited

/-- The loader that a loader form names. -/
def loader : List Sexp → Except Cause Loader
  | [n] => do
      let n ← name n
      match Loader.ofName? n with
      | some l => .ok l
      | none => .error (.unknownLoader n)
  | operands => .error (.operandCount "loader" 1 operands.length)

/-- The class that a superclass form names. -/
def superclass : List Sexp → Except Cause TypeName
  | [n] => name n
  | operands => .error (.operandCount "super" 1 operands.length)

/-- Take one more attribute of a class into account; of attributes with one tag the last counts. -/
def ClassAttributes.add (a : ClassAttributes) (item : Sexp) : Except Cause ClassAttributes := do
  let (tag, operands) ← form item
  match tag with
  | "loader" =>
      let l ← loader operands
      .ok { a with decl := { a.decl with loader := l } }
  | "super" =>
      let s ← superclass operands
      .ok { a with decl := { a.decl with superclass := some s } }
  | "interfaces" =>
      let names ← operands.mapM name
      .ok { a with decl := { a.decl with interfaces := names } }
  | "abstract" => .ok { a with decl := { a.decl with isAbstract := true } }
  | "interface" => .ok { a with decl := { a.decl with isAbstract := true, isInterface := true } }
  | "method" => .ok { a with methodForms := operands :: a.methodForms }
  | _ => .error (.unknownClassAttribute tag)

/-- Read method forms one after the other into a class. -/
def addMethods (c : ClassDecl) : List (List Sexp) → Except Fault ClassDecl
  | [] => .ok c
  | operands :: rest => do
      let m ← readMethod c operands
      if (c.method? m.signature.selector).isSome then
        .error { cause := .repeatedMethod m.signature, place := { type := c.name } }
      else addMethods { c with methods := c.methods ++ [m] } rest

/-- The name at the head of a class form, and the rest of the form. -/
def classHeader (s : Sexp) : Except Cause (TypeName × List Sexp) := do
  let (tag, operands) ← form s
  match operands with
  | n :: attributes =>
      if tag = "class" then
        let n ← name n
        .ok (n, attributes)
      else .error (.notClass s)
  | [] => .error (.notClass s)

/-- The attributes of a class other than its methods. -/
def classAttributes (n : TypeName) (attributes : List Sexp) : Except Cause ClassAttributes :=
  if n.toList.head? = some 'L' then
    attributes.foldlM ClassAttributes.add { decl := { name := n } }
  else .error .className

/-- Read a class form; `prior` is the class read before it, where faults of the header are placed. -/
def readClass (prior : Option TypeName) (s : Sexp) : Except Fault ClassDecl := do
  let (n, attributes) ← located { type := prior } (classHeader s)
  let a ← located { type := n } (classAttributes n attributes)
  addMethods a.decl a.methodForms.reverse

/-- Read class forms one after the other into a program. -/
def addClasses (p : Program) : List Sexp → Except Fault Program
  | [] => .ok p
  | s :: rest => do
      let c ← readClass (p.classes.getLast?.map ClassDecl.name) s
      if p.classes.any fun d => d.name == c.name then
        .error { cause := .repeatedClass c.name, place := { type := c.name } }
      else addClasses { p with classes := p.classes ++ [c] } rest

/-- The program that an expression describes. -/
def program (source : String) (s : Sexp) : Except Fault Program := do
  let (tag, operands) ← located {} (form s)
  if tag = "program" then addClasses { source } operands
  else .error { cause := .notProgram }

/-- The program that a text describes. -/
def read (source text : String) : Except Fault Program :=
  match Sexp.read text with
  | .ok s => program source s
  | .error reason => .error { cause := .notExpression reason }

end TaintFlow.Dump
