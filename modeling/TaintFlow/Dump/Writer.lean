/-
Module: TaintFlow.Dump.Writer
Purpose: Writing programs in the form in which the reader takes them. Names are written as string
  literals; the loader of a class is always written, other attributes when they are set, and a body
  for every method that may have one.
Main exports: Instruction.toSexp, Method.toSexp, ClassDecl.toSexp, Program.toSexp
-/
import TaintFlow.Program

namespace TaintFlow

namespace Dump

/-- A form with a tag. -/
def tagged (tag : String) (operands : List Sexp) : Sexp := .list (.symbol tag :: operands)

/-- A value number. -/
def writeValue (v : Value) : Sexp := .int v

/-- The result of a call; a low line stands for none. -/
def writeResult : Option Value → Sexp
  | some v => writeValue v
  | none => .symbol "_"

/-- A form without operands, when it is wanted. -/
def flagForm (tag : String) (wanted : Bool) : List Sexp := if wanted then [tagged tag []] else []

end Dump

open Dump

/-- The form of an instruction. -/
def Instruction.toSexp : Instruction → Sexp
  | .const r v => tagged "const" [writeValue r, v]
  | .new r t => tagged "new" [writeValue r, .str t]
  | .binary r op a b => tagged "binop" [writeValue r, .str op, writeValue a, writeValue b]
  | .unary r op a => tagged "unop" [writeValue r, .str op, writeValue a]
  | .cast r v t => tagged "cast" [writeValue r, writeValue v, .str t]
  | .getField r (some base) f =>
      tagged "getfield" [writeValue r, writeValue base, .str f.owner, .str f.name]
  | .getField r none f => tagged "getstatic" [writeValue r, .str f.owner, .str f.name]
  | .putField (some base) f v =>
      tagged "putfield" [writeValue base, .str f.owner, .str f.name, writeValue v]
  | .putField none f v => tagged "putstatic" [.str f.owner, .str f.name, writeValue v]
  | .arrayLoad r a i => tagged "aload" [writeValue r, writeValue a, writeValue i]
  | .arrayStore a i v => tagged "astore" [writeValue a, writeValue i, writeValue v]
  | .invoke r site args =>
      tagged "invoke" (writeResult r :: .symbol site.kind.name :: .str site.target.owner ::
        .str site.target.name :: .str site.target.descriptor :: args.map writeValue)
  | .branch op a b t => tagged "if" [.str op, writeValue a, writeValue b, .int t]
  | .goto t => tagged "goto" [.int t]
  | .ret v => tagged "return" (v.toList.map writeValue)
  | .throw v => tagged "throw" [writeValue v]
  | .phi r vs => tagged "phi" (writeValue r :: vs.map writeValue)

/-- The form of a method. -/
def Method.toSexp (m : Method) : Sexp :=
  tagged "method" (.str m.signature.name :: .str m.signature.descriptor ::
    flagForm "static" m.isStatic ++ flagForm "abstract" m.isAbstract ++
    flagForm "native" m.isNative ++
    (if m.hasBody then [tagged "body" (m.code.toList.map Instruction.toSexp)] else []))

/-- The form of a class. -/
def ClassDecl.toSexp (c : ClassDecl) : Sexp :=
  tagged "class" (.str c.name :: tagged "loader" [.symbol c.loader.name] ::
    c.superclass.toList.map (fun s => tagged "super" [.str s]) ++
    (if c.interfaces.isEmpty then [] else [tagged "interfaces" (c.interfaces.map .str)]) ++
    flagForm "abstract" c.isAbstract ++ flagForm "interface" c.isInterface ++
    c.methods.map Method.toSexp)

/-- The form of a program. -/
def Program.toSexp (p : Program) : Sexp := tagged "program" (p.classes.map ClassDecl.toSexp)

end TaintFlow
