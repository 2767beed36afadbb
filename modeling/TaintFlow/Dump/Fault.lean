/-
Module: TaintFlow.Dump.Fault
Purpose: Why a dump is not a program, and where in the dump the reason was found.
Main exports: Dump.Cause, Dump.Place, Dump.Fault
-/
import TaintFlow.Diagnostic
import TaintFlow.Program
import TaintFlow.Sexp.Reader

namespace TaintFlow.Dump

/-- What is wrong with a dump. -/
inductive Cause where
  | unreadable (reason : String)
  | notExpression (reason : Sexp.Fault)
  | notForm (got : Sexp)
  | notSymbol (got : Sexp)
  | notName (got : Sexp)
  | notValue (got : Sexp)
  | notIndex (got : Sexp)
  | operandCount (tag : String) (expected actual : Nat)
  | shortInvoke
  | unknownCallKind (name : String)
  | callDescriptor (index : Nat) (reason : Descriptor.Fault)
  | argumentCount (target : Signature) (index actual expected : Nat)
  | voidResult (target : Signature) (index : Nat)
  | emptyPhi
  | unknownInstruction (tag : String) (index : Nat)
  | shortMethod
  | methodDescriptor (reason : Descriptor.Fault)
  | twoBodies
  | unknownMethodAttribute (tag : String)
  | forbiddenBody
  | malformedBody (reason : Code.Fault)
  | unknownLoader (name : String)
  | notClass (got : Sexp)
  | className
  | unknownClassAttribute (tag : String)
  | repeatedMethod (signature : Signature)
  | repeatedClass (name : TypeName)
  | notProgram
deriving Repr, Inhabited

/-- A quoted list of the admissible names. -/
def choices (names : List String) : String := Text.bracketed (names.map Text.quote)

/-- The diagnostic for a cause. -/
def Cause.message : Cause → String
  | .unreadable reason => "cannot read program dump: " ++ reason
  | .notExpression reason => "not a valid S-expression: " ++ reason.message
  | .notForm got => "expected form (tag ...), got: " ++ got.text
  | .notSymbol got => "expected symbol, got " ++ got.sort ++ ": " ++ got.text
  | .notName got => "expected string or symbol, got " ++ got.sort ++ ": " ++ got.text
  | .notValue got => "expected value number, got " ++ got.text
  | .notIndex got => "expected instruction index, got " ++ got.text
  | .operandCount tag expected actual => s!"({tag} ...) takes {expected} operands, got {actual}"
  | .shortInvoke => "(invoke R kind owner name descriptor arg...) is too short"
  | .unknownCallKind name =>
      "unknown invoke kind " ++ Text.quote name ++ "; expected one of " ++
        choices (CallKind.all.map CallKind.name)
  | .callDescriptor index reason => s!"bad descriptor in call at {index}: " ++ reason.message
  | .argumentCount target index actual expected =>
      "call to " ++ target.text ++ s!" at {index} passes {actual} arguments, expected {expected}"
  | .voidResult target index =>
      "call to void method " ++ target.text ++ s!" at {index} cannot define a value"
  | .emptyPhi => "(phi R V...) needs at least one incoming value"
  | .unknownInstruction tag index => s!"unknown instruction form ({tag} ...) at index {index}"
  | .shortMethod => "(method name descriptor ...) is too short"
  | .methodDescriptor reason => reason.message
  | .twoBodies => "method has two bodies"
  | .unknownMethodAttribute tag => s!"unknown method attribute ({tag} ...)"
  | .forbiddenBody => "abstract and native methods cannot have a body"
  | .malformedBody reason => reason.message
  | .unknownLoader name =>
      "unknown loader " ++ Text.quote name ++ "; expected one of " ++
        choices (Loader.all.map Loader.name)
  | .notClass got => "expected (class \"Lname\" ...), got: " ++ got.text
  | .className => "class names must start with 'L'"
  | .unknownClassAttribute tag => s!"unknown class attribute ({tag} ...)"
  | .repeatedMethod signature => "method " ++ signature.text ++ " declared twice"
  | .repeatedClass name => "class " ++ name ++ " declared twice"
  | .notProgram => "a program dump must be a single (program ...) form"

/-- The class and the method being read: the name of the last class that had one, and the selector of
    the method whose attributes are being read. -/
structure Place where
  type : Option TypeName := none
  method : Option Selector := none
deriving DecidableEq, Repr, Inhabited

/-- A place as the subject of a diagnostic. -/
def Place.subject (p : Place) : Option String :=
  match p.type, p.method with
  | none, _ => none
  | some type, none => some type
  | some type, some selector =>
      let text := selector.name ++ selector.descriptor
      if text = "" then some type else some (type ++ "." ++ text)

/-- A cause and its place. -/
structure Fault where
  cause : Cause
  place : Place := {}
deriving Repr, Inhabited

/-- A fault found in a file, as it is shown. -/
def Fault.diagnostic (file : String) (f : Fault) : Diagnostic :=
  { kind := .malformedDump
    message := f.cause.message
    subject := f.place.subject
    file := some file }

/-- Give the causes that a reader reports their place. -/
def located {α : Type} (place : Place) (result : Except Cause α) : Except Fault α :=
  result.mapError fun cause => { cause, place }

end TaintFlow.Dump
