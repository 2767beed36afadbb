/-
Module: TaintFlow.Descriptor
Purpose: Method descriptors. A descriptor lists the parameter types between parentheses and ends with
  the result type. A type name is an array prefix followed by a base letter or by `L` and a class
  name; in a descriptor a class name is closed by a semicolon that is not part of the type name.
Main exports: TypeName, Descriptor, Descriptor.parse, Descriptor.render, isReference
-/
import TaintFlow.Diagnostic
import TaintFlow.Text.Quoted

namespace TaintFlow

/-- The name of a type: `I`, `[B`, `Ljava/lang/String`, `[Lapp/Main`. -/
abbrev TypeName := String

/-- The name of the type without values. -/
def voidType : TypeName := "V"

/-- Classes and arrays are references, base types are not. -/
def isReference (t : TypeName) : Bool :=
  match t.toList with
  | c :: _ => c = 'L' || c = '['
  | [] => false

/-- The types of a method's parameters and of its result. -/
structure Descriptor where
  parameters : List TypeName
  result : TypeName
deriving DecidableEq, Repr, Inhabited

namespace Descriptor

/-- Why a text is no descriptor. -/
inductive Fault where
  | shape
  | truncated
  | unexpected (c : Char)
  | voidParameter
  | resultCount
deriving DecidableEq, Repr, Inhabited

/-- What a fault says. -/
def Fault.message : Fault → String
  | .shape => "method descriptor must look like (...)R"
  | .truncated => "truncated method descriptor"
  | .unexpected c => "unexpected character " ++ Text.quoteChar c ++ " in method descriptor"
  | .voidParameter => "void is not a valid parameter type"
  | .resultCount => "method descriptor needs exactly one return type"

/-- A fault in a text, as it is shown. -/
def Fault.diagnostic (text : String) (f : Fault) : Diagnostic :=
  { kind := .malformedDump, message := f.message, subject := some text }

/-- The letters of the base types, void included. -/
def isBaseLetter (c : Char) : Bool := "ZBCSIJFDV".toList.contains c

/-- Split a sequence of encoded types. `read` holds the characters of the type being read, last first,
    and `inClass` tells whether they have come to a class name. -/
def splitTypes (read : List Char) (inClass : Bool) : List Char → Except Fault (List TypeName)
  | [] => if read.isEmpty then .ok [] else .error .truncated
  | c :: rest =>
      if inClass then
        if c = ';' then do
          let types ← splitTypes [] false rest
          .ok (String.ofList read.reverse :: types)
        else splitTypes (c :: read) true rest
      else if c = '[' then splitTypes (c :: read) false rest
      else if c = 'L' then splitTypes (c :: read) true rest
      else if isBaseLetter c then do
        let types ← splitTypes [] false rest
        .ok (String.ofList (c :: read).reverse :: types)
      else .error (.unexpected c)

/-- Read a descriptor. The first closing parenthesis ends the parameters. -/
def parse (text : String) : Except Fault Descriptor :=
  match text.toList with
  | '(' :: rest =>
      if ')' ∈ rest then do
        let parameters ← splitTypes [] false (rest.takeWhile (· ≠ ')'))
        if parameters.contains voidType then .error .voidParameter
        else
          let results ← splitTypes [] false ((rest.dropWhile (· ≠ ')')).drop 1)
          match results with
          | [result] => .ok { parameters, result }
          | _ => .error .resultCount
      else .error .shape
  | _ => .error .shape

/-- A type name as a descriptor writes it: a class name is closed by a semicolon. -/
def encodeType (t : TypeName) : List Char :=
  match t.toList.dropWhile (· = '[') with
  | 'L' :: _ => t.toList ++ [';']
  | _ => t.toList

/-- The text of a descriptor. -/
def render (d : Descriptor) : String :=
  String.ofList ('(' :: d.parameters.flatMap encodeType ++ ')' :: encodeType d.result)

end Descriptor

end TaintFlow
