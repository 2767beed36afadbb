/-
Module: TaintFlow.Dump.Form
Purpose: The building blocks of a dump: tagged forms, names, value numbers, indices and instructions.
Main exports: Dump.form, Dump.name, Dump.value, Dump.index, Dump.instruction
-/
import TaintFlow.Dump.Fault

namespace TaintFlow.Dump

/-- A tagged form: its tag and its operands. -/
def form : Sexp → Except Cause (String × List Sexp)
  | .list (.symbol tag :: operands) => .ok (tag, operands)
  | .list (head :: _) => .error (.notSymbol head)
  | got => .error (.notForm got)

/-- A name: a string or a symbol. -/
def name : Sexp → Except Cause String
  | .symbol s => .ok s
  | .str s => .ok s
  | got => .error (.notName got)

/-- A value number: a positive integer. -/
def value : Sexp → Except Cause Value
  | .int n => if 0 < n then .ok n.toNat else .error (.notValue (.int n))
  | got => .error (.notValue got)

/-- A result: a value number, or an underscore for none. -/
def result : Sexp → Except Cause (Option Value)
  | .symbol "_" => .ok none
  | got => (value got).map some

/-- An instruction index: an integer that is not negative. -/
def index : Sexp → Except Cause Nat
  | .int n => if 0 ≤ n then .ok n.toNat else .error (.notIndex (.int n))
  | got => .error (.notIndex got)

/-- A constant: a symbol stands for its name, anything else for itself. -/
def constant : Sexp → Sexp
  | .symbol s => .str s
  | got => got

/-- A call. Faults are reported in the order in which the parts are given meaning: result, kind,
    target, arguments, and then what the target's descriptor demands. -/
def call (i : Nat) : List Sexp → Except Cause Instruction
  | r :: k :: owner :: method :: descriptor :: args => do
      let result ← result r
      let kindName ← name k
      match CallKind.ofName? kindName with
      | none => .error (.unknownCallKind kindName)
      | some kind =>
          let owner ← name owner
          let method ← name method
          let descriptor ← name descriptor
          let target : Signature := ⟨owner, method, descriptor⟩
          let args ← args.mapM value
          match target.types with
          | .error reason => .error (.callDescriptor i reason)
          | .ok types =>
              let expected := types.parameters.length + (if kind = .static then 0 else 1)
              if args.length ≠ expected then
                .error (.argumentCount target i args.length expected)
              else if result.isSome && types.result == voidType then
                .error (.voidResult target i)
              else .ok (.invoke result ⟨i, target, kind⟩ args)
  | _ => .error .shortInvoke

/-- The instruction that a tag and its operands make at index `i`. -/
def instructionOf (i : Nat) (tag : String) (operands : List Sexp) : Except Cause Instruction :=
  let wrong (expected : Nat) : Except Cause Instruction :=
    .error (.operandCount tag expected operands.length)
  match tag with
  | "const" => match operands with
      | [r, v] => do .ok (.const (← value r) (constant v))
      | _ => wrong 2
  | "new" => match operands with
      | [r, type] => do .ok (.new (← value r) (← name type))
      | _ => wrong 2
  | "binop" => match operands with
      | [r, op, a, b] => do .ok (.binary (← value r) (← name op) (← value a) (← value b))
      | _ => wrong 4
  | "unop" => match operands with
      | [r, op, a] => do .ok (.unary (← value r) (← name op) (← value a))
      | _ => wrong 3
  | "cast" => match operands with
      | [r, a, type] => do .ok (.cast (← value r) (← value a) (← name type))
      | _ => wrong 3
  | "getfield" => match operands with
      | [r, base, owner, field] => do
          let field : FieldRef := ⟨← name owner, ← name field⟩
          .ok (.getField (← value r) (some (← value base)) field)
      | _ => wrong 4
  | "putfield" => match operands with
      | [base, owner, field, v] => do
          let field : FieldRef := ⟨← name owner, ← name field⟩
          .ok (.putField (some (← value base)) field (← value v))
      | _ => wrong 4
  | "getstatic" => match operands with
      | [r, owner, field] => do
          let field : FieldRef := ⟨← name owner, ← name field⟩
          .ok (.getField (← value r) none field)
      | _ => wrong 3
  | "putstatic" => match operands with
      | [owner, field, v] => do
          let field : FieldRef := ⟨← name owner, ← name field⟩
          .ok (.putField none field (← value v))
      | _ => wrong 3
  | "aload" => match operands with
      | [r, a, i] => do .ok (.arrayLoad (← value r) (← value a) (← value i))
      | _ => wrong 3
  | "astore" => match operands with
      | [a, i, v] => do .ok (.arrayStore (← value a) (← value i) (← value v))
      | _ => wrong 3
  | "invoke" => call i operands
  | "if" => match operands with
      | [op, a, b, target] => do
          .ok (.branch (← name op) (← value a) (← value b) (← index target))
      | _ => wrong 4
  | "goto" => match operands with
      | [target] => do .ok (.goto (← index target))
      | _ => wrong 1
  | "return" => match operands with
      | [] => .ok (.ret none)
      | [v] => do .ok (.ret (some (← value v)))
      | _ => wrong 1
  | "throw" => match operands with
      | [v] => do .ok (.throw (← value v))
      | _ => wrong 1
  | "phi" => match operands with
      | r :: v :: vs => do .ok (.phi (← value r) (← (v :: vs).mapM value))
      | _ => .error .emptyPhi
  | _ => .error (.unknownInstruction tag i)

/-- The instruction that an expression describes at index `i`. -/
def instruction (i : Nat) (s : Sexp) : Except Cause Instruction := do
  let (tag, operands) ← form s
  instructionOf i tag operands

/-- The instructions that expressions describe from index `i` on. -/
def instructions (i : Nat) : List Sexp → Except Cause (List Instruction)
  | [] => .ok []
  | s :: rest => do
      let inst ← instruction i s
      let code ← instructions (i + 1) rest
      .ok (inst :: code)

end TaintFlow.Dump
