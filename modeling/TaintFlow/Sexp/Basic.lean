/-
Module: TaintFlow.Sexp.Basic
Purpose: The expressions a program dump is made of, and the text by which diagnostics show them.
Main exports: Sexp, Sexp.sort, Sexp.text
-/
import TaintFlow.Decimal.Shortest
import TaintFlow.Text.Quoted

namespace TaintFlow

/-- An expression: a number, a string, a symbol, a list in round or square brackets, or a quoted
    expression. -/
inductive Sexp where
  | int (n : Int)
  | real (x : Decimal.Binary64)
  | str (s : String)
  | symbol (name : String)
  | list (items : List Sexp)
  | brackets (items : List Sexp)
  | quoted (item : Sexp)
deriving Repr, Inhabited

namespace Sexp

/-- The name of an expression's sort in diagnostics. -/
def sort : Sexp → String
  | .int _ => "int"
  | .real _ => "float"
  | .str _ => "str"
  | .symbol _ => "Symbol"
  | .list _ => "list"
  | .brackets _ => "Brackets"
  | .quoted _ => "Quoted"

mutual

/-- The text of an expression in diagnostics. -/
def text : Sexp → String
  | .int n => toString n
  | .real x => x.text
  | .str s => Text.quote s
  | .symbol name => "Symbol(" ++ Text.quote name ++ ")"
  | .list items => Text.bracketed (texts items)
  | .brackets items => "Brackets(I=" ++ Text.bracketed (texts items) ++ ")"
  | .quoted item => "Quoted(" ++ text item ++ ")"

/-- The texts of several expressions. -/
def texts : List Sexp → List String
  | [] => []
  | item :: items => text item :: texts items

end

end Sexp

end TaintFlow
