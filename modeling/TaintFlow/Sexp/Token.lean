/-
Module: TaintFlow.Sexp.Token
Purpose: Cutting text into tokens. The scanner is an automaton over characters: each character is
  consumed once, in one of six modes. A fault of the text is a token of its own, at the place where
  scanning stops, so that whoever reads the tokens meets faults in the order of the text.
Main exports: Sexp.Fault, Sexp.Bracket, Sexp.Token, Sexp.scan
-/
import TaintFlow.Sexp.Numeral

namespace TaintFlow.Sexp

/-- The two kinds of brackets. -/
inductive Bracket where
  | round
  | square
deriving DecidableEq, Repr, Inhabited

/-- The character that closes a bracket. -/
def Bracket.closer : Bracket → Char
  | .round => ')'
  | .square => ']'

/-- Why a text is not exactly one expression. -/
inductive Fault where
  /-- A bracket is closed by another character, or by none. -/
  | unclosed (expected : Bracket) (found : Option Bracket)
  /-- A closing bracket that nothing opened, with the text from there on. -/
  | unopened (rest : List Char)
  /-- A string without an end. -/
  | openString
  /-- A backslash at the end of the text. -/
  | cutEscape
  /-- An apostrophe with no expression after it. -/
  | bareApostrophe (position : Nat)
  /-- No expression at all, or more than one. -/
  | notSingle
deriving Repr, Inhabited

/-- The diagnostic for a fault. -/
def Fault.message : Fault → String
  | .unclosed expected found =>
      "Not enough closing brackets. Expected " ++ Text.quoteChar expected.closer ++
        " to be the last letter in the sexp. Got: " ++
        (found.map fun b => Text.quoteChar b.closer).getD "None"
  | .unopened rest =>
      "Too many closing brackets. Expected no character left in the sexp. Got: " ++
        Text.quote (String.ofList rest)
  | .openString => "'NoneType' object has no attribute 'start'"
  | .cutEscape => "string index out of range"
  | .bareApostrophe position =>
      s!"No s-exp is found after an apostrophe at position {position}"
  | .notSingle => ""

/-- The pieces of a text. A closing bracket carries the text from it on. -/
inductive Token where
  | opening (bracket : Bracket)
  | closing (bracket : Bracket) (rest : List Char)
  | apostrophe (position : Nat)
  | value (expression : Sexp)
  | broken (fault : Fault)
deriving Repr, Inhabited

/-- What the scanner is reading; characters read so far are kept last first. -/
inductive Mode where
  | between
  | comment
  | string (read : List Char)
  | stringEscape (read : List Char)
  | atom (read : List Char)
  | atomEscape (read : List Char)
deriving Repr, Inhabited

/-- White space between expressions. -/
def isSpace (c : Char) : Bool := c = ' ' || (9 ≤ c.toNat && c.toNat ≤ 13)

/-- Characters that end an atom. -/
def endsAtom (c : Char) : Bool :=
  isSpace c || c = '(' || c = ')' || c = '[' || c = ']' || c = '"' || c = ';'

/-- What a backslash and `c` stand for in a string, last character first. -/
def stringEscape (c : Char) : List Char :=
  match c with
  | '\\' => ['\\']
  | '"' => ['"']
  | 'b' => ['\x08']
  | 'f' => ['\x0c']
  | 'n' => ['\n']
  | 'r' => ['\r']
  | 't' => ['\t']
  | c => [c, '\\']

/-- What a backslash and `c` stand for in an atom, last character first. -/
def atomEscape (c : Char) : List Char :=
  if c ∈ "\\'`\"()[] ,?;#".toList then [c] else [c, '\\']

/-- Tokens completed by a character that stands between expressions, and the mode after it. -/
def enter (position : Nat) (c : Char) (rest : List Char) : List Token × Mode :=
  if isSpace c then ([], .between)
  else match c with
    | '(' => ([.opening .round], .between)
    | '[' => ([.opening .square], .between)
    | ')' => ([.closing .round (c :: rest)], .between)
    | ']' => ([.closing .square (c :: rest)], .between)
    | '\'' => ([.apostrophe position], .between)
    | '"' => ([], .string [])
    | ';' => ([], .comment)
    | '\\' => ([], .atomEscape [])
    | c => ([], .atom [c])

/-- Scan text from a mode on; `position` counts the characters before it. -/
def scan (position : Nat) (mode : Mode) : List Char → List Token
  | [] =>
      match mode with
      | .between => []
      | .comment => []
      | .atom read => [.value (ofAtom read.reverse)]
      | .string _ => [.broken .openString]
      | .stringEscape _ => [.broken .cutEscape]
      | .atomEscape _ => [.broken .cutEscape]
  | c :: rest =>
      match mode with
      | .between =>
          let (tokens, mode) := enter position c rest
          tokens ++ scan (position + 1) mode rest
      | .comment => scan (position + 1) (if c = '\n' then .between else .comment) rest
      | .string read =>
          if c = '"' then
            .value (.str (String.ofList read.reverse)) :: scan (position + 1) .between rest
          else if c = '\\' then scan (position + 1) (.stringEscape read) rest
          else scan (position + 1) (.string (c :: read)) rest
      | .stringEscape read => scan (position + 1) (.string (stringEscape c ++ read)) rest
      | .atom read =>
          if endsAtom c then
            let (tokens, mode) := enter position c rest
            .value (ofAtom read.reverse) :: tokens ++ scan (position + 1) mode rest
          else if c = '\\' then scan (position + 1) (.atomEscape read) rest
          else scan (position + 1) (.atom (c :: read)) rest
      | .atomEscape read => scan (position + 1) (.atom (atomEscape c ++ read)) rest

end TaintFlow.Sexp
