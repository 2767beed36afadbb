/-
Module: TaintFlow.Pattern.Token
Purpose: The text of a pattern as tokens. A token is a character, or a backslash with the character
  after it. A lone backslash at the end is reported as soon as it becomes the next token, so every way
  of going on looks at what comes next.
Main exports: Pattern.Token, Pattern.Source, Pattern.Source.advance
-/
import TaintFlow.Pattern.Fault

namespace TaintFlow.Pattern

/-- A character, or a backslash and the character after it, if there is one. -/
inductive Token where
  | char (c : Char)
  | escape (c : Char)
  | cut
deriving DecidableEq, Repr, Inhabited

/-- The text of a token. -/
def Token.text : Token → String
  | .char c => String.singleton c
  | .escape c => String.ofList ['\\', c]
  | .cut => "\\"

/-- A token and where it starts. -/
structure Placed where
  token : Token
  position : Nat
deriving DecidableEq, Repr, Inhabited

/-- Cut a text into tokens. -/
def tokens (position : Nat) : List Char → List Placed
  | [] => []
  | ['\\'] => [⟨.cut, position⟩]
  | '\\' :: c :: rest => ⟨.escape c, position⟩ :: tokens (position + 2) rest
  | c :: rest => ⟨.char c, position⟩ :: tokens (position + 1) rest

/-- What is left of the text of a pattern, and the length of the whole. -/
structure Source where
  tokens : List Placed
  finish : Nat
deriving DecidableEq, Repr, Inhabited

namespace Source

/-- Where the rest starts. -/
def position (s : Source) : Nat := ((s.tokens.head?).map Placed.position).getD s.finish

/-- The next token. -/
def next? (s : Source) : Option Token := s.tokens.head?.map Placed.token

/-- The source itself, unless a lone backslash is next. -/
def checked (s : Source) : Except Fault Source :=
  match s.tokens with
  | ⟨.cut, position⟩ :: _ => faultAt position .cutEscape
  | _ => .ok s

/-- The source of a text. -/
def ofText (text : String) : Except Fault Source :=
  checked { tokens := Pattern.tokens 0 text.toList, finish := text.length }

/-- Go on behind the next token. -/
def advance (s : Source) : Except Fault Source := checked { s with tokens := s.tokens.drop 1 }

/-- Go on behind a character if it is next, and tell whether it was. -/
def skip (s : Source) (c : Char) : Except Fault (Bool × Source) :=
  if s.next? = some (.char c) then do .ok (true, ← s.advance) else .ok (false, s)

/-- Go on behind at most `n` characters of a class. -/
def takeUpTo (isMember : Char → Bool) : Nat → Source → Except Fault (List Char × Source)
  | 0, s => .ok ([], s)
  | n + 1, s =>
      match s.next? with
      | some (.char c) =>
          if isMember c then do
            let (later, s) ← takeUpTo isMember n (← s.advance)
            .ok (c :: later, s)
          else .ok ([], s)
      | _ => .ok ([], s)

/-- The text up to a mark, and what follows the mark; `what` tells what the text is, and `read` is what
    was read of it before. -/
def nameUpTo (finish : Nat) (mark : Char) (what read : String) :
    List Placed → Except Fault (String × Source)
  | [] =>
      if read = "" then faultAt finish (.missingName what)
      else faultAt (finish - read.length) (.openName mark)
  | t :: rest => do
      let after ← checked { tokens := rest, finish }
      if t.token = .char mark then
        if read = "" then faultAt t.position (.missingName what) else .ok (read, after)
      else nameUpTo finish mark what (read ++ t.token.text) rest

/-- The text up to a mark, which must be there and not come first. -/
def takeName (s : Source) (mark : Char) (what : String) : Except Fault (String × Source) :=
  nameUpTo s.finish mark what "" s.tokens

end Source

end TaintFlow.Pattern
