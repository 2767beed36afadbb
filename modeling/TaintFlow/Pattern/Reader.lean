/-
Module: TaintFlow.Pattern.Reader
Purpose: The notation for patterns. A pattern is read from left to right; open groups are kept on a
  stack. After an opening parenthesis, a question mark tells what a group is for. Groups to be
  remembered are numbered in the order of their parentheses and can be referred to once they are closed.
Main exports: Pattern.Expression, Pattern.read
-/
import TaintFlow.Pattern.CharSet
import TaintFlow.Pattern.Group
import TaintFlow.Pattern.Search
import TaintFlow.Text.Identifier
import TaintFlow.Text.Numeral

namespace TaintFlow.Pattern

/-! ### Bounds of repetitions -/

/-- A least and a greatest number of times. -/
structure Bounds where
  least : Nat
  most : Option Nat
deriving DecidableEq, Repr, Inhabited

/-- The count that digits denote. -/
def readCount (digits : List Char) : Except Fault Nat :=
  if Text.Numeral.digitLimit < digits.length then
    .error (Cause.breakdown (.overlongCount digits.length)).fault
  else if countLimit ≤ Text.Numeral.value digits then
    .error (Cause.breakdown .countTooLarge).fault
  else .ok (Text.Numeral.value digits)

/-- Bounds in braces, and what follows; `none` if the braces are not bounds and stand for themselves.
    `source` follows the opening brace. -/
def readBounds (source : Source) : Except Fault (Option (Bounds × Source)) := do
  let size := source.tokens.length
  let (low, after) ← source.takeUpTo Char.isDigit size
  let (parted, after) ← after.skip ','
  let (high, after) ← if parted then after.takeUpTo Char.isDigit size else .ok (low, after)
  let (closed, after) ← after.skip '\x7d'
  if !closed || (low.isEmpty && !parted) then .ok none
  else
    let least ← readCount low
    let most ← if high.isEmpty then .ok none else (readCount high).map some
    if most.any (· < least) then faultAt source.position .bounds
    else .ok (some ({ least, most }, after))

/-! ### Flags -/

/-- The letters of flags. -/
def isFlag (c : Char) : Bool := "aiLmstux".toList.contains c

/-- The flags that letters turn on and off. -/
structure FlagLetters where
  on : List Char := []
  off : List Char := []
deriving DecidableEq, Repr, Inhabited

/-- The change that a letter makes. -/
def flagChange? : Char → Option (Flag × Bool)
  | 'i' => some (.anyCase, true)
  | 'm' => some (.everyLine, true)
  | 's' => some (.anyLine, true)
  | 'a' => some (.asciiOnly, true)
  | 'u' => some (.asciiOnly, false)
  | _ => none

/-- The changes that flags make. -/
def FlagLetters.changes (f : FlagLetters) : List (Flag × Bool) :=
  f.on.filterMap flagChange? ++ (f.off.filterMap flagChange?).map fun p => (p.1, false)

/-- Where tokens start, given the end of the text. -/
def startOf (finish : Nat) (ts : List Placed) : Nat := ({ tokens := ts, finish } : Source).position

/-- Check the letters of flags to turn on, the last one first; `ts` follow it. -/
def checkOn (finish : Nat) (on : List Char) (ts : List Placed) : Except Fault Unit :=
  if on.head? = some 'L' then faultAt (startOf finish ts) .localeFlag
  else if on.contains 'a' && on.contains 'u' then faultAt (startOf finish ts) .mixedFlags
  else .ok ()

/-- Read letters of flags to turn on, of which some are read, and the mark after them. -/
def flagsOn (finish : Nat) (on : List Char) : List Placed → Except Fault (List Char × Char × Source)
  | [] => do
      checkOn finish on []
      faultAt finish .unendedFlags
  | t :: rest => do
      checkOn finish on (t :: rest)
      let after ← Source.checked { tokens := rest, finish }
      match t.token with
      | .char d =>
          if d = ')' ∨ d = '-' ∨ d = ':' then .ok (on, d, after)
          else if isFlag d then flagsOn finish (d :: on) rest
          else faultAt t.position (if Text.isLetter d then .unknownFlag else .unendedFlags)
      | _ => faultAt t.position .unendedFlags

/-- Check the letters of flags to turn off, the last one first; `ts` follow it. -/
def checkOff (finish : Nat) (off : List Char) (ts : List Placed) : Except Fault Unit :=
  if off.head?.any "auL".toList.contains then faultAt (startOf finish ts) .lockedFlag else .ok ()

/-- Read letters of flags to turn off, of which some are read, and the colon after them. -/
def flagsOff (finish : Nat) (off : List Char) : List Placed → Except Fault (List Char × Source)
  | [] => do
      checkOff finish off []
      faultAt finish .missingColon
  | t :: rest => do
      checkOff finish off (t :: rest)
      let after ← Source.checked { tokens := rest, finish }
      match t.token with
      | .char d =>
          if d = ':' then .ok (off, after)
          else if isFlag d then flagsOff finish (d :: off) rest
          else faultAt t.position (if Text.isLetter d then .unknownFlag else .missingColon)
      | _ => faultAt t.position .missingColon

/-- Read the flags to turn off after a dash. -/
def flagsAfterDash (source : Source) : Except Fault (List Char × Source) := do
  match source.tokens with
  | [] => faultAt source.finish .missingFlag
  | t :: _ => do
      let after ← source.advance
      match t.token with
      | .char c =>
          if isFlag c then flagsOff source.finish [c] after.tokens
          else faultAt t.position (if Text.isLetter c then .unknownFlag else .missingFlag)
      | _ => faultAt t.position .missingFlag

/-- Read flags that begin with `c`: those for the whole pattern end with a parenthesis, and then the
    first result is true; those for one group end with a colon. -/
def readFlags (c : Char) (source : Source) : Except Fault (Bool × FlagLetters × Source) := do
  let (on, mark, source) ← if c = '-' then .ok ([], c, source)
    else flagsOn source.finish [c] source.tokens
  if mark = ')' then .ok (true, { on }, source)
  else if on.contains 't' then faultAt (source.position - 1) .globalFlagOn
  else
    let (off, source) ← if mark = '-' then flagsAfterDash source else .ok ([], source)
    if off.contains 't' then faultAt (source.position - 1) .globalFlagOff
    else if on.any off.contains then faultAt (source.position - 1) .contradictoryFlag
    else .ok (false, { on, off }, source)

/-! ### Groups -/

/-- What has been read: the innermost open group and the groups around it, the flags for the whole, and
    what is known about groups to be remembered. The outermost group is the whole pattern. -/
structure State where
  group : Group := {}
  outer : List Group := []
  flags : List (Flag × Bool) := []
  /-- Is the pattern a template? -/
  template : Bool := false
  /-- The number of groups opened to be remembered. -/
  count : Nat := 0
  /-- The widths of those that are closed. -/
  closed : List (Nat × Width) := []
  /-- The numbers of those that have names. -/
  names : List (String × Nat) := []
  /-- The numbers asked about before they were known, and where. -/
  questions : List (Nat × Nat) := []
  /-- Inside a look behind, the number of the first group opened there. -/
  behind : Option Nat := none
deriving Repr, Inhabited

namespace State

/-- Add an item to the innermost group. -/
def add (s : State) (item : Item) : State := { s with group := s.group.add item }

/-- Open a group. -/
def openGroup (s : State) (group : Group) : State := { s with group, outer := s.group :: s.outer }

/-- Open a group of a kind at a position. -/
def openPlain (s : State) (opened : Nat) (kind : GroupKind) : State :=
  s.openGroup { opened, kind, spaced := s.group.spaced }

/-- Open a group to be remembered at a position. -/
def openRemembered (s : State) (opened : Nat) : State :=
  { s with count := s.count + 1 }.openPlain opened (.remembered (s.count + 1))

/-- Close the innermost group. -/
def closeGroup (s : State) (around : Group) (outer : List Group) : State :=
  let g := s.group
  let s := { s with group := around.add g.item, outer }
  match g.kind with
  | .remembered n => { s with closed := (n, g.body.width) :: s.closed }
  | .look _ true =>
      { s with
        behind := if (around :: outer).any fun o => o.kind matches .look _ true then s.behind
          else none }
  | _ => s

/-- Is a reference to a group allowed inside the look behind that is open? -/
def checkBehind (s : State) (number position : Nat) : Except Fault Unit :=
  match s.behind with
  | none => .ok ()
  | some first =>
      if (s.closed.lookup number).isNone then faultAt position .openReference
      else if first ≤ number then faultAt position .referenceBehind
      else .ok ()

/-- Refer to a group; `openAt` is the position for the fault that the group is still open, and `source`
    follows the reference. -/
def refer (s : State) (number openAt : Nat) (source : Source) : Except Fault State :=
  match s.closed.lookup number with
  | none => faultAt openAt .openReference
  | some width => do
      s.checkBehind number source.position
      .ok (s.add (.unit (.again number width)))

/-- Read a name up to a mark. -/
def readName (source : Source) (mark : Char) : Except Fault (String × Source) := do
  let (name, after) ← source.takeName mark "group name"
  if Text.isName name then .ok (name, after)
  else faultAt (after.position - (name.length + 1)) (.badName name)

/-- Open a group with a name. -/
def openNamed (s : State) (opened : Nat) (source : Source) : Except Fault (State × Source) := do
  let (name, after) ← readName source '>'
  let number := s.count + 1
  match s.names.lookup name with
  | some earlier =>
      faultAt (after.position - (name.length + 1)) (.takenName name number earlier)
  | none => .ok ({ s with names := (name, number) :: s.names }.openRemembered opened, after)

/-- Refer to a group by name. -/
def referNamed (s : State) (source : Source) : Except Fault (State × Source) := do
  let (name, after) ← readName source ')'
  let position := after.position - (name.length + 1)
  match s.names.lookup name with
  | none => faultAt position (.unknownName name)
  | some number => .ok (← s.refer number position after, after)

/-- Read what follows the mark for names. -/
def named (s : State) (opened : Nat) (source : Source) : Except Fault (State × Source) :=
  match source.tokens with
  | [] => faultAt source.finish .cutExtension
  | t :: _ => do
      let after ← source.advance
      match t.token with
      | .char '<' => s.openNamed opened after
      | .char '=' => s.referNamed after
      | token => faultAt (t.position - 2) (.unknownExtension ("P" ++ token.text))

/-- Open a group that looks ahead or behind. -/
def openLook (s : State) (opened : Nat) (negated behind : Bool) : State :=
  let s := if behind then { s with behind := some (s.behind.getD (s.count + 1)) } else s
  s.openPlain opened (.look negated behind)

/-- Read what follows the mark for looking behind. -/
def lookBehind (s : State) (opened : Nat) (source : Source) : Except Fault (State × Source) :=
  match source.tokens with
  | [] => faultAt source.finish .cutExtension
  | t :: _ => do
      let after ← source.advance
      match t.token with
      | .char '=' => .ok (s.openLook opened false true, after)
      | .char '!' => .ok (s.openLook opened true true, after)
      | token => faultAt (t.position - 2) (.unknownExtension ("<" ++ token.text))

/-- The number of groups is at most this one. -/
def groupLimit : Nat := 1073741823

/-- The number of the group that a question asks about, and where it is known only later that there is
    such a group, its position. -/
def questioned (s : State) (text : String) (position : Nat) : Except Fault (Nat × Option Nat) :=
  if Text.isName text then
    match s.names.lookup text with
    | some number => .ok (number, none)
    | none => faultAt position (.unknownName text)
  else match (Text.Numeral.plain? text.toList).bind Text.Numeral.integer? with
    | some (.ofNat number) =>
        if number = 0 then faultAt position .zeroReference
        else if groupLimit ≤ number then faultAt position (.unknownReference number)
        else .ok (number, some position)
    | _ => faultAt position (.badName text)

/-- Open a group that depends on whether something is remembered. -/
def openGiven (s : State) (opened : Nat) (source : Source) : Except Fault (State × Source) := do
  let (text, after) ← source.takeName ')' "group name"
  let (number, open?) ← s.questioned text (after.position - (text.length + 1))
  s.checkBehind number after.position
  let questions := match open? with
    | some position => s.questions ++ [(number, position)]
    | none => s.questions
  .ok ({ s with questions }.openPlain opened (.given number), after)

/-- Pass over a comment. -/
def comment (opened finish : Nat) : List Placed → Except Fault Source
  | [] => faultAt opened .openComment
  | t :: rest => do
      let after ← Source.checked { tokens := rest, finish }
      if t.token = .char ')' then .ok after else comment opened finish rest

/-- Has nothing been read that flags for the whole pattern would have to stand before? -/
def isFresh (s : State) : Bool :=
  s.outer.isEmpty && s.group.alternatives.isEmpty && s.group.items.isEmpty

/-- Take flags into account: for the whole pattern, or for a group that is opened. -/
def openFlagged (s : State) (opened : Nat) (c : Char) (source : Source) :
    Except Fault (State × Source) := do
  let (whole, letters, source) ← readFlags c source
  let spaced := (s.group.spaced || letters.on.contains 'x') && !letters.off.contains 'x'
  if whole then
    if s.isFresh then
      .ok
        ({ s with
            flags := s.flags ++ letters.changes
            template := s.template || letters.on.contains 't'
            group := { s.group with spaced } }, source)
    else faultAt opened .lateFlags
  else
    .ok (s.openGroup { opened, kind := .flagged letters.changes, spaced }, source)

/-- Read what follows a question mark after an opening parenthesis at `opened`. -/
def extension (s : State) (opened : Nat) (source : Source) : Except Fault (State × Source) :=
  match source.tokens with
  | [] => faultAt source.finish .cutExtension
  | t :: _ => do
      let after ← source.advance
      match t.token with
      | .char 'P' => s.named opened after
      | .char ':' => .ok (s.openPlain opened .plain, after)
      | .char '#' => do .ok (s, ← comment opened after.finish after.tokens)
      | .char '=' => .ok (s.openLook opened false false, after)
      | .char '!' => .ok (s.openLook opened true false, after)
      | .char '<' => s.lookBehind opened after
      | .char '(' => s.openGiven opened after
      | .char '>' => .ok (s.openPlain opened .once, after)
      | .char c =>
          if isFlag c || c = '-' then s.openFlagged opened c after
          else faultAt (t.position - 1) (.unknownExtension t.token.text)
      | token => faultAt (t.position - 1) (.unknownExtension token.text)

/-! ### Reading -/

/-- Repeat the last item; `position` is where the repetition starts and `source` follows its bounds. A
    mark after them tells the manner. -/
def repeatLast (s : State) (position : Nat) (bounds : Bounds) (source : Source) :
    Except Fault (State × Source) := do
  let again (manner : Manner) : Except Fault State := do
    .ok { s with group := ← s.group.repeatLast position manner bounds.least bounds.most }
  let greedy ← again .greedy
  let (reluctant, source) ← source.skip '?'
  if reluctant then .ok (← again .reluctant, source)
  else
    let (possessive, source) ← source.skip '+'
    if possessive then .ok (← again .possessive, source) else .ok (greedy, source)

/-- Take an escape into account that starts at `position`. -/
def escaped (s : State) (position : Nat) (c : Char) (source : Source) :
    Except Fault (State × Source) := do
  let (meaning, source) ← escape position c source
  match meaning with
  | .code n => .ok (s.add (.unit (.char false n)), source)
  | .item i => .ok (s.add (.unit (.oneOf false [i])), source)
  | .anchor a => .ok (s.add (.unit (.anchor a)), source)
  | .reference number =>
      if s.count < number then faultAt (position + 1) (.unknownReference number)
      else .ok (← s.refer number position source, source)

/-- Pass over the rest of a line. -/
def line (finish : Nat) : List Placed → Except Fault Source
  | [] => .ok { tokens := [], finish }
  | t :: rest => do
      let after ← Source.checked { tokens := rest, finish }
      if t.token = .char '\n' then .ok after else line finish rest

/-- Is the character passed over where blanks do not count? -/
def isSpacing (c : Char) : Bool :=
  c = ' ' || c = '\t' || c = '\n' || c = '\r' || c = '\x0b' || c = '\x0c'

/-- Take a character into account that starts at `position` and ends no alternative; `source` follows
    it. -/
def character (s : State) (position : Nat) (c : Char) (source : Source) :
    Except Fault (State × Source) :=
  if s.group.spaced && isSpacing c then .ok (s, source)
  else if s.group.spaced && c = '#' then do .ok (s, ← line source.finish source.tokens)
  else match c with
    | '.' => .ok (s.add (.unit .any), source)
    | '^' => .ok (s.add (.unit (.anchor .start)), source)
    | '$' => .ok (s.add (.unit (.anchor .finish)), source)
    | '*' => s.repeatLast position ⟨0, none⟩ source
    | '+' => s.repeatLast position ⟨1, none⟩ source
    | '?' => s.repeatLast position ⟨0, some 1⟩ source
    | '\x7b' => do
        match ← readBounds source with
        | none => .ok (s.add (.unit (.char false c.toNat)), source)
        | some (bounds, after) => s.repeatLast position bounds after
    | '[' => do
        let (p, source) ← readSet position source
        .ok (s.add (.unit p), source)
    | '(' => do
        let (extended, source) ← source.skip '?'
        if extended then s.extension position source
        else .ok (s.openRemembered position, source)
    | c => .ok (s.add (.unit (.char false c.toNat)), source)

/-- Take a bar into account: it ends an alternative. A group that depends on something has two. -/
def bar (s : State) (position : Nat) : Except Fault State :=
  match s.group.kind, s.group.alternatives with
  | .given _, _ :: _ => faultAt position .thirdBranch
  | _, _ => .ok { s with group := s.group.nextAlternative }

/-- Check the flags for the whole pattern: its classes are those of one alphabet. -/
def checkFlags (s : State) : Except Fault Unit :=
  if s.flags.contains (.asciiOnly, true) && s.flags.contains (.asciiOnly, false) then
    .error (Cause.breakdown .twoAlphabets).fault
  else .ok ()

/-- Read the next token, with those of the tokens after it that belong to it. -/
def step (s : State) (t : Placed) (source : Source) : Except Fault (State × Source) :=
  match t.token, s.outer with
  | .char ')', [] => do
      s.checkFlags
      faultAt t.position .unopenedGroup
  | .char ')', around :: outer => do
      let source ← source.advance
      .ok (s.closeGroup around outer, source)
  | .char '|', _ => do
      let s ← s.bar t.position
      .ok (s, ← source.advance)
  | .char c, _ => do s.character t.position c (← source.advance)
  | .escape c, _ => do s.escaped t.position c (← source.advance)
  | .cut, _ => faultAt t.position .cutEscape

/-- Read all tokens. -/
def run (s : State) (source : Source) : Except Fault State :=
  match source.tokens with
  | [] => .ok s
  | t :: _ => do
      let (s, after) ← s.step t source
      if _h : after.tokens.length < source.tokens.length then s.run after else .ok s
termination_by source.tokens.length

end State

/-! ### Expressions -/

/-- The steps for a pattern, and the least length of what it matches. -/
structure Expression where
  steps : List Step
  least : Nat := 0
deriving Repr, Inhabited

/-- What comes of looking for a beginning of a name that the expression matches. -/
def Expression.outcome (e : Expression) (name : String) : Outcome :=
  let text := name.toList.toArray
  if text.size < e.least then .unmatched else search e.steps text

/-- The expression of all that was read. No group may be open, and questions must have been about groups
    that there are. -/
def State.expression (s : State) : Except Fault Expression := do
  if !s.outer.isEmpty then faultAt s.group.opened .openGroup
  else
    s.checkFlags
    match s.questions.find? fun q => s.count < q.1 with
    | some (number, position) => faultAt position (.unknownReference number)
    | none =>
        let p := s.group.body
        match stepsOf s.template (({} : Flags).setAll s.flags) p with
        | .ok steps => .ok { steps, least := p.width.least }
        | .error cause => .error cause.fault

/-- The expression that a text denotes. -/
def read (text : String) : Except Fault Expression := do
  let source ← Source.ofText text
  let s ← State.run {} source
  s.expression

end TaintFlow.Pattern
