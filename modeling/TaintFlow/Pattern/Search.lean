/-
Module: TaintFlow.Pattern.Search
Purpose: Looking for a beginning of a text that takes all steps of a pattern. A search goes forward as long
  as its steps can be taken and keeps a stack of what to try when one cannot. Groups are marked on the
  way; which marks a failed try takes back depends on the step.
  Besides the position of the step being taken, a search has a place of its own, which tries move. What a
  repetition without a second try could not complete leaves the search at that place, and it goes on
  from there.
Main exports: Pattern.Outcome, Pattern.Search, Pattern.Search.next, Pattern.search
-/
import TaintFlow.Pattern.Step

namespace TaintFlow.Pattern

/-! ### Marks -/

/-- Positions marked so far, up to the last mark. -/
abbrev Marks := Array (Option Nat)

namespace Marks

/-- Add unset marks, as many as `count`. -/
def skip (m : Marks) : Nat → Marks
  | 0 => m
  | count + 1 => skip (m.push none) count

/-- Set a mark. Those skipped are unset. -/
def mark (m : Marks) (index position : Nat) : Marks :=
  if h : index < m.size then m.set index (some position)
  else Array.push (m.skip (index - m.size)) (some position)

/-- Take back what a try has marked. Without care, only marks behind the last one of before are. -/
def restore (now : Marks) (careful : Bool) (before : Marks) : Marks :=
  if careful then before else now.take before.size

/-- The start and the end of a group that holds something. -/
def group? (m : Marks) (number : Nat) : Option (Nat × Nat) := do
  let start ← (← m[2 * number - 2]?)
  let finish ← (← m[2 * number - 1]?)
  if start ≤ finish then some (start, finish) else none

/-- Does some group end before it starts? -/
def areInverted (m : Marks) : Bool :=
  (List.range (m.size / 2)).any fun n =>
    match m[2 * n]?, m[2 * n + 1]? with
    | some (some start), some (some finish) => finish < start
    | _, _ => false

end Marks

/-! ### Searches -/

/-- A repetition of steps. -/
structure Loop where
  reluctant : Bool
  careful : Bool
  least : Nat
  most : Option Nat
  body : List Step
deriving Repr, Inhabited

/-- May there be one more after so many? -/
def mayGoOn (count : Nat) : Option Nat → Bool
  | some most => count < most
  | none => true

/-- Is a position another one than the last? -/
def isElsewhere (position : Nat) : Option Nat → Bool
  | some last => last != position
  | none => true

/-- Where a repetition stands: how often its body was taken, and where it last was tried beyond the least
    number of times. -/
structure Lap where
  loop : Loop
  count : Nat := 0
  last : Option Nat := none
deriving Repr, Inhabited

/-- What is left to do. -/
inductive Rest where
  | done
  | steps (now : List Step) (later : Rest)
  | lap (l : Lap) (later : Rest)
deriving Repr, Inhabited

/-- What is left to do after some steps are taken. -/
def Rest.after (later : Rest) : List Step → Rest
  | [] => later
  | now => .steps now later

/-- The lap after one that is tried at a position. -/
def Lap.next (l : Lap) (position : Nat) : Lap :=
  { l with
    count := l.count + 1
    last := if l.count < l.loop.least then l.last else some position }

/-- A repetition without a second try: how often its body was taken, where the whole began, and where the
    body was last tried beyond the least number of times. -/
structure FirmLap where
  least : Nat
  most : Option Nat
  body : List Step
  start : Nat
  count : Nat := 0
  last : Option Nat := none
deriving Repr, Inhabited

/-- What to do when no step can be taken any more. The last three also enclose what is tried: once all
    steps inside are taken, what was to be tried inside is dropped, and the search goes on outside. -/
inductive Frame where
  /-- Try other alternatives. -/
  | others (careful : Bool) (marks : Marks) (position : Nat) (alternatives : List (List Step))
      (rest : Rest)
  /-- Pass over fewer characters. -/
  | fewer (run : CharRun) (marks : Marks) (start count : Nat) (rest : Rest)
  /-- Pass over one more character. -/
  | more (run : CharRun) (marks : Marks) (start count : Nat) (rest : Rest)
  /-- Leave a repetition. -/
  | leave (marks : Marks) (position : Nat) (rest : Rest)
  /-- Take the body of a repetition once more. -/
  | another (lap : Lap) (marks : Marks) (position : Nat) (rest : Rest)
  /-- Return to a position. -/
  | back (position : Nat)
  /-- End a repetition without a second try. -/
  | firm (lap : FirmLap) (marks : Marks) (rest : Rest)
  /-- End a body without a second try. -/
  | once (position : Nat) (rest : Rest)
  /-- End a look around. -/
  | look (negated careful : Bool) (marks : Marks) (position : Nat) (rest : Rest)
deriving Repr, Inhabited

/-- What a search does next: take steps, try something else, or nothing, since it has found or missed what
    it was for. -/
inductive Turn where
  | forward
  | back
  | found
  | missed
deriving DecidableEq, Repr, Inhabited

/-- A search: what it does next, what is left to do at which position if it goes forward, its own place,
    the marks, and what to do if this fails. -/
structure Search where
  turn : Turn := .forward
  position : Nat := 0
  rest : Rest := .done
  place : Nat := 0
  marks : Marks := #[]
  frames : List Frame := []
deriving Repr, Inhabited

namespace Search

/-- Take steps at a position. -/
@[inline] def forward (s : Search) (position : Nat) (rest : Rest) : Search :=
  { s with turn := .forward, position, rest }

/-- Try something else. -/
@[inline] def back (s : Search) : Search := { s with turn := .back }

/-- Move the place of the search. -/
@[inline] def moveTo (s : Search) (position : Nat) : Search := { s with place := position }

/-- Remember what to do if this fails. -/
@[inline] def push (s : Search) (frame : Frame) : Search := { s with frames := frame :: s.frames }

/-- Take back marks. -/
@[inline] def restore (s : Search) (careful : Bool) (before : Marks) : Search :=
  { s with marks := s.marks.restore careful before }

/-! ### Alternatives -/

/-- Can an alternative be left out, since the character at a position does not begin it? -/
def isHopeless (text : Array Char) (position : Nat) : List Step → Bool
  | .char test :: _ => test.isAhead && !test.fitsAt text position
  | _ => false

/-- Try the alternatives of a choice. -/
def choose (text : Array Char) (s : Search) (careful : Bool) (position : Nat)
    (alternatives : List (List Step)) (rest : Rest) : Search :=
  match alternatives.dropWhile (isHopeless text position) with
  | [] => s.back
  | first :: others =>
      (s.moveTo position).push (.others careful s.marks position others rest)
        |>.forward position (.steps first rest)

/-! ### Repeated characters -/

/-- How many characters a run passes over from a position on, up to a number. -/
def countRun (text : Array Char) (run : CharRun) (position : Nat) (most : Option Nat) : Nat :=
  let left := text.size - position
  run.test.passOver text position (most.elim left (min left)) - position

/-- May so many characters be passed over? -/
def mayEndRun (text : Array Char) (run : CharRun) (start count : Nat) : Bool :=
  match run.before with
  | some code => CharTest.fitsAt text (start + count) (.char false code)
  | none => true

/-- The greatest number up to `count` of characters that may be passed over. -/
def lastEnd? (text : Array Char) (run : CharRun) (start count : Nat) : Option Nat :=
  if count < run.least then none
  else if mayEndRun text run start count then some count
  else match count with
    | 0 => none
    | count + 1 => lastEnd? text run start count

/-- Pass over up to `count` characters, as many as possible first. -/
def passMost (text : Array Char) (s : Search) (run : CharRun) (start count : Nat) (rest : Rest) :
    Search :=
  match lastEnd? text run start count with
  | none => s.back
  | some count =>
      (s.moveTo (start + count)).push (.fewer run s.marks start count rest)
        |>.forward (start + count) rest

/-- Pass over `count` characters, or else over more. -/
def passLeast (s : Search) (run : CharRun) (start count : Nat) (rest : Rest) : Search :=
  (s.moveTo (start + count)).push (.more run s.marks start count rest)
    |>.forward (start + count) rest

/-- Pass over the characters of a run. -/
def several (text : Array Char) (s : Search) (run : CharRun) (position : Nat) (rest : Rest) :
    Search :=
  if text.size < position + run.least then s.back
  else
    let most := if run.manner = .reluctant then some run.least else run.most
    let count := countRun text run position most
    let s := s.moveTo (if run.test.drifts then position + count else position)
    if count < run.least then s.back
    else match run.manner with
      | .greedy => passMost text s run position count rest
      | .reluctant => passLeast s run position count rest
      | .possessive => s.forward (position + count) rest

/-! ### Repeated steps -/

/-- Take the body of a repetition at a position. -/
def takeBody (s : Search) (lap : Lap) (position : Nat) (rest : Rest) : Search :=
  s.forward position (.steps lap.loop.body (.lap (lap.next position) rest))

/-- Continue a repetition at a position. -/
def continueLoop (s : Search) (lap : Lap) (position : Nat) (rest : Rest) : Search :=
  let s := s.moveTo position
  if lap.count < lap.loop.least then (s.push (.back position)).takeBody lap position rest
  else if lap.loop.reluctant then
    (s.push (.another lap s.marks position rest)).forward position rest
  else if mayGoOn lap.count lap.loop.most && isElsewhere position lap.last then
    (s.push (.leave s.marks position rest)).takeBody lap position rest
  else (s.push (.back position)).forward position rest

/-- Continue a repetition without a second try. -/
def continueFirm (s : Search) (lap : FirmLap) (rest : Rest) : Search :=
  let body := Rest.steps lap.body .done
  if lap.count < lap.least then (s.push (.firm lap s.marks rest)).forward s.place body
  else if mayGoOn lap.count lap.most && isElsewhere s.place lap.last then
    (s.push (.firm { lap with last := some s.place } s.marks rest)).forward s.place body
  else s.forward s.place rest

/-! ### Steps -/

/-- Are characters at two places the same, as many as `count`? -/
def areSame (flags : Flags) (text : Array Char) (first second : Nat) : Nat → Bool
  | 0 => true
  | count + 1 =>
      match text[first]?, text[second]? with
      | some c, some d =>
          (if flags.anyCase then lowerCase flags c.toNat == lowerCase flags d.toNat else c == d) &&
            areSame flags text (first + 1) (second + 1) count
      | _, _ => false

/-- Take steps at a position, up to the first one that tries something; `later` is what is left to do after
    all of them. -/
def take (text : Array Char) (s : Search) (position : Nat) (later : Rest) : List Step → Search
  | [] => s.forward position later
  | .char test :: now =>
      if test.fitsAt text position then s.take text (position + 1) later now else s.back
  | .anchor flags a :: now =>
      if a.holds flags text position then s.take text position later now else s.back
  | .mark index :: now =>
      { s with marks := s.marks.mark index position }.take text position later now
  | .again flags number :: now =>
      match s.marks.group? number with
      | none => s.back
      | some (start, finish) =>
          if areSame flags text start position (finish - start) then
            s.take text (position + (finish - start)) later now
          else s.back
  | .given number yes no :: now =>
      let chosen := if (s.marks.group? number).isSome then yes else no
      s.forward position (.steps chosen (later.after now))
  | .choice careful alternatives :: now =>
      choose text s careful position alternatives (later.after now)
  | .several run :: now => several text s run position (later.after now)
  | .loop reluctant careful least most body :: now =>
      let loop := { reluctant, careful, least, most, body }
      s.forward position (.lap { loop } (later.after now))
  | .firm least most body :: now =>
      (s.moveTo position).continueFirm { least, most, body, start := position } (later.after now)
  | .once body :: now =>
      (s.moveTo position).push (.once position (later.after now))
        |>.forward position (.steps body .done)
  | .look negated distance careful body :: now =>
      let rest := later.after now
      if position < distance then if negated then s.forward position rest else s.back
      else
        (s.moveTo (position - distance)).push (.look negated careful s.marks position rest)
          |>.forward (position - distance) (.steps body .done)

/-! ### Turns -/

/-- Go on outside of what encloses the steps that were taken last; if nothing does, the search is over. -/
def leaveEnclosed (s : Search) : List Frame → Search
  | [] => { s with turn := .found, frames := [] }
  | .firm lap _ rest :: frames =>
      { s with frames }.continueFirm { lap with count := lap.count + 1 } rest
  | .once _ rest :: frames => { s with frames }.forward s.place rest
  | .look negated _ _ position rest :: frames =>
      if negated then { s with frames }.back else { s with frames }.forward position rest
  | _ :: frames => s.leaveEnclosed frames

/-- Do what was to be done if something fails. -/
def resume (text : Array Char) (s : Search) : Frame → Search
  | .others careful marks position alternatives rest =>
      choose text (s.restore careful marks) careful position alternatives rest
  | .fewer run marks start count rest =>
      let s := s.restore run.careful marks
      match count with
      | 0 => s.back
      | count + 1 => passMost text s run start count rest
  | .more run marks start count rest =>
      let s := (s.restore run.careful marks).moveTo (start + count)
      if !run.test.fitsAt text (start + count) then s.back
      else
        let s := if run.test.drifts then s.moveTo (start + count + 1) else s
        if mayGoOn count run.most then passLeast s run start (count + 1) rest else s.back
  | .leave marks position rest =>
      (s.restore true marks).moveTo position |>.push (.back position) |>.forward position rest
  | .another lap marks position rest =>
      let s := (s.restore lap.loop.careful marks).moveTo position
      if mayGoOn lap.count lap.loop.most && isElsewhere position lap.last then
        (s.push (.back position)).takeBody lap position rest
      else s.back
  | .back position => (s.moveTo position).back
  | .firm lap marks rest =>
      if lap.count < lap.least then (s.moveTo lap.start).back
      else (s.restore true marks).forward s.place rest
  | .once position _ => (s.moveTo position).back
  | .look negated careful marks position rest =>
      if negated then (s.restore careful marks).forward position rest else s.back

/-- The search after its next turn. -/
def next (text : Array Char) (s : Search) : Search :=
  match s.turn with
  | .forward =>
      match s.rest with
      | .done => (s.moveTo s.position).leaveEnclosed s.frames
      | .steps now later => s.take text s.position later now
      | .lap lap later => s.continueLoop lap s.position later
  | .back =>
      match s.frames with
      | [] => { s with turn := .missed }
      | frame :: frames => { s with frames }.resume text frame
  | _ => s

/-- The search after it is over, or after `fuel` turns. -/
def run (text : Array Char) (s : Search) : Nat → Search
  | 0 => s
  | fuel + 1 =>
      match s.turn with
      | .found => s
      | .missed => s
      | _ => (s.next text).run text fuel

end Search

/-! ### Outcomes -/

/-- What comes of a search. A group that ends before it starts spoils what was found. -/
inductive Outcome where
  | matched
  | unmatched
  | inverted
deriving DecidableEq, Repr, Inhabited

/-- More turns than a search takes in any time there is. -/
def turnLimit : Nat := Nat.pow 2 40

/-- The outcome of looking for a beginning of a text that takes some steps. -/
def search (steps : List Step) (text : Array Char) : Outcome :=
  let s := ({ rest := .steps steps .done } : Search).run text turnLimit
  if s.turn ≠ .found then .unmatched
  else if s.marks.areInverted then .inverted
  else .matched

end TaintFlow.Pattern
