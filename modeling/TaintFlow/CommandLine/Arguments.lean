/-
Module: TaintFlow.CommandLine.Arguments
Purpose: Reading the arguments of the command line. Options may stand anywhere, be joined in one word or
  be abbreviated; a double dash makes everything after it an operand. The words are classified first,
  all of them, and then taken from left to right.
Main exports: CommandLine.Flag, CommandLine.UsageFault, CommandLine.Request, CommandLine.parse
-/
import TaintFlow.Solver.Algorithm

namespace TaintFlow.CommandLine

/-! ### Options -/

/-- What an option does. -/
inductive Flag where
  | help
  | verbose
deriving DecidableEq, Repr, Inhabited

/-- The options by name. -/
def flags : List (String × Flag) :=
  [("-h", .help), ("--help", .help), ("-v", .verbose), ("--verbose", .verbose)]

/-- An option in diagnostics: all its names. -/
def Flag.label (f : Flag) : String :=
  String.intercalate "/" ((flags.filter fun p => p.2 == f).map Prod.fst)

/-- What a word is before the double dash: an operand, an option in full or shortened, perhaps with a
    text attached, by an equals sign or directly, or a word that looks like an option and is none. -/
inductive Reading where
  | operand
  | option (flag : Flag) (name : String) (attached : Option String)
  | unknown
deriving DecidableEq, Repr, Inhabited

/-- Why the arguments cannot be used. -/
inductive UsageFault where
  | ambiguous (word : String) (candidates : List String)
  | ignoredText (flag : Flag) (text : String)
  | invalidAnalysis (text : String)
  | required (names : List String)
  | unrecognized (words : List String)
deriving DecidableEq, Repr, Inhabited

/-- The diagnostic for a fault. -/
def UsageFault.message : UsageFault → String
  | .ambiguous word candidates =>
      "ambiguous option: " ++ word ++ " could match " ++ String.intercalate ", " candidates
  | .ignoredText flag text =>
      "argument " ++ flag.label ++ ": ignored explicit argument " ++ Text.quote text
  | .invalidAnalysis text =>
      "argument analysis: invalid choice: " ++ Text.quote text ++ " (choose from " ++
        String.intercalate ", " (Algorithm.all.map fun a => Text.quote a.name) ++ ")"
  | .required names =>
      "the following arguments are required: " ++ String.intercalate ", " names
  | .unrecognized words => "unrecognized arguments: " ++ String.intercalate " " words

/-! ### Words -/

/-- Is a word a dash and a decimal number? A line end after the number is allowed. -/
def isNegativeNumber (word : String) : Bool :=
  match word.toList with
  | '-' :: rest =>
      let number := if rest.getLast? = some '\n' then rest.dropLast else rest
      match number.span Text.isDecimalDigit with
      | (digits, []) => !digits.isEmpty
      | (_, '.' :: places) => !places.isEmpty && places.all Text.isDecimalDigit
      | _ => false
  | _ => false

/-- A word up to its first equals sign, and the text after that sign. -/
def splitEquals (word : String) : String × Option String :=
  match word.toList.span (· ≠ '=') with
  | (before, _ :: after) => (String.ofList before, some (String.ofList after))
  | (_, []) => (word, none)

/-- The options that a word which is no option in full may stand for: one that it shortens, up to an
    equals sign, or a short option with the rest attached. -/
def candidates (word : String) : List (String × Flag × Option String) :=
  match word.toList with
  | '-' :: '-' :: _ =>
      let (stem, text) := splitEquals word
      (flags.filter fun p => stem.toList.isPrefixOf p.1.toList).map fun p => (p.1, p.2, text)
  | cs =>
      let short := String.ofList (cs.take 2)
      flags.filterMap fun p =>
        if p.1 = short then some (p.1, p.2, some (String.ofList (cs.drop 2)))
        else if word.toList.isPrefixOf p.1.toList then some (p.1, p.2, none)
        else none

/-- What a word is that begins with a dash and is longer than that. -/
def readDashed (word : String) : Except UsageFault Reading :=
  match flags.lookup word with
  | some flag => .ok (.option flag word none)
  | none =>
      let (stem, text) := splitEquals word
      match flags.lookup stem, text with
      | some flag, some t => .ok (.option flag stem (some t))
      | _, _ =>
          match candidates word with
          | [(name, flag, attached)] => .ok (.option flag name attached)
          | [] =>
              if isNegativeNumber word || word.toList.contains ' ' then .ok .operand
              else .ok .unknown
          | several => .error (.ambiguous word (several.map Prod.fst))

/-- What a word is. -/
def readWord (word : String) : Except UsageFault Reading :=
  match word.toList with
  | '-' :: _ :: _ => readDashed word
  | _ => .ok .operand

/-- A word with its role. -/
inductive Mark where
  | operand
  | separator
  | option (reading : Reading)
deriving DecidableEq, Repr, Inhabited

/-- Is the word taken for an option? -/
def Mark.isOption : Mark → Bool
  | .option _ => true
  | _ => false

/-- The roles of all words. -/
def marks : List String → Except UsageFault (List (String × Mark))
  | [] => .ok []
  | "--" :: rest => .ok (("--", .separator) :: rest.map fun w => (w, .operand))
  | word :: rest => do
      let mark ← match ← readWord word with
        | .operand => pure Mark.operand
        | reading => pure (Mark.option reading)
      let later ← marks rest
      .ok ((word, mark) :: later)

/-! ### Taking the words -/

/-- What the arguments ask for. -/
structure Request where
  target : String
  analysis : String
  verbosity : Nat
deriving DecidableEq, Repr, Inhabited

/-- Why there is nothing to do: help was asked for, or the arguments cannot be used. -/
inductive Stop where
  | help
  | usage (fault : UsageFault)
deriving DecidableEq, Repr, Inhabited

/-- What has been taken so far. -/
structure Taken where
  target : Option String := none
  analysis : Option String := none
  verbosity : Nat := 0
  extras : List String := []
deriving DecidableEq, Repr, Inhabited

/-- Let an option take effect. -/
def Taken.apply (t : Taken) : Flag → Except Stop Taken
  | .help => .error .help
  | .verbose => .ok { t with verbosity := t.verbosity + 1 }

/-- Let options take effect in order. -/
def Taken.applyAll (t : Taken) : List Flag → Except Stop Taken
  | [] => .ok t
  | f :: fs => do
      let t ← t.apply f
      t.applyAll fs

/-- The options joined in one word: a short option, and after it the letters of further ones. A letter
    that is no option is a fault of the option in front of it, which takes no text. -/
def cluster (flag : Flag) : List Char → Except UsageFault (List Flag)
  | [] => .ok [flag]
  | c :: rest =>
      match flags.lookup (String.ofList ['-', c]) with
      | none => .error (.ignoredText flag (String.ofList (c :: rest)))
      | some next => do
          let later ← cluster next rest
          .ok (flag :: later)

/-- Does an option's name begin with two dashes? -/
def isLong (name : String) : Bool := "--".toList.isPrefixOf name.toList

/-- Take a word that is taken for an option. A text attached to a short option stands for further
    options; a long one takes none. -/
def Taken.option (t : Taken) (word : String) : Reading → Except Stop Taken
  | .operand => .ok { t with extras := t.extras ++ [word] }
  | .unknown => .ok { t with extras := t.extras ++ [word] }
  | .option flag _ none => t.apply flag
  | .option flag name (some text) =>
      if isLong name || text = "" then .error (.usage (.ignoredText flag text))
      else match cluster flag text.toList with
        | .error fault => .error (.usage fault)
        | .ok fs => t.applyAll fs

/-- One operand with the separators around it, and how many words those are. -/
def operandGroup (words : List (String × Mark)) : Option (List String × Nat) :=
  let isSeparator := fun p : String × Mark => p.2 == .separator
  let before := words.takeWhile isSeparator
  match words.drop before.length with
  | (word, .operand) :: rest =>
      let after := rest.takeWhile isSeparator
      let group := before.map Prod.fst ++ word :: after.map Prod.fst
      some (group, group.length)
  | _ => none

/-- The operand of a group: what is left without one double dash. -/
def groupValue (group : List String) : Option String := (group.erase "--").head?

/-- Take the target from a group of words. -/
def Taken.takeTarget (t : Taken) (group : List String) : Taken :=
  { t with target := some ((groupValue group).getD "") }

/-- Take the analysis from a group of words. It has to be one that is known; nothing is checked when
    the group holds no operand. -/
def Taken.takeAnalysis (t : Taken) (group : List String) : Except Stop Taken :=
  match groupValue group with
  | none => .ok { t with analysis := some "" }
  | some text =>
      if Algorithm.all.any fun a => a.name == text then .ok { t with analysis := some text }
      else .error (.usage (.invalidAnalysis text))

/-- Take the operands that are still missing, as far as they stand in front, and tell how many words
    were taken. -/
def Taken.operands (t : Taken) (words : List (String × Mark)) : Except Stop (Taken × Nat) :=
  match t.target, t.analysis with
  | none, _ =>
      match operandGroup words with
      | none => .ok (t, 0)
      | some (first, used) =>
          let t := t.takeTarget first
          match operandGroup (words.drop used) with
          | none => .ok (t, used)
          | some (second, more) => do
              let t ← t.takeAnalysis second
              .ok (t, used + more)
  | some _, none =>
      match operandGroup words with
      | none => .ok (t, 0)
      | some (group, used) => do
          let t ← t.takeAnalysis group
          .ok (t, used)
  | some _, some _ => .ok (t, 0)

/-- Take all words: operands as they are missing, options one by one, and the rest as extras. -/
def takeAll (t : Taken) : (words : List (String × Mark)) → Except Stop Taken
  | [] => .ok t
  | (word, .option reading) :: rest => do
      let t ← t.option word reading
      takeAll t rest
  | first :: rest => do
      let words := first :: rest
      let (t, used) ← t.operands words
      if used = 0 then
        takeAll { t with extras := t.extras ++ [first.1] } rest
      else
        takeAll t (rest.drop (used - 1))
termination_by words => words.length
decreasing_by
  · simp only [List.length_cons]
    omega
  · simp only [List.length_cons]
    omega
  · simp only [List.length_drop, List.length_cons]
    omega

/-- The names of the operands that are missing. -/
def Taken.missing (t : Taken) : List String :=
  (if t.target.isNone then ["target"] else []) ++ (if t.analysis.isNone then ["analysis"] else [])

/-- What the arguments ask for. -/
def parse (words : List String) : Except Stop Request := do
  let marked ← (marks words).mapError .usage
  let t ← takeAll {} marked
  if !t.missing.isEmpty then .error (.usage (.required t.missing))
  else if !t.extras.isEmpty then .error (.usage (.unrecognized t.extras))
  else
    .ok { target := t.target.getD "", analysis := t.analysis.getD "", verbosity := t.verbosity }

end TaintFlow.CommandLine
