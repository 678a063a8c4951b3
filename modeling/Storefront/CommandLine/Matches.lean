import Storefront.CommandLine.Argument
/-!
# Command lines — matching words to arguments

A command line is read word by word. An option's value may be attached
to it or be the next word; short options may be written together; after
two hyphens every word is an operand. A word that names an inner command
hands the rest over to it. An argument takes effect when the next one is
met or the line ends, so of two faults the one that shows first is
reported, and an inner command is checked before the one around it.
-/

namespace Storefront.CommandLine

/-- Where the value of an argument comes from. -/
inductive Origin where
  | fallback
  | environment
  | line
  deriving DecidableEq, Repr

/-- The place of an origin; a higher one goes before a lower one. -/
def Origin.rank : Origin → Nat
  | fallback => 0
  | environment => 1
  | line => 2

/-- The values of an argument. -/
structure Given where
  origin : Origin
  values : List String
  deriving Repr

/-- The arguments of a command that have a value. -/
abbrev Givens := List (String × Given)

/-- Whether the command line or the environment gives an argument. -/
def Givens.isExplicit (g : Givens) (id : String) : Bool :=
  (g.lookup id).any fun x => x.origin != .fallback

/-- A command line so far: what took effect, an argument that has not
yet, whether that still waits for its value, the number of operands, and
whether all further words are operands. -/
structure Progress where
  givens : Givens := []
  pending : Option (Argument × List String) := none
  awaiting : Bool := false
  operands : Nat := 0
  onlyOperands : Bool := false

namespace Progress

/-- The progress with the values of an argument. -/
def record (p : Progress) (id : String) (values : List String) : Progress :=
  { p with givens := (p.givens.filter fun g => g.1 != id) ++ [(id, ⟨.line, values⟩)] }

/-- The values that an argument has so far. -/
def valuesOf (p : Progress) (id : String) : List String :=
  ((p.givens.lookup id).map (·.values)).getD []

/-- Whether an argument was given before. -/
def isGiven (p : Progress) (id : String) : Bool := (p.givens.lookup id).isSome

/-- A value split at its commas. -/
def splitCommas (value : String) : List String :=
  (List.splitOn ',' value.toList).map String.ofList

/-- Let an argument take effect. -/
def apply (p : Progress) (a : Argument) (values : List String) : Except Refusal Progress :=
  match a.action with
  | .help => .error .displayHelp
  | .version => .error .displayVersion
  | .count => .ok (p.record a.id (p.valuesOf a.id ++ ["true"]))
  | .flag => if p.isGiven a.id then .error .argumentConflict else .ok (p.record a.id ["true"])
  | .single kind =>
    if values.isEmpty then .error .invalidValue
    else if p.isGiven a.id then .error .argumentConflict
    else do
      values.forM kind.check
      return p.record a.id values
  | .several kind =>
    if values.isEmpty then .error .invalidValue
    else do
      let parts := values.flatMap splitCommas
      parts.forM kind.check
      return p.record a.id (p.valuesOf a.id ++ parts)

/-- Let the pending argument take effect. -/
def settle (p : Progress) : Except Refusal Progress :=
  match p.pending with
  | none => .ok p
  | some (a, values) => { p with pending := none, awaiting := false }.apply a values

/-- Let the pending argument take effect, and then another. -/
def react (p : Progress) (a : Argument) (values : List String) : Except Refusal Progress := do
  let p ← p.settle
  let p ← p.apply a values
  return { p with awaiting := false }

/-- An option that takes a value, with the value attached to it if there
is one. -/
def takeValue (p : Progress) (a : Argument) (attached : Option String) :
    Except Refusal Progress :=
  match attached with
  | some v => p.react a [v]
  | none => do
    let p ← p.settle
    return { p with pending := some (a, []), awaiting := true }

/-- A word as the value of the pending option. -/
def giveValue (p : Progress) (word : String) : Progress :=
  { p with
    pending := p.pending.map fun x => (x.1, x.2 ++ [word])
    awaiting := false }

end Progress

/-- What a word without a place of its own means. -/
def misplaced (c : Command) (p : Progress) (word : String) : Refusal :=
  if p.onlyOperands && (c.find? word).isSome then .unknownArgument
  else if c.commands.isEmpty then .unknownArgument
  else .invalidSubcommand

/-- A word as the next operand. -/
def takeOperand (c : Command) (p : Progress) (word : String) : Except Refusal Progress :=
  match c.operands[p.operands]? with
  | none => .error (misplaced c p word)
  | some a => do
    let p ← p.settle
    return { p with pending := some (a, [word]), awaiting := false, operands := p.operands + 1 }

/-- Whether characters are a number without a sign: digits, a point
behind the first digit, an exponent behind them. -/
def isNumber (cs : List Char) : Bool :=
  let mantissa := cs.takeWhile (· != 'e')
  let exponent := cs.drop mantissa.length
  let whole := mantissa.takeWhile (· != '.')
  let fraction := mantissa.drop whole.length
  whole.all Char.isDigit && (fraction.drop 1).all Char.isDigit &&
    (fraction.isEmpty || !whole.isEmpty) &&
    (exponent.isEmpty ||
      (!mantissa.isEmpty && 1 < exponent.length && (exponent.drop 1).all Char.isDigit))

/-- A word of short options, without its hyphen. -/
def takeShorts (c : Command) : Progress → List Char → Except Refusal Progress
  | p, [] => .ok p
  | p, ch :: cs =>
    match c.findShort? ch with
    | none => .error .unknownArgument
    | some a =>
      if a.action.takesValue then
        match cs with
        | [] => p.takeValue a none
        | '=' :: value => p.takeValue a (some (String.ofList value))
        | value => p.takeValue a (some (String.ofList value))
      else do
        let p ← p.react a []
        takeShorts c p cs

/-- A word of a long option, without its hyphens: its name, and the
value behind an equals sign. -/
def splitLong (cs : List Char) : String × Option String :=
  let name := cs.takeWhile (· != '=')
  match cs.drop name.length with
  | [] => (String.ofList name, none)
  | _ :: value => (String.ofList name, some (String.ofList value))

/-- A word of a long option. -/
def takeLong (c : Command) (p : Progress) (cs : List Char) : Except Refusal Progress :=
  let (name, value) := splitLong cs
  match c.findLong? name with
  | none => .error .unknownArgument
  | some a =>
    if a.action.takesValue then p.takeValue a value
    else if value.isSome then .error .tooManyValues
    else p.react a []

/-- Whether a negative number is an operand at this point. -/
def takesNegative (c : Command) (p : Progress) : Bool :=
  (c.operands[p.operands]?).any (·.negative)

/-- A word that is no option: the value of an option, or an operand. -/
def takePlain (c : Command) (p : Progress) (word : String) : Except Refusal Progress :=
  if p.awaiting then .ok (p.giveValue word) else takeOperand c p word

/-- A word that names no inner command. -/
def takeWord (c : Command) (p : Progress) (word : String) : Except Refusal Progress :=
  if p.onlyOperands then takeOperand c p word
  else
    match word.toList with
    | ['-', '-'] => .ok { p with onlyOperands := true }
    | '-' :: '-' :: cs => takeLong c p cs
    | ['-'] => takePlain c p word
    | '-' :: cs =>
      if takesNegative c p && isNumber cs then takePlain c p word else takeShorts c p cs
    | _ => takePlain c p word

/-- The inner command that a word names at this point. -/
def entered? (c : Command) (p : Progress) (word : String) : Option Command :=
  if p.onlyOperands || p.awaiting then none else c.find? word

/-- What the words after a call for help ask for. -/
def explain (c : Command) : List String → Refusal
  | [] => .displayHelp
  | word :: rest =>
    match c.find? word with
    | some s => explain s rest
    | none => .invalidSubcommand

/-- Read words up to the name of an inner command, which is answered
with the rest. -/
def scan (c : Command) : Progress → List String →
    Except Refusal (Progress × Option (Command × List String))
  | p, [] => .ok (p, none)
  | p, word :: rest =>
    match entered? c p word with
    | some inner =>
      if inner.name == Command.help.name then .error (explain c rest)
      else .ok (p, some (inner, rest))
    | none => do
      let p ← takeWord c p word
      scan c p rest

/-- The values of a command's arguments, and those of the inner command
that was named. -/
structure Matches where
  name : String
  givens : Givens
  inner : Option Matches

/-- The value of an argument that the command line does not give. -/
def supplied? (env : List (String × String)) (a : Argument) : Option (String × Given) :=
  match a.variableName.bind fun name => env.lookup name with
  | some v => some (a.id, ⟨.environment, [v]⟩)
  | none => a.fallback.map fun v => (a.id, ⟨.fallback, [v]⟩)

/-- The given values with those of the environment and the fallbacks. -/
def supply (c : Command) (env : List (String × String)) (g : Givens) : Givens :=
  g ++ (c.arguments.filter fun a => (g.lookup a.id).isNone).filterMap (supplied? env)

/-- Refuse a command without the arguments it needs, or with some that
exclude each other. -/
def validate (c : Command) (g : Givens) (hasInner : Bool) : Except Refusal Unit :=
  let explicit := fun id => g.isExplicit id
  let lacks := fun a => explicit a.id && a.needs.any fun id => !explicit id
  let clashes := fun a => explicit a.id && a.excludes.any explicit
  if !hasInner && !c.commands.isEmpty then
    if c.arguments.any fun a => explicit a.id then .error .missingSubcommand
    else .error .displayHelpOnMissing
  else if c.arguments.any clashes then .error .argumentConflict
  else if c.arguments.any fun a => (a.required && !explicit a.id) || lacks a then
    .error .missingRequiredArgument
  else .ok ()

/-- Match the words of a command; the fuel bounds the nesting of
commands. -/
def matchWithin (env : List (String × String)) :
    Nat → Command → List String → Except Refusal Matches
  | 0, _, _ => .error .unknownArgument
  | fuel + 1, c, words => do
    let (p, named) ← scan c {} words
    let inner ← match named with
      | none => pure none
      | some (s, rest) => (matchWithin env fuel (s.inherit c) rest).map some
    let p ← p.settle
    let givens := supply c env p.givens
    validate c givens inner.isSome
    return ⟨c.name, givens, inner⟩

/-- Match the words of a command line. -/
def Command.match? (c : Command) (env : List (String × String)) (words : List String) :
    Except Refusal Matches :=
  matchWithin env (words.length + 1) c words

namespace Matches

/-- The innermost command that was named. -/
def innermost : Matches → Matches
  | ⟨_, _, some m⟩ => innermost m
  | m => m

/-- The commands that were named, the outermost first. -/
def path : Matches → List String
  | ⟨name, _, some m⟩ => name :: path m
  | ⟨name, _, none⟩ => [name]

/-- The value of an argument. -/
def get? (m : Matches) (id : String) : Option Given := m.givens.lookup id

/-- The value of a shared option: of those given at several depths the
one with the highest origin, and the innermost of equals. -/
def shared? (id : String) : Matches → Option Given
  | ⟨_, givens, none⟩ => givens.lookup id
  | ⟨_, givens, some m⟩ =>
    match givens.lookup id, shared? id m with
    | some outer, some inner =>
      if inner.origin.rank < outer.origin.rank then some outer else some inner
    | none, inner => inner
    | outer, none => outer

end Matches

end Storefront.CommandLine
