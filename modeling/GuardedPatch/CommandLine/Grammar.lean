set_option autoImplicit false

/-! # Command lines

A grammar says what words a command takes: options by their names, operands by their places, and commands below it.
Words are read from left to right. An option takes its value from the same word, after an equals sign, or from the
next word, which must not look like an option; its value is checked when the reading goes on, so that what is wrong
with a later word can be found first. After two hyphens alone every word is an operand. Asking for help ends the
reading at once.

An option that is given again below a command counts for the command above as well, and the value further down wins;
on one level only options that collect their values may be given more than once. -/

namespace GuardedPatch.CommandLine

/-- How often an option is given, and whether it has a value. -/
inductive Arity
  /-- It stands for itself. -/
  | flag
  /-- It has one value. -/
  | value
  /-- It has a value each time it is given. -/
  | values
deriving DecidableEq, Repr

/-- An option. -/
structure OptionRule where
  name : String
  arity : Arity
  needed : Bool
  /-- Which values it takes. -/
  accepts : String → Bool

/-- What words a command takes. -/
structure Grammar where
  options : List OptionRule
  /-- What each operand may be. All of them are needed. -/
  operands : List (String → Bool)
  /-- The commands below. If there are any, one of them is needed. -/
  commands : List (String × Grammar)

/-- Why reading stopped. -/
inductive Stop
  /-- Help was asked for. -/
  | help
  /-- The words do not fit. -/
  | misuse
deriving DecidableEq, Repr

/-- The words that were read. -/
structure Words where
  /-- The names of the commands, from the top. -/
  commands : List String
  /-- Options with their values, from the top; a flag has an empty value. -/
  options : List (String × String)
  operands : List String
deriving DecidableEq, Repr

/-- The value of an option; the last one given counts. -/
def Words.option? (w : Words) (name : String) : Option String :=
  w.options.reverse.lookup name

/-- Whether a flag was given. -/
def Words.has (w : Words) (name : String) : Bool :=
  (w.option? name).isSome

/-- All values of an option in order. -/
def Words.all (w : Words) (name : String) : List String :=
  (w.options.filter (·.1 == name)).map (·.2)

/-! ## One level -/

/-- What was read on one level. -/
structure Level where
  options : List (String × String)
  operands : List String
  /-- The option that was read last, with its value if that was read too. It is not checked yet. -/
  pending : Option (OptionRule × Option String)

/-- The level before any word. -/
def Level.start : Level := ⟨[], [], none⟩

/-- Takes an option with its value. -/
def Level.take (l : Level) (o : OptionRule) (value : String) : Except Stop Level :=
  if !o.accepts value then .error .misuse
  else if o.arity ≠ .values ∧ (l.options.any fun given => given.1 = o.name) then .error .misuse
  else .ok { l with options := l.options ++ [(o.name, value)], pending := none }

/-- Takes the option that is pending. -/
def Level.settle (l : Level) : Except Stop Level :=
  match l.pending with
  | none => .ok l
  | some (_, none) => .error .misuse
  | some (o, some value) => l.take o value

/-- Takes an operand. -/
def Level.operand (l : Level) (g : Grammar) (word : String) : Except Stop Level := do
  let l ← l.settle
  match g.operands[l.operands.length]? with
  | none => .error .misuse
  | some accepts => if accepts word then .ok { l with operands := l.operands ++ [word] } else .error .misuse

/-- Ends a level that has no command below it. -/
def Level.finish (l : Level) (g : Grammar) : Except Stop Words := do
  let l ← l.settle
  let complete := g.commands.isEmpty && l.operands.length == g.operands.length
    && g.options.all fun o => !o.needed || l.options.any (·.1 == o.name)
  if complete then .ok ⟨[], l.options, l.operands⟩ else .error .misuse

/-- Ends a level with what was read of the command below it. -/
def Level.finishAbove (l : Level) (g : Grammar) (name : String) (below : Words) : Except Stop Words := do
  let l ← l.settle
  if g.options.all fun o => !o.needed || l.options.any (·.1 == o.name) then
    .ok ⟨name :: below.commands, l.options ++ below.options, below.operands⟩
  else .error .misuse

/-! ## Words -/

/-- What a word looks like by its first characters. -/
inductive Shape
  /-- Two hyphens alone. -/
  | rest
  /-- Two hyphens and a name, with the value after an equals sign if there is one. -/
  | long (name : String) (value : Option String)
  /-- A hyphen and letters. -/
  | short (letters : List Char)
  | plain
deriving DecidableEq, Repr

/-- The name and the value on either side of the first equals sign. -/
def splitAtEquals (cs : List Char) : String × Option String :=
  match cs.dropWhile (· != '=') with
  | [] => (String.ofList cs, none)
  | _ :: value => (String.ofList (cs.takeWhile (· != '=')), some (String.ofList value))

/-- What a word looks like. -/
def Shape.of (word : String) : Shape :=
  match word.toList with
  | ['-', '-'] => .rest
  | '-' :: '-' :: cs =>
    let (name, value) := splitAtEquals cs
    .long name value
  | '-' :: c :: cs => .short (c :: cs)
  | _ => .plain

/-- Takes a word that looks like an option. -/
def Level.option (l : Level) (g : Grammar) (name : String) (value : Option String) : Except Stop Level :=
  if name = "help" then
    if value.isSome then .error .misuse else l.settle.bind fun _ => .error .help
  else
    match g.options.find? (·.name == name) with
    | none => .error .misuse
    | some o =>
      match o.arity, value with
      | .flag, some _ => .error .misuse
      | .flag, none => l.settle.bind (·.take o "")
      | _, some value => l.settle.bind (·.take o value)
      | _, none => l.settle.map ({ · with pending := some (o, none) })

/-- What the words after a call for help lead to: help on the command that they name, if there is one. Help itself can
be named wherever there are commands. -/
def helpOn (g : Grammar) : List String → Stop
  | [] => .help
  | word :: rest =>
    match g.commands.lookup word with
    | some below => helpOn below rest
    | none => if word = "help" ∧ g.commands ≠ [] ∧ rest = [] then .help else .misuse

/-- Reads words that are all operands. -/
def Level.readOperands (l : Level) (g : Grammar) : List String → Except Stop Words
  | [] => l.finish g
  | word :: rest => do (← l.operand g word).readOperands g rest

/-- Reads words on a level, and below it from the first command on. -/
def Grammar.readFrom (g : Grammar) (l : Level) : List String → Except Stop Words
  | [] => l.finish g
  | word :: rest =>
    let awaited := match l.pending with
      | some (o, none) => some o
      | _ => none
    match awaited, Shape.of word with
    | some o, .plain => g.readFrom { l with pending := some (o, some word) } rest
    | some _, _ => .error .misuse
    | none, shape =>
      match g.commands.lookup word with
      | some below => do l.finishAbove g word (← below.readFrom .start rest)
      | none =>
        if word = "help" ∧ g.commands ≠ [] then .error (helpOn g rest)
        else
          match shape with
          | .rest => l.readOperands g rest
          | .long name value => do g.readFrom (← l.option g name value) rest
          | .short letters =>
            if letters.head? = some 'h' then l.settle.bind fun _ => .error .help else .error .misuse
          | .plain => do g.readFrom (← l.operand g word) rest

/-- Reads the words of a command line. -/
def Grammar.read (g : Grammar) (words : List String) : Except Stop Words :=
  g.readFrom .start words

end GuardedPatch.CommandLine
