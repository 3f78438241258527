import BuildYard.Text.Pieces
/-!
# Arguments

The words of a command line, cut into options with their values and operands. The words are looked
at from left to right, and the first one that does not fit ends the reading: as an error in usage,
or, if it asks for help, as a request for help.

An option is written `--name value` or `--name=value`. A value of its own starts with no hyphen,
unless it is a hyphen and nothing more. After `--` every word is an operand.
-/

namespace BuildYard.Cli

/-- What may be given to an option. -/
inductive OptionForm where
  /-- No value. -/
  | switch
  /-- A value that passes a test, once. -/
  | single (isFit : String → Bool)
  /-- Values that pass a test, any number of them. -/
  | repeated (isFit : String → Bool)

/-- The words that a command takes. -/
structure Usage where
  /-- The options by their names, which are written after two hyphens. -/
  options : List (String × OptionForm) := []
  /-- How many operands there are. -/
  operands : Nat := 0

/-- Why the reading of a command line ended early. -/
inductive Stop where
  /-- A word does not fit, or one is missing. -/
  | misused
  /-- Help was asked for. -/
  | help
  deriving DecidableEq, Repr

/-- The options with their values and the operands, in order; a switch has the empty value. -/
structure Given where
  values : List (String × String) := []
  operands : List String := []
  deriving DecidableEq, Repr

namespace Given

/-- The first value of an option. -/
def value? (g : Given) (name : String) : Option String := g.values.lookup name

/-- All values of an option. -/
def valuesOf (g : Given) (name : String) : List String :=
  (g.values.filter (·.1 = name)).map (·.2)

/-- Was an option given? -/
def has (g : Given) (name : String) : Bool := (g.value? name).isSome

end Given

namespace Usage

/-- What was given, with one more value. -/
def addValue (u : Usage) (g : Given) (name value : String) : Except Stop Given :=
  let added : Given := { g with values := g.values ++ [(name, value)] }
  match u.options.lookup name with
  | none => .error .misused
  | some .switch => if g.has name then .error .misused else .ok added
  | some (.single isFit) => if g.has name || !isFit value then .error .misused else .ok added
  | some (.repeated isFit) => if isFit value then .ok added else .error .misused

/-- What was given, with one more operand. -/
def addOperand (u : Usage) (g : Given) (word : String) : Except Stop Given :=
  if g.operands.length < u.operands then .ok { g with operands := g.operands ++ [word] }
  else .error .misused

/-- What was given, with more operands. -/
def addOperands (u : Usage) (g : Given) (words : List String) : Except Stop Given :=
  words.foldlM u.addOperand g

/-- Does an option take a value? -/
def takesValue (u : Usage) (name : String) : Bool :=
  match u.options.lookup name with
  | some (.single _) | some (.repeated _) => true
  | some .switch | none => false

/-- Can a word be the value of the option before it? -/
def isValueWord (word : String) : Bool := word = "-" || word.toList.head? != some '-'

/-- What a word is on its own. -/
inductive Word where
  /-- Two hyphens. -/
  | separator
  /-- An option, perhaps with its value. -/
  | option (name : String) (value : Option String)
  /-- A hyphen and letters. -/
  | letters (first : Char)
  | operand

/-- What a word is on its own. -/
def Word.of (word : String) : Word :=
  match word.toList with
  | ['-', '-'] => .separator
  | '-' :: '-' :: rest =>
    match Text.cutAt? ['='] rest with
    | some (name, value) => .option (String.ofList name) (some (String.ofList value))
    | none => .option (String.ofList rest) none
  | '-' :: first :: _ => .letters first
  | _ => .operand

/-- What was given, with the words of a command line. -/
def read (u : Usage) (g : Given) : List String → Except Stop Given
  | [] => .ok g
  | word :: rest =>
    match Word.of word with
    | .separator => u.addOperands g rest
    | .letters first => .error (if first = 'h' then .help else .misused)
    | .operand => do u.read (← u.addOperand g word) rest
    | .option "help" none => .error .help
    | .option name (some value) =>
      if u.takesValue name then do u.read (← u.addValue g name value) rest else .error .misused
    | .option name none =>
      if u.takesValue name then
        match rest with
        | value :: rest =>
          if isValueWord value then do u.read (← u.addValue g name value) rest
          else .error .misused
        | [] => .error .misused
      else do u.read (← u.addValue g name "") rest

end Usage

end BuildYard.Cli
