/-!
  The command line: which command its arguments ask for.

  Options may stand before and after the expression, and short ones in one
  word; `--` ends them. A count of verbosity may be given anywhere. Reading
  goes from left to right and ends at the first fault, or where help is asked
  for.
-/

namespace BindingLang

/-- A command with all it was given. -/
inductive Command where
  | eval (expression : String) (scope : Option String) (pretty : Bool)
  | parse (expression : String) (pretty : Bool)
  | ids (expression : String)
  deriving DecidableEq, Repr

namespace Command

/-- Why the arguments ask for no command. -/
inductive UsageError where
  | noCommand
  | unknownCommand (word : String)
  | unknownOption (word : String)
  | missingValue (option : String)
  | repeatedOption (option : String)
  | missingExpression
  | unexpectedArgument (word : String)
  deriving DecidableEq, Repr

def UsageError.message : UsageError → String
  | .noCommand => "a command is required"
  | .unknownCommand word => "unknown command: " ++ word
  | .unknownOption word => "unknown option: " ++ word
  | .missingValue option => "a value is required for " ++ option
  | .repeatedOption option => option ++ " cannot be given twice"
  | .missingExpression => "an expression is required"
  | .unexpectedArgument word => "unexpected argument: " ++ word

/-- What the arguments ask for. -/
inductive Request where
  | run (command : Command) (verbosity : Nat)
  | help
  | version
  | fault (e : UsageError)
  deriving DecidableEq, Repr

/-- The commands by name. -/
inductive Verb where
  | eval
  | parse
  | ids
  deriving DecidableEq, Repr

def Verb.ofName? (name : String) : Option Verb :=
  if name = "eval" then some .eval
  else if name = "parse" then some .parse
  else if name = "ids" then some .ids
  else none

def Verb.takesScope : Verb → Bool
  | .eval => true
  | .parse => false
  | .ids => false

def Verb.takesPretty : Verb → Bool
  | .eval => true
  | .parse => true
  | .ids => false

/-- How the next argument is taken. -/
inductive Expecting where
  /-- An option or the expression. -/
  | anything
  /-- The value of the scope option. -/
  | scopeValue
  /-- The expression only. -/
  | expression
  deriving DecidableEq, Repr

/-- What a command has been given so far. -/
structure Draft where
  expression : Option String
  scope : Option String
  pretty : Bool
  verbosity : Nat
  expecting : Expecting
  deriving DecidableEq, Repr

/-- A step of reading: go on, or end with a request. -/
abbrev Step := Except Request Draft

namespace Draft

def fault (e : UsageError) : Step := .error (.fault e)

def setScope (d : Draft) (value : String) : Step :=
  if d.scope.isSome then fault (.repeatedOption "--scope")
  else .ok { d with scope := some value, expecting := .anything }

def setPretty (d : Draft) : Step :=
  if d.pretty then fault (.repeatedOption "--pretty") else .ok { d with pretty := true }

def moreVerbose (d : Draft) : Draft := { d with verbosity := d.verbosity + 1 }

def setExpression (d : Draft) (word : String) : Step :=
  if d.expression.isSome then fault (.unexpectedArgument word)
  else .ok { d with expression := some word }

/-- The short options of one word, after its hyphen. -/
def shortOptions (verb : Verb) (word : String) (d : Draft) : List Char → Step
  | [] => .ok d
  | c :: rest =>
    if c = 'h' then .error .help
    else if c = 'v' then shortOptions verb word d.moreVerbose rest
    else if c = 'p' ∧ verb.takesPretty then do shortOptions verb word (← d.setPretty) rest
    else if c = 's' ∧ verb.takesScope then
      match rest with
      | [] => .ok { d with expecting := .scopeValue }
      | '=' :: value => d.setScope (String.ofList value)
      | value => d.setScope (String.ofList value)
    else fault (.unknownOption word)

/-- A long option. -/
def longOption (verb : Verb) (word : String) (d : Draft) : Step :=
  if word = "--help" then .error .help
  else if word = "--verbose" then .ok d.moreVerbose
  else if word = "--pretty" ∧ verb.takesPretty then d.setPretty
  else if word = "--scope" ∧ verb.takesScope then .ok { d with expecting := .scopeValue }
  else if "--scope=".toList.isPrefixOf word.toList ∧ verb.takesScope then
    d.setScope (String.ofList (word.toList.drop "--scope=".length))
  else fault (.unknownOption word)

/-- Takes one argument. Only a single hyphen may begin with one and not be an
option. -/
def take (verb : Verb) (d : Draft) (word : String) : Step :=
  match d.expecting, word.toList with
  | .expression, _ => d.setExpression word
  | .scopeValue, '-' :: _ :: _ => fault (.missingValue "--scope")
  | .scopeValue, _ => d.setScope word
  | .anything, ['-', '-'] => .ok { d with expecting := .expression }
  | .anything, '-' :: '-' :: _ => d.longOption verb word
  | .anything, '-' :: c :: rest => d.shortOptions verb word (c :: rest)
  | .anything, _ => d.setExpression word

/-- The command of all that it was given. -/
def finish (verb : Verb) (d : Draft) : Request :=
  if d.expecting = .scopeValue then .fault (.missingValue "--scope")
  else
    match d.expression with
    | none => .fault .missingExpression
    | some expression =>
      let command : Command :=
        match verb with
        | .eval => .eval expression d.scope d.pretty
        | .parse => .parse expression d.pretty
        | .ids => .ids expression
      .run command d.verbosity

/-- The request of a command's arguments. -/
def request (verb : Verb) (verbosity : Nat) (arguments : List String) : Request :=
  let start : Draft := ⟨none, none, false, verbosity, .anything⟩
  match arguments.foldlM (take verb) start with
  | .ok d => d.finish verb
  | .error request => request

end Draft

/-- The short options of one word before the command, after its hyphen. -/
def leadingOptions (word : String) (verbosity : Nat) : List Char → Except Request Nat
  | [] => .ok verbosity
  | c :: rest =>
    if c = 'v' then leadingOptions word (verbosity + 1) rest
    else if c = 'h' then .error .help
    else if c = 'V' then .error .version
    else .error (.fault (.unknownOption word))

/-- The request for help on a command, or on all of them. -/
def helpRequest : List String → Request
  | [] => .help
  | [word] =>
    if (Verb.ofName? word).isSome ∨ word = "help" then .help else .fault (.unknownCommand word)
  | _ :: word :: _ => .fault (.unknownCommand word)

/-- What the arguments ask for, after as much verbosity. -/
def requestAfter (verbosity : Nat) : List String → Request
  | [] => .fault .noCommand
  | word :: rest =>
    if word = "--help" then .help
    else if word = "--version" then .version
    else if word = "--verbose" then requestAfter (verbosity + 1) rest
    else
      match word.toList with
      | '-' :: '-' :: _ => .fault (.unknownOption word)
      | '-' :: c :: options =>
        match leadingOptions word verbosity (c :: options) with
        | .ok verbosity => requestAfter verbosity rest
        | .error request => request
      | _ =>
        match Verb.ofName? word with
        | some verb => Draft.request verb verbosity rest
        | none => if word = "help" then helpRequest rest else .fault (.unknownCommand word)

/-- What the arguments ask for. -/
def Request.ofArguments (arguments : List String) : Request := requestAfter 0 arguments

end Command

end BindingLang
