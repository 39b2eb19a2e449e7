/-!
# Command lines

The arguments of the two programs, one reading from left to right. The first
thing that is wrong ends the reading, and so does a request for help or for the version.
-/

namespace DocFilter

inductive Tool where
  | minted
  | prettyTables
  deriving DecidableEq

def Tool.name : Tool → String
  | .minted => "pandoc-minted"
  | .prettyTables => "pandoc-pretty-tables"

namespace CommandLine

/-- Options that take a value. -/
inductive Setting where
  | input
  | output
  | targetFormat
  | defaultLanguage
  | placement
  deriving DecidableEq

namespace Setting

/-- The name of an option, behind two dashes. -/
def long : Setting → String
  | .input => "input"
  | .output => "output"
  | .targetFormat => "target-format"
  | .defaultLanguage => "default-language"
  | .placement => "placement"

/-- The letter of an option, behind one dash. -/
def short? : Setting → Option Char
  | .input => some 'i'
  | .output => some 'o'
  | _ => none

/-- The value is the path of a file, which cannot be empty. -/
def isPath : Setting → Bool
  | .input | .output => true
  | _ => false

/-- The variable that gives a value if the command line does not. -/
def environmentName? : Tool → Setting → Option String
  | .minted, .targetFormat => some "PANDOC_MINTED_TARGET"
  | .minted, .defaultLanguage => some "PANDOC_MINTED_LANGUAGE"
  | .prettyTables, .targetFormat => some "PANDOC_TABLES_TARGET"
  | .prettyTables, .placement => some "PANDOC_TABLES_PLACEMENT"
  | _, _ => none

end Setting

def settings : Tool → List Setting
  | .minted => [.input, .output, .targetFormat, .defaultLanguage]
  | .prettyTables => [.input, .output, .targetFormat, .placement]

/-- What a program can be asked to tell about itself. -/
inductive Topic where
  | help
  | version
  deriving DecidableEq

namespace Topic

/-- The name of the option that asks, behind two dashes. -/
def long : Topic → String
  | .help => "help"
  | .version => "version"

/-- The letter of the option that asks, behind one dash. -/
def letter : Topic → Char
  | .help => 'h'
  | .version => 'V'

def all : List Topic := [.help, .version]

end Topic

/-- What a command line says. -/
structure Arguments where
  format : Option String := none
  pretty : Bool := false
  values : List (Setting × String) := []
  deriving DecidableEq

namespace Arguments

def value? (arguments : Arguments) (setting : Setting) : Option String :=
  arguments.values.lookup setting

end Arguments

/-- What a command line asks for. -/
inductive Request where
  | run (arguments : Arguments)
  | tell (topic : Topic)
  deriving DecidableEq

/-- What is wrong with a command line. -/
inductive Misuse where
  | unknownOption (word : String)
  | repeated (name : String)
  | missingValue (name : String)
  | unwantedValue (name : String)
  | extraArgument (word : String)
  deriving DecidableEq

def Misuse.message : Misuse → String
  | .unknownOption word => "unexpected argument '" ++ word ++ "' found"
  | .repeated name => "the argument '--" ++ name ++ "' cannot be used multiple times"
  | .missingValue name => "a value is required for '--" ++ name ++ "' but none was supplied"
  | .unwantedValue name => "unexpected value for '--" ++ name ++ "' found"
  | .extraArgument word => "unexpected argument '" ++ word ++ "' found"

/-- Sets an option that must not be set yet. -/
def set (arguments : Arguments) (setting : Setting) (value : String) :
    Except Misuse Arguments :=
  if (arguments.value? setting).isSome then .error (.repeated setting.long)
  else if setting.isPath && value.isEmpty then .error (.missingValue setting.long)
  else .ok { arguments with values := arguments.values ++ [(setting, value)] }

/-- Takes a word that is no option. -/
def positional (arguments : Arguments) (word : String) : Except Misuse Arguments :=
  if arguments.format.isSome then .error (.extraArgument word)
  else .ok { arguments with format := some word }

/-- Takes words none of which is an option. -/
def positionals (arguments : Arguments) : List String → Except Misuse Arguments
  | [] => .ok arguments
  | word :: rest => do positionals (← positional arguments word) rest

/-- What a word leads to. -/
inductive Step where
  | next (arguments : Arguments)
  /-- An option waits for its value. -/
  | pending (arguments : Arguments) (setting : Setting)
  | tell (topic : Topic)

/-- A word behind two dashes, parted at the first equals sign. -/
def longOption (tool : Tool) (arguments : Arguments) (name : String)
    (attached : Option String) : Except Misuse Step :=
  match (settings tool).find? fun setting => setting.long == name with
  | some setting =>
      match attached with
      | some value => .next <$> set arguments setting value
      | none => .ok (.pending arguments setting)
  | none =>
      if name == "pretty" then
        if attached.isSome then .error (.unwantedValue name)
        else if arguments.pretty then .error (.repeated name)
        else .ok (.next { arguments with pretty := true })
      else
        match Topic.all.find? fun topic => topic.long == name with
        | some topic =>
            if attached.isSome then .error (.unwantedValue name) else .ok (.tell topic)
        | none => .error (.unknownOption ("--" ++ name))

/-- A word behind one dash: the letter of an option with its value, which may
follow an equals sign, or the letter of a topic, whatever follows. -/
def shortOption (tool : Tool) (arguments : Arguments) (letter : Char) (rest : List Char) :
    Except Misuse Step :=
  match (settings tool).find? fun setting => setting.short? == some letter with
  | some setting =>
      match rest with
      | [] => .ok (.pending arguments setting)
      | '=' :: value => .next <$> set arguments setting (String.ofList value)
      | value => .next <$> set arguments setting (String.ofList value)
  | none =>
      match Topic.all.find? fun topic => topic.letter == letter with
      | some topic => .ok (.tell topic)
      | none => .error (.unknownOption (String.ofList ['-', letter]))

/-- A text before its first equals sign, and what follows that sign. -/
def splitAtEquals (word : List Char) : String × Option String :=
  let name := String.ofList (word.takeWhile (· != '='))
  match word.dropWhile (· != '=') with
  | [] => (name, none)
  | _ :: value => (name, some (String.ofList value))

/-- A word that is not the value of an option and does not end the options. -/
def word (tool : Tool) (arguments : Arguments) (text : String) : Except Misuse Step :=
  match text.toList with
  | '-' :: '-' :: name =>
      let (name, attached) := splitAtEquals name
      longOption tool arguments name attached
  | '-' :: letter :: rest => shortOption tool arguments letter rest
  | _ => .next <$> positional arguments text

/-- A word that may be the value of an option: it does not look like an option
itself. -/
def isValue (text : String) : Bool :=
  match text.toList with
  | '-' :: _ :: _ => false
  | _ => true

/-- Reads words, possibly with an option that waits for its value. -/
def readFrom (tool : Tool) : Option Setting → Arguments → List String → Except Misuse Request
  | some setting, _, [] => .error (.missingValue setting.long)
  | some setting, arguments, text :: rest =>
      if isValue text then do
        let arguments ← set arguments setting text
        readFrom tool none arguments rest
      else .error (.missingValue setting.long)
  | none, arguments, [] => .ok (.run arguments)
  | none, arguments, text :: rest =>
      if text == "--" then .run <$> positionals arguments rest
      else do
        match ← word tool arguments text with
        | .next arguments => readFrom tool none arguments rest
        | .pending arguments setting => readFrom tool (some setting) arguments rest
        | .tell topic => .ok (.tell topic)

def read (tool : Tool) (words : List String) : Except Misuse Request :=
  readFrom tool none {} words

/-- The value of an option that always has one: from the command line, else
from the environment, else the default. -/
def effective (tool : Tool) (arguments : Arguments) (environment : List (String × String))
    (setting : Setting) (default : String) : String :=
  match arguments.value? setting with
  | some value => value
  | none =>
      match (setting.environmentName? tool).bind fun name => environment.lookup name with
      | some value => value
      | none => default

end CommandLine

end DocFilter
