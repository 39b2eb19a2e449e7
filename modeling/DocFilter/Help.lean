import DocFilter.CommandLine
import DocFilter.Listing

/-!
# Help

What the programs tell about themselves if they are asked to: how they are called, or their
version.
-/

namespace DocFilter

namespace CommandLine

namespace Setting

/-- What stands for the value of an option. -/
def placeholder : Setting → String
  | .input | .output => "FILE"
  | .targetFormat => "TARGET_FORMAT"
  | .defaultLanguage => "DEFAULT_LANGUAGE"
  | .placement => "PLACEMENT"

def purpose : Setting → String
  | .input => "Read the document tree from a file instead of stdin"
  | .output => "Write the document tree to a file instead of stdout"
  | .targetFormat => "Output format the filter acts on"
  | .defaultLanguage => "Language for code without a class"
  | .placement => "Float placement specifier; empty for none"

def default? : Setting → Option String
  | .input | .output => none
  | .targetFormat => some Listing.defaultTargetFormat
  | .defaultLanguage => some Listing.defaultLanguage
  | .placement => some "h"

/-- Where the value of an option comes from if the command line does not give it, with the value
that the environment gives. -/
def origins (tool : Tool) (environment : List (String × String)) (setting : Setting) : String :=
  let environmentPart := (setting.environmentName? tool).map fun name =>
    " [env: " ++ name ++ "=" ++ (environment.lookup name).getD "" ++ "]"
  let defaultPart := setting.default?.map fun value => " [default: " ++ value ++ "]"
  environmentPart.getD "" ++ defaultPart.getD ""

end Setting

/-- An option in the help of a program. -/
structure Entry where
  letter : Option Char := none
  name : String
  placeholder : Option String := none
  purpose : String

namespace Entry

def ofSetting (tool : Tool) (environment : List (String × String)) (setting : Setting) :
    Entry where
  letter := setting.short?
  name := setting.long
  placeholder := some setting.placeholder
  purpose := setting.purpose ++ setting.origins tool environment

def ofTopic (topic : Topic) : Entry where
  letter := some topic.letter
  name := topic.long
  purpose := "Print " ++ topic.long

/-- The lines of an option. Options without a letter are set in as far as the others. -/
def text (entry : Entry) : String :=
  let letter := entry.letter.map fun letter => String.ofList ['-', letter, ',', ' ']
  let value := entry.placeholder.map fun placeholder => " <" ++ placeholder ++ ">"
  "  " ++ letter.getD "    " ++ "--" ++ entry.name ++ value.getD "" ++ "\n" ++
    "          " ++ entry.purpose ++ "\n"

end Entry

end CommandLine

namespace Tool

open CommandLine (Entry Setting Topic settings)

def purpose : Tool → String
  | .minted => "Pandoc filter rendering code blocks and inline code with minted"
  | .prettyTables => "Pandoc filter rendering tables as fully ruled LaTeX tabulars"

/-- The options of a program, those that say where documents come from and go to first. -/
def entries (tool : Tool) (environment : List (String × String)) : List Entry :=
  let ofSettings (chosen : Setting → Bool) :=
    ((settings tool).filter chosen).map (Entry.ofSetting tool environment)
  ofSettings Setting.isPath ++ [{ name := "pretty", purpose := "Output indented JSON" }] ++
    ofSettings (fun setting => !setting.isPath) ++ [.ofTopic .help, .ofTopic .version]

/-- What a program says about how it is called. -/
def helpText (tool : Tool) (environment : List (String × String)) : String :=
  tool.purpose ++ "\n\nUsage: " ++ tool.name ++ " [OPTIONS] [FORMAT]\n\n" ++
    "Arguments:\n" ++
    "  [FORMAT]  Output format pandoc is producing (passed by `pandoc --filter`)\n\n" ++
    "Options:\n" ++ String.join ((tool.entries environment).map Entry.text)

def telling (tool : Tool) (environment : List (String × String)) : Topic → String
  | .help => tool.helpText environment
  | .version => tool.name ++ " 0.1.0\n"

end Tool

end DocFilter
