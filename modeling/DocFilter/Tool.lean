import DocFilter.Document.Height
import DocFilter.Help
import DocFilter.Job
import DocFilter.Rendering

/-!
# The programs

Each program does one job with a filter that renders one kind of nodes. Both
the rendering and the job come from the command line and the environment.
-/

namespace DocFilter

/-- The job that arguments describe. Without a format it has an empty one. -/
def CommandLine.Arguments.job (arguments : CommandLine.Arguments) : Job where
  format := arguments.format.getD ""
  layout := if arguments.pretty then .indented else .compact
  input := arguments.value? .input
  output := arguments.value? .output

namespace Tool

open CommandLine (Arguments effective)

def rendering (tool : Tool) (arguments : Arguments) (environment : List (String × String)) :
    Except Error Rendering := do
  let value := effective tool arguments environment
  match tool with
  | .minted =>
      let renderer ← Listing.Renderer.ofOptions?
        { targetFormat := value .targetFormat Listing.defaultTargetFormat
          defaultLanguage := value .defaultLanguage Listing.defaultLanguage }
      return .listings renderer
  | .prettyTables =>
      return .tables
        { targetFormat := value .targetFormat Listing.defaultTargetFormat
          placement := value .placement "h" }

/-- What is left when a program has run. -/
structure Execution where
  code : Nat
  standardOutput : ByteArray := .empty
  standardError : String := ""
  workspace : Workspace

/-- What a program says when it fails. -/
def failureText (message : String) : String := "Error: " ++ message ++ "\n"

/-- The end of a program that has done its job, or failed to. -/
def Execution.ofRun (run : Job.Run) : Execution :=
  match run.outcome with
  | .ok () => { code := 0, standardOutput := run.standardOutput, workspace := run.workspace }
  | .error failure =>
      { code := 1
        standardOutput := run.standardOutput
        standardError := failureText failure.message
        workspace := run.workspace }

def execute (tool : Tool) (words : List String) (environment : List (String × String))
    (standardInput : ByteArray) (workspace : Workspace) : Execution :=
  match CommandLine.read tool words with
  | .error misuse =>
      { code := 2, standardError := "error: " ++ misuse.message ++ "\n", workspace }
  | .ok (.tell topic) =>
      { code := 0, standardOutput := (tool.telling environment topic).toUTF8, workspace }
  | .ok (.run arguments) =>
      match tool.rendering arguments environment with
      | .error error => { code := 1, standardError := failureText error.message, workspace }
      | .ok rendering =>
          .ofRun (arguments.job.run rendering.filter Document.height () standardInput workspace)

end Tool

end DocFilter
