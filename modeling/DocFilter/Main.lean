import DocFilter.Tool

/-!
# Command line

The first argument names the program to run; the others are its own.
-/

namespace DocFilter.Main

/-- Reads everything from a stream. -/
partial def readAll (stream : IO.FS.Stream) (read : ByteArray) : IO ByteArray := do
  let chunk ← stream.read 65536
  if chunk.isEmpty then return read else readAll stream (read ++ chunk)

/-- Says what went wrong. -/
def report (message : String) (code : UInt32) : IO UInt32 := do
  (← IO.getStderr).putStr message
  return code

/-- What kept a file from being opened, created or read. Some calls give the
code of a failure with its sign changed. -/
def fileProblem? : IO.Error → Option FileProblem
  | .noFileOrDirectory _ _ _ => some .missing
  | .inappropriateType _ code _ => some (if code == 21 then .isDirectory else .notDirectory)
  | .invalidArgument _ code _ =>
      if code == 36 || 0 - code == 36 then some .nameTooLong else none
  | _ => none

/-- What a failure of the system means for a job, if it is foreseen. -/
def failure? (error : IO.Error) : Option Job.Failure :=
  match fileProblem? error, error with
  | some problem, _ => some (.file problem)
  | none, .resourceExhausted _ 28 _ => some (.writing Job.fullMessage)
  | none, _ => none

/-- What a program says about a failure of the system. -/
def failureMessage (error : IO.Error) : String :=
  match failure? error with
  | some failure => failure.message
  | none => toString error

/-- Opens and reads the input of a job. A directory can be opened, but not read. -/
def readInput (job : Job) : IO Text.Source := do
  match job.input with
  | none => return .ofBytes (← readAll (← IO.getStdin) .empty) .complete
  | some path =>
      try
        return .ofBytes (← IO.FS.readBinFile path) .complete
      catch error =>
        match fileProblem? error with
        | some .isDirectory =>
            return .ofBytes .empty (.interrupted FileProblem.isDirectory.message)
        | _ => throw error

/-- Runs a job on the files there are. -/
def runJob (job : Job) (rendering : Rendering) : IO UInt32 := do
  try
    let source ← readInput job
    match job.transform rendering.filter Document.height () source with
    | .error halt => report (Tool.failureText (Job.Failure.filtering halt).message) 1
    | .ok written =>
        match job.output with
        | some path =>
            IO.FS.withFile path .write fun handle => do
              handle.write written
              handle.flush
        | none => do
            let stream ← IO.getStdout
            stream.write written
            stream.flush
        return 0
  catch error => report (Tool.failureText (failureMessage error)) 1

/-- The variables that a program looks at, with their values. -/
def environmentOf (tool : Tool) : IO (List (String × String)) := do
  let names := (CommandLine.settings tool).filterMap fun setting => setting.environmentName? tool
  let values ← names.mapM fun name => do
    let value ← IO.getEnv name
    return value.map fun value => (name, value)
  return values.filterMap id

end DocFilter.Main

open DocFilter DocFilter.Main in
/-- Runs the program that the first argument names. -/
def main (words : List String) : IO UInt32 := do
  let tools : List Tool := [.minted, .prettyTables]
  match words with
  | [] => report "error: no program is named\n" 2
  | name :: words =>
      match tools.find? fun tool => tool.name == name with
      | none => report ("error: there is no program " ++ name ++ "\n") 2
      | some tool =>
          match CommandLine.read tool words with
          | .error misuse => report ("error: " ++ misuse.message ++ "\n") 2
          | .ok (.tell topic) => do
              (← IO.getStdout).putStr (tool.telling (← environmentOf tool) topic)
              return 0
          | .ok (.run arguments) =>
              match tool.rendering arguments (← environmentOf tool) with
              | .error error => report (Tool.failureText error.message) 1
              | .ok rendering => runJob arguments.job rendering
