import DocFilter.Channel
import DocFilter.Workspace

/-!
# Jobs

A job is to filter one document: read from a file or from the standard input,
and written to a file or to the standard output. The document is read and
filtered before the output is touched, so that a failure leaves an existing
file as it was, even if it is both input and output.
-/

namespace DocFilter

/-- What is to be done with one document. -/
structure Job where
  /-- The format that the document is to be written in; empty if none is given. -/
  format : String
  layout : Json.Layout
  /-- The file to read, if not the standard input. -/
  input : Option String
  /-- The file to write, if not the standard output. -/
  output : Option String
  deriving DecidableEq

def Feed.source (standardInput : ByteArray) : Feed → Text.Source
  | .standardInput => .ofBytes standardInput .complete
  | .content bytes => .ofBytes bytes .complete
  | .directory => .ofBytes .empty (.interrupted FileProblem.isDirectory.message)

namespace Job

/-- Why a job fails. -/
inductive Failure where
  /-- The input cannot be opened, or the output cannot be created. -/
  | file (problem : FileProblem)
  /-- The document cannot be read or filtered. -/
  | filtering (halt : Halt)
  /-- The output is opened, but cannot be written, for the stated reason. -/
  | writing (reason : String)

def Failure.message : Failure → String
  | .file problem => problem.message
  | .filtering (.failed error) => error.message
  | .filtering .tooDeep => "nodes are nested too deeply"
  | .writing reason => (Error.channel reason).message

/-- What the system says when there is no room for what is written. -/
def fullMessage : String := "No space left on device (os error 28)"

/-- What a job leaves behind. -/
structure Run where
  outcome : Except Failure Unit
  standardOutput : ByteArray
  workspace : Workspace

/-- A job that failed: nothing was written. -/
def Run.failed (failure : Failure) (workspace : Workspace) : Run :=
  ⟨.error failure, .empty, workspace⟩

def feed (job : Job) (workspace : Workspace) : Except FileProblem Feed :=
  match job.input with
  | none => .ok .standardInput
  | some path => workspace.feedAt path

def sink (job : Job) (workspace : Workspace) : Except FileProblem Sink :=
  match job.output with
  | none => .ok .standardOutput
  | some path => workspace.sinkAt path

def deliver (bytes : ByteArray) (workspace : Workspace) : Sink → Run
  | .standardOutput => ⟨.ok (), bytes, workspace⟩
  | .file location => ⟨.ok (), .empty, workspace.setContent location bytes⟩
  | .nowhere => ⟨.ok (), .empty, workspace⟩
  | .full => .failed (.writing fullMessage) workspace

section

variable {σ : Type} (job : Job) (filter : NodeFilter σ) (limit : Document → Nat) (state : σ)

/-- What a job makes of the text that it reads. -/
def transform (source : Text.Source) : Except Halt ByteArray :=
  (filterSource filter job.format limit source state).result.map
    fun document => document.bytes job.layout

def run (standardInput : ByteArray) (workspace : Workspace) : Run :=
  match job.feed workspace with
  | .error problem => .failed (.file problem) workspace
  | .ok feed =>
      match job.transform filter limit state (feed.source standardInput) with
      | .error halt => .failed (.filtering halt) workspace
      | .ok bytes =>
          match job.sink workspace with
          | .error problem => .failed (.file problem) workspace
          | .ok sink => deliver bytes workspace sink

end

end Job

end DocFilter
