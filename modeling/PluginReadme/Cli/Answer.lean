import PluginReadme.Cli.Arguments
import PluginReadme.Cli.Help
import PluginReadme.Cli.LogFilter
import PluginReadme.Cli.LogLine
import PluginReadme.Project.Run

/-!
The command line: what a call of the program prints and the status it exits with.
-/

namespace PluginReadme.Cli

open Project (Batch Mode Report)

/-- How the program is called. -/
structure Call where
  arguments : List Text
  /-- The filter of the log that the environment asks for. -/
  logFilter : Option Text
  /-- Whether the environment asks for no colours. -/
  noColor : Bool
  workingDirectory : Text
  deriving DecidableEq, Repr

/-- What the program prints, and its exit status. -/
structure Answer where
  status : Nat
  output : Text
  errors : Text
  deriving DecidableEq, Repr

/-- A text in a colour of a summary. -/
private def highlighted (isColored : Bool) (code : String) (text : Text) : Text :=
  if isColored then '\x1b' :: '[' :: code.toList ++ 'm' :: text ++ "\x1b[39m".toList else text

/-- A path as a summary shows it: from the root of the project. -/
private def fromRoot (root path : Text) : Text := (Path.within? root path).getD path

/-- A number as a text. -/
private def shown (n : Nat) : Text := (toString n).toList

/-- The lines about a batch; an empty batch is not mentioned. -/
private def batchLines (isColored isVerbose : Bool) (mode : Mode) (root label : Text)
    (batch : Batch) : Text :=
  if batch.files.isEmpty then []
  else
    let verb := match mode with
      | .dryRun => "Would update ".toList
      | .write => "Updated ".toList
    let count := highlighted isColored "32" (shown batch.updated.length)
    verb ++ count ++ " of ".toList ++ shown batch.files.length ++ ' ' :: label
      ++ " file(s).\n".toList
      ++ if isVerbose then
          batch.updated.flatMap fun path => ' ' :: ' ' :: fromRoot root path ++ ['\n']
        else []

/-- The warning about the files of a batch that failed. -/
private def batchWarning (isColored : Bool) (label : Text) (batch : Batch) : Text :=
  if batch.isOk then []
  else
    highlighted isColored "33" "warning:".toList ++ " skipped ".toList
      ++ shown batch.failures.length ++ ' ' :: label ++ " file(s), see the log above.\n".toList

/-- The batches of a report with their labels. -/
private def labelled (report : Report) : List (Text × Batch) :=
  [("style".toList, report.style), ("PHP".toList, report.source)]

/-- The summary of a run. -/
private def summary (isColored isVerbose : Bool) (mode : Mode) (root : Text) (report : Report) :
    Text :=
  let start := match mode with
    | .dryRun => "Dry run: would generate ".toList
    | .write => "Generated ".toList
  start ++ fromRoot root report.readme.path ++ " (version ".toList ++ report.readme.version
    ++ ")\n".toList
    ++ (labelled report).flatMap fun (label, batch) =>
      batchLines isColored isVerbose mode root label batch

/-- The filter of the log: the one that the environment asks for if it can be read. -/
private def filterOf (call : Call) (options : Options) : LogFilter :=
  (call.logFilter.bind LogFilter.read?).getD
    (.upTo (if options.verbose then .debug else .info))

/-- Runs the program with options that were read. -/
def runWith [Monad m] [Files m] (call : Call) (options : Options) : m Answer := do
  let isColored := !options.noColor && !call.noColor
  let mode := if options.dryRun then Mode.dryRun else Mode.write
  let root := options.path.getD call.workingDirectory
  let (result, log) ← (Project.runIn root options.config mode : Project.Task m _).outcome
  let lines := (log.filter (filterOf call options).shows).flatMap (logLine isColored)
  match result with
  | .ok report =>
    let warnings := (labelled report).flatMap fun (label, batch) =>
      batchWarning isColored label batch
    return ⟨0, summary isColored options.verbose mode root report, lines ++ warnings⟩
  | .error failure => return ⟨2, [], lines ++ Cli.report isColored failure⟩

/-- Runs the program. -/
def answer [Monad m] [Files m] (call : Call) : m Answer := do
  match readArguments .initial call.arguments with
  | .ok options => runWith call options
  | .error .version => return ⟨0, versionText, []⟩
  | .error .shortHelp => return ⟨0, shortHelp, []⟩
  | .error .longHelp => return ⟨0, longHelp, []⟩
  | .error (.refused error) => return ⟨2, [], error.message⟩

end PluginReadme.Cli
