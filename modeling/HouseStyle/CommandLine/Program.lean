import HouseStyle.CommandLine.Command
import HouseStyle.Configuration.Resolution
import HouseStyle.Report.Rendering
import HouseStyle.Run.Check
import HouseStyle.Run.Settings
import HouseStyle.Screen.Table

namespace HouseStyle

/-!
# The program

A command is carried out in its surroundings. What it writes is a value: the
report on the output, lines and tables on the screen, and the exit code.
-/

/-- The version of the program. -/
def programVersion : String := "0.1.0"

/-- What a command writes. -/
structure Outcome where
  exitCode : Nat := 0
  output : String := ""
  screen : List ScreenPart := []
  deriving Repr

/-- Why a command stops without an outcome. -/
inductive ProgramFault
  | settings (fault : SettingsFault)
  | configuration (defect : Defect)
  | run (fault : RunFault)
  | markup (fault : MarkupFault)
  deriving Repr

/-- The wording of a fault. -/
def ProgramFault.message : ProgramFault → String
  | .settings fault => fault.message
  | .configuration defect => defect.message
  | .run fault => fault.message
  | .markup fault => fault.message

/-- The lines of a text on the screen. -/
def screenLines (text : String) : Except ProgramFault (List ScreenPart) :=
  (showText text).mapError .markup

/-! ## Lists -/

/-- The table of all rules. -/
def rulesTable : Table :=
  { title := "Rules"
    columns :=
      [{ title := "Rule", texts := builtinRules.map (·.id) },
        { title := "Default"
          texts := builtinRules.map (·.defaultSeverity.name) },
        { title := "Advisory"
          texts :=
            builtinRules.map fun rule => if rule.advisory then "yes" else "" },
        { title := "Description", texts := builtinRules.map (·.description) }] }

/-- The table of all languages. -/
def languagesTable : Table :=
  { title := "Languages"
    columns :=
      [{ title := "Language", texts := Language.sorted.map (·.name) },
        { title := "Blocks"
          texts := Language.sorted.map (·.profile.blockStyle.name) },
        { title := "Extensions"
          texts :=
            Language.sorted.map fun language =>
              " ".intercalate language.profile.extensions }] }

/-- The outcome that shows a table. -/
def showTable (table : Table) : Except ProgramFault Outcome := do
  let part ← table.part.mapError .markup
  pure { screen := [part] }

/-! ## Help -/

/-- What the program says about a topic. -/
def HelpTopic.text : HelpTopic → String
  | .program =>
      "Usage: styleguard [OPTIONS] COMMAND [ARGS]...\n\n" ++
        "  StyleGuard: language-agnostic style-convention checks.\n\n" ++
        "Options:\n" ++
        "  --version          Show the version and exit.\n" ++
        "  -c, --config FILE  Path to a YAML rule configuration file.\n" ++
        "  -v, --verbose      Enable verbose output.\n" ++
        "  --help             Show this message and exit.\n\n" ++
        "Commands:\n" ++
        "  check      Check source files against the configured style rules.\n" ++
        "  languages  List supported languages and their file extensions.\n" ++
        "  rules      List available rules and their default severities.\n"
  | .check =>
      "Usage: styleguard check [OPTIONS] PATHS...\n\n" ++
        "  Check source files against the configured style rules.\n\n" ++
        "Options:\n" ++
        "  --format [table|text|json]      Report format.  [default: table]\n" ++
        "  --fail-on [advisory|warning|error]\n" ++
        "                                  Lowest severity that fails the run.\n" ++
        "  -j, --jobs INTEGER RANGE        Worker threads.  [x>=1]\n" ++
        "  --timeout FLOAT RANGE           Cancel after N seconds.  [x>=0]\n" ++
        "  -e, --exclude TEXT              Glob patterns to exclude from the check.\n" ++
        "  --help                          Show this message and exit.\n"
  | .rules =>
      "Usage: styleguard rules [OPTIONS]\n\n" ++
        "  List available rules and their default severities.\n\n" ++
        "Options:\n" ++
        "  --help  Show this message and exit.\n"
  | .languages =>
      "Usage: styleguard languages [OPTIONS]\n\n" ++
        "  List supported languages and their file extensions.\n\n" ++
        "Options:\n" ++
        "  --help  Show this message and exit.\n"

/-! ## Checks -/

/-- The rules of a check, and the file that configures them. -/
structure Preparation where
  source : Option Path
  rules : RuleSet

namespace CheckRequest

/-- The configuration of a check: the file's, with what the command line adds. -/
def configurationFrom
    (request : CheckRequest)
    (surroundings : Surroundings)
    (source : Option Path) :
    Except ConfigFailure Configuration := do
  let configuration ←
    match source with
    | some path => Configuration.ofFile surroundings path
    | none => .ok {}
  pure
    { configuration with
      exclude := configuration.exclude ++ request.exclude
      failOn := request.failOn.or configuration.failOn }

/-- Find and resolve the configuration of a check. -/
def prepare
    (request : CheckRequest)
    (surroundings : Surroundings)
    (settings : Settings) :
    Except ConfigFailure Preparation := do
  let source ←
    (settings.configurationFile? surroundings request.configuration).mapError
      fun fault => .defect (.badPath fault)
  let configuration ← request.configurationFrom surroundings source
  let rules ← resolve surroundings .builtin configuration
  pure { source, rules }

/-- The line that opens a check. -/
def greeting
    (request : CheckRequest)
    (source : Option Path) :
    String :=
  let shown := (source.map Path.render).getD "built-in defaults"
  "[bold]StyleGuard[/bold] checking " ++ toString request.paths.length ++
    " path(s) with [cyan]" ++ shown ++ "[/cyan]\n"

/-- Carry out a check. -/
def run
    (request : CheckRequest)
    (surroundings : Surroundings)
    (settings : Settings)
    (rules : RuleSet) :
    Except ProgramFault Report :=
  let checker : Checker := { surroundings, registry := .builtin, rules }
  let options : RunOptions :=
    { jobs := request.jobs.or settings.jobs
      timeout := request.timeout.or settings.timeout }
  (checker.check options request.paths).mapError .run

end CheckRequest

/-- The word for a violation's severity; a star marks what is only advice. -/
def severityLabel (violation : Violation) : String :=
  violation.severity.name ++ if violation.advisory then "*" else ""

/-- Where a violation is. -/
def locationLabel (violation : Violation) : String :=
  violation.path ++ ":" ++ toString violation.line ++ ":" ++
    toString violation.column

/-- The table of violations. -/
def violationsTable (violations : List Violation) : Table :=
  { title := "Violations"
    columns :=
      [{ title := "Severity"
         width := some 10
         texts := violations.map severityLabel },
        { title := "Location", texts := violations.map locationLabel },
        { title := "Rule", texts := violations.map (·.ruleId) },
        { title := "Message", texts := violations.map (·.message) }] }

/-- The lines of a diagnostic. -/
def diagnosticLines
    (diagnostic : Diagnostic) :
    Except ProgramFault (List ScreenPart) :=
  screenLines
    ("[magenta]rule failure[/magenta] " ++ diagnostic.path ++ " [" ++
      diagnostic.ruleId ++ "]: " ++ diagnostic.message)

/-- A report as a table, with its diagnostics below. -/
def reportTable (report : Report) : Except ProgramFault (List ScreenPart) := do
  if report.violations.isEmpty && report.diagnostics.isEmpty then
    pure [.line "No violations."]
  else
    let table ← (violationsTable report.violations).part.mapError .markup
    let diagnostics ← report.diagnostics.mapM diagnosticLines
    pure (table :: diagnostics.flatten)

/-- The lines that close a check. -/
def summary (report : Report) : List ScreenPart :=
  let count (severity : Severity) := toString (report.count severity)
  let counts :=
    ScreenPart.line
      ("Checked " ++ toString report.scanned ++ " files (" ++
        toString report.skipped ++ " skipped): " ++
        count .error ++ " error(s), " ++ count .warning ++ " warning(s), " ++
        count .advisory ++ " advisory")
  let advisory :=
    if report.violations.any (·.advisory) then
      [ScreenPart.line "* advisory: never fails the run"]
    else
      []
  let ending :=
    if report.cancelled then
      [ScreenPart.line "Run cancelled; results are partial."]
    else if report.failing.isEmpty then
      []
    else
      [ScreenPart.line
        (toString report.failing.length ++ " violation(s) at or above " ++
          report.failOn.name)]
  [.line "", counts] ++ advisory ++ ending

/-- The output and the screen of a report in a form. -/
def writeReport
    (form : ReportForm)
    (report : Report) :
    Except ProgramFault (String × List ScreenPart) :=
  match form with
  | .json => .ok (report.json ++ "\n", [])
  | .text =>
      let text := report.text
      .ok (if text = "" then "" else text ++ "\n", summary report)
  | .table =>
      (reportTable report).map fun screen => ("", screen ++ summary report)

/-- The outcome of a check. -/
def CheckRequest.execute
    (request : CheckRequest)
    (surroundings : Surroundings) :
    Except ProgramFault Outcome := do
  let settings ← (Settings.ofSurroundings surroundings).mapError .settings
  match request.prepare surroundings settings with
  | .error (.defect defect) => throw (.configuration defect)
  | .error (.refused fault) =>
      let screen ←
        screenLines ("[red]Configuration error:[/red] " ++ fault.message)
      pure { exitCode := RunStatus.configurationInvalid.exitCode, screen }
  | .ok { source, rules } =>
      let greeting ←
        if request.form = .json then
          pure []
        else
          screenLines (request.greeting source)
      let report ← request.run surroundings settings rules
      let (output, screen) ← writeReport request.form report
      pure
        { exitCode := report.status.exitCode
          output
          screen := greeting ++ screen }

/-- Carry out a command. -/
def Command.execute
    (surroundings : Surroundings) :
    Command →
    Except ProgramFault Outcome
  | .help topic => .ok { output := topic.text }
  | .version => .ok { output := "styleguard, version " ++ programVersion ++ "\n" }
  | .rules => showTable rulesTable
  | .languages => showTable languagesTable
  | .check request => request.execute surroundings

end HouseStyle
