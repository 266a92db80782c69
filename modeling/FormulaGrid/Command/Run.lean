import FormulaGrid.Command.Arguments
import FormulaGrid.Command.Report

/-! Running commands. What a command finds on the disk decides what it reports; showing a sheet may
also write the log of a directory. -/
namespace FormulaGrid.Command

/-- Goes on with a result, or reports why there is none and leaves the disk as it is. -/
def orReport {ε α : Type} (disk : Disk) (result : Except ε α) (report : ε → Report)
    (next : α → Report × Disk) : Report × Disk :=
  match result with
  | .ok value => next value
  | .error error => (report error, disk)

def configFailure (error : ConfigError) : Report :=
  .failure error.message

def settingFailure : Data.WholeError → Report
  | .wrongKind => .broken (.setting .wrongKind)
  | .infinite => .broken (.setting .infinite)
  | error => .failure error.message

def loadFailure (path : Path) (error : SheetError) : Report :=
  if Sheet.isLogged error then .failure s!"Cannot load {path.toText}: {error.message}"
  else .broken (.sheet error)

def loadSheet (disk : Disk) (path : Path) (config : Config) : Sheet.Making :=
  Sheet.loadFile path ((disk.bytes? path).bind readDocument?) config.maxDepth

/-- Evaluates an expression, with the cells of a sheet if one is given. The greatest length of
chains is that of the sheet's directory, or of the working directory. -/
def runEvaluate (disk : Disk) (expression : String) (sheet origin : Option String)
    (asJson : Bool) : Report × Disk :=
  let evaluated (config : Config) (accessor : Option Accessor) : Report × Disk :=
    let chain := Chain.start origin config.maxDepth config.positive
    (reportOutcome (Evaluation.evaluate accessor chain expression) asJson, disk)
  match sheet with
  | none => orReport disk (disk.config (.ofText "")) configFailure (evaluated · none)
  | some file =>
    let path := Path.ofText file
    orReport disk (disk.config path.parent) configFailure fun config =>
      orReport disk (loadSheet disk path config).result (loadFailure path) fun sheet =>
        evaluated config (some sheet.accessor)

def runSheet (now : String) (disk : Disk) (file : String) (asJson : Bool)
    (logDirectory : Option String) : Report × Disk :=
  let path := Path.ofText file
  let loaded (config : Config) : Sheet.Making := loadSheet disk path config
  let reported (making : Sheet.Making) : Report :=
    match making.result with
    | .ok made => reportSheet made asJson
    | .error error => loadFailure path error
  orReport disk (disk.config path.parent) configFailure fun config =>
    match logDirectory with
    | none => (reported (loaded config), disk)
    | some directory =>
      let directory := Path.ofText directory
      orReport disk (disk.makeDirectory directory) (.broken ∘ .obstacle) fun disk =>
        orReport disk (disk.config directory) configFailure fun settings =>
          orReport disk (Log.Sink.ofConfig settings) settingFailure fun sink =>
            let making := loaded config
            let folder := making.events.foldl
              (fun folder event => Log.emit (some sink) folder (.ofEvent now event))
              (disk.folder directory)
            (reported making, disk.putFolder directory folder)

/-- Whether the paths that a command names are files or directories as it needs them. -/
def pathsFit (disk : Disk) : Command → Bool
  | .evaluate _ (some file) _ _ => disk.isFile file
  | .sheet file _ logDirectory =>
    disk.isFile file && !(logDirectory.map disk.isFile).getD false
  | .events directory _ _ _ _ => disk.isDirectory directory
  | _ => true

def programVersion : String := "0.1.0"

def run (now : String) (disk : Disk) (command : Command) : Report × Disk :=
  if !pathsFit disk command then (.misuse, disk)
  else
    match command with
    | .version => (.printed [s!"gridcalc, version {programVersion}"], disk)
    | .evaluate expression file origin asJson => runEvaluate disk expression file origin asJson
    | .check expression asJson => (reportCheck (Formula.validate expression) asJson, disk)
    | .tokens expression asJson => (reportTokens expression asJson, disk)
    | .references expression => (reportReferences expression, disk)
    | .sheet file asJson logDirectory => runSheet now disk file asJson logDirectory
    | .events directory level eventType cell limit =>
      (reportEvents disk directory ⟨level, eventType, cell⟩ limit, disk)

def runArguments (now : String) (disk : Disk) (arguments : List String) : Report × Disk :=
  match ofArguments? arguments with
  | none => (.misuse, disk)
  | some command => run now disk command

def pathsOfArgument (argument : String) : List Path :=
  let value := (splitOption argument).2.getD argument
  let path := Path.ofText value
  [path, path.parent.child Config.fileName, path.child Config.fileName, Disk.logFolder path,
    Disk.logFile path]

def pathsOf (arguments : List String) : List Path :=
  ((Path.ofText "").child Config.fileName :: arguments.flatMap pathsOfArgument).eraseDups

end FormulaGrid.Command
