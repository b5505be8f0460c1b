import FlutterInstaller.Cli.Options
import FlutterInstaller.Config.Basic
import FlutterInstaller.Text.Blank

/-!
The commands of the program and their options.
-/
namespace FlutterInstaller.Cli

structure BuildOptions where
  release : Bool
  profile : Bool
  debug : Bool
  appVersion : Option String
  noApp : Bool
  noInstaller : Bool
  envs : Bool
  json : Bool
  project : String
  deriving DecidableEq

inductive Command
  | build (options : BuildOptions)
  | id (space : Option String)
  deriving DecidableEq

namespace BuildOptions

def grammar : Grammar where
  options :=
    [("release", .flag), ("profile", .flag), ("debug", .flag), ("app-version", .valued false),
     ("no-app", .flag), ("no-installer", .flag), ("envs", .flag), ("json", .flag),
     ("project", .valued true)]
  short := [('p', "project")]

def ofGiven (g : Given) : BuildOptions where
  release := g.flag "release"
  profile := g.flag "profile"
  debug := g.flag "debug"
  appVersion := g.value? "app-version"
  noApp := g.flag "no-app"
  noInstaller := g.flag "no-installer"
  envs := g.flag "envs"
  json := g.flag "json"
  project := (g.value? "project").getD "."

def buildMode (o : BuildOptions) : BuildMode :=
  if o.debug then .debug else if o.profile then .profile else .release

def overrides (o : BuildOptions) : Overrides where
  version := o.appVersion
  buildMode := o.buildMode
  buildApp := !o.noApp
  buildInstaller := !o.noInstaller

/-- What makes the options contradict each other, or a value empty. -/
def objection? (o : BuildOptions) : Option String :=
  if 1 < ([o.release, o.profile, o.debug].filter id).length then
    some "only one of --release, --profile or --debug may be given"
  else if o.envs && o.json then some "--envs and --json are mutually exclusive"
  else if o.appVersion.any fun v => decide (Text.Blank v) then some "--app-version cannot be empty"
  else none

end BuildOptions

def idGrammar : Grammar where
  options := [("ns", .valued false)]
  short := []

namespace Command

def objection? : Command → Option String
  | .build o => o.objection?
  | .id space => if space.any fun s => decide (Text.Blank s) then some "--ns cannot be empty" else none

def names : List String := ["build", "id", "help"]

def ofName? (name : String) (arguments : List String) : Option (Except UsageError Command) :=
  if name = "build" then
    some ((Given.ofArguments BuildOptions.grammar arguments).map fun g => .build (.ofGiven g))
  else if name = "id" then
    some ((Given.ofArguments idGrammar arguments).map fun g => .id (g.value? "ns"))
  else if name = "help" then
    some (.error (match arguments with
      | [] => .help
      | [a] => if names.contains a then .help else .unknownCommand
      | _ => .unknownCommand))
  else none

def readShort : List Char → UsageError
  | 'h' :: _ => .help
  | 'V' :: _ => .version
  | _ => .unknownArgument

def readLong (cs : List Char) : UsageError :=
  match Given.splitValue cs with
  | ("help", none) => .help
  | ("version", none) => .version
  | (name, attached) =>
    if (name = "help" ∨ name = "version") ∧ attached.isSome then .unexpectedValue
    else .unknownArgument

def ofArguments : List String → Except UsageError Command
  | [] => .error .missingCommand
  | a :: rest =>
    match a.toList with
    | ['-', '-'] =>
      .error (match rest with
        | [] => .missingCommand
        | b :: _ => if names.contains b then .unknownArgument else .unknownCommand)
    | '-' :: '-' :: cs => .error (readLong cs)
    | '-' :: c :: cs => .error (readShort (c :: cs))
    | _ => (ofName? a rest).getD (.error .unknownCommand)

end Command

end FlutterInstaller.Cli
