/-
# The command line

A command is given by its name; options stand in front of the name or behind it.  An option
has a value, which follows as the next word or behind an equals sign in the same word.  A word
with a hyphen in front is never taken for the value of the word before it, unless it is the
hyphen alone.

Words are read from left to right, and the first one that is wrong decides.  Asking for the
version or for help ends the reading.
-/
import PluginHost.Config.Reading
import PluginHost.Config.Written
import PluginHost.Probe
import PluginHost.Registry.Listing

namespace PluginHost

/-! ## Options -/

/-- The options. -/
inductive OptionName where
  /-- Where the configuration is. -/
  | config
  /-- Where the snapshot to be probed is. -/
  | session
  /-- The number of the plugin that probes. -/
  | plugin
  /-- The name of the plugin that probes. -/
  | name
deriving DecidableEq, Repr

/-- The option that a word without its hyphens names. -/
def OptionName.ofWord? (word : List Char) : Option OptionName :=
  if word = "config".toList then some config
  else if word = "session".toList then some session
  else if word = "plugin".toList then some plugin
  else if word = "name".toList then some name
  else none

/-- The options that were given at one level. -/
structure Options where
  /-- Where the configuration is. -/
  config : Option String
  /-- Where the snapshot is. -/
  session : Option String
  /-- The number of the plugin. -/
  plugin : Option PluginId
  /-- The name of the plugin. -/
  name : Option String
deriving DecidableEq, Repr

namespace Options

/-- No options. -/
def empty : Options := ⟨none, none, none, none⟩

/-- A path, which is not empty. -/
def path? (value : List Char) : Option String :=
  if value = [] then none else some (String.ofList value)

/-- The number of a plugin, in decimal digits, with or without a sign. -/
def pluginId? (value : List Char) : Option PluginId :=
  let (negative, digits) :=
    match value with
    | '-' :: rest => (true, rest)
    | '+' :: rest => (false, rest)
    | rest => (false, rest)
  let n := digits.foldl (fun n c => n * 10 + (c.toNat - '0'.toNat)) 0
  if digits = [] ∨ !digits.all Char.isDigit ∨ UInt32.size ≤ n ∨ (negative ∧ n ≠ 0) then none
  else some (UInt32.ofNat n)

/-- Gives an option its value.  No option can be given twice. -/
def set? (options : Options) (option : OptionName) (value : List Char) : Option Options :=
  match option with
  | .config =>
    if options.config.isSome then none
    else (path? value).map fun path => { options with config := some path }
  | .session =>
    if options.session.isSome then none
    else (path? value).map fun path => { options with session := some path }
  | .plugin =>
    if options.plugin.isSome then none
    else (pluginId? value).map fun id => { options with plugin := some id }
  | .name =>
    if options.name.isSome then none
    else some { options with name := some (String.ofList value) }

end Options

/-! ## Levels -/

/-- Where on the command line options stand. -/
inductive Level where
  /-- In front of the command. -/
  | program
  /-- Behind a command that has no options of its own. -/
  | plain
  /-- Behind the command that probes. -/
  | probe
deriving DecidableEq, Repr

/-- Whether an option can be given at a level. -/
def Level.allows : Level → OptionName → Bool
  | _, .config => true
  | .probe, _ => true
  | _, _ => false

/-- What the words of one level come to. -/
inductive Scanned where
  /-- All words were options. -/
  | finished (options : Options)
  /-- A word is no option; `rest` stands behind it. -/
  | word (options : Options) (word : List Char) (rest : List (List Char))
  /-- The version is asked for. -/
  | version
  /-- Help is asked for. -/
  | help
  /-- A word is wrong. -/
  | wrong
deriving Repr

namespace Level

/-- The value that a word can be for the word before it. -/
def value? : List (List Char) → Option (List Char × List (List Char))
  | [] => none
  | word :: rest => if word.head? = some '-' ∧ word ≠ ['-'] then none else some (word, rest)

/-- Splits a word at its first equals sign. -/
def splitWord (word : List Char) : List Char × Option (List Char) :=
  match word.dropWhile (· ≠ '=') with
  | [] => (word, none)
  | _ :: value => (word.takeWhile (· ≠ '='), some value)

/-- Reads the words of one level; `fuel` bounds their number. -/
def scan (level : Level) : Nat → Options → List (List Char) → Scanned
  | 0, _, _ => .wrong
  | _, options, [] => .finished options
  | fuel + 1, options, word :: rest =>
    match word with
    | ['-', '-'] => if rest = [] then .finished options else .wrong
    | '-' :: '-' :: long =>
      let (name, attached) := splitWord long
      if attached = none ∧ name = "help".toList then .help
      else if attached = none ∧ name = "version".toList ∧ level = .program then .version
      else
        let found := (attached.map fun value => (value, rest)).or (value? rest)
        match OptionName.ofWord? name, found with
        | some option, some (value, rest) =>
          if level.allows option then
            match options.set? option value with
            | some options => level.scan fuel options rest
            | none => .wrong
          else .wrong
        | _, _ => .wrong
    | '-' :: short :: _ =>
      if short = 'h' then .help
      else if short = 'V' ∧ level = .program then .version
      else .wrong
    | word => .word options word rest

end Level

/-! ## Commands -/

/-- What is to be done. -/
inductive Command where
  /-- Write out the configuration. -/
  | config
  /-- List the plugins of the configuration. -/
  | plugins
  /-- Probe a snapshot. -/
  | probe (probe : Probe)
deriving DecidableEq, Repr

/-- A command, and where the configuration is. -/
structure Invocation where
  /-- The file with the configuration, if it is given. -/
  config : Option String
  /-- What is to be done. -/
  command : Command
deriving DecidableEq, Repr

/-- What a command line asks for. -/
inductive Request where
  /-- To carry out a command. -/
  | perform (invocation : Invocation)
  /-- To tell the version. -/
  | version
  /-- To tell how the program is used. -/
  | help
  /-- Nothing that could be understood. -/
  | unclear
deriving DecidableEq, Repr

namespace Request

/-- The level behind a command, and what the options of that level make of the command. -/
def command? (word : List Char) : Option (Level × (Options → Option Command)) :=
  if word = "config".toList then some (.plain, fun _ => some .config)
  else if word = "plugins".toList then some (.plain, fun _ => some .plugins)
  else if word = "probe".toList then
    some (.probe, fun options => options.session.map fun session =>
      .probe ⟨session, options.plugin, options.name.getD Probe.defaultName⟩)
  else none

/-- Reads what stands behind the word for help: nothing, or what help is wanted with. -/
def ofTopic : List (List Char) → Request
  | [] => .help
  | [topic] => if (command? topic).isSome ∨ topic = "help".toList then .help else .unclear
  | _ => .unclear

/-- Reads what stands behind a command. -/
def ofCommand (outer : Options) (word : List Char) (rest : List (List Char)) : Request :=
  match command? word with
  | none => if word = "help".toList then ofTopic rest else .unclear
  | some (level, command) =>
    match level.scan (rest.length + 1) .empty rest with
    | .finished inner =>
      match command inner with
      | some command => .perform ⟨inner.config.or outer.config, command⟩
      | none => .unclear
    | .help => .help
    | _ => .unclear

/-- Reads the words of a command line. -/
def ofWords (words : List String) : Request :=
  let words := words.map String.toList
  match Level.scan .program (words.length + 1) .empty words with
  | .word options word rest => ofCommand options word rest
  | .version => .version
  | .help => .help
  | _ => .unclear

end Request

/-! ## Carrying out -/

/-- How the program ends. -/
structure Ending where
  /-- What is written. -/
  output : String
  /-- What could not be done, and why; nothing if all went well. -/
  failure : List String
  /-- The status that the program returns. -/
  status : UInt32
deriving DecidableEq, Repr

namespace Ending

/-- All went well. -/
def success (output : String) : Ending := ⟨output, [], 0⟩

/-- Something could not be done. -/
def failed (output : String) (failure : List String) : Ending := ⟨output, failure, 1⟩

/-- The command line was not understood. -/
def misused : Ending := ⟨"", [], 2⟩

end Ending

namespace Invocation

/-- Carries out a command; `standard` is the file with the configuration if none is given. -/
def carryOut (i : Invocation) (files : FileView) (standard : Option String) : Ending :=
  match Config.load files (i.config.or standard) with
  | .error reason => .failed "" ["failed to load configuration", reason.message]
  | .ok config =>
    match i.command with
    | .config => .success config.render
    | .plugins => .success ((Registry.ofConfig config.plugins).listing ++ "\n")
    | .probe probe =>
      match probe.run files config with
      | .error reason => .failed "" reason.messages
      | .ok report =>
        let output := report.render ++ "\n"
        if report.leaks = 0 then .success output
        else .failed output [s!"{report.leaks} buffer(s) were never freed"]

/-- The files that a command may read. -/
def paths (i : Invocation) (standard : Option String) : List String :=
  (i.config.or standard).toList ++
    match i.command with
    | .probe probe => [probe.session]
    | _ => []

end Invocation

namespace Request

/-- The name of the program. -/
def programName : String := "voxlink"

/-- How the program is used. -/
def usage : String :=
  "Usage: voxlink [OPTIONS] <COMMAND>\n\n" ++
  "Commands:\n" ++
  "  config   Print the resolved configuration as TOML\n" ++
  "  plugins  List pre-registered plugins as JSON\n" ++
  "  probe    Drive a read sweep through the C table against an offline session\n" ++
  "  help     Print this message\n\n" ++
  "Options:\n" ++
  "      --config <CONFIG>  Config file (defaults to the platform config directory)\n" ++
  "  -h, --help             Print help\n" ++
  "  -V, --version          Print version\n"

/-- Does what is asked for. -/
def carryOut (request : Request) (files : FileView) (standard : Option String) : Ending :=
  match request with
  | .perform invocation => invocation.carryOut files standard
  | .version => .success s!"{programName} {Probe.programVersion}\n"
  | .help => .success usage
  | .unclear => .misused

end Request

/-! ## The standard configuration file -/

/-- The file with the configuration if none is given, below the directory for configurations.
That is named by `configHome`, if it is an absolute path, and otherwise lies in the home
directory. -/
def standardConfig (configHome home : Option String) : Option String :=
  match configHome.filter (fun path => path.toList.head? = some '/'), home.filter (· ≠ "") with
  | some directory, _ => some s!"{directory}/voxlink/config.toml"
  | none, some home => some s!"{home}/.config/voxlink/config.toml"
  | none, none => none

end PluginHost
