/-!
# The commands and their options

The command line is a tree of commands. A command has a name, a one-line description, options
and subcommands, and a command with subcommands needs one of them. An option has a long name,
possibly a one-letter short name, and either takes one value, named by a placeholder such as
`<PAIR>`, or is a flag. A value is read by its kind: text, a path (which may not be empty), a
double, a signed 64-bit integer, an unsigned 64-bit count or one of `true` and `false`.

Every command accepts `-h`/`--help` as its last option, and a command with subcommands also
has a last subcommand `help`, which shows the help of the commands named after it.
-/

namespace LevelCross.Cli

/-- How the value of an option is read. -/
inductive ValueKind where
  | text
  | path
  | real
  | int
  | count
  | truth
deriving DecidableEq, Repr, Inhabited

/-- An option of a command. -/
structure Opt where
  /-- the name the parsed value is found under -/
  id : String
  long : String
  short : Option Char := none
  /-- the placeholder of the value; `none` for a flag -/
  valueName : Option String := none
  kind : ValueKind := .text
  required : Bool := false
  /-- the value taken when the option is not given -/
  default : Option String := none
  help : String := ""
deriving Repr, Inhabited

namespace Opt

/-- The option takes a value. -/
def takesValue (o : Opt) : Bool := o.valueName.isSome

/-- The option as errors and usages show it: `--pair <PAIR>`, or `--json` for a flag. -/
def shown (o : Opt) : String :=
  "--" ++ o.long ++
    match o.valueName with
    | some v => " <" ++ v ++ ">"
    | none => ""

/-- The values an option accepts, when they are few. -/
def possibleValues (o : Opt) : List String :=
  if o.takesValue && o.kind == .truth then ["true", "false"] else []

/-- The option that asks for help. -/
def helpFlag : Opt := { id := "help", long := "help", short := some 'h', help := "Print help" }

end Opt

/-- A command: its name, description, options and subcommands. -/
inductive Cmd where
  | node (name about : String) (opts : List Opt) (subs : List Cmd)
deriving Repr, Inhabited

namespace Cmd

/-- The name of a command. -/
def name : Cmd → String
  | node n _ _ _ => n

/-- The one-line description of a command. -/
def about : Cmd → String
  | node _ a _ _ => a

/-- The options of a command, `--help` last. -/
def opts : Cmd → List Opt
  | node _ _ os _ => os

/-- The subcommands of a command, `help` last when there are any. -/
def subs : Cmd → List Cmd
  | node _ _ _ cs => cs

/-- The description of the `help` subcommand. -/
def helpAbout : String := "Print this message or the help of the given subcommand(s)"

/-- The `help` subcommand: it has no options of its own. -/
def helpCmd : Cmd := node "help" helpAbout [] []

/-- The `help` subcommand is the one without options. -/
def isHelp (c : Cmd) : Bool := c.name == "help" && c.opts.isEmpty

/-- A command with `--help` added to its options and, when it has subcommands, `help` added to
them. -/
def make (name about : String) (opts : List Opt) (subs : List Cmd) : Cmd :=
  node name about (opts ++ [Opt.helpFlag]) (if subs.isEmpty then [] else subs ++ [helpCmd])

/-- The subcommand of a name. -/
def sub? (c : Cmd) (name : String) : Option Cmd := c.subs.find? (·.name == name)

/-- The option of a long name. -/
def long? (c : Cmd) (name : String) : Option Opt := c.opts.find? (·.long == name)

/-- The option of a short name. -/
def short? (c : Cmd) (ch : Char) : Option Opt := c.opts.find? (·.short == some ch)

/-- The option of an identifier. -/
def opt? (c : Cmd) (id : String) : Option Opt := c.opts.find? (·.id == id)

end Cmd

/-! ### The commands of the program -/

/-- The name the program is called by. -/
def programName : String := "levelwatch"

/-- A flag. -/
def flag (long help : String) : Opt :=
  { id := long.replace "-" "_", long, help }

/-- An option taking a value, its placeholder the upper-cased identifier. -/
def valued (long : String) (kind : ValueKind) (required : Bool) (help : String)
    (default : Option String) : Opt :=
  let id := long.replace "-" "_"
  { id, long, valueName := some id.toUpper, kind, required, help, default }

/-- An option taking a text value, with no description and no default. -/
def plain (long : String) (required : Bool) : Opt := valued long .text required "" none

/-- The tree of commands. -/
def program : Cmd :=
  .make programName "Price level and ATR signal detector"
    [{ valued "config" .path true "INI configuration file" none with short := some 'c' }]
    [.make "init-db" "Create or upgrade the database schema" [] [],
     .make "levels" "Manage price levels" []
       [.make "list" "List active levels" [plain "pair" false, flag "json" ""] [],
        .make "add" "Add a level"
          [plain "pair" true, valued "level" .real true "" none,
           valued "direction" .text false "up, down, both, wick_up, wick_down or wick_both"
             (some "both"),
           flag "confirm-close" ""] [],
        .make "update" "Change the value, direction or close confirmation of a level"
          [valued "id" .int true "" none, valued "level" .real false "" none,
           plain "direction" false, valued "confirm-close" .truth false "" none] [],
        .make "delete" "Deactivate a level; its signal history is kept"
          [valued "id" .int true "" none] []],
     .make "signals" "Browse the signal history" []
       [.make "list" "List recorded signals, newest first"
          [plain "pair" false, plain "kind" false,
           valued "start" .text false "YYYY-MM-DD, YYYY-MM-DD HH:MM:SS or YYYY-MM-DDTHH:MM:SS" none,
           valued "end" .text false "A bare date covers the whole day" none,
           valued "limit" .count false "" (some "100"), valued "offset" .count false "" (some "0"),
           flag "json" ""] []],
     .make "detect" "Run the level detector on the newest candle of a pair"
       [plain "pair" true, plain "timeframe" false,
        flag "record" "Append detected events to the signal history"] [],
     .make "evaluate" "Run the full strategy for a pair as the host would on candle close"
       [plain "pair" true, plain "timeframe" false] [],
     .make "serve" "Start the JSON admin API" [] []]

end LevelCross.Cli
