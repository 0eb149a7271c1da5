import LevelCross.Cli.Usage
import LevelCross.Number.Read
import LevelCross.Text.Similar

/-!
# Reading the command line

The arguments are read from the left, one command at a time. For each command:

* a subcommand's name, unless an option waits for its value, ends the command; the rest belongs
  to the subcommand, and `help` instead shows the help of the commands named after it;
* `--` makes every later argument a plain value;
* `--name` or `--name=value` gives an option by its long name, and `-x` a short one, possibly
  followed by more short flags or by the value;
* any other argument is the value of the option waiting for one, or else is refused.

An option's value is read when the next option is met or the command ends, so that errors come
in the order the arguments cause them. A command ends with its own checks, after its
subcommand's: a command that needs a subcommand shows its help when given nothing and is refused
when given options only, and a missing required option is refused. Options not given take their
defaults.

Refusals are texts for standard error that end with the way to ask for help; some carry a
usage line and a suggestion of a similar known name.
-/

namespace LevelCross.Cli

open LevelCross.Number LevelCross.Text

/-- A value read from the command line. -/
inductive Val where
  | text (s : String)
  | real (x : Float)
  | int (i : Int)
  | count (n : Nat)
  | truth (b : Bool)
deriving Repr, Inhabited

/-- Why reading stopped: a help page for standard output, or a refusal for standard error. -/
inductive Stop where
  | shown (text : String)
  | refused (text : String)
deriving Repr, Inhabited

/-- The options a command was given, in the order first given, with the defaults of the others
after them. -/
abbrev Given := List (String × Val)

/-! ### Refusals -/

/-- The closing line of every refusal. -/
def tryHelp : String := "\n\nFor more information, try '--help'.\n"

/-- A list of accepted values after a refusal's first line. -/
def valuesList (title : String) (values : List String) : String :=
  if values.isEmpty then "" else "\n  [" ++ title ++ ": " ++ ", ".intercalate values ++ "]"

/-- A suggestion after a refusal's first line. -/
def tip (text : String) : String := "\n\n  tip: " ++ text

/-- An argument that means nothing here. -/
def unexpectedText (arg : String) (tips : String) (usage : String) : String :=
  "error: unexpected argument '" ++ arg ++ "' found" ++ tips ++ "\n\n" ++ usage ++ tryHelp

/-- A name that is no subcommand, with the similar ones. -/
def unknownCommandText (name : String) (similar : List String) (usage : String) : String :=
  let tips := match similar with
    | [] => ""
    | [one] => tip ("a similar subcommand exists: '" ++ one ++ "'")
    | more => tip ("some similar subcommands exist: " ++ ", ".intercalate (more.map fun s => "'" ++ s ++ "'"))
  "error: unrecognized subcommand '" ++ name ++ "'" ++ tips ++ "\n\n" ++ usage ++ tryHelp

/-- A value outside the accepted ones. -/
def badChoiceText (o : Opt) (value : String) : String :=
  let head := if value.isEmpty then "error: a value is required for '" ++ o.shown ++ "' but none was supplied"
    else "error: invalid value '" ++ value ++ "' for '" ++ o.shown ++ "'"
  let suggestion := match closestName? value o.possibleValues with
    | some s => tip ("a similar value exists: '" ++ s ++ "'")
    | none => ""
  head ++ valuesList "possible values" o.possibleValues ++ suggestion ++ tryHelp

/-- A value that cannot be read, with the reason. -/
def unreadableText (o : Opt) (value reason : String) : String :=
  "error: invalid value '" ++ value ++ "' for '" ++ o.shown ++ "': " ++ reason ++ tryHelp

/-- An option given twice. -/
def repeatedText (o : Opt) (usage : String) : String :=
  "error: the argument '" ++ o.shown ++ "' cannot be used multiple times\n\n" ++ usage ++ tryHelp

/-- A value given to a flag. -/
def flagValueText (o : Opt) (value : String) (usage : String) : String :=
  "error: unexpected value '" ++ value ++ "' for '" ++ o.shown ++ "' found; no more were expected\n\n" ++
    usage ++ tryHelp

/-- Required options not given. -/
def missingText (shown : List String) (usage : String) : String :=
  "error: the following required arguments were not provided:" ++
    String.join (shown.map ("\n  " ++ ·)) ++ "\n\n" ++ usage ++ tryHelp

/-- A command that needs a subcommand given none. -/
def noCommandText (bin : String) (names : List String) (usage : String) : String :=
  "error: '" ++ bin ++ "' requires a subcommand but one was not provided" ++
    valuesList "subcommands" names ++ "\n\n" ++ usage ++ tryHelp

/-- A subcommand's name after `--`. -/
def escapedCommandText (name : String) (usage : String) : String :=
  unexpectedText name (tip ("subcommand '" ++ name ++ "' exists; to use it, remove the '--' before it"))
    usage

/-! ### Values -/

/-- Read the value of an option. -/
def readValue (o : Opt) (raw : String) : Except String Val :=
  match o.kind with
  | .text => .ok (.text raw)
  | .path => if raw.isEmpty then .error (badChoiceText o "") else .ok (.text raw)
  | .real =>
    match readFloat raw with
    | .ok x => .ok (.real x)
    | .error e => .error (unreadableText o raw e.message)
  | .int =>
    match readI64 raw with
    | .ok i => .ok (.int i)
    | .error e => .error (unreadableText o raw e.message)
  | .count =>
    match readU64 raw with
    | .ok n => .ok (.count n)
    | .error e => .error (unreadableText o raw e.message)
  | .truth =>
    if raw == "true" then .ok (.truth true)
    else if raw == "false" then .ok (.truth false)
    else .error (badChoiceText o raw)

/-! ### Reading one command -/

/-- Where the reading of a command stands. -/
structure Scan where
  /-- the options given so far, in the order first given; `none` while a value is unread -/
  given : List (String × Option Val) := []
  /-- the option given last whose values are not yet read, with those values -/
  pending : Option (Opt × List String) := none
  /-- the option given last still waits for its value -/
  waiting : Bool := false
  /-- after `--`, every argument is a plain value -/
  escaped : Bool := false
deriving Inhabited

namespace Scan

/-- The identifiers of the options given. -/
def used (s : Scan) : List String := s.given.map (·.1)

/-- The option was given. -/
def has (s : Scan) (id : String) : Bool := s.given.any (·.1 == id)

/-- Mark an option as given, keeping its place when it already was. -/
def mark (s : Scan) (id : String) : Scan :=
  if s.has id then s else { s with given := s.given ++ [(id, none)] }

/-- Give an option its value. -/
def record (s : Scan) (id : String) (v : Val) : Scan :=
  { s with given := s.given.map fun (k, old) => if k == id then (k, some v) else (k, old) }

end Scan

/-- Take the values of an option: it needs one, may not have been given before, and its value
must read. The scan is returned also when this fails, as it stands at the failure. -/
def settle (p : Place) (c : Cmd) (s : Scan) (o : Opt) (raws : List String) : Scan × Option Stop :=
  match raws with
  | [] => (s, some (.refused (badChoiceText o "")))
  | raw :: _ =>
    if s.has o.id then
      ({ s with given := s.given.filter (·.1 != o.id) },
        some (.refused (repeatedText o (usageLine p c []))))
    else
      let s := s.mark o.id
      match readValue o raw with
      | .ok v => (s.record o.id v, none)
      | .error text => (s, some (.refused text))

/-- Read the values of the pending option, if any. -/
def resolve (p : Place) (c : Cmd) (s : Scan) : Scan × Option Stop :=
  match s.pending with
  | none => (s, none)
  | some (o, raws) => settle p c { s with pending := none, waiting := false } o raws

/-- Read the pending option, stopping at a failure. -/
def resolved (p : Place) (c : Cmd) (s : Scan) : Except Stop Scan :=
  match resolve p c s with
  | (s, none) => .ok s
  | (_, some e) => .error e

/-- Give a flag: after the pending option is read, `--help` shows the help page, and a flag given
twice is refused. -/
def giveFlag (p : Place) (c : Cmd) (s : Scan) (o : Opt) : Except Stop Scan := do
  let s ← resolved p c s
  if o.id == "help" then throw (.shown (helpPage p c))
  if s.has o.id then throw (.refused (repeatedText o (usageLine p c [])))
  return (s.mark o.id).record o.id (.truth true)

/-- Give an option that takes a value, attached to it or still to come. -/
def giveValued (p : Place) (c : Cmd) (s : Scan) (o : Opt) (attached : Option String) :
    Except Stop Scan := do
  let s ← resolved p c s
  match attached with
  | some v =>
    match settle p c s o [v] with
    | (s, none) => return s
    | (_, some e) => throw e
  | none => return { s with pending := some (o, []), waiting := true }

/-- The long option of another command that resembles a name, when that command is named later
on the command line: the command named first wins. -/
def laterSuggestion (c : Cmd) (name : String) (rest : List String) : Option (String × String) :=
  let found := c.subs.filterMap fun sc =>
    match closestName? name (sc.opts.map (·.long)), rest.idxOf? sc.name with
    | some flagName, some pos => some (pos, flagName, sc.name)
    | _, _ => none
  match found.foldl (fun best x => match best with
      | some b => if x.1 < b.1 then some x else some b
      | none => some x) none with
  | some (_, flagName, sub) => some (flagName, sub)
  | none => none

/-- Refuse an unknown long option, suggesting a similar one; a suggested option of this command
counts as given in the usage line. -/
def unknownLong (p : Place) (c : Cmd) (s : Scan) (name : String) (rest : List String) : Stop :=
  match closestName? name (c.opts.map (·.long)) with
  | some similar =>
    let s := match c.long? similar with
      | some o => s.mark o.id
      | none => s
    .refused (unexpectedText ("--" ++ name) (tip ("a similar argument exists: '--" ++ similar ++ "'"))
      (usageLine p c s.used))
  | none =>
    let tips := match laterSuggestion c name rest with
      | some (flagName, sub) => tip ("'" ++ sub ++ " --" ++ flagName ++ "' exists")
      | none => ""
    .refused (unexpectedText ("--" ++ name) tips (usageLine p c s.used))

/-- Refuse an argument that is no option and no awaited value. -/
def strayArgument (p : Place) (c : Cmd) (s : Scan) (arg : String) : Stop :=
  let usage := usageLine p c []
  if s.escaped && (c.sub? arg).isSome then .refused (escapedCommandText arg usage)
  else if c.subs.isEmpty || s.escaped then .refused (unexpectedText arg "" usage)
  else .refused (unknownCommandText arg (similarNames arg (c.subs.map (·.name))) usage)

/-- Show the help of the commands named after `help`, from a command standing at a place. -/
def helpAlong (p : Place) (c : Cmd) : List String → Stop
  | [] => .shown (helpPage p c)
  | name :: rest =>
    match c.sub? name with
    | some sc => helpAlong (p.child c name) sc rest
    | none => .refused (unknownCommandText name [] (usageLine p c []))

/-- Read a run of short flags, the characters after one `-`: each names a flag, or an option
whose value is the rest of the run (after an optional `=`) or the next argument. -/
def shortRun (p : Place) (c : Cmd) : Scan → List Char → Except Stop Scan
  | s, [] => .ok s
  | s, ch :: more =>
    match c.short? ch with
    | none => .error (.refused (unexpectedText ("-" ++ ch.toString) "" (usageLine p c [])))
    | some o =>
      if o.takesValue then
        let value := match more with
          | '=' :: v => some (String.ofList v)
          | [] => none
          | v => some (String.ofList v)
        giveValued p c s o value
      else do
        let s ← giveFlag p c s o
        shortRun p c s more

/-- Read the arguments of one command; when a subcommand is named, the rest of the arguments
are returned with it. -/
def scan (p : Place) (c : Cmd) : List String → Scan → Except Stop (Scan × Option (Cmd × List String))
  | [], s => .ok (s, none)
  | arg :: rest, s =>
    match (if s.escaped || s.waiting then none else c.sub? arg) with
    | some sc =>
      if sc.isHelp then .error (helpAlong p c rest) else .ok (s, some (sc, rest))
    | none =>
      let cs := arg.toList
      if !s.escaped && arg == "--" then do
        let s ← resolved p c s
        scan p c rest { s with escaped := true }
      else if !s.escaped && cs.take 2 == ['-', '-'] then
        let body := cs.drop 2
        let name := String.ofList (body.takeWhile (· != '='))
        let attached := if body.contains '=' then some (String.ofList ((body.dropWhile (· != '=')).drop 1))
          else none
        match c.long? name with
        | some o =>
          if o.takesValue then do
            let s ← giveValued p c s o attached
            scan p c rest s
          else
            match attached with
            | some v =>
              let usage := usageLine p c (s.used ++ [o.id])
              .error (.refused (flagValueText o v usage))
            | none => do
              let s ← giveFlag p c s o
              scan p c rest s
        | none => .error (unknownLong p c (resolve p c s).1 name rest)
      else if !s.escaped && cs.length ≥ 2 && cs.head? == some '-' then do
        let s ← shortRun p c s (cs.drop 1)
        scan p c rest s
      else if s.waiting then
        match s.pending with
        | some (o, raws) => scan p c rest { s with pending := some (o, raws ++ [arg]), waiting := false }
        | none => scan p c rest { s with waiting := false }
      else .error (strayArgument p c (resolve p c s).1 arg)

/-- The options of a command as given, then the defaults of those not given. -/
def withDefaults (c : Cmd) (s : Scan) : Except Stop Given := do
  let given := s.given.filterMap fun (k, v) => v.map (k, ·)
  let defaults ← c.opts.filterMapM fun o =>
    match o.default with
    | some d =>
      if s.has o.id then pure none
      else match readValue o d with
        | .ok v => pure (some (o.id, v))
        | .error text => throw (.refused text)
    | none => pure none
  return given ++ defaults

/-- The checks at the end of a command, after its subcommand's. -/
def finish (p : Place) (c : Cmd) (s : Scan) (hasSub : Bool) : Except Stop Given := do
  let s ← resolved p c s
  if !hasSub && !c.subs.isEmpty then
    if s.given.isEmpty then throw (.refused (helpPage p c))
    throw (.refused (noCommandText p.bin (c.subs.map (·.name)) (usageLine p c [])))
  let missing := c.opts.filter fun o => o.required && !s.has o.id
  if !missing.isEmpty then
    throw (.refused (missingText (missing.map Opt.shown) (usageLine p c (s.used ++ missing.map (·.id)))))
  withDefaults c s

/-- Read a command and its subcommands, each level taking at least one argument, so that the
number of arguments bounds the depth: the names and options of the commands from the top. -/
def readCommand : Nat → Place → Cmd → List String → Except Stop (List (String × Given))
  | 0, _, _, _ => .ok []
  | fuel + 1, p, c, args => do
    let (s, sub) ← scan p c args {}
    match sub with
    | some (sc, rest) =>
      let below ← readCommand fuel (p.child c sc.name) sc rest
      let given ← finish p c s true
      return (c.name, given) :: below
    | none =>
      let given ← finish p c s false
      return [(c.name, given)]

/-- Read the arguments of the program. -/
def readArgs (args : List String) : Except Stop (List (String × Given)) :=
  readCommand (args.length + 1) Place.top program args

end LevelCross.Cli
