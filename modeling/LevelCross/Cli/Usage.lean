import LevelCross.Cli.Spec

/-!
# Usage lines and help pages

A usage line shows how a command is called. The full form, on help pages and in most errors,
names the command, then `[OPTIONS]` when it has an option that is neither required nor the
help flag, then its required options, then `<COMMAND>` when it needs a subcommand. The short
form, in errors about options already given, names the required options and then the given
ones instead of `[OPTIONS]`.

A subcommand is called by its parent's name followed by its own, and its usage line also
names the options its parent requires: `detect` is shown after the program name and
`--config <CONFIG>`.

A help page is the description, the usage line, then the sections `Commands:`, `Arguments:`
and `Options:` that apply, entries aligned two places after the widest one. An option's entry
ends with its description and with its default and its accepted values when it has them.
-/

namespace LevelCross.Cli

/-- Where a command stands in the tree: the name its subcommands are called by, and the name
its usage line starts with. -/
structure Place where
  bin : String
  usage : String
deriving Repr, Inhabited

/-- The place of the program itself. -/
def Place.top : Place := ⟨programName, programName⟩

/-- The required options of a command, as usages show them. -/
def requiredShown (c : Cmd) : List String := (c.opts.filter (·.required)).map Opt.shown

/-- The place of a subcommand of a command standing at a place. -/
def Place.child (p : Place) (parent : Cmd) (name : String) : Place :=
  ⟨p.bin ++ " " ++ name,
   p.bin ++ " " ++ String.join ((requiredShown parent).map (· ++ " ")) ++ name⟩

/-- Some option of a command is neither required nor the help flag. -/
def needsOptionsTag (c : Cmd) : Bool := c.opts.any fun o => o.id != "help" && !o.required

/-- The texts joined, each after a blank. -/
def afterBlanks (parts : List String) : String := String.join (parts.map (" " ++ ·))

/-- The `<COMMAND>` of a command that needs a subcommand. -/
def commandTag (c : Cmd) : String := if c.subs.isEmpty then "" else " <COMMAND>"

/-- The full usage of a command. -/
def fullUsage (p : Place) (c : Cmd) : String :=
  if c.isHelp then p.usage ++ " [COMMAND]..."
  else
    p.usage ++ (if needsOptionsTag c then " [OPTIONS]" else "") ++ afterBlanks (requiredShown c) ++
      commandTag c

/-- The short usage of a command after the options of the given identifiers. -/
def shortUsage (p : Place) (c : Cmd) (used : List String) : String :=
  let shown := (requiredShown c ++ used.filterMap fun id => (c.opt? id).map Opt.shown).eraseDups
  p.usage ++ afterBlanks shown ++ commandTag c

/-- The usage line of an error: the full usage when no option is named, else the short one. -/
def usageLine (p : Place) (c : Cmd) (used : List String) : String :=
  "Usage: " ++ if used.isEmpty then fullUsage p c else shortUsage p c used

/-- Blanks. -/
def blanks (n : Nat) : String := String.ofList (List.replicate n ' ')

/-- The default and the accepted values of an option, as its help entry ends. -/
def specText (o : Opt) : String :=
  let default := if o.takesValue then (o.default.map fun d => "[default: " ++ d ++ "]").toList else []
  let values := if o.possibleValues.isEmpty then []
    else ["[possible values: " ++ ", ".intercalate o.possibleValues ++ "]"]
  " ".intercalate (default ++ values)

/-- The width an option takes in the options section before its description. -/
def optWidth (o : Opt) : Nat := o.shown.length + 4

/-- The entry of an option, its description starting two places after the widest option. -/
def optionEntry (widest : Nat) (o : Opt) : String :=
  let lead := match o.short with
    | some ch => "-" ++ ch.toString ++ ", "
    | none => "    "
  let spec := specText o
  let text := if o.help.isEmpty then spec else if spec.isEmpty then o.help else o.help ++ " " ++ spec
  "  " ++ lead ++ o.shown ++ blanks (widest + 2 - optWidth o) ++ text

/-- The entry of a subcommand, its description starting two places after the widest name. -/
def commandEntry (widest : Nat) (c : Cmd) : String :=
  "  " ++ c.name ++ blanks (widest + 2 - c.name.length) ++ c.about

/-- The help page of a command standing at a place, ending in a line feed. -/
def helpPage (p : Place) (c : Cmd) : String :=
  let commands :=
    if c.subs.isEmpty then []
    else
      let widest := c.subs.foldl (fun m s => max m s.name.length) 2
      ["Commands:\n" ++ "\n".intercalate (c.subs.map (commandEntry widest))]
  let arguments :=
    if c.isHelp then ["Arguments:\n  [COMMAND]...  Print help for the subcommand(s)"] else []
  let options :=
    if c.opts.isEmpty then []
    else
      let widest := c.opts.foldl (fun m o => max m (optWidth o)) 2
      ["Options:\n" ++ "\n".intercalate (c.opts.map (optionEntry widest))]
  c.about ++ "\n\nUsage: " ++ fullUsage p c ++ "\n\n" ++
    "\n\n".intercalate (commands ++ arguments ++ options) ++ "\n"

end LevelCross.Cli
