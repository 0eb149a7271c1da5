import LevelCross.Cli.Run
import LevelCross.Store.Dump
import Std.Time.DateTime.Timestamp

/-!
# The program

The command line runs on the real file system: a file is read as UTF-8 text, and the store of
a path is kept in that file as the script that rebuilds it, a missing or blank file being an
empty store. The time of the run is the system clock in whole seconds. The lines of the outcome
are written to standard output and standard error, and its status is the exit status.
-/

namespace LevelCross.Cli

open LevelCross.Store LevelCross.Time

/-- Read a file as text. -/
def readFileText (path : String) : IO (Except IoError String) := do
  try
    let bytes ← IO.FS.readBinFile path
    match String.fromUTF8? bytes with
    | some s => return .ok s
    | none => return .error .notText
  catch e =>
    match e with
    | .noFileOrDirectory .. => return .error .notFound
    | e => return .error (.other (toString e))

/-- Open the store kept in a file. -/
def loadStoreFile (path : String) : IO (Except Error Database) := do
  match ← readFileText path with
  | .error .notFound => return .ok {}
  | .error e => return .error (.database e.message)
  | .ok text =>
    if text.trimAscii.isEmpty then return .ok {}
    match ({} : Database).runScript text with
    | .ok db => return .ok db
    | .error _ => return .error (.database "file is not a database")

/-- Run a program on the real file system. -/
def perform {α : Type} : Effect α → IO α
  | .done a => pure a
  | .read p k => do perform (k (← readFileText p))
  | .load p k => do perform (k (← loadStoreFile p))
  | .save p db k => do
    IO.FS.writeFile p db.dump
    perform k

/-- Run the command line on the given arguments, writing its outcome; the exit status. -/
def runProcess (args : List String) : IO UInt32 := do
  let clock ← Std.Time.Timestamp.now
  let outcome ← perform (runArgs (DateTime.ofEpochSeconds clock.toSecondsSinceUnixEpoch.val) args)
  let stdout ← IO.getStdout
  let stderr ← IO.getStderr
  outcome.out.forM fun line => stdout.putStrLn line
  outcome.err.forM fun line => stderr.putStrLn line
  return outcome.code.toUInt32

end LevelCross.Cli

/-- Run the command line on the process's arguments. -/
def main (args : List String) : IO UInt32 := LevelCross.Cli.runProcess args
