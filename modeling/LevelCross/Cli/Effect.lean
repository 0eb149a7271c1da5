import LevelCross.Files
import LevelCross.Store.Table
import LevelCross.Market.Error

/-!
# Programs over files and stores

The commands read files and open and save stores. Such a program is described as data: it is
finished with a result, or it asks to read a file, to open the store kept at a path, or to save
one, and continues with what it is given. Whoever runs it decides what the files and stores
are: `Effect.runIn` runs it against a `World` of files and stores held in memory, and the
program's entry point against the real file system.
-/

namespace LevelCross.Cli

open LevelCross.Store

/-- A program that reads files and opens and saves stores. -/
inductive Effect (α : Type) where
  | done (a : α)
  | read (path : String) (next : Except IoError String → Effect α)
  | load (path : String) (next : Except Error Database → Effect α)
  | save (path : String) (db : Database) (next : Effect α)

namespace Effect

/-- Run one program, then the program its result chooses. -/
def bind {α β : Type} : Effect α → (α → Effect β) → Effect β
  | done a, f => f a
  | read p k, f => read p fun r => bind (k r) f
  | load p k, f => load p fun d => bind (k d) f
  | save p db k, f => save p db (bind k f)

instance : Monad Effect where
  pure := done
  bind := bind

/-- Read a file. -/
def readFile (path : String) : Effect (Except IoError String) := read path done

/-- Open the store kept at a path. -/
def loadStore (path : String) : Effect (Except Error Database) := load path done

/-- Save the store kept at a path. -/
def saveStore (path : String) (db : Database) : Effect Unit := save path db (done ())

end Effect

/-- Files and stores held in memory. -/
structure World where
  files : Files := {}
  /-- the stores by path, a later one replacing an earlier one of the same path -/
  stores : List (String × Database) := []

namespace World

/-- The store kept at a path; a path that keeps none gives an empty store. -/
def store (w : World) (path : String) : Database :=
  ((w.stores.reverse.find? fun e => pathParts e.1 == pathParts path).map (·.2)).getD {}

/-- Keep a store at a path. -/
def keep (w : World) (path : String) (db : Database) : World :=
  { w with stores := (w.stores.filter fun e => pathParts e.1 != pathParts path) ++ [(path, db)] }

end World

/-- Run a program against a world: the world as the program leaves it, and the result. -/
def Effect.runIn {α : Type} : World → Effect α → World × α
  | w, .done a => (w, a)
  | w, .read p k => runIn w (k (w.files.readText p))
  | w, .load p k => runIn w (k (.ok (w.store p)))
  | w, .save p db k => runIn (w.keep p db) k

end LevelCross.Cli
