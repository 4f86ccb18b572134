import StatsBoard.Command.Run

/-!
# The program

The files and the settings of the machine, and the ends of runs.
-/

namespace StatsBoard.Program

/-- Why an action on files failed. Something of the wrong type is a directory under the number 21
and else a file. -/
def fileFault : IO.Error → FileFault
  | .noFileOrDirectory .. | .noSuchThing .. => .notFound
  | .alreadyExists .. => .alreadyExists
  | .inappropriateType _ code _ =>
    if code = 21 then .isDirectory else .notDirectory
  | error => .other (toString error)

/-- The outcome of an action on files. -/
def attempt {α : Type} (action : IO α) : IO (Except FileFault α) := do
  try
    return .ok (← action)
  catch error =>
    return .error (fileFault error)

/-- The files of the machine. -/
def disk : Disk IO where
  read path := attempt (IO.FS.readFile path)
  write path text := attempt (IO.FS.writeFile path text)
  append path text := attempt (IO.FS.withFile path .append fun handle => handle.putStr text)
  makeDirectories path := attempt (IO.FS.createDirAll path)

/-- The settings of the machine. -/
def environment : IO Environment :=
  return {
    configHome := ← IO.getEnv "XDG_CONFIG_HOME"
    home := ← IO.getEnv "HOME"
    logFilter := ← IO.getEnv "WATCHDASH_LOG" }

/-- Wait until the program is interrupted. -/
partial def waitForever : IO Unit := do
  IO.sleep 1000
  waitForever

end StatsBoard.Program

/-- Run the program on its arguments. -/
def main (arguments : List String) : IO UInt32 := do
  let outcome ← StatsBoard.Command.run StatsBoard.Program.disk (← StatsBoard.Program.environment)
    arguments
  let ending ← StatsBoard.Command.finish StatsBoard.Program.disk outcome
  IO.print ending.output
  IO.eprint ending.complaint
  match outcome with
  | .lines .. => StatsBoard.Program.waitForever
  | _ => pure ()
  return .ofNat ending.status
