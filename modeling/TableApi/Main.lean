import TableApi.Command.Run

namespace TableApi

def lookAt (path : String) : IO Config.Found :=
  try
    return .text (← IO.FS.readFile path)
  catch
    | .noFileOrDirectory .. => return .nothing
    | .inappropriateType .. => return .directory
    | _ => return .unreadable

def processHost : IO (Command.Host IO) := do
  let directory := (← IO.currentDir).toString
  return {
    location := { directory, home := ← IO.getEnv "HOME" }
    getVariable := fun name => IO.getEnv name
    look := lookAt }

end TableApi

def main (arguments : List String) : IO UInt32 := do
  let ended ← TableApi.Command.run (← TableApi.processHost) arguments
  IO.print ended.output
  IO.eprint ended.error
  return ended.code.toUInt32
