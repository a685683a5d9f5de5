import FilterQuery.Config.Document
import FilterQuery.Session

namespace FilterQuery.Main

def defaultPath : String := "query_config.json"

/-- A configuration that cannot be read gives way to the one that is built in. -/
def loadConfig (path : String) : IO Config := do
  let source ←
    try pure (Config.Source.file (← IO.FS.readBinFile path))
    catch _ => pure .nothing
  match Config.load (fun _ => "no configuration") path source with
  | .ok c => return c
  | .error _ => return .default

partial def converse (input output : IO.FS.Stream) (s : Session) : IO UInt32 := do
  let line ← input.getLine
  if line.isEmpty then return 0
  match s.step line with
  | none => return 0
  | some (answer, s?) =>
    answer.forM output.putStrLn
    output.flush
    match s? with
    | some s => converse input output s
    | none =>
      (← IO.getStderr).putStrLn Session.overflow
      return 101

end FilterQuery.Main

open FilterQuery in
def main (args : List String) : IO UInt32 := do
  let c ← Main.loadConfig (args.headD Main.defaultPath)
  match Session.start? c with
  | none =>
    (← IO.getStderr).putStrLn Session.noEntities
    return 1
  | some s =>
    let output ← IO.getStdout
    Session.banner.forM output.putStrLn
    Main.converse (← IO.getStdin) output s
