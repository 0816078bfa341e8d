import DecoderHost.Catalogue
import DecoderHost.Program

/-!
The command `decodeasm`. The files that a run will look at are read beforehand, and the run itself is the
pure `Program.run`. The modules that can be run are the known ones.
-/

namespace DecoderHost.Main

/-- The fault that a failed read stands for. -/
def faultOf : IO.Error → FileFault
  | .noFileOrDirectory .. => .notFound
  | .inappropriateType _ code _ => if code = 20 then .notDirectory else .isDirectory
  | e => .other (toString e)

/-- The contents of a file. -/
def contentsAt (path : String) : IO (Except FileFault (List UInt8)) := do
  try return .ok (← IO.FS.readBinFile path).toList
  catch e => return .error (faultOf e)

/-- A reader that also knows the file at one more path, if there is one. -/
def withFile (reader : FileReader) : Option String → IO FileReader
  | none => return reader
  | some path => do
    let contents ← contentsAt path
    return fun other => if other = path then contents else reader other

/-- How the known modules are loaded, from files that have been read; there is nothing to cache. -/
def loader (environment : Environment) : Loader Native.State FileReader where
  environment := environment
  cache := CacheSteps.unavailable
  contentsOf := id
  compiler := Native.compiler

/-- All of standard input, if a run asks for it. -/
def inputFor (arguments? : Option Arguments) : IO (List UInt8) := do
  match arguments?.map Arguments.source with
  | some .standardInput => return (← (← IO.getStdin).readBinToEnd).toList
  | _ => return []

end DecoderHost.Main

open DecoderHost in
/-- Run the command. -/
def main (words : List String) : IO UInt32 := do
  let environment : Environment := {
    modulePath := ← IO.getEnv "CAPSTONE_WASM"
    xdgCacheHome := ← IO.getEnv "XDG_CACHE_HOME"
    home := ← IO.getEnv "HOME" }
  let logFilter ← IO.getEnv "RUST_LOG"
  let arguments? := (CommandLine.parse words environment.modulePath).toOption
  let reader ← Main.withFile (fun _ => .error .notFound) (arguments?.bind Arguments.configPath)
  let reader ← Main.withFile reader (arguments?.bind (Program.modulePath? environment reader))
  let input ← Main.inputFor arguments?
  let report := Program.run (Main.loader environment) reader logFilter input words
  (← IO.getStdout).putStr report.standardOutput
  (← IO.getStderr).putStr report.standardError
  return UInt32.ofNat report.status
