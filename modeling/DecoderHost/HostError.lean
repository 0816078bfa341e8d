import DecoderHost.Text.Quoted

/-!
What can go wrong between reading a decoder module and having a live instance of it.
-/

namespace DecoderHost

/-- A failure that is reported to the caller. -/
inductive HostError where
  | moduleNotFound (path : String)
  | compilationFailed (reason : String)
  | instantiationFailed (reason : String)
  | exportNotFound (name : String)
  | trap (message : String)
  | io (message : String)
  | invalidConfig (reason : String)
  deriving DecidableEq, Repr

namespace HostError

/-- The wording of a failure. -/
def message : HostError → String
  | moduleNotFound path => "Decoder module not found: " ++ path
  | compilationFailed reason => "Compilation failed: " ++ reason
  | instantiationFailed reason => "Instantiation failed: " ++ reason
  | exportNotFound name => "Export not found: " ++ name
  | trap message => "Wasm trap: " ++ message
  | io message => "IO error: " ++ message
  | invalidConfig reason => "Invalid configuration: " ++ reason

/-- The name of the kind of failure. -/
def kind : HostError → String
  | moduleNotFound _ => "ModuleNotFound"
  | compilationFailed _ => "CompilationFailed"
  | instantiationFailed _ => "InstantiationFailed"
  | exportNotFound _ => "ExportNotFound"
  | trap _ => "Trap"
  | io _ => "Io"
  | invalidConfig _ => "InvalidConfig"

/-- The failure by its kind and named part, the text quoted. -/
def debug (e : HostError) : String :=
  let record (part text : String) :=
    e.kind ++ " \x7b " ++ part ++ ": " ++ Text.quoted text ++ " \x7d"
  match e with
  | moduleNotFound path => record "path" path
  | compilationFailed reason => record "reason" reason
  | instantiationFailed reason => record "reason" reason
  | exportNotFound name => record "name" name
  | trap message => record "message" message
  | io message => "Io(" ++ Text.quoted message ++ ")"
  | invalidConfig reason => record "reason" reason

/-- Is it the failure to find the decoder module? -/
def isNotFound : HostError → Bool
  | moduleNotFound _ => true
  | _ => false

/-- The failures behind this one, outermost first. -/
def causes : HostError → List String
  | io message => [message]
  | _ => []

end HostError

end DecoderHost
