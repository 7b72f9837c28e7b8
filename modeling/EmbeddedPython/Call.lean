import EmbeddedPython.Host

/-!
# Calls of the operations

A `Call` is an operation of a host together with its arguments, and a `Reply`
is the result of any of them.
-/

namespace EmbeddedPython

/-- An operation with its arguments. -/
inductive Call where
  | importModule (name : String)
  | setPath (entry : String)
  | searchPath
  | refreshImports
  | execute (source : Source) (scope : Option String)
  | runFile (path : String)
  | callScript (source : Source) (function : String) (params : Option Table) (type : HostType)
  | callFile (path function : String) (params : Option Table) (type : HostType)
  | initPip (launch : Launcher)

/-- The result of an operation. -/
inductive Reply where
  | unit
  | flag (b : Bool)
  | entries (entries : List String)
  | converted (type : HostType) (v : type.Carrier)

namespace Call

/-- What a call does. -/
def op (h : Host) : Call → Op Reply
  | importModule name => (fun _ => .unit) <$> h.importModule name
  | setPath entry => (fun _ => .unit) <$> h.setPath entry
  | searchPath => .entries <$> h.searchPath
  | refreshImports => (fun _ => .unit) <$> h.refreshImports
  | execute source scope => (fun _ => .unit) <$> h.execute source scope
  | runFile path => (fun _ => .unit) <$> h.runFile path
  | callScript source function params type =>
    .converted type <$> h.callScript source function params type
  | callFile path function params type =>
    .converted type <$> h.callFile path function params type
  | initPip launch => .flag <$> h.initPip launch

end Call

end EmbeddedPython
