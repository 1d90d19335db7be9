import Transclusion.Config.Basic

/-!
# Loading rules for a command

Both commands start from a configuration file, whose rules have to compile. What goes wrong is
reported in one line, which a fault of the configuration may explain.
-/

namespace Transclusion

/-- Why a command fails. -/
inductive CommandFault where
  /-- The configuration file at a path cannot be used. -/
  | unloadable (path : String) (fault : ConfigFault)
  /-- The rules do not compile. -/
  | uncompilable (fault : ConfigFault)
  /-- There are no rules for a content type. -/
  | noAssemblage (contentType : String)
  /-- It is not known where requests go. -/
  | noBackend
  /-- Requests would go to something that is no URL. -/
  | badBackend (text : String)
  /-- The address cannot be listened on. -/
  | unbindable (address : String)
deriving DecidableEq, Repr

namespace CommandFault

/-- The line that reports a fault. -/
def message : CommandFault → String
  | unloadable path _ => "Failed to load config from " ++ path
  | uncompilable _ => "Invalid assemblage configuration"
  | noAssemblage contentType => (ScopeNotice.noAssemblage contentType).message
  | noBackend => "No upstream configured (set server.upstream or --upstream)"
  | badBackend text => "Invalid upstream URL: " ++ text
  | unbindable address => "Failed to bind " ++ address

/-- The fault of the configuration behind it. -/
def cause? : CommandFault → Option ConfigFault
  | unloadable _ fault | uncompilable fault => some fault
  | _ => none

end CommandFault

/-- Load the configuration at a path with the given content. -/
def loadConfig (path : String) (content : Option Bytes) : Except CommandFault Config :=
  match Config.load content with
  | .ok config => .ok config
  | .error fault => .error (.unloadable path fault)

/-- Compile the rules of a configuration. -/
def compileRules (config : Config) : Except CommandFault Catalog :=
  match config.catalog with
  | .ok catalog => .ok catalog
  | .error fault => .error (.uncompilable fault)

end Transclusion
