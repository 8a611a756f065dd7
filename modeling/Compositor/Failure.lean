import Compositor.Driver.Interface

/-!
# Failures

Why an operation of the compositor did not succeed.
-/

namespace Compositor

/-- Why an operation failed. -/
inductive Failure where
  /-- A framebuffer of the buffer set cannot be drawn to. -/
  | framebufferIncomplete (status : Status)
  /-- More than one sample was asked of a driver that has one. -/
  | multisampleUnsupported
  | shaderCompile (stage : Stage) (log : String)
  | shaderLink (log : String)
  | driver (text : String)
  | config (text : String)
  /-- The frame scheduler cannot do what was asked. -/
  | scheduler (text : String)
  /-- A failure from outside, with a text of its own. -/
  | other (text : String)
deriving DecidableEq, Repr

namespace Failure

def message : Failure → String
  | framebufferIncomplete status => "framebuffer incomplete: " ++ status.message
  | multisampleUnsupported =>
    "multisampling requested but the driver has no extended profile to configure it"
  | shaderCompile stage log => "shader compile error (" ++ stage.word ++ "): " ++ log
  | shaderLink log => "shader link error: " ++ log
  | driver text => "driver error: " ++ text
  | config text => "configuration error: " ++ text
  | scheduler text => "scheduler error: " ++ text
  | other text => text

/-- Whether the surface cannot render until its configuration changes. -/
def isFatal : Failure → Bool
  | framebufferIncomplete _ | multisampleUnsupported | driver _ => true
  | _ => false

end Failure

end Compositor
