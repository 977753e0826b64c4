/-
The command loop of the daemon: one message, one call of resolve_command, with the
parameters as the state that stays from command to command.
-/
import Andor2k.Runs
import Andor2k.SetParam

namespace Andor2k

open CText

/-- What one `recv` delivers, and what the SDK answers while it is processed. -/
structure Command where
  message : List UInt8
  fits : message.length ≤ maxSocketBufferSize
  sdk : Nat → SetParamAnswers

/-- The cleared receive buffer with the message at its start. -/
def Command.buffer (command : Command) : CommandBuffer :=
  ⟨command.message ++ List.replicate (maxSocketBufferSize - command.message.length) 0, by
    rw [List.length_append, List.length_replicate]
    have := command.fits
    omega⟩

/-- The handler `resolve_command` calls. -/
inductive Handler where
  | setTemperature | shutdown | printStatus | setParamValue | getImage | abort | unknown
deriving DecidableEq, Repr

def handlerOf (buffer : CommandBuffer) : Handler :=
  if startsWith buffer.bytes (ascii "settemp") then .setTemperature
  else if startsWith buffer.bytes (ascii "shutdown") then .shutdown
  else if startsWith buffer.bytes (ascii "status") then .printStatus
  else if startsWith buffer.bytes (ascii "setparam") then .setParamValue
  else if startsWith buffer.bytes (ascii "image") then .getImage
  else if startsWith buffer.bytes (ascii "abort") then .abort
  else .unknown

/-- The parser behind a command, for the two commands that reach the parameters. -/
def parserReply (command : Command) (params : AndorParameters) : Option (Checked Reply) :=
  match handlerOf command.buffer with
  | .getImage => some (resolveImageParameters command.buffer params)
  | .setParamValue => some (setParamValue command.sdk command.buffer params)
  | _ => none

/-- The parameters after one command.  Setting up and taking exposures reads them
only. -/
def serve (params : AndorParameters) (command : Command) : Checked AndorParameters :=
  match parserReply command params with
  | none => .ok params
  | some (.error fault) => .error fault
  | some (.ok reply) => .ok reply.params

/-- The parameters `get_image` goes on with: those of a command its parser accepts. -/
def requested (params : AndorParameters) (command : Command) : Option AndorParameters :=
  match handlerOf command.buffer, parserReply command params with
  | .getImage, some (.ok reply) => if reply.status = 0 then some reply.params else none
  | _, _ => none

/-- One command as a step; a faulting command has no next state. -/
def step (params : AndorParameters) (command : Command) : Option AndorParameters :=
  (serve params command).toOption

/-- The parameters of the acquisitions a list of commands leads to, in order.  After
`shutdown` nothing is received any more. -/
def acquisitions : AndorParameters → List Command → Checked (List AndorParameters)
  | _, [] => .ok []
  | params, command :: rest =>
      if handlerOf command.buffer = .shutdown then .ok []
      else
        match serve params command with
        | .error fault => .error fault
        | .ok next =>
            (acquisitions next rest).map fun later =>
              (requested params command).toList ++ later

end Andor2k
