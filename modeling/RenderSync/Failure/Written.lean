import RenderSync.Json.Basic
import RenderSync.Failure
import RenderSync.Settings.Store

/-!
# Failures as JSON values

A failure is written as its kind, with its message where the message is one of this library; what
the system says is left out.  A failure inside another one keeps its own kind under the message of
the outer one.
-/

namespace RenderSync

/-- A kind of failure. -/
def kindToJson (kind : String) : Json := .object [("error", .string kind)]

/-- A kind of failure with a message. -/
def failureToJson (kind message : String) : Json :=
  .object [("error", .string kind), ("message", .string message)]

/-- A fault of a JSON text as a value. -/
def Json.Fault.toJson (fault : Json.Fault) : Json :=
  let category := match fault with
    | malformed => "Syntax"
    | truncated => "Eof"
    | mismatched => "Data"
  .object [("error", .string "Json"), ("category", .string category)]

/-- A failure with settings as a value. -/
def SettingsError.toJson : SettingsError → Json
  | io => kindToJson "Io"
  | parse => kindToJson "Parse"
  | homeNotFound => kindToJson "HomeNotFound"

/-- A failure of the channel as a value, under a message. -/
def ChannelError.toJsonUnder (message : String) : ChannelError → Json
  | refused _ => failureToJson "Refused" message
  | io .. => kindToJson "Io"
  | notEncodable => Json.Fault.toJson .malformed
  | notConnected => failureToJson "NotConnected" message
  | alreadyConnected _ => failureToJson "AlreadyConnected" message

/-- A failure of the channel as a value. -/
def ChannelError.toJson (error : ChannelError) : Json := error.toJsonUnder error.message

/-- A failure of a session as a value, under a message. -/
def ServerError.toJsonUnder (message : String) : ServerError → Json
  | missingCustomCli => failureToJson "MissingCustomCli" message
  | cliStart _ => failureToJson "CliStart" message
  | channel error => error.toJsonUnder message

/-- A failure of a session as a value. -/
def ServerError.toJson (error : ServerError) : Json := error.toJsonUnder error.message

/-- A failure of a pass as a value. -/
def ReconcileError.toJson (error : ReconcileError) : Json :=
  match error with
  | server cause => cause.toJsonUnder error.message
  | libraryLoad _ => failureToJson "LibraryLoad" error.message
  | libraryUnload => failureToJson "LibraryUnload" error.message

end RenderSync
