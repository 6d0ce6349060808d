import RenderSync.Files.Path

/-!
# Failures

Why talking to the server failed, why its session could not be set up, and why a pass stopped.
A failure is a cause; `message` is how it is told to the user.
-/

namespace RenderSync

/-- What the system says when a socket cannot be used. -/
inductive SocketFault where
  | networkUnreachable
  | brokenPipe
  | addressUnavailable
  | invalidArgument
  /-- The address has no name that the system could look up. -/
  | malformedAddress
  /-- Nobody could be asked about a name. -/
  | lookupFailed
  | unknownHost
deriving DecidableEq, Repr, Inhabited

/-- Why a channel could not connect or send. -/
inductive ChannelError where
  /-- Nothing listens there yet. -/
  | refused (address : String)
  | io (address : String) (fault : SocketFault)
  /-- The message has no JSON text. -/
  | notEncodable
  | notConnected
  | alreadyConnected (address : String)
deriving DecidableEq, Repr, Inhabited

/-- Why a session could not be set up, or a command not sent. -/
inductive ServerError where
  | missingCustomCli
  | cliStart (path : Path)
  | channel (error : ChannelError)
deriving DecidableEq, Repr, Inhabited

/-- Why a pass stopped early. -/
inductive ReconcileError where
  | server (error : ServerError)
  | libraryLoad (path : Path)
  | libraryUnload
deriving DecidableEq, Repr, Inhabited

namespace SocketFault

/-- The words of the system. -/
def message : SocketFault → String
  | networkUnreachable => "Network is unreachable (os error 101)"
  | brokenPipe => "Broken pipe (os error 32)"
  | addressUnavailable => "Cannot assign requested address (os error 99)"
  | invalidArgument => "Invalid argument (os error 22)"
  | malformedAddress => "file name contained an unexpected NUL byte"
  | lookupFailed =>
    "failed to lookup address information: Temporary failure in name resolution"
  | unknownHost => "failed to lookup address information: Name or service not known"

end SocketFault

namespace ChannelError

/-- The message of a failure. -/
def message : ChannelError → String
  | refused address => "connection refused by " ++ address
  | io address fault => "I/O error on " ++ address ++ ": " ++ fault.message
  | notEncodable => "JSON error: key must be a string"
  | notConnected => "channel is not connected"
  | alreadyConnected address => "channel is already connected to " ++ address

end ChannelError

namespace ServerError

/-- The message of a failure. -/
def message : ServerError → String
  | missingCustomCli => "server location is custom-cli but no CLI path is set"
  | cliStart path => "failed to start CLI server " ++ path.text
  | channel error => error.message

end ServerError

namespace ReconcileError

/-- The message of a failure. -/
def message : ReconcileError → String
  | server error => "server: " ++ error.message
  | libraryLoad path => "failed to load library " ++ path.text
  | libraryUnload => "failed to unload library"

end ReconcileError

end RenderSync
