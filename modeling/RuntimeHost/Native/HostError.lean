import RuntimeHost.Protocol.Message

namespace RuntimeHost.Native

open Protocol

inductive HostError where
  | io (error : IoError)
  | library (error : String)
  | entrypointEscape
  | missingQuerySymbol
  | queryStatus (status : Int32)
  | unsupportedPluginAbi (version : UInt32)
  | invalidPluginTable
  | pluginStatus (status : Int32)
  | unknownPayload (payloadId : UInt64)
  | invalidState (message : String)
  | engineClosed
  | invalidHostResult
  | javaBridge
  | jniPanic
  deriving DecidableEq

def HostError.text : HostError → String
  | .io error => "payload I/O failed: " ++ error.text
  | .library error => "dynamic library loading failed: " ++ error
  | .entrypointEscape => "payload entrypoint escapes its package root"
  | .missingQuerySymbol => "payload does not export hmcl_plugin_query_v1"
  | .queryStatus status => "payload query returned status " ++ toString status
  | .unsupportedPluginAbi version => "payload returned unsupported plugin ABI " ++ toString version
  | .invalidPluginTable => "payload returned an incomplete plugin function table"
  | .pluginStatus status => "payload callback returned status " ++ toString status
  | .unknownPayload payloadId => "unknown payload handle " ++ toString payloadId
  | .invalidState message => "invalid payload state: " ++ message
  | .engineClosed => "native engine is closed"
  | .invalidHostResult => "invalid Host callback result"
  | .javaBridge => "Java Runtime Bridge call failed"
  | .jniPanic => "native Host panicked at the JNI boundary"

end RuntimeHost.Native
