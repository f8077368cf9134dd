/-
  This file defines the errors that the gateway answers
  with: a code, a message, and the service that an error is
  about, if there is one.

  Key definitions include:
    * `ErrorCode`
    * `ErrorCode.name`
    * `ErrorCode.number`
    * `ErrorCode.text`
    * `GatewayError`
    * `GatewayError.text`
-/

namespace Signpost

------------------------------------------------------------
-- Error Codes
------------------------------------------------------------

/- What kind of failure an error reports. -/
inductive ErrorCode where
| success
| apiInvalidArgument
| invalidConfig
| pluginError
| apiTimeout
| invalidState
| instanceNotFound
| invalidRule
| routeRuleNotMatch
| internalError
| serviceNotFound
| routeCompileError
| predicateEvalError
| noInstancesAvailable
| resolveCancelled
| filterError
deriving DecidableEq, Repr

namespace ErrorCode

instance : Inhabited ErrorCode := ⟨.internalError⟩

/- The name of a code. -/
def name : ErrorCode → String
| .success => "Success"
| .apiInvalidArgument => "ApiInvalidArgument"
| .invalidConfig => "InvalidConfig"
| .pluginError => "PluginError"
| .apiTimeout => "ApiTimeout"
| .invalidState => "InvalidState"
| .instanceNotFound => "InstanceNotFound"
| .invalidRule => "InvalidRule"
| .routeRuleNotMatch => "RouteRuleNotMatch"
| .internalError => "InternalError"
| .serviceNotFound => "ServiceNotFound"
| .routeCompileError => "RouteCompileError"
| .predicateEvalError => "PredicateEvalError"
| .noInstancesAvailable => "NoInstancesAvailable"
| .resolveCancelled => "ResolveCancelled"
| .filterError => "FilterError"

/- The number of a code. -/
def number : ErrorCode → Nat
| .success => 0
| .apiInvalidArgument => 1001
| .invalidConfig => 1002
| .pluginError => 1003
| .apiTimeout => 1004
| .invalidState => 1005
| .instanceNotFound => 1010
| .invalidRule => 1011
| .routeRuleNotMatch => 1012
| .internalError => 1014
| .serviceNotFound => 1015
| .routeCompileError => 1021
| .predicateEvalError => 1022
| .noInstancesAvailable => 1023
| .resolveCancelled => 1024
| .filterError => 1025

/- A code as its name with its number in parentheses. -/
def text (c : ErrorCode) : String :=
  c.name ++ "(" ++ toString c.number ++ ")"

/- All codes in the order of their numbers. -/
def all : List ErrorCode :=
  [.success, .apiInvalidArgument, .invalidConfig,
    .pluginError, .apiTimeout, .invalidState,
    .instanceNotFound, .invalidRule, .routeRuleNotMatch,
    .internalError, .serviceNotFound, .routeCompileError,
    .predicateEvalError, .noInstancesAvailable,
    .resolveCancelled, .filterError]

/- The code with a given name. -/
def ofName? (s : String) : Option ErrorCode :=
  all.find? (fun c => c.name = s)

end ErrorCode

------------------------------------------------------------
-- Gateway Errors
------------------------------------------------------------

/- An error of the gateway. -/
structure GatewayError where
  code : ErrorCode
  message : String
  service : Option String := none
deriving DecidableEq, Repr

namespace GatewayError

/- An error as its code in brackets before its message. -/
def text (e : GatewayError) : String :=
  "[" ++ e.code.text ++ "] " ++ e.message

/- An argument of a component is not usable. -/
def invalidArgument (message : String) : GatewayError :=
  { code := .apiInvalidArgument, message }

/- A configuration is not usable. -/
def invalidConfig (message : String) : GatewayError :=
  { code := .invalidConfig, message }

/- A service has no instance to send a request to. -/
def noInstances (service : String) : GatewayError :=
  { code := .noInstancesAvailable
    message :=
      "no instances available for service " ++ service
    service := some service }

end GatewayError

end Signpost
