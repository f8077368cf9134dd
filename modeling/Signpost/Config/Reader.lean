import Signpost.Config.Basic
import Signpost.Config.Parts
import Signpost.Error

/-
  This file defines how a configuration is written in a
  document, and documents that hold routes only.

  What a section leaves out keeps its default.

  Key definitions include:
    * `Configuration.decoder`
    * `Configuration.parse`
    * `Configuration.load`
    * `routesDecoder`
    * `loadRoutes`
-/

namespace Signpost

open Yaml
open Yaml.Decoder

------------------------------------------------------------
-- Sections
------------------------------------------------------------

namespace Configuration

/- Take a part of a configuration with defaults only. -/
def part
    (expected : String)
    (fields : List String)
    (read : String → Configuration → Decoder Configuration)
    (c : Configuration) : Decoder Configuration :=
  record { expected := "struct " ++ expected, fields } c read
    Except.ok

/- Take a field of the logger. -/
def readLogger
    (field : String)
    (c : Configuration) : Decoder Configuration :=
  fun s n => do
    let t ← text s n
    let l := c.logger
    match field with
    | "dir" => return { c with logger := { l with dir := t } }
    | "file" => return { c with logger := { l with file := t } }
    | _ => return { c with logger := { l with level := t } }

/- Take a field of the resolver. -/
def readResolver
    (_ : String)
    (c : Configuration) : Decoder Configuration :=
  fun s n =>
    return { c with
      predicateTimeout := ← optional Duration.decoder s n }

/- Take a field of the global section. -/
def readGlobal
    (field : String)
    (c : Configuration) : Decoder Configuration :=
  match field with
  | "logger" =>
      part "LoggerConfig" ["dir", "file", "level"]
        readLogger c
  | _ =>
      part "ResolverConfig" ["predicateTimeout"]
        readResolver c

/- Take a field of the gateway section. -/
def readGateway
    (field : String)
    (c : Configuration) : Decoder Configuration :=
  fun s n => do
    let routes := list RouteDefinition.decoder
    match field with
    | "defaultFilters" =>
        let defaultFilters ← list ComponentSpec.decoder s n
        return { c with defaultFilters }
    | "routes" => return { c with routes := ← routes s n }
    | _ => return { c with hostRoutes := ← dict routes s n }

/- Take a field of the balancing section. -/
def readBalancing
    (field : String)
    (c : Configuration) : Decoder Configuration :=
  fun s n => do
    match field with
    | "defaultPolicy" => return { c with policy := ← text s n }
    | _ =>
        let services ←
          dict (list ServiceInstance.decoder) s n
        return { c with services }

/- Take a section. -/
def readSection
    (field : String)
    (c : Configuration) : Decoder Configuration :=
  match field with
  | "global" =>
      part "GlobalConfig" ["logger", "resolver"]
        readGlobal c
  | "gateway" =>
      part "GatewayConfig"
        ["defaultFilters", "routes", "hostRoutes"]
        readGateway c
  | _ =>
      part "LoadBalancerConfig"
        ["defaultPolicy", "services"] readBalancing c

/- Take a configuration. -/
def decoder : Decoder Configuration :=
  part "Configuration"
    ["global", "gateway", "loadbalancer"] readSection {}

------------------------------------------------------------
-- Reading
------------------------------------------------------------

/- Read a configuration from a text. -/
def parse (text : String) : Except GatewayError Configuration :=
  (decoder.parse text).mapError fun e =>
    .invalidConfig
      ("failure to format yaml str: " ++ e.message)

end Configuration

------------------------------------------------------------
-- Files
------------------------------------------------------------

/- Why the text of a file cannot be had. -/
inductive FileError where
| missing
| notDirectory
| directory
deriving DecidableEq, Repr

/- The wording of a file error. -/
def FileError.message : FileError → String
| .missing => "No such file or directory (os error 2)"
| .notDirectory => "Not a directory (os error 20)"
| .directory => "Is a directory (os error 21)"

/- What the files of a system hold, by their paths. -/
abbrev FileSystem := String → Except FileError String

namespace Configuration

/- Load a configuration from a file. -/
def load
    (files : FileSystem)
    (path : String) : Except GatewayError Configuration :=
  match files path with
  | .error e =>
      .error (.invalidConfig
        ("failure to read config file " ++ path ++ ": " ++
          e.message))
  | .ok text => parse text

/-
  Load the configuration that an environment variable names
  the file of, or the default one if it names none.
-/
def loadDefault
    (files : FileSystem)
    (named : Option String) :
    Except GatewayError Configuration :=
  match named.map Text.trimmed with
  | none => .ok {}
  | some path =>
      if path.isEmpty then .ok {} else load files path

end Configuration

------------------------------------------------------------
-- Route Files
------------------------------------------------------------

/- Take the routes of a document that holds nothing else. -/
def routesDecoder : Decoder (List RouteDefinition) :=
  record
    { expected := "struct RouteDefinitionDocument"
      fields := ["routes"] }
    [] (fun _ _ => list RouteDefinition.decoder) .ok

/- Load the routes of a file. -/
def loadRoutes
    (files : FileSystem)
    (path : String) :
    Except GatewayError (List RouteDefinition) :=
  match files path with
  | .error e =>
      .error (.invalidConfig
        ("read route file " ++ path ++ " fail: " ++
          e.message))
  | .ok text =>
      (routesDecoder.parse text).mapError fun e =>
        .invalidConfig
          ("parse route file " ++ path ++ " fail: " ++
            e.message)

end Signpost
