import Signpost.Component.Registry
import Signpost.Error

/-
  This file defines what kinds of parts can be plugged into
  a gateway, and the error about a part that is not there.

  Key definitions include:
    * `PluginKind`
    * `PluginKind.missing`
-/

namespace Signpost

------------------------------------------------------------
-- Kinds of Plugins
------------------------------------------------------------

/- What a plugin makes. -/
inductive PluginKind where
| loadBalance
| predicate
| filter
deriving DecidableEq, Repr

namespace PluginKind

/- The name of a kind. -/
def name : PluginKind → String
| .loadBalance => "PluginLoadBalance"
| .predicate => "PluginPredicate"
| .filter => "PluginFilter"

/- All kinds. -/
def all : List PluginKind :=
  [.loadBalance, .predicate, .filter]

/- There is no plugin of a kind with some name. -/
def missing (k : PluginKind) (name : String) : GatewayError :=
  { code := .pluginError
    message := k.name ++ " plugin " ++ name ++ " not found" }

end PluginKind

end Signpost
