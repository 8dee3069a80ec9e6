import Tunnel.Config.Basic
import Tunnel.Json.Writer

/-!
# Writing configurations

A configuration is written as an object with its members in the order interface, families, routes.
A name that is not asked for is left out.

## Main definitions

* `Config.render` — a configuration in a layout
* `RoutePrefix.renderJson`, `AddressFamily.renderJson` — its parts
-/

namespace Tunnel

/-- A family as a JSON string. -/
def AddressFamily.renderJson (family : AddressFamily) : List Char := Json.quoted family.name.toList

/-- A route prefix as a JSON string. -/
def RoutePrefix.renderJson (p : RoutePrefix) : List Char := Json.quoted p.render

namespace Config

/-- The members of a configuration in a layout. -/
def members (layout : Json.Layout) (config : Config) : List (String × List Char) :=
  (config.interface.map fun name => ("interface", Json.quoted name.toList)).toList ++
    [("families", layout.list 1 (config.families.map AddressFamily.renderJson)),
      ("routes", layout.list 1 (config.routes.map RoutePrefix.renderJson))]

/-- The text of a configuration. -/
def render (layout : Json.Layout) (config : Config) : List Char :=
  layout.object 0 (config.members layout)

/-- The text of a configuration as a string. -/
def toText (layout : Json.Layout) (config : Config) : String :=
  String.ofList (config.render layout)

end Config

end Tunnel
