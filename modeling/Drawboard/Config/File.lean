import Drawboard.Config.Basic
import Drawboard.Json.Reader
import Drawboard.Json.Writer

/-!
Configurations in files. A file holds one JSON object with the five settings; the background and
the marker size may be missing. The sizes must be positive whole numbers. A file that does not hold
such an object gives the default configuration.
-/

namespace Drawboard.Config

def members (c : Config) : List (Units × Json) :=
  [(Units.ofString "name", c.name), (Units.ofString "width", c.width),
   (Units.ofString "height", c.height), (Units.ofString "background", c.background),
   (Units.ofString "marker_size", c.markerSize)]

def keys : List Units := Preset.default.config.members.map (·.1)

def isPositive (size : Json) : Bool := size.whole?.any (0 < ·)

def validSize (width height : Json) : Bool := isPositive width && isPositive height

/-- The settings that an object holds, if it has all that must be there and no others. -/
def ofMembers? (ms : List (Units × Json)) : Option Config := do
  if !ms.all (fun m => keys.contains m.1) then none
  let name ← Json.member? (Units.ofString "name") ms
  let width ← Json.member? (Units.ofString "width") ms
  let height ← Json.member? (Units.ofString "height") ms
  let background := Json.member? (Units.ofString "background") ms
  let markerSize := Json.member? (Units.ofString "marker_size") ms
  pure
    { name := name, width := width, height := height
      background := background.getD (Json.ofString defaultBackground)
      markerSize := markerSize.getD (.int defaultMarkerSize) }

def ofText? (text : String) : Option Config :=
  match Json.read? text.toList with
  | some (.object members) =>
    (ofMembers? members).filter fun c => validSize c.width c.height
  | _ => none

def load (text : Option String) : Config := (text.bind ofText?).getD Preset.default.config

def save (c : Config) : String := (Json.object c.members).text Json.indented

end Drawboard.Config
