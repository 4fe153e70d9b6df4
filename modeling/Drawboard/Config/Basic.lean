import Drawboard.Json.Basic
import Drawboard.Text.Lower

/-!
Canvas configurations and the presets to choose from. The settings of a configuration may be values
of any kind; whether a canvas can be made of them shows only when one is made.
-/

namespace Drawboard

def defaultBackground : String := "#ffffff"

def defaultMarkerSize : Int := 2

structure Config where
  name : Json
  width : Json
  height : Json
  background : Json := Json.ofString defaultBackground
  markerSize : Json := .int defaultMarkerSize

namespace Config

/-- A configuration whose settings are of the kinds that they are meant to have. -/
def ofValues (name : String) (width height : Int) (background : String) (markerSize : Int) :
    Config :=
  ⟨Json.ofString name, .int width, .int height, Json.ofString background, .int markerSize⟩

/-- The size that markers are drawn in, if the setting is a whole number. -/
def markerSide? (c : Config) : Option Int := c.markerSize.whole?

end Config

inductive Preset where
  | default
  | square
  | hd
  deriving DecidableEq

namespace Preset

def all : List Preset := [default, square, hd]

def name : Preset → String
  | default => "default"
  | square => "square"
  | hd => "hd"

def title : Preset → String
  | default => "Default"
  | square => "Square"
  | hd => "HD"

def width : Preset → Int
  | default => 1060
  | square => 600
  | hd => 1280

def height : Preset → Int
  | default => 489
  | square => 600
  | hd => 720

def markerSize : Preset → Int
  | hd => 4
  | _ => defaultMarkerSize

def config (p : Preset) : Config :=
  Config.ofValues p.title p.width p.height defaultBackground p.markerSize

/-- The preset with a name, in any case; the default one if there is none. -/
def named (name : String) : Preset := (all.find? (·.name == lowered name)).getD .default

end Preset

end Drawboard
