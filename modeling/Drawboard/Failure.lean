import Drawboard.Json.Plain

/-!
What can go wrong besides a command that is rejected.
-/

namespace Drawboard

inductive Failure where
  | overlong (digits : Nat)
  | canvasSize (width height : Json)
  | background (value : Json)
  | image (message : String)
  | noExtent
  | noSuchFile (path : String)

def Failure.message : Failure → String
  | overlong digits =>
    s!"Exceeds the limit (4300 digits) for integer string conversion: value has {digits} digits; " ++
      "use sys.set_int_max_str_digits() to increase the limit"
  | canvasSize width height =>
    s!"Canvas size must be positive, got {width.plain}x{height.plain}"
  | background value => s!"Invalid background color: {value.plain}"
  | image message => message
  | noExtent => "min() arg is an empty sequence"
  | noSuchFile path => s!"[Errno 2] No such file or directory: {quotedText path}"

end Drawboard
