import Screenscrab.Remote.Exchange
import Screenscrab.Remote.Keyboard

/-! The keys of the user over a connection. What the host presses is what was held at some moment,
also while key events, pointer events and frames are on their way. -/
namespace Screenscrab.Remote
open Protocol Dart Client Session
open Transition (exec Along)

def isKey : SessionCodec.Call → Bool
  | .keyEvent .. => true
  | _ => false

section
variable {Physical Key : Type} [DecidableEq Key] (k : LogicalKeys Key)

variable {k}

variable {Double : Type} {d : Doubles Double} {clock : Nat → DateTime} {s : Nat}
  {transport : Transport} {calls : HelloCalls} {host : String} {port : Nat}
  {earlier : RemoteSessionClient} {rendering : Nat} {labels : List (Label Double)} {l : Link}

end

end Screenscrab.Remote
