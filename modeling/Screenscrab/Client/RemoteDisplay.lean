import Screenscrab.Client.Display
import Screenscrab.Client.Frames
import Screenscrab.Library.Transition

/-! The image views of the client and the controller that draws on one of them. Frames are posted
to the main thread, and by the time a post runs another view may be attached, or none. -/
namespace Screenscrab.Client
open Display (Bitmap Boxed invokeRenderFrame)
open Transition (exec)

/-- The controller: the view that is attached, and the bitmaps whose posts have not run. Views are
numbered in the order in which they are made. -/
structure RemoteDisplayController where
  imageView : Option Nat := none
  mainHandler : List Bitmap := []

namespace RemoteDisplayController

def attach (c : RemoteDisplayController) (view : Nat) : RemoteDisplayController :=
  { c with imageView := some view }

def detach (c : RemoteDisplayController) (view : Nat) : RemoteDisplayController :=
  if c.imageView = some view then { c with imageView := none } else c

/-- The handler of the channel with what it answers, which is nothing when `renderFrame` throws. No
array holds more bytes than an `Int` can count, and here the memory is enough for all of them. -/
def renderFrame (codec : Int → Boxed) (c : RemoteDisplayController) (call : RenderCall) :
    Option (RemoteDisplayController × Option Bool) :=
  if small : call.frameBytes.length < 2 ^ 31 then
    match invokeRenderFrame codec .unlimited ⟨call.frameBytes, small⟩ call.width call.height
        call.strideBytes with
    | .error _ => some (c, none)
    | .ok rendering =>
      some ({ c with mainHandler := c.mainHandler ++ rendering.posted.toList },
        some rendering.returned)
  else none

end RemoteDisplayController

/-- The bitmap that a call posts, if it does. -/
def pictureOf (codec : Int → Boxed) (call : RenderCall) : Option Bitmap :=
  if small : call.frameBytes.length < 2 ^ 31 then
    match invokeRenderFrame codec .unlimited ⟨call.frameBytes, small⟩ call.width call.height
        call.strideBytes with
    | .error _ => none
    | .ok rendering => rendering.posted
  else none

theorem renderFrame_posts {codec : Int → Boxed} {c next : RemoteDisplayController}
    {call : RenderCall} {answer : Option Bool}
    (answered : c.renderFrame codec call = some (next, answer)) :
    next = { c with mainHandler := c.mainHandler ++ (pictureOf codec call).toList } := by
  unfold RemoteDisplayController.renderFrame at answered
  unfold pictureOf
  split at answered
  · next small =>
      rw [dif_pos small]
      split at answered
      · cases answered
        exact congrArg (fun mainHandler => { c with mainHandler }) (List.append_nil _).symm
      · cases answered
        rfl
  · cases answered

/-- The views, each with its drawable, the controller, and the answers that are on their way to
Dart. `drawn` are the bitmaps whose posts have run. -/
structure Surface where
  controller : RemoteDisplayController := {}
  drawables : List (Option Bitmap) := []
  answers : List Bool := []
  drawn : List Bitmap := []

namespace Surface

/-- A call of the channel, the next post of the main thread, a view that the factory makes, and
one that is disposed of. -/
inductive Label where
  | call (call : RenderCall)
  | post
  | create
  | dispose (view : Nat)

/-- Neither is another view made nor this one disposed of. -/
def Label.Keeps (view : Nat) : Label → Prop
  | .create => False
  | .dispose other => other ≠ view
  | _ => True

/-- `imageView?.setImageBitmap(bitmap)`. -/
def setImageBitmap (s : Surface) (bitmap : Bitmap) : List (Option Bitmap) :=
  match s.controller.imageView with
  | some view => s.drawables.set view (some bitmap)
  | none => s.drawables

def step (codec : Int → Boxed) (s : Surface) : Label → Option Surface
  | .call call => do
    let (controller, answer) ← s.controller.renderFrame codec call
    return { s with controller, answers := s.answers ++ answer.toList }
  | .post =>
    match s.controller.mainHandler with
    | [] => none
    | bitmap :: mainHandler =>
      some { s with
        controller := { s.controller with mainHandler }
        drawables := s.setImageBitmap bitmap
        drawn := s.drawn ++ [bitmap] }
  | .create =>
    some { s with
      controller := s.controller.attach s.drawables.length
      drawables := s.drawables ++ [none] }
  | .dispose view =>
    if view < s.drawables.length then some { s with controller := s.controller.detach view }
    else none

section
variable {codec : Int → Boxed} {s next : Surface} {label : Label} {view : Nat}

def posted (codec : Int → Boxed) : Label → List Bitmap
  | .call call => (pictureOf codec call).toList
  | _ => []

/-- Bitmaps are drawn in the order in which they were posted, and none is left out. -/
theorem step_drawn (taken : s.step codec label = some next) :
    next.drawn ++ next.controller.mainHandler =
      s.drawn ++ s.controller.mainHandler ++ posted codec label := by
  cases label with
  | call call =>
      obtain ⟨⟨controller, answer⟩, answered, rest⟩ := Option.bind_eq_some_iff.mp taken
      cases rest
      rw [renderFrame_posts answered]
      exact (List.append_assoc ..).symm
  | post =>
      simp only [step] at taken
      split at taken
      · cases taken
      · next bitmap mainHandler waiting =>
          cases taken
          rw [waiting, show posted codec .post = [] from rfl, List.append_nil, List.append_assoc]
          rfl
  | create =>
      cases taken
      exact (List.append_nil _).symm
  | dispose view =>
      simp only [step] at taken
      split at taken
      · cases taken
        unfold RemoteDisplayController.detach
        split <;> exact (List.append_nil _).symm
      · cases taken

theorem step_grows (taken : s.step codec label = some next) : s.drawn <+: next.drawn := by
  cases label with
  | call call =>
      obtain ⟨⟨controller, answer⟩, _, rest⟩ := Option.bind_eq_some_iff.mp taken
      cases rest
      exact List.prefix_rfl
  | post =>
      simp only [step] at taken
      split at taken
      · cases taken
      · cases taken
        exact List.prefix_append _ _
  | create =>
      cases taken
      exact List.prefix_rfl
  | dispose view =>
      simp only [step] at taken
      split at taken <;> cases taken
      exact List.prefix_rfl

/-- A view shows the bitmap that was drawn last, out of those that have been drawn since `start`. -/
structure Shows (start : List Bitmap) (view : Nat) (s : Surface) : Prop where
  attached : s.controller.imageView = some view
  picture : ∃ since, s.drawn = start ++ since ∧ s.drawables[view]? = some since.getLast?

theorem created_shows (taken : s.step codec .create = some next) :
    next.Shows s.drawn s.drawables.length := by
  cases taken
  exact ⟨rfl, [], (List.append_nil _).symm, List.getElem?_concat_length⟩

/-- Other views that are disposed of do not matter. -/
theorem step_shows {start : List Bitmap} (shows_ : s.Shows start view)
    (taken : s.step codec label = some next) (keeps : label.Keeps view) :
    next.Shows start view := by
  obtain ⟨attached, since, drawn, picture⟩ := shows_
  cases label with
  | call call =>
      obtain ⟨⟨controller, answer⟩, answered, rest⟩ := Option.bind_eq_some_iff.mp taken
      cases rest
      rw [renderFrame_posts answered]
      exact ⟨attached, since, drawn, picture⟩
  | post =>
      simp only [step] at taken
      split at taken
      · cases taken
      · next bitmap mainHandler waiting =>
          cases taken
          refine ⟨attached, since ++ [bitmap], ?_, ?_⟩
          · rw [← List.append_assoc, ← drawn]
          · obtain ⟨inside, _⟩ := List.getElem?_eq_some_iff.mp picture
            simp only [setImageBitmap, attached, List.getElem?_set_self inside,
              List.getLast?_concat]
  | create => exact keeps.elim
  | dispose other =>
      simp only [step] at taken
      split at taken
      · cases taken
        have different : ¬ s.controller.imageView = some other := by
          intro same
          exact keeps (Option.some.inj (same.symm.trans attached))
        rw [RemoteDisplayController.detach, if_neg different]
        exact ⟨attached, since, drawn, picture⟩
      · cases taken

end

end Surface
end Screenscrab.Client
