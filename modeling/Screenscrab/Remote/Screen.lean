import Screenscrab.Remote.Dialogue
import Screenscrab.Client.RemoteDisplay
import Screenscrab.Client.Resync

/-! The way of a frame up to a view of the client. The connection, the channel to the main thread,
its posts and the views go on in any order. -/
namespace Screenscrab.Remote
open Protocol Dart Client Session
open Client.Display (Bitmap Boxed)
open Transition (exec Along)

/-- A connection, and the views of its client. `taken` counts the `renderFrame` calls that have
reached the main thread. -/
structure Screen where
  link : Link
  surface : Surface
  taken : Nat

def Label.isAnswer {Double : Type} : Label Double → Bool
  | .rendered _ => true
  | _ => false

namespace Screen

inductive Label (Double : Type) where
  | link (label : Remote.Label Double)
  | call
  | answer
  | post
  | create
  | dispose (view : Nat)

section
variable {Double : Type} (codec : Int → Boxed) (d : Doubles Double) (clock : Nat → DateTime)
  (s : Nat)

/-- What `renderFrame` has answered reaches Dart as `rendered`, and nothing else does. -/
def step (screen : Screen) : Label Double → Option Screen
  | .link label =>
    if label.isAnswer then none
    else (screen.link.step d clock s label).map fun link => { screen with link }
  | .call => do
    let call ← screen.link.client.renders[screen.taken]?
    let surface ← screen.surface.step codec (.call call)
    return { screen with surface, taken := screen.taken + 1 }
  | .answer =>
    match screen.surface.answers with
    | [] => none
    | ok :: answers => do
      let link ← screen.link.step d clock s (.rendered ok : Remote.Label Double)
      return { screen with link, surface := { screen.surface with answers } }
  | .post => (screen.surface.step codec .post).map fun surface => { screen with surface }
  | .create => (screen.surface.step codec .create).map fun surface => { screen with surface }
  | .dispose view =>
    (screen.surface.step codec (.dispose view)).map fun surface => { screen with surface }

end

/-- Neither is another view made nor this one disposed of. -/
def Label.Keeps (view : Nat) {Double : Type} : Label Double → Prop
  | .create => False
  | .dispose other => other ≠ view
  | _ => True

def Sound (screen : Screen) {Double : Type} : Label Double → Prop
  | .link label => screen.link.Sound label
  | _ => True

/-- The bitmaps that are still to be drawn: those that are posted, and those of the calls that
have not reached the main thread. -/
def due (codec : Int → Boxed) (screen : Screen) : List Bitmap :=
  screen.surface.controller.mainHandler ++
    (screen.link.client.renders.drop screen.taken).filterMap (pictureOf codec)

end Screen

/-- What the client has done is not taken back. -/
theorem Link.step_trace {Double : Type} {d : Doubles Double} {clock : Nat → DateTime} {s : Nat}
    {l next : Link} {label : Label Double} (taken : l.step d clock s label = some next) :
    ∃ new, next.client.trace = l.client.trace ++ new := by
  have same : ∃ new, l.client.trace = l.client.trace ++ new := ⟨[], (List.append_nil _).symm⟩
  cases label with
  | frame | skip | ping | close =>
      cases taken
      exact same
  | receive a pong =>
      obtain ⟨host, _, rfl⟩ := Option.map_eq_some_iff.mp taken
      exact same
  | input input =>
      cases taken
      dsimp only [Link.reply]
      rw [RemoteSessionClient.perform_eq]
      split
      · exact same
      · dsimp only [RemoteSessionClient.send]
        split
        · exact same
        · exact ⟨_, rfl⟩
  | data size =>
      cases taken
      exact RemoteSessionClient.deliver_trace clock s l.client _
  | rendered ok =>
      simp only [Link.step] at taken
      split at taken <;> cases taken
      cases ok <;> exact same
  | socketError error =>
      simp only [Link.step] at taken
      split at taken <;> cases taken
      exact ⟨_, List.append_assoc ..⟩
  | socketDone =>
      simp only [Link.step] at taken
      split at taken <;> cases taken
      exact ⟨_, List.append_assoc ..⟩
  | beginDisconnect =>
      cases taken
      exact same
  | endDisconnect =>
      cases taken
      exact ⟨_, rfl⟩

theorem Link.step_renders {Double : Type} {d : Doubles Double} {clock : Nat → DateTime} {s : Nat}
    {l next : Link} {label : Label Double} (taken : l.step d clock s label = some next) :
    ∃ new, next.client.renders = l.client.renders ++ new := by
  obtain ⟨new, trace⟩ := Link.step_trace taken
  unfold RemoteSessionClient.renders
  rw [trace, List.filterMap_append]
  exact ⟨_, rfl⟩

section
variable {Double : Type} {codec : Int → Boxed} {d : Doubles Double} {clock : Nat → DateTime}
  {s : Nat} {screen next : Screen} {label : Screen.Label Double}

/-- What was due is drawn, in this order, and what is rendered meanwhile is due. -/
structure Draws (codec : Int → Boxed) (screen next : Screen) (new : List RenderCall) : Prop where
  renders : next.link.client.renders = screen.link.client.renders ++ new
  drawn : next.surface.drawn ++ next.due codec =
    screen.surface.drawn ++ screen.due codec ++ new.filterMap (pictureOf codec)
  grows : screen.surface.drawn <+: next.surface.drawn
  taken : next.taken ≤ next.link.client.renders.length

theorem Draws.refl (inside : screen.taken ≤ screen.link.client.renders.length) :
    Draws codec screen screen [] where
  renders := (List.append_nil _).symm
  drawn := (List.append_nil _).symm
  grows := List.prefix_rfl
  taken := inside

/-- The connection goes on. -/
theorem draws_link (inside : screen.taken ≤ screen.link.client.renders.length) {link : Link}
    {new : List RenderCall} (renders : link.client.renders = screen.link.client.renders ++ new)
    {surface : Surface} (drawn : surface.drawn = screen.surface.drawn)
    (controller : surface.controller = screen.surface.controller) :
    Draws codec screen { screen with link, surface } new where
  renders := renders
  drawn := by
    simp only [Screen.due, drawn, controller, renders, List.drop_append_of_le_length inside,
      List.filterMap_append, List.append_assoc]
  grows := drawn ▸ List.prefix_rfl
  taken := by
    rw [renders, List.length_append]
    exact Nat.le_add_right_of_le inside

/-- The views go on. -/
theorem draws_surface (inside : screen.taken ≤ screen.link.client.renders.length)
    {surface : Surface} {display : Surface.Label} (silent : Surface.posted codec display = [])
    (step : screen.surface.step codec display = some surface) :
    Draws codec screen { screen with surface } [] where
  renders := (List.append_nil _).symm
  drawn := by
    have kept := Surface.step_drawn step
    rw [silent, List.append_nil] at kept
    simp only [Screen.due, List.filterMap_nil, List.append_nil, ← List.append_assoc, kept]
  grows := Surface.step_grows step
  taken := inside

theorem step_draws (inside : screen.taken ≤ screen.link.client.renders.length)
    (taken : screen.step codec d clock s label = some next) :
    ∃ new, Draws codec screen next new := by
  have link {label : Label Double} {link : Link}
      (step : screen.link.step d clock s label = some link) {surface : Surface}
      (drawn : surface.drawn = screen.surface.drawn)
      (controller : surface.controller = screen.surface.controller) :
      ∃ new, Draws codec screen { screen with link, surface } new := by
    obtain ⟨new, renders⟩ := Link.step_renders step
    exact ⟨new, draws_link inside renders drawn controller⟩
  cases label with
  | link label =>
      simp only [Screen.step] at taken
      split at taken
      · cases taken
      · obtain ⟨l, step, rfl⟩ := Option.map_eq_some_iff.mp taken
        exact link step rfl rfl
  | call =>
      obtain ⟨call, waiting, rest⟩ := Option.bind_eq_some_iff.mp taken
      obtain ⟨surface, step, rest⟩ := Option.bind_eq_some_iff.mp rest
      cases rest
      obtain ⟨small, here⟩ := List.getElem?_eq_some_iff.mp waiting
      refine ⟨[], (List.append_nil _).symm, ?_, Surface.step_grows step, small⟩
      have kept := Surface.step_drawn step
      have front : screen.link.client.renders.drop screen.taken =
          call :: screen.link.client.renders.drop (screen.taken + 1) := by
        rw [List.drop_eq_getElem_cons small, here]
      simp only [Screen.due, front, List.filterMap_cons, List.filterMap_nil, List.append_nil]
      rw [← List.append_assoc, kept, Surface.posted]
      cases pictureOf codec call with
      | none => simp only [Option.toList_none, List.append_nil, List.append_assoc]
      | some bitmap => simp only [Option.toList_some, List.append_assoc, List.singleton_append]
  | answer =>
      simp only [Screen.step] at taken
      split at taken
      · cases taken
      · obtain ⟨l, step, rest⟩ := Option.bind_eq_some_iff.mp taken
        cases rest
        exact link step rfl rfl
  | create =>
      cases taken
      have silent : Surface.posted codec .create = [] := rfl
      exact ⟨[], draws_surface inside silent rfl⟩
  | post | dispose =>
      obtain ⟨surface, step, rfl⟩ := Option.map_eq_some_iff.mp taken
      exact ⟨[], draws_surface inside rfl step⟩

theorem Draws.trans {last : Screen} {new more : List RenderCall}
    (first : Draws codec screen next new) (second : Draws codec next last more) :
    Draws codec screen last (new ++ more) where
  renders := by rw [second.renders, first.renders, List.append_assoc]
  drawn := by rw [second.drawn, first.drawn, List.filterMap_append, List.append_assoc]
  grows := first.grows.trans second.grows
  taken := second.taken

theorem exec_draws {labels : List (Screen.Label Double)}
    (inside : screen.taken ≤ screen.link.client.renders.length)
    (run : exec (Screen.step codec d clock s) screen labels = some next) :
    ∃ new, Draws codec screen next new := by
  let I (m : Screen) : Prop := ∃ new, Draws codec screen m new
  have keep : ∀ m label m', I m → Screen.step codec d clock s m label = some m' → I m' := by
    rintro m label m' ⟨new, draws⟩ taken
    obtain ⟨more, later⟩ := step_draws draws.taken taken
    exact ⟨new ++ more, draws.trans later⟩
  exact Transition.exec_invariant (I := I) keep ⟨[], .refl inside⟩ run

/-- The view is attached for as long as no other one is made and it is not disposed of. -/
theorem step_view {start : List Bitmap} {view : Nat} (shows_ : screen.surface.Shows start view)
    (taken : screen.step codec d clock s label = some next) (keeps : label.Keeps view) :
    next.surface.Shows start view := by
  cases label with
  | link label =>
      simp only [Screen.step] at taken
      split at taken
      · cases taken
      · obtain ⟨l, _, rfl⟩ := Option.map_eq_some_iff.mp taken
        exact shows_
  | call =>
      obtain ⟨call, _, rest⟩ := Option.bind_eq_some_iff.mp taken
      obtain ⟨surface, step, rest⟩ := Option.bind_eq_some_iff.mp rest
      cases rest
      exact Surface.step_shows shows_ step trivial
  | answer =>
      simp only [Screen.step] at taken
      split at taken
      · cases taken
      · obtain ⟨l, _, rest⟩ := Option.bind_eq_some_iff.mp taken
        cases rest
        exact ⟨shows_.attached, shows_.picture⟩
  | post =>
      obtain ⟨surface, step, rfl⟩ := Option.map_eq_some_iff.mp taken
      exact Surface.step_shows shows_ step trivial
  | create => exact keeps.elim
  | dispose other =>
      obtain ⟨surface, step, rfl⟩ := Option.map_eq_some_iff.mp taken
      exact Surface.step_shows shows_ step keeps

theorem exec_view {labels : List (Screen.Label Double)} {start : List Bitmap} {view : Nat}
    (shows_ : screen.surface.Shows start view)
    (run : exec (Screen.step codec d clock s) screen labels = some next)
    (keeps : ∀ label ∈ labels, label.Keeps view) : next.surface.Shows start view := by
  let I (m : Screen) : Prop := m.surface.Shows start view
  refine Transition.exec_along (I := I) ?_ shows_ run (.of_mem keeps)
  intro m label next shows_ keeps taken
  exact step_view shows_ taken keeps

variable {transport : Transport} {calls : HelloCalls} {host : String} {port : Nat}
  {earlier : RemoteSessionClient} {rendering : Nat} {labels : List (Remote.Label Double)} {l : Link}

theorem Ran.snoc {label : Remote.Label Double} {m : Link}
    (ran : Ran d clock s transport calls host port earlier rendering labels l)
    (sound : l.Sound label) (taken : l.step d clock s label = some m) :
    Ran d clock s transport calls host port earlier rendering (labels ++ [label]) m where
  hello := ran.hello
  sound := ran.sound.append ran.reached (.cons sound taken (.nil m))
  reached := by
    rw [Transition.exec_append, ran.reached, Option.bind_some, Transition.exec_cons, taken]
    rfl

/-- The connection of a screen is one that the two ends can reach. -/
theorem step_ran (sound : screen.Sound label)
    (taken : screen.step codec d clock s label = some next)
    (ran : Ran d clock s transport calls host port earlier rendering labels screen.link) :
    ∃ labels, Ran d clock s transport calls host port earlier rendering labels next.link := by
  cases label with
  | link label =>
      simp only [Screen.step] at taken
      split at taken
      · cases taken
      · obtain ⟨m, step, rfl⟩ := Option.map_eq_some_iff.mp taken
        exact ⟨_, ran.snoc sound step⟩
  | call =>
      obtain ⟨call, _, rest⟩ := Option.bind_eq_some_iff.mp taken
      obtain ⟨surface, _, rest⟩ := Option.bind_eq_some_iff.mp rest
      cases rest
      exact ⟨_, ran⟩
  | answer =>
      simp only [Screen.step] at taken
      split at taken
      · cases taken
      · next ok answers _ =>
          obtain ⟨m, step, rest⟩ := Option.bind_eq_some_iff.mp taken
          cases rest
          have sound : screen.link.Sound (.rendered ok : Remote.Label Double) := trivial
          exact ⟨_, ran.snoc sound step⟩
  | create =>
      cases taken
      exact ⟨_, ran⟩
  | post | dispose =>
      obtain ⟨surface, _, rfl⟩ := Option.map_eq_some_iff.mp taken
      exact ⟨_, ran⟩

theorem exec_ran {run : List (Screen.Label Double)}
    (sound : Along (Screen.step codec d clock s) (fun m label => m.Sound label) screen run)
    (reached : exec (Screen.step codec d clock s) screen run = some next)
    (ran : Ran d clock s transport calls host port earlier rendering labels screen.link) :
    ∃ labels, Ran d clock s transport calls host port earlier rendering labels next.link := by
  let I (m : Screen) : Prop :=
    ∃ labels, Ran d clock s transport calls host port earlier rendering labels m.link
  have keep : ∀ m label next, I m → m.Sound label →
      Screen.step codec d clock s m label = some next → I next := by
    rintro m label next ⟨labels, ran⟩ sound taken
    exact step_ran sound taken ran
  exact Transition.exec_along (I := I) keep ⟨labels, ran⟩ reached sound

/-- While a view is attached it shows the bitmap that was drawn last since then, and what has been
drawn is a front of what was due and of the frames that the host has sent, in that order. When
nothing is on its way any more, it is all of them. -/
theorem view_shows_newest_frame {first mid screen : Screen}
    {before after : List (Screen.Label Double)}
    (begun : first.link = Link.start clock s transport calls host port earlier rendering)
    (inside : first.taken ≤ (earlier.connect clock host port s).renders.length)
    (hello : Link.SoundHello
      { incoming := .start transport
          ((earlier.connect clock host port s).added.drop earlier.added.length).flatten } calls)
    (sound : Along (Screen.step codec d clock s) (fun m label => m.Sound label) first
      (before ++ .create :: after))
    (reached : exec (Screen.step codec d clock s) first before = some mid)
    (run : exec (Screen.step codec d clock s) first (before ++ .create :: after) = some screen)
    (keeps : ∀ label ∈ after, label.Keeps mid.surface.drawables.length) :
    screen.surface.Shows mid.surface.drawn mid.surface.drawables.length ∧
    ∃ new, screen.surface.drawn = first.surface.drawn ++ new ∧
      let all := first.due codec ++
        (screen.link.host.frames.map RenderCall.ofFrame).filterMap (pictureOf codec)
      new <+: all ∧
      (screen.link.client.Live s → screen.link.host.Succeeded → screen.link.host.arriving = [] →
        screen.due codec = [] → new = all) := by
  have start : Ran d clock s transport calls host port earlier rendering [] first.link :=
    ⟨hello, .nil _, congrArg some begun.symm⟩
  obtain ⟨labels, ran⟩ := exec_ran sound run start
  constructor
  · obtain ⟨m, reached', rest⟩ := Transition.exec_append_some run
    obtain rfl : mid = m := Option.some.inj (reached.symm.trans reached')
    obtain ⟨created, made, rest⟩ := Transition.exec_cons_some rest
    cases made
    have created : mid.surface.step codec .create = some _ := rfl
    exact exec_view (Surface.created_shows created) rest keeps
  · have inside' : first.taken ≤ first.link.client.renders.length := by
      rw [begun]
      exact inside
    obtain ⟨new, draws⟩ := exec_draws inside' run
    obtain ⟨rendered, renders, front, whole⟩ := ran.renders
    obtain rfl : new = rendered := by
      have same := draws.renders
      rw [begun] at same
      exact List.append_cancel_left (same.symm.trans renders)
    obtain ⟨more, grown⟩ := draws.grows
    have total : more ++ screen.due codec = first.due codec ++ new.filterMap (pictureOf codec) := by
      have total := draws.drawn
      rw [← grown, List.append_assoc, List.append_assoc] at total
      exact List.append_cancel_left total
    refine ⟨more, grown.symm, ?_, ?_⟩
    · refine List.IsPrefix.trans ⟨_, total⟩ ?_
      exact List.prefix_append_right_inj _ |>.mpr (front.filterMap _)
    · intro live succeeded arrived none_
      rw [none_, List.append_nil] at total
      rw [total, whole live succeeded arrived]

/-- A view is made, and two frames of different sizes come all the way to it. -/
def twoFrames : List (Screen.Label Int) :=
  [.link (.frame ⟨6, 1, 1, 4, 0, [1, 2, 3, 255]⟩ [100] [10, 100]),
    .link (.frame ⟨8, 2, 1, 8, 0, [4, 5, 6, 255, 7, 8, 9, 255]⟩ [100] [100]),
    .link (.data 200), .call, .link (.data 1000), .answer, .post, .call, .answer, .post]

def blank : Screen where
  link := shortStart
  surface := {}
  taken := 0

theorem twoFrames_sound :
    Along (Screen.step Display.standardCodec Pointing.wholeDoubles epoch 7)
      (fun m label => m.Sound label) blank ([] ++ .create :: twoFrames) := by
  refine .cons trivial rfl ?_
  refine .cons ⟨by decide, .inl (by decide +kernel)⟩ rfl ?_
  refine .cons ⟨by decide, .inl (by decide +kernel)⟩ rfl ?_
  have rest : ∀ label ∈ twoFrames.drop 2, ∀ m : Screen, m.Sound label := by
    simp [twoFrames, Screen.Sound, Link.Sound, Label.Short]
  rintro before label after m split -
  refine rest label ?_ m
  rw [show twoFrames.drop 2 = _ from split]
  exact List.mem_append_right before List.mem_cons_self

/-- Both frames are drawn in their order, and the view shows the second. -/
theorem view_shows_newest_frame_twice :
    ∃ screen : Screen, screen.surface.Shows [] 0 ∧
      screen.surface.drawn = ([⟨[1, 2, 3, 255], 1, 1, 4⟩,
        ⟨[4, 5, 6, 255, 7, 8, 9, 255], 2, 1, 8⟩] : List RenderCall).filterMap
          (pictureOf Display.standardCodec) ∧
      screen.surface.drawn.map (fun bitmap => (bitmap.width, bitmap.height)) =
        [(1, 1), (2, 1)] := by
  have ends : (exec (Screen.step Display.standardCodec Pointing.wholeDoubles epoch 7) blank
      ([] ++ .create :: twoFrames)).map (fun screen =>
        (decide (screen.link.client.Live 7 ∧ screen.link.host.Succeeded ∧
            screen.link.host.arriving = [] ∧
            screen.link.host.frames.map RenderCall.ofFrame =
              [⟨[1, 2, 3, 255], 1, 1, 4⟩, ⟨[4, 5, 6, 255, 7, 8, 9, 255], 2, 1, 8⟩]),
          (screen.due Display.standardCodec).length,
          screen.surface.drawn.map fun bitmap => (bitmap.width, bitmap.height))) =
        some (true, 0, [(1, 1), (2, 1)]) := by
    decide +kernel
  obtain ⟨screen, run, facts⟩ := Option.map_eq_some_iff.mp ends
  simp only [Prod.mk.injEq, decide_eq_true_eq] at facts
  obtain ⟨⟨live, succeeded, arrived, frames⟩, none_, sizes⟩ := facts
  have keeps : ∀ label ∈ twoFrames, Screen.Label.Keeps 0 label := by
    simp [twoFrames, Screen.Label.Keeps]
  have begun : blank.link = Link.start epoch 7 { socket := some 1 } shortHello "host" 4545 {} 0 :=
    rfl
  have reached : exec (Screen.step Display.standardCodec Pointing.wholeDoubles epoch 7) blank [] =
    some blank := rfl
  obtain ⟨shows_, new, drawn, _, all⟩ := view_shows_newest_frame begun (Nat.zero_le _)
    shortHello_sound twoFrames_sound reached run keeps
  refine ⟨screen, shows_, ?_, sizes⟩
  rw [drawn, all live succeeded arrived (List.length_eq_zero_iff.mp none_), frames]
  rfl

end

end Screenscrab.Remote
