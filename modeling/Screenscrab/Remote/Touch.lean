import Screenscrab.Remote.Pointer

/-! The gestures on the remote surface of the client, and the left mouse button of the host. -/
namespace Screenscrab.Remote
open Dart Client Session

/-- Where a callback reports a finger, and the size of the surface then. -/
structure Contact (Double : Type) where
  localPosition : Offset Double
  surfaceSize : Size Double

/-- The callbacks of a `GestureDetector` that a contact or a secondary tap brings. -/
inductive Callback (Double : Type) where
  | panDown (contact : Contact Double)
  | panUpdate (contact : Contact Double)
  | panEnd
  | panCancel
  | tapDown (contact : Contact Double)
  | tapUp (contact : Contact Double)
  | tapCancel
  | secondaryTapDown (contact : Contact Double)
  | secondaryTapUp
  | secondaryTapCancel

inductive TouchAction where
  | wheel
  | down
  | up
  | move
  deriving DecidableEq, Repr

/-- The callbacks that `_buildRemoteSurface` sets, and what they pass to `_sendTouch`. -/
def Callback.touch {Double : Type} : Callback Double → Option (TouchAction × Contact Double)
  | tapDown contact => some (.down, contact)
  | tapUp contact => some (.up, contact)
  | panDown contact => some (.down, contact)
  | panUpdate contact => some (.move, contact)
  | secondaryTapDown contact => some (.down, contact)
  | _ => none

section
variable {Double : Type} (d : Doubles Double) (clock : Nat → DateTime)

/-- `_sendTouch`. -/
def sendTouch (c : RemoteSessionClient) (contact : Contact Double) (action : TouchAction)
    (now : DateTime) : RemoteSessionClient :=
  match action with
  | .wheel => c.send (SessionCodec.mouseEvent 0 0 120 0 0x4 now)
  | .down => c.sendMouseButton d contact.localPosition contact.surfaceSize true 1 now
  | .up => c.sendMouseButton d contact.localPosition contact.surfaceSize false 1 now
  | .move => c.sendMousePosition d contact.localPosition contact.surfaceSize now

/-- A callback, or what may happen between two of them: other metadata arrives, the socket is
closed or another one opened. -/
inductive Moment (Double : Type) where
  | callback (callback : Callback Double)
  | meanwhile (metadata : Option RemoteFrameMetadata) (socket : Option Nat)

def Moment.callback? {Double : Type} : Moment Double → Option (Callback Double)
  | .callback called => some called
  | .meanwhile _ _ => none

def moment (c : RemoteSessionClient) : Moment Double → RemoteSessionClient
  | .callback callback =>
    match callback.touch with
    | none => c
    | some (action, contact) => sendTouch d c contact action (clock c.trace.length)
  | .meanwhile metadata socket => { c with pendingMetadata := metadata, socket }

/-- The ways in which a contact that is no tap ends. -/
inductive Finish where
  | panEnd
  | panCancel
  | tapCancel

def Finish.callback {Double : Type} : Finish → Callback Double
  | panEnd => .panEnd
  | panCancel => .panCancel
  | tapCancel => .tapCancel

/-- A completed gesture. -/
inductive Gesture (Double : Type) where
  | tap (down : Contact Double) (tapDown : Option (Contact Double)) (up : Contact Double)
  | drag (down : Contact Double) (tapDown : Option (Contact Double))
      (updates : List (Contact Double)) (finish : Finish)
  | secondary (down : Contact Double) (cancelled : Bool)

def Gesture.callbacks {Double : Type} : Gesture Double → List (Callback Double)
  | tap down tapDown up => .panDown down :: (tapDown.toList.map .tapDown ++ [.tapUp up])
  | drag down tapDown updates finish =>
    .panDown down :: (tapDown.toList.map .tapDown ++ (updates.map .panUpdate ++ [finish.callback]))
  | secondary down cancelled =>
    [.secondaryTapDown down, if cancelled then .secondaryTapCancel else .secondaryTapUp]

/-- A gesture with all that happens while it lasts. -/
structure Touch (Double : Type) where
  gesture : Gesture Double
  moments : List (Moment Double)
  performed : moments.filterMap Moment.callback? = gesture.callbacks

def perform (c : RemoteSessionClient) (touch : Touch Double) : RemoteSessionClient :=
  touch.moments.foldl (moment d clock) c

/-- The transitions of the left button that the packets of the client ask the host for. -/
def transitions (c : RemoteSessionClient) : List Bool :=
  (injected inputOn c.added).filterMap fun
    | .mouseButton down button => if button = 1 then some down else none
    | _ => none

/-- The last transition that has been sent is an up, if there is one. -/
def Released (c : RemoteSessionClient) : Prop := (transitions c).getLast? ≠ some true

/-- There is a socket, and the place of the contact can be computed. -/
def Sends (c : RemoteSessionClient) (contact : Contact Double) : Prop :=
  c.socket ≠ none ∧
    remotePosition d c.pendingMetadata contact.localPosition contact.surfaceSize ≠ none

instance (c : RemoteSessionClient) (contact : Contact Double) : Decidable (Sends d c contact) :=
  inferInstanceAs (Decidable (c.socket ≠ none ∧
    remotePosition d c.pendingMetadata contact.localPosition contact.surfaceSize ≠ none))

/-- Some callback with this action finds the client able to send. -/
def Sent (action : TouchAction) (c : RemoteSessionClient) (moments : List (Moment Double)) : Prop :=
  ∃ before callback contact after, moments = before ++ .callback callback :: after ∧
    callback.touch = some (action, contact) ∧ Sends d (before.foldl (moment d clock) c) contact

/-- The release of a gesture is sent, or no press of it is. -/
def Balanced (c : RemoteSessionClient) (touch : Touch Double) : Prop :=
  Sent d clock .up c touch.moments ∨ ¬ Sent d clock .down c touch.moments

variable {d} {clock}

/-- What a press or a release adds to the transitions. -/
theorem transitions_button (c : RemoteSessionClient) (contact : Contact Double) (down : Bool)
    (now : DateTime) :
    transitions (c.sendMouseButton d contact.localPosition contact.surfaceSize down 1 now) =
      transitions c ++ if Sends d c contact then [down] else [] := by
  cases found : remotePosition d c.pendingMetadata contact.localPosition contact.surfaceSize with
  | none =>
      have silent : ¬ Sends d c contact := fun sends => sends.2 found
      rw [if_neg silent, List.append_nil, RemoteSessionClient.sendMouseButton, found]
  | some place =>
      obtain ⟨x, y⟩ := place
      by_cases connected : c.socket = none
      · have silent : ¬ Sends d c contact := fun sends => sends.1 connected
        rw [if_neg silent, List.append_nil, RemoteSessionClient.sendMouseButton, found]
        exact congrArg transitions (if_pos connected)
      · have sends : Sends d c contact := ⟨connected, by rw [found]; exact Option.some_ne_none _⟩
        have calls : injected inputOn
            (c.sendMouseButton d contact.localPosition contact.surfaceSize down 1 now).added = _ :=
          Pointing.injected_button rfl connected down 1 now found
        rw [if_pos sends, transitions, calls, List.filterMap_append]
        rfl

theorem transitions_position (c : RemoteSessionClient) (contact : Contact Double) (now : DateTime) :
    transitions (c.sendMousePosition d contact.localPosition contact.surfaceSize now) =
      transitions c := by
  cases found : remotePosition d c.pendingMetadata contact.localPosition contact.surfaceSize with
  | none => rw [RemoteSessionClient.sendMousePosition, found]
  | some place =>
      obtain ⟨x, y⟩ := place
      by_cases connected : c.socket = none
      · rw [RemoteSessionClient.sendMousePosition, found]
        exact congrArg transitions (if_pos connected)
      · have calls : injected inputOn
            (c.sendMousePosition d contact.localPosition contact.surfaceSize now).added = _ :=
          Pointing.injected_position rfl connected now found
        rw [transitions, calls, List.filterMap_append]
        exact List.append_nil _

variable (d) (clock)

/-- The transition that a moment sends. -/
def sentAt (c : RemoteSessionClient) : Moment Double → List Bool
  | .callback callback =>
    match callback.touch with
    | some (.down, contact) => if Sends d c contact then [true] else []
    | some (.up, contact) => if Sends d c contact then [false] else []
    | _ => []
  | .meanwhile _ _ => []

def sentTransitions (c : RemoteSessionClient) : List (Moment Double) → List Bool
  | [] => []
  | m :: moments => sentAt d c m ++ sentTransitions (moment d clock c m) moments

variable {d} {clock}

theorem touch_ne_wheel {callback : Callback Double} {contact : Contact Double} :
    callback.touch ≠ some (.wheel, contact) := by
  cases callback <;> simp [Callback.touch]

theorem transitions_moment (c : RemoteSessionClient) (m : Moment Double) :
    transitions (moment d clock c m) = transitions c ++ sentAt d c m := by
  cases m with
  | meanwhile metadata socket => exact (List.append_nil _).symm
  | callback callback =>
      cases touch : callback.touch with
      | none => simp only [moment, sentAt, touch, List.append_nil]
      | some pair =>
          obtain ⟨action, contact⟩ := pair
          simp only [moment, sentAt, touch]
          cases action with
          | wheel => exact absurd touch touch_ne_wheel
          | down => exact transitions_button c contact true _
          | up => exact transitions_button c contact false _
          | move => exact (transitions_position c contact _).trans (List.append_nil _).symm

theorem transitions_moments (c : RemoteSessionClient) (moments : List (Moment Double)) :
    transitions (moments.foldl (moment d clock) c) =
      transitions c ++ sentTransitions d clock c moments := by
  induction moments generalizing c with
  | nil => exact (List.append_nil _).symm
  | cons m moments ih =>
      rw [List.foldl_cons, ih, transitions_moment, List.append_assoc]
      rfl

theorem sent_cons (action : TouchAction) (c : RemoteSessionClient) (m : Moment Double)
    (moments : List (Moment Double)) :
    Sent d clock action c (m :: moments) ↔
      (∃ callback contact, m = .callback callback ∧ callback.touch = some (action, contact) ∧
        Sends d c contact) ∨ Sent d clock action (moment d clock c m) moments := by
  constructor
  · rintro ⟨before, callback, contact, after, split, touch, sends⟩
    cases before with
    | nil =>
        obtain ⟨rfl, rfl⟩ := List.cons.inj split
        exact .inl ⟨callback, contact, rfl, touch, sends⟩
    | cons first before =>
        obtain ⟨rfl, rfl⟩ := List.cons.inj split
        exact .inr ⟨before, callback, contact, after, rfl, touch, sends⟩
  · rintro (⟨callback, contact, rfl, touch, sends⟩ |
      ⟨before, callback, contact, after, rfl, touch, sends⟩)
    · exact ⟨[], callback, contact, moments, rfl, touch, sends⟩
    · exact ⟨m :: before, callback, contact, after, rfl, touch, sends⟩

theorem not_sent_nil (action : TouchAction) (c : RemoteSessionClient) :
    ¬ Sent d clock action c ([] : List (Moment Double)) := by
  rintro ⟨before, callback, contact, after, split, _⟩
  exact List.cons_ne_nil _ _ (List.append_eq_nil_iff.mp split.symm).2

/-- The action that asks for a transition. -/
def actionOf (down : Bool) : TouchAction := if down then .down else .up

theorem mem_sentAt (c : RemoteSessionClient) (m : Moment Double) (down : Bool) :
    down ∈ sentAt d c m ↔ ∃ callback contact, m = .callback callback ∧
      callback.touch = some (actionOf down, contact) ∧ Sends d c contact := by
  cases m with
  | meanwhile metadata socket => exact iff_of_false List.not_mem_nil (by rintro ⟨_, _, ⟨⟩, _⟩)
  | callback callback =>
      have only : (∃ called contact, Moment.callback callback = .callback called ∧
          called.touch = some (actionOf down, contact) ∧ Sends d c contact) ↔
          ∃ contact, callback.touch = some (actionOf down, contact) ∧ Sends d c contact := by
        constructor
        · rintro ⟨_, contact, ⟨⟩, touch, sends⟩
          exact ⟨contact, touch, sends⟩
        · rintro ⟨contact, touch, sends⟩
          exact ⟨callback, contact, rfl, touch, sends⟩
      rw [only]
      cases touch : callback.touch with
      | none => simp [sentAt, touch]
      | some pair =>
          obtain ⟨action, contact⟩ := pair
          cases action <;> cases down <;> simp [sentAt, touch, actionOf]

theorem mem_sentTransitions (c : RemoteSessionClient) (moments : List (Moment Double))
    (down : Bool) :
    down ∈ sentTransitions d clock c moments ↔ Sent d clock (actionOf down) c moments := by
  induction moments generalizing c with
  | nil => exact iff_of_false List.not_mem_nil (not_sent_nil _ c)
  | cons m moments ih => rw [sentTransitions, List.mem_append, mem_sentAt, ih, sent_cons]

/-- No press comes after a release. -/
def Ordered (callbacks : List (Callback Double)) : Prop :=
  callbacks.Pairwise fun a b => ∀ contact contact', a.touch = some (.up, contact) →
    b.touch ≠ some (.down, contact')

/-- Only a tap-up releases, so that a gesture in which only the last callback may be one is
ordered. -/
theorem ordered_concat {front : List (Callback Double)} (last : Callback Double)
    (held : ∀ callback ∈ front, ∀ contact, callback ≠ .tapUp contact) :
    Ordered (front ++ [last]) := by
  have release {callback : Callback Double} {contact : Contact Double}
      (touch : callback.touch = some (.up, contact)) : callback = .tapUp contact := by
    cases callback <;> simp_all [Callback.touch]
  have silent : ∀ callback ∈ front, ∀ contact, callback.touch ≠ some (.up, contact) :=
    fun callback member contact touch => held callback member contact (release touch)
  refine List.pairwise_append.mpr ⟨?_, List.pairwise_singleton _ _, ?_⟩
  · exact List.pairwise_of_forall_mem_list fun a member b _ contact contact' touch =>
      absurd touch (silent a member contact)
  · intro a member b _ contact contact' touch
    exact absurd touch (silent a member contact)

theorem gesture_ordered (gesture : Gesture Double) : Ordered gesture.callbacks := by
  have tapDowns (tapDown : Option (Contact Double)) :
      ∀ callback ∈ tapDown.toList.map Callback.tapDown, ∀ contact, callback ≠ .tapUp contact := by
    intro callback member contact
    obtain ⟨place, _, rfl⟩ := List.mem_map.mp member
    rintro ⟨⟩
  have panDown (down contact : Contact Double) : Callback.panDown down ≠ .tapUp contact := by
    rintro ⟨⟩
  cases gesture with
  | tap down tapDown up =>
      have front : ∀ callback ∈ .panDown down :: tapDown.toList.map Callback.tapDown,
          ∀ contact, callback ≠ .tapUp contact :=
        List.forall_mem_cons.mpr ⟨panDown down, tapDowns tapDown⟩
      exact ordered_concat _ front
  | drag down tapDown updates finish =>
      have moves : ∀ callback ∈ updates.map Callback.panUpdate, ∀ contact,
          callback ≠ .tapUp contact := by
        intro callback member contact
        obtain ⟨place, _, rfl⟩ := List.mem_map.mp member
        rintro ⟨⟩
      have front : ∀ callback ∈ .panDown down :: (tapDown.toList.map Callback.tapDown ++
          updates.map Callback.panUpdate), ∀ contact, callback ≠ .tapUp contact :=
        List.forall_mem_cons.mpr
          ⟨panDown down, List.forall_mem_append.mpr ⟨tapDowns tapDown, moves⟩⟩
      have ordered := ordered_concat (finish.callback : Callback Double) front
      rw [List.cons_append, List.append_assoc] at ordered
      exact ordered
  | secondary down cancelled =>
      have front : ∀ callback ∈ [Callback.secondaryTapDown down],
          ∀ contact, callback ≠ .tapUp contact :=
        List.forall_mem_singleton.mpr fun contact => by rintro ⟨⟩
      exact ordered_concat _ front

theorem sentAt_pairwise (c : RemoteSessionClient) (m : Moment Double) (R : Bool → Bool → Prop) :
    (sentAt d c m).Pairwise R := by
  have one (p : Prop) [Decidable p] (b : Bool) : (if p then [b] else []).Pairwise R := by
    split
    · exact List.pairwise_singleton R b
    · exact .nil
  unfold sentAt
  split
  · split
    · exact one _ true
    · exact one _ false
    · exact .nil
  · exact .nil

/-- The transitions of moments whose callbacks are ordered: no down after an up. -/
theorem sentTransitions_ordered (c : RemoteSessionClient) {moments : List (Moment Double)}
    (ordered : Ordered (moments.filterMap Moment.callback?)) :
    (sentTransitions d clock c moments).Pairwise fun a b => a = false → b = false := by
  rw [Ordered, List.pairwise_filterMap] at ordered
  induction moments generalizing c with
  | nil => exact .nil
  | cons m moments ih =>
      obtain ⟨here, later⟩ := List.pairwise_cons.mp ordered
      refine List.pairwise_append.mpr ⟨sentAt_pairwise c m _, ih _ later, ?_⟩
      rintro _ released b pressed rfl
      cases b with
      | false => rfl
      | true =>
          obtain ⟨up, contact, rfl, touchUp, _⟩ := (mem_sentAt c m false).mp released
          obtain ⟨before, down, contact', after, rfl, touchDown, _⟩ :=
            (mem_sentTransitions _ moments true).mp pressed
          have member : Moment.callback down ∈ before ++ .callback down :: after :=
            List.mem_append_right before List.mem_cons_self
          exact absurd touchDown (here _ member up rfl down rfl contact contact' touchUp)

/-- Where no true comes after a false, the last one tells which there are. -/
theorem last_ne_true_iff {l : List Bool} (ordered : l.Pairwise fun a b => a = false → b = false) :
    l.getLast? ≠ some true ↔ false ∈ l ∨ true ∉ l := by
  constructor
  · intro last
    cases found : l.getLast? with
    | none =>
        rw [List.getLast?_eq_none_iff.mp found]
        exact .inr List.not_mem_nil
    | some b =>
        cases b with
        | false => exact .inl (List.mem_of_getLast? found)
        | true => exact absurd found last
  · rintro present last
    obtain ⟨front, rfl⟩ := List.getLast?_eq_some_iff.mp last
    have whole : true ∈ front ++ [true] := List.mem_append_right front List.mem_cons_self
    rcases present with released | absent
    · have earlier : false ∈ front := by
        rcases List.mem_append.mp released with inside | last
        · exact inside
        · cases List.mem_singleton.mp last
      have cross := (List.pairwise_append.mp ordered).2.2
      cases cross false earlier true List.mem_cons_self rfl
    · exact absent whole

/-- One gesture keeps the button released exactly when it releases what it presses. -/
theorem perform_released_iff {c : RemoteSessionClient} (released : Released c)
    (touch : Touch Double) : Released (perform d clock c touch) ↔ Balanced d clock c touch := by
  have ordered : Ordered (touch.moments.filterMap Moment.callback?) := by
    rw [touch.performed]
    exact gesture_ordered touch.gesture
  have last : Released (perform d clock c touch) ↔
      (sentTransitions d clock c touch.moments).getLast? ≠ some true := by
    rw [Released, perform, transitions_moments, List.getLast?_append]
    cases (sentTransitions d clock c touch.moments).getLast? with
    | none => exact iff_of_true released (Option.some_ne_none _).symm
    | some b => exact Iff.rfl
  rw [last, last_ne_true_iff (sentTransitions_ordered c ordered), mem_sentTransitions,
    mem_sentTransitions]
  exact Iff.rfl

variable (d) (clock)

/-- After every gesture the left button is released, exactly when each of them sends its release
or sends no press. -/
theorem released_after_gestures_iff (touches : List (Touch Double)) :
    (∀ before after c, touches = before ++ after →
      Transition.exec (fun c touch => some (perform d clock c touch)) {} before = some c →
        Released c) ↔
      Transition.Along (fun c touch => some (perform d clock c touch)) (Balanced d clock) {}
        touches := by
  refine Transition.throughout_iff (I := fun _ => True) (fun _ _ _ _ _ => trivial) ?_ ?_ trivial ?_
    touches
  · rintro c touch _ _ released ⟨⟩
    exact perform_released_iff released touch
  · intro c touch blocked
    cases blocked
  · exact (Option.some_ne_none true).symm

end

/-- A finger that goes down and moves. -/
def draggedTouch : Touch Int where
  gesture := .drag ⟨⟨10, 20⟩, ⟨100, 100⟩⟩ none [⟨⟨30, 20⟩, ⟨100, 100⟩⟩] .panEnd
  moments := [.meanwhile none (some 7), .callback (.panDown ⟨⟨10, 20⟩, ⟨100, 100⟩⟩),
    .callback (.panUpdate ⟨⟨30, 20⟩, ⟨100, 100⟩⟩), .callback .panEnd]
  performed := rfl

/-- After a drag the last transition that has been sent is a down. -/
theorem drag_holds_button :
    ∃ c, Transition.exec (fun c touch => some (perform Pointing.wholeDoubles epoch c touch)) {}
        [draggedTouch] = some c ∧
      transitions c = [true] ∧ ¬ Released c := by
  refine ⟨_, rfl, by decide +kernel, ?_⟩
  unfold Released
  decide +kernel

end Screenscrab.Remote
