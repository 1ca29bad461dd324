import Screenscrab.Remote.Messages

/-! `InputInjector` of the host: the `INPUT` record a client's event hands to `SendInput`, and
where on the virtual screen a mouse record points. -/
namespace Screenscrab.Remote
open Client Protocol Session

/-- What `GetSystemMetrics` says of the virtual screen. -/
structure VirtualScreen where
  left : Int32
  top : Int32
  width : Int32
  height : Int32
  deriving DecidableEq, Repr

inductive Input where
  | mouse (dx dy : Int32) (mouseData : UInt32) (flags : UInt32)
  | keyboard (virtualKey : UInt16) (flags : UInt32)
  deriving DecidableEq, Repr

def clamped (position origin extent : Int32) : Int32 :=
  if position < origin then origin
  else if origin + extent < position then origin + extent else position

/-- The product and the quotient are those of `long long`, whose division truncates. -/
def normalized (position origin extent : Int32) : Int32 :=
  if extent ≤ 1 then 0
  else ((clamped position origin extent - origin).toInt64 * 65535 / (extent - 1).toInt64).toInt32

def Input.dx : Input → Int
  | .mouse dx _ _ _ => dx.toInt
  | .keyboard _ _ => 0

def Input.dy : Input → Int
  | .mouse _ dy _ _ => dy.toInt
  | .keyboard _ _ => 0

/-- The flags are `MOUSEEVENTF_MOVE`, `_ABSOLUTE` and `_VIRTUALDESK`. -/
def moveMouse (screen : VirtualScreen) (x y : Int32) : Input :=
  .mouse (normalized x screen.left screen.width) (normalized y screen.top screen.height) 0
    (0x0001 ||| 0x8000 ||| 0x4000)

@[simp] theorem moveMouse_dx (screen : VirtualScreen) (x y : Int32) :
    (moveMouse screen x y).dx = (normalized x screen.left screen.width).toInt := rfl

@[simp] theorem moveMouse_dy (screen : VirtualScreen) (x y : Int32) :
    (moveMouse screen x y).dy = (normalized y screen.top screen.height).toInt := rfl

def mouseButton (down : Bool) (button : UInt32) : Input :=
  .mouse 0 0 0 <|
    if button = 1 then if down then 0x0002 else 0x0004
    else if button = 2 then if down then 0x0008 else 0x0010
    else if down then 0x0020 else 0x0040

def scroll (delta : Int32) : Input :=
  .mouse 0 0 delta.toUInt32 0x0800

def key (down : Bool) (virtualKey : UInt16) : Input :=
  .keyboard virtualKey (if down then 0 else 0x0002)

/-- The record a handler's call hands to `SendInput`. -/
def input (screen : VirtualScreen) : HandlerCall → Option Input
  | .moveMouse x y => some (moveMouse screen x.toInt32 y.toInt32)
  | .mouseButton down button => some (mouseButton down button)
  | .scroll wheelDelta => some (scroll wheelDelta.toInt32)
  | .key down virtualKey => some (key down virtualKey)
  | .setText _ | .sendPong _ => none

/-! One axis of the screen. A position is a number of steps from the edge, and the steps are
scaled to what `SendInput` expects. -/

/-- How far the clamped position lies from the left or top edge. -/
def steps (position origin extent : Int32) : Int :=
  min (max position.toInt origin.toInt) (origin.toInt + extent.toInt) - origin.toInt

section
variable {position origin extent : Int32} (wide : 2 ≤ extent.toInt)
  (fits : origin.toInt + extent.toInt < 2 ^ 31)

include wide in
theorem steps_bounds :
    0 ≤ steps position origin extent ∧ steps position origin extent ≤ extent.toInt := by
  unfold steps
  omega

include wide in
theorem steps_mono {further : Int32} (beyond : position ≤ further) :
    steps position origin extent ≤ steps further origin extent := by
  rw [Int32.le_iff_toInt_le] at beyond
  unfold steps
  omega

include wide fits in
theorem edge_toInt : (origin + extent).toInt = origin.toInt + extent.toInt := by
  have low := origin.le_toInt
  rw [Int32.toInt_add]
  exact Int.bmod_eq_of_le (by omega) (by omega)

include wide fits in
theorem clamped_toInt :
    (clamped position origin extent).toInt = origin.toInt + steps position origin extent := by
  unfold clamped steps
  simp only [Int32.lt_iff_toInt_lt, edge_toInt wide fits]
  split
  · omega
  · split
    · rw [edge_toInt wide fits]
      omega
    · omega

include wide fits in
/-- The product stays within 64 bits, and the quotient within 32. -/
theorem normalized_toInt :
    (normalized position origin extent).toInt =
      steps position origin extent * 65535 / (extent.toInt - 1) := by
  have bounds := @steps_bounds position origin extent wide
  have extent_lt := extent.toInt_lt
  have difference : (clamped position origin extent - origin).toInt =
      steps position origin extent := by
    rw [Int32.toInt_sub, clamped_toInt wide fits, Int.add_comm, Int.add_sub_cancel]
    exact Int.bmod_eq_of_le (by omega) (by omega)
  have divisor : (extent - 1).toInt = extent.toInt - 1 := by
    rw [Int32.toInt_sub]
    exact Int.bmod_eq_of_le (by simp; omega) (by simp; omega)
  have product : ((clamped position origin extent - origin).toInt64 * 65535).toInt =
      steps position origin extent * 65535 := by
    rw [Int64.toInt_mul, Int32.toInt_toInt64, difference]
    exact Int.bmod_eq_of_le (by simp; omega) (by simp; omega)
  have quotient_le : steps position origin extent * 65535 / (extent.toInt - 1) ≤ 131070 := by
    apply Int.ediv_le_of_le_mul <;> omega
  have quotient_nonneg : 0 ≤ steps position origin extent * 65535 / (extent.toInt - 1) :=
    Int.ediv_nonneg (by omega) (by omega)
  have wider : ¬ extent ≤ 1 := by
    rw [Int32.le_iff_toInt_le]
    exact Int.not_le.mpr wide
  rw [normalized, if_neg wider, Int64.toInt_toInt32, Int64.toInt_div, product,
    Int32.toInt_toInt64, divisor, Int.tdiv_eq_ediv_of_nonneg (by omega)]
  generalize steps position origin extent * 65535 / (extent.toInt - 1) = quotient at *
  rw [Int.bmod_eq_of_le (n := quotient) (by omega) (by omega)]
  exact Int.bmod_eq_of_le (by omega) (by omega)

include wide fits in
theorem normalized_mono {further : Int32} (beyond : position ≤ further) :
    (normalized position origin extent).toInt ≤ (normalized further origin extent).toInt := by
  have order := @steps_mono position origin extent wide further beyond
  rw [normalized_toInt wide fits, normalized_toInt wide fits]
  exact Int.ediv_le_ediv (by omega) (by omega)

include wide fits in
theorem normalized_nonneg : 0 ≤ (normalized position origin extent).toInt := by
  have bounds := @steps_bounds position origin extent wide
  rw [normalized_toInt wide fits]
  exact Int.ediv_nonneg (by omega) (by omega)

include wide fits in
theorem normalized_first (before : position ≤ origin) :
    (normalized position origin extent).toInt = 0 := by
  have none_left : steps position origin extent = 0 := by
    rw [Int32.le_iff_toInt_le] at before
    unfold steps
    omega
  rw [normalized_toInt wide fits, none_left, Int.zero_mul, Int.zero_ediv]

include wide fits in
theorem normalized_within (inside : position.toInt < origin.toInt + extent.toInt) :
    (normalized position origin extent).toInt ≤ 65535 := by
  have fewer : steps position origin extent ≤ extent.toInt - 1 := by
    unfold steps
    omega
  rw [normalized_toInt wide fits]
  apply Int.ediv_le_of_le_mul <;> omega

include wide fits in
theorem normalized_last (last : position.toInt = origin.toInt + extent.toInt - 1) :
    (normalized position origin extent).toInt = 65535 := by
  have all : steps position origin extent = extent.toInt - 1 := by
    unfold steps
    omega
  rw [normalized_toInt wide fits, all]
  exact Int.mul_ediv_cancel_left 65535 (by omega)

include wide fits in
/-- The clamp lets a position one past the last pixel through, which is one step too many
for the divisor. -/
theorem normalized_beyond (outside : origin.toInt + extent.toInt ≤ position.toInt) :
    (normalized position origin extent).toInt = 65535 + 65535 / (extent.toInt - 1) := by
  have all : steps position origin extent * 65535 = 65535 + 65535 * (extent.toInt - 1) := by
    unfold steps
    omega
  have divisor : extent.toInt - 1 ≠ 0 := by omega
  rw [normalized_toInt wide fits, all, Int.add_mul_ediv_right 65535 65535 divisor, Int.add_comm]

include wide fits in
/-- What a client may expect of one axis holds exactly where the position is not beyond the
last pixel, or where the extent is so large that one step too many rounds down. -/
theorem normalized_range_iff :
    (normalized position origin extent).toInt ≤ 65535 ∧
        (origin.toInt + extent.toInt - 1 ≤ position.toInt →
          (normalized position origin extent).toInt = 65535) ↔
      position.toInt < origin.toInt + extent.toInt ∨ 65536 < extent.toInt := by
  rcases Int.lt_or_le position.toInt (origin.toInt + extent.toInt) with inside | outside
  · have last := @normalized_last position origin extent wide fits
    exact ⟨fun _ => .inl inside, fun _ => ⟨normalized_within wide fits inside,
      fun from_last => last (by omega)⟩⟩
  · have rounded : 65535 / (extent.toInt - 1) < 1 ↔ 65536 < extent.toInt := by
      rw [Int.ediv_lt_iff_lt_mul (by omega)]
      omega
    have surplus_nonneg : 0 ≤ 65535 / (extent.toInt - 1) := Int.ediv_nonneg (by omega) (by omega)
    rw [normalized_beyond wide fits outside]
    omega

end

/-- A screen of at least two columns and rows whose edges are themselves coordinates. -/
structure Desktop extends VirtualScreen where
  wide : 2 ≤ width.toInt
  high : 2 ≤ height.toInt
  right : left.toInt + width.toInt < 2 ^ 31
  bottom : top.toInt + height.toInt < 2 ^ 31

/-- What the receiver of a mouse record is promised of its position. -/
structure Normalised (desktop : Desktop) (x y : Int32) (record : Input) : Prop where
  left : 0 ≤ record.dx ∧ (x ≤ desktop.left → record.dx = 0)
  top : 0 ≤ record.dy ∧ (y ≤ desktop.top → record.dy = 0)
  right : record.dx ≤ 65535 ∧
    (desktop.left.toInt + desktop.width.toInt - 1 ≤ x.toInt → record.dx = 65535)
  bottom : record.dy ≤ 65535 ∧
    (desktop.top.toInt + desktop.height.toInt - 1 ≤ y.toInt → record.dy = 65535)
  rightward : ∀ further other, x ≤ further →
    record.dx ≤ (moveMouse desktop.toVirtualScreen further other).dx
  downward : ∀ lower other, y ≤ lower →
    record.dy ≤ (moveMouse desktop.toVirtualScreen other lower).dy

/-- The record of a mouse event that neither wheels nor presses. -/
theorem input_mouse {s : Settings} (enabled : s.inputEnabled = true) (screen : VirtualScreen)
    (x y : Int32) (buttons flags : UInt32) (unwheeled : flags &&& 0x4 = 0)
    (still : flags &&& 0x2 = 0) :
    ∃ call, handleInputPacket s (Message.mouse x y 0 buttons flags).make = some (.calls call) ∧
      input screen call = some (moveMouse screen x y) := by
  refine ⟨.moveMouse x.toInt y.toInt, ?_, by simp [input]⟩
  rw [handleInput_mouse enabled, if_neg (by simp [unwheeled]), if_neg (by simp [still])]

/-- A mouse record keeps its promise exactly where the point is not beyond the last column
and row, however far the desktop is from the origin. -/
theorem moveMouse_normalised_iff (desktop : Desktop) (x y : Int32) :
    Normalised desktop x y (moveMouse desktop.toVirtualScreen x y) ↔
      (x.toInt < desktop.left.toInt + desktop.width.toInt ∨ 65536 < desktop.width.toInt) ∧
      (y.toInt < desktop.top.toInt + desktop.height.toInt ∨ 65536 < desktop.height.toInt) := by
  rw [← normalized_range_iff desktop.wide desktop.right,
    ← normalized_range_iff desktop.high desktop.bottom, ← moveMouse_dx desktop.toVirtualScreen x y,
    ← moveMouse_dy desktop.toVirtualScreen x y]
  constructor
  · intro normalised
    exact ⟨normalised.right, normalised.bottom⟩
  · rintro ⟨right, bottom⟩
    refine ⟨?_, ?_, right, bottom, ?_, ?_⟩
    · rw [moveMouse_dx]
      exact ⟨normalized_nonneg desktop.wide desktop.right,
        normalized_first desktop.wide desktop.right⟩
    · rw [moveMouse_dy]
      exact ⟨normalized_nonneg desktop.high desktop.bottom,
        normalized_first desktop.high desktop.bottom⟩
    · intro further other beyond
      rw [moveMouse_dx, moveMouse_dx]
      exact normalized_mono desktop.wide desktop.right beyond
    · intro lower other beyond
      rw [moveMouse_dy, moveMouse_dy]
      exact normalized_mono desktop.high desktop.bottom beyond

def fullHd : Desktop where
  left := 0
  top := 0
  width := 1920
  height := 1080
  wide := by decide
  high := by decide
  right := by decide
  bottom := by decide

/-- One pixel past a screen of 1920 columns the record says 65569. -/
theorem moveMouse_past_last_column :
    ¬ ∀ (desktop : Desktop) (x y : Int32),
      Normalised desktop x y (moveMouse desktop.toVirtualScreen x y) := by
  intro promised
  have right := (promised fullHd 1920 0).right.1
  revert right
  decide

end Screenscrab.Remote
