import Screenscrab.Library.Framing

/-! Frames on their way from a writer to a reader. Bytes are in flight between the two, and the
reader holds those that are not yet a frame. -/
namespace Framing

universe u v
variable {φ : Type u} {β : Type v} {encode : φ → List β}

/-- The frames that have been written whole, and the front `tail` of one more; those that have
been read are the first of them, and `part` and then `flight` is what is left. -/
structure Flow (encode : φ → List β) (frames : List φ) (extra : φ) (tail : List β)
    (read : List φ) (part flight : List β) : Prop where
  unfinished : Incomplete encode extra tail
  split : ∃ waiting, frames = read ++ waiting ∧
    part ++ flight = waiting.flatMap encode ++ tail ∧ Incomplete encode (next extra waiting) part

theorem incomplete_nil {f : φ} (nonempty : encode f ≠ []) : Incomplete encode f [] :=
  ⟨encode f, nonempty, rfl⟩

namespace Flow

variable {frames read : List φ} {extra : φ} {tail part flight : List β}

/-- Nothing has been written. -/
theorem start (nonempty : encode extra ≠ []) : Flow encode [] extra [] [] [] [] where
  unfinished := incomplete_nil nonempty
  split := ⟨[], rfl, rfl, incomplete_nil nonempty⟩

theorem read_prefix (flow : Flow encode frames extra tail read part flight) : read <+: frames := by
  obtain ⟨waiting, names, _⟩ := flow.split
  exact ⟨waiting, names.symm⟩

/-- A further frame is written whole, behind whole ones. -/
theorem write (flow : Flow encode frames extra [] read part flight) {f : φ}
    (nonempty : encode f ≠ []) :
    Flow encode (frames ++ [f]) extra [] read part (flight ++ encode f) := by
  obtain ⟨waiting, names, parts, short⟩ := flow.split
  refine ⟨flow.unfinished, waiting ++ [f], ?_, ?_, ?_⟩
  · rw [names, List.append_assoc]
  · rw [← List.append_assoc, parts, List.append_nil, List.flatMap_append, List.flatMap_singleton,
      List.append_nil]
  · cases waiting with
    | nil =>
        -- what the reader holds would be a front of a frame that is not there
        have nothing : part ++ flight = [] := parts
        rw [(List.append_eq_nil_iff.mp nothing).1]
        exact incomplete_nil nonempty
    | cons g waiting => exact short

/-- Only a front of a further frame is written. -/
theorem break_off (flow : Flow encode frames extra [] read part flight) {f : φ} {front : List β}
    (unfinished : Incomplete encode f front) :
    Flow encode frames f front read part (flight ++ front) := by
  obtain ⟨waiting, names, parts, short⟩ := flow.split
  refine ⟨unfinished, waiting, names, ?_, ?_⟩
  · rw [← List.append_assoc, parts, List.append_nil]
  · cases waiting with
    | nil =>
        have nothing : part ++ flight = [] := parts
        obtain ⟨missing, nonempty, whole⟩ := unfinished
        rw [(List.append_eq_nil_iff.mp nothing).1]
        refine incomplete_nil ?_
        rw [show next f [] = f from rfl, ← whole]
        exact List.append_ne_nil_of_right_ne_nil front nonempty
    | cons g waiting => exact short

/-- Some of what is in flight arrives, which completes some frames. -/
theorem arrive {chunk rest : List β}
    (flow : Flow encode frames extra tail read part (chunk ++ rest)) :
    ∃ more left f, part ++ chunk = more.flatMap encode ++ left ∧ (∀ g ∈ more, g ∈ frames) ∧
      f ∈ extra :: frames ∧ Incomplete encode f left ∧
      Flow encode frames extra tail (read ++ more) left rest := by
  obtain ⟨waiting, names, parts, _⟩ := flow.split
  rw [← List.append_assoc] at parts
  obtain ⟨more, later, left, order, arrived, behind, short⟩ :=
    split_front flow.unfinished waiting parts
  have inside : ∀ g ∈ waiting, g ∈ frames := fun g member =>
    names ▸ List.mem_append_right read member
  refine ⟨more, left, next extra later, arrived, ?_, ?_, short, flow.unfinished, later, ?_,
    behind, short⟩
  · intro g member
    exact inside g (order ▸ List.mem_append_left later member)
  · rcases List.mem_cons.mp (next_mem extra later) with same | member
    · rw [same]
      exact List.mem_cons_self
    · exact List.mem_cons_of_mem extra (inside _ (order ▸ List.mem_append_right more member))
  · rw [names, order, List.append_assoc]

/-- When nothing is in flight, every frame has been read. -/
theorem drained (flow : Flow encode frames extra [] read part []) : read = frames := by
  obtain ⟨waiting, names, parts, short⟩ := flow.split
  rw [List.append_nil] at parts
  have none : waiting = [] := short.holds_none parts
  rw [names, none, List.append_nil]

end Flow
end Framing
