/-! Frames on a stream that arrives in chunks. A chunk may end anywhere in a frame;
what has arrived is always a list of whole frames and a strict front of the next. -/
namespace Framing

universe u v w x
variable {φ : Type u} {β : Type v} {σ : Type w}

/-- A front of a frame that at least one element of the frame is missing from. -/
def Incomplete (encode : φ → List β) (f : φ) (part : List β) : Prop :=
  ∃ missing, missing ≠ [] ∧ part ++ missing = encode f

theorem Incomplete.length_lt {encode : φ → List β} {f : φ} {part : List β}
    (incomplete : Incomplete encode f part) : part.length < (encode f).length := by
  obtain ⟨missing, nonempty, whole⟩ := incomplete
  have positive : 0 < missing.length := List.length_pos_iff.mpr nonempty
  rw [← whole, List.length_append]
  omega

/-- The frame that the bytes after the arrived ones belong to. -/
def next (extra : φ) (waiting : List φ) : φ := waiting.head?.getD extra

theorem next_mem (extra : φ) (waiting : List φ) : next extra waiting ∈ extra :: waiting := by
  cases waiting with
  | nil => exact List.mem_cons_self
  | cons f rest => exact List.mem_cons_of_mem extra List.mem_cons_self

theorem next_append (extra : φ) (arrived waiting : List φ) :
    next extra (arrived ++ waiting) = next (next extra waiting) arrived := by
  cases arrived <;> rfl

/-- A strict front of the first of some frames does not hold any of them. -/
theorem Incomplete.holds_none {encode : φ → List β} {f : φ} {more : List φ} {part left : List β}
    (strict : Incomplete encode (next f more) part) (parts : part = more.flatMap encode ++ left) :
    more = [] := by
  cases more with
  | nil => rfl
  | cons g more =>
      have bound : part.length < (encode g).length := strict.length_lt
      rw [parts, List.flatMap_cons, List.append_assoc, List.length_append] at bound
      omega

/-- What arrives first of some frames and an incomplete one holds whole frames
and a front of the frame after them. -/
theorem split_front {encode : φ → List β} {extra : φ} {tail : List β}
    (incomplete : Incomplete encode extra tail) (frames : List φ) {front rest : List β}
    (whole : front ++ rest = frames.flatMap encode ++ tail) :
    ∃ arrived waiting part, frames = arrived ++ waiting ∧ front = arrived.flatMap encode ++ part ∧
      part ++ rest = waiting.flatMap encode ++ tail ∧
      Incomplete encode (next extra waiting) part := by
  induction frames generalizing front with
  | nil =>
      obtain ⟨missing, nonempty, same⟩ := incomplete
      have split : front ++ rest = tail := whole
      refine ⟨[], [], front, rfl, rfl, whole, rest ++ missing, ?_, ?_⟩
      · exact List.append_ne_nil_of_right_ne_nil _ nonempty
      · rw [← List.append_assoc, split, same]
        rfl
  | cons f frames ih =>
      rw [List.flatMap_cons, List.append_assoc] at whole
      rcases List.append_eq_append_iff.mp whole with ⟨more, first, later⟩ | ⟨more, first, later⟩
      · by_cases ends : more = []
        · subst ends
          rw [List.append_nil] at first
          have begins : [] ++ rest = frames.flatMap encode ++ tail := later
          obtain ⟨arrived, waiting, part, names, parts, left, strict⟩ := ih begins
          refine ⟨f :: arrived, waiting, part, congrArg (f :: ·) names, ?_, left, strict⟩
          rw [List.flatMap_cons, List.append_assoc, ← parts, List.append_nil, first]
        · refine ⟨[], f :: frames, front, rfl, rfl, ?_, more, ends, first.symm⟩
          rw [List.flatMap_cons, first, later, List.append_assoc, List.append_assoc]
      · obtain ⟨arrived, waiting, part, names, parts, left, strict⟩ := ih later.symm
        refine ⟨f :: arrived, waiting, part, congrArg (f :: ·) names, ?_, left, strict⟩
        rw [List.flatMap_cons, List.append_assoc, ← parts, first]

/-- The rule for a reader that takes event after event, some of which bring bytes: what it has
made of the frames that have arrived, holding a front of the next, is kept by one event, so it
is what the whole stream leaves behind. -/
theorem chunks_rule {encode : φ → List β} {ε : Type x} {bytesOf : ε → List β} {feed : σ → ε → σ}
    {Reads : σ → List φ → List β → Prop} {extra : φ} {tail : List β} {frames : List φ}
    (incomplete : Incomplete encode extra tail)
    (event : ∀ s before part e more left f, (∀ g ∈ more, g ∈ frames) → f ∈ extra :: frames →
      Incomplete encode (next f more) part → Incomplete encode f left →
      part ++ bytesOf e = more.flatMap encode ++ left → Reads s before part →
      Reads (feed s e) (before ++ more) left)
    {s : σ} {before : List φ} {part : List β} (start : Reads s before part)
    {later : List φ} (known : ∀ g ∈ later, g ∈ frames) {events : List ε}
    (whole : part ++ events.flatMap bytesOf = later.flatMap encode ++ tail)
    (strict : Incomplete encode (next extra later) part) :
    Reads (events.foldl feed s) (before ++ later) tail := by
  induction events generalizing s before part later with
  | nil =>
      rw [List.flatMap_nil, List.append_nil] at whole
      cases later with
      | nil =>
          rw [List.append_nil]
          rw [List.flatMap_nil, List.nil_append] at whole
          rw [← whole]
          exact start
      | cons f rest =>
          -- a whole frame cannot be left when everything has arrived
          have size := congrArg List.length whole
          have bound : part.length < (encode f).length := strict.length_lt
          rw [List.flatMap_cons, List.append_assoc, List.length_append] at size
          omega
  | cons e events ih =>
      rw [List.flatMap_cons, ← List.append_assoc] at whole
      obtain ⟨arrived, waiting, left, names, parts, after, short⟩ :=
        split_front incomplete later whole
      have inside : ∀ g ∈ arrived, g ∈ frames := fun g member =>
        known g (names ▸ List.mem_append_left waiting member)
      have outside : ∀ g ∈ waiting, g ∈ frames := fun g member =>
        known g (names ▸ List.mem_append_right arrived member)
      have upcoming : next extra waiting ∈ extra :: frames := by
        rcases List.mem_cons.mp (next_mem extra waiting) with same | member
        · rw [same]; exact List.mem_cons_self
        · exact List.mem_cons_of_mem extra (outside _ member)
      rw [names, next_append] at strict
      have read := event s before part e arrived left _ inside upcoming strict short parts start
      have finish := ih read outside after short
      rw [List.foldl_cons, names, ← List.append_assoc]
      exact finish

/-- No frame is the front of another one. -/
def PrefixFree (cut : List β → Prop) : Prop :=
  ∀ f g r t, cut f → cut g → f ++ r = g ++ t → f = g

/-- What a reader has before it when it has read some frames that it passes. -/
def Behind (passes : List β → Prop) (bytes rest : List β) : Prop :=
  ∃ frames : List (List β), bytes = frames.flatten ++ rest ∧ ∀ f ∈ frames, passes f

section
variable {cut passes : List β → Prop}

theorem Behind.refl (bytes : List β) : Behind passes bytes bytes := ⟨[], rfl, List.forall_mem_nil _⟩

theorem Behind.step {f bytes rest : List β} (here : passes f) (later : Behind passes bytes rest) :
    Behind passes (f ++ bytes) rest := by
  obtain ⟨frames, rfl, every⟩ := later
  exact ⟨f :: frames, (List.append_assoc ..).symm, List.forall_mem_cons.mpr ⟨here, every⟩⟩

theorem Behind.trans {a b c : List β} (first : Behind passes a b) (then_ : Behind passes b c) :
    Behind passes a c := by
  obtain ⟨frames, rfl, every⟩ := first
  obtain ⟨more, rfl, others⟩ := then_
  refine ⟨frames ++ more, ?_, List.forall_mem_append.mpr ⟨every, others⟩⟩
  rw [List.flatten_append, List.append_assoc]

/-- The reader cannot move where no frame begins. -/
theorem Behind.stuck {bytes rest : List β} (none : ∀ f r, bytes = f ++ r → ¬ passes f)
    (behind : Behind passes bytes rest) : rest = bytes := by
  obtain ⟨frames, rfl, every⟩ := behind
  cases frames with
  | nil => rfl
  | cons f frames =>
      have split : (f :: frames).flatten ++ rest = f ++ (frames.flatten ++ rest) :=
        List.append_assoc ..
      exact absurd (every f List.mem_cons_self) (none f _ split)

theorem behind_append (free : PrefixFree cut) (cuts : ∀ f, passes f → cut f)
    {f bytes rest : List β} (here : cut f) :
    Behind passes (f ++ bytes) rest ↔ rest = f ++ bytes ∨ passes f ∧ Behind passes bytes rest := by
  constructor
  · rintro ⟨frames, split, every⟩
    cases frames with
    | nil => exact .inl split.symm
    | cons g frames =>
        obtain ⟨passed, others⟩ := List.forall_mem_cons.mp every
        have parts : f ++ bytes = g ++ (frames.flatten ++ rest) :=
          split.trans (List.append_assoc ..)
        obtain rfl := free f g _ _ here (cuts g passed) parts
        exact .inr ⟨passed, frames, List.append_cancel_left parts, others⟩
  · rintro (rfl | ⟨passed, later⟩)
    · exact .refl _
    · exact later.step passed

end

end Framing
