import Mathlib.Tactic.IntervalCases
import Screenscrab.Library.Transition

/-! JSON text as a machine that reads a UTF-16 code unit at a time, with the containers that are
open on a stack. -/
namespace Json
open Transition

abbrev Text := List Nat

abbrev quote : Nat := 34
abbrev comma : Nat := 44
abbrev colon : Nat := 58
abbrev backslash : Nat := 92
abbrev openBracket : Nat := 91
abbrev closeBracket : Nat := 93
abbrev openBrace : Nat := 123
abbrev closeBrace : Nat := 125

/-- Numbers are kept as they are written, members in the order of the text. -/
inductive Value where
  | null
  | bool (b : Bool)
  | number (literal : Text)
  | string (text : Text)
  | array (elements : List Value)
  | object (members : List (Text × Value))

/-- A container with what has been read of it, an object with the key whose value comes. -/
inductive Frame where
  | array (elements : List Value)
  | object (members : List (Text × Value)) (key : Text)

inductive NumberState where
  | minus
  | zero
  | digits
  | point
  | fraction
  | exponent
  | sign
  | exponentDigits
  deriving DecidableEq, Repr

/-- What is being read. Of a `\u` escape `left + 1` digits are to come; `word` is one of `true`,
`false` and `null`. -/
inductive Mode where
  | value
  | firstElement
  | firstKey
  | nextKey
  | colon
  | after
  | done (v : Value)
  | string (isKey : Bool) (buffer : Text)
  | escape (isKey : Bool) (buffer : Text)
  | hex (isKey : Bool) (buffer : Text) (left code : Nat)
  | number (state : NumberState) (literal : Text)
  | word (word : Option Bool) (seen : Nat)

structure State where
  mode : Mode
  stack : List Frame

def isSpace (c : Nat) : Bool := c = 32 || c = 9 || c = 10 || c = 13

def isDigit (c : Nat) : Bool := 48 ≤ c && c ≤ 57

def hexValue (c : Nat) : Option Nat :=
  if 48 ≤ c ∧ c ≤ 57 then some (c - 48)
  else if 97 ≤ c ∧ c ≤ 102 then some (c - 87)
  else if 65 ≤ c ∧ c ≤ 70 then some (c - 55)
  else none

/-- What the escapes of one character stand for. -/
def unescape (c : Nat) : Option Nat :=
  if c = quote ∨ c = backslash ∨ c = 47 then some c
  else if c = 98 then some 8
  else if c = 102 then some 12
  else if c = 110 then some 10
  else if c = 114 then some 13
  else if c = 116 then some 9
  else none

namespace NumberState

def next (s : NumberState) (c : Nat) : Option NumberState :=
  match s with
  | minus => if c = 48 then some zero else if isDigit c then some digits else none
  | zero => if c = 46 then some point else if c = 101 ∨ c = 69 then some exponent else none
  | digits =>
    if isDigit c then some digits
    else if c = 46 then some point
    else if c = 101 ∨ c = 69 then some exponent
    else none
  | point => if isDigit c then some fraction else none
  | fraction =>
    if isDigit c then some fraction else if c = 101 ∨ c = 69 then some exponent else none
  | exponent =>
    if isDigit c then some exponentDigits else if c = 43 ∨ c = 45 then some sign else none
  | sign => if isDigit c then some exponentDigits else none
  | exponentDigits => if isDigit c then some exponentDigits else none

def final : NumberState → Bool
  | zero | digits | fraction | exponentDigits => true
  | _ => false

end NumberState

/-- The state after a value, which belongs to the innermost open container. -/
def complete (v : Value) : List Frame → State
  | [] => ⟨.done v, []⟩
  | .array elements :: stack => ⟨.after, .array (elements ++ [v]) :: stack⟩
  | .object members key :: stack => ⟨.after, .object (members ++ [(key, v)]) key :: stack⟩

def closeArray : List Frame → Option State
  | .array elements :: stack => some (complete (.array elements) stack)
  | _ => none

def closeObject : List Frame → Option State
  | .object members _ :: stack => some (complete (.object members) stack)
  | _ => none

def endString (isKey : Bool) (buffer : Text) (stack : List Frame) : Option State :=
  if isKey then
    match stack with
    | .object members _ :: stack => some ⟨.colon, .object members buffer :: stack⟩
    | _ => none
  else some (complete (.string buffer) stack)

def wordText : Option Bool → Text
  | none => [110, 117, 108, 108]
  | some false => [102, 97, 108, 115, 101]
  | some true => [116, 114, 117, 101]

def wordValue : Option Bool → Value
  | none => .null
  | some b => .bool b

def stepValue (stack : List Frame) (c : Nat) : Option State :=
  if isSpace c then some ⟨.value, stack⟩
  else if c = quote then some ⟨.string false [], stack⟩
  else if c = openBrace then some ⟨.firstKey, .object [] [] :: stack⟩
  else if c = openBracket then some ⟨.firstElement, .array [] :: stack⟩
  else if c = 45 then some ⟨.number .minus [c], stack⟩
  else if c = 48 then some ⟨.number .zero [c], stack⟩
  else if isDigit c then some ⟨.number .digits [c], stack⟩
  else if c = 116 then some ⟨.word (some true) 1, stack⟩
  else if c = 102 then some ⟨.word (some false) 1, stack⟩
  else if c = 110 then some ⟨.word none 1, stack⟩
  else none

def stepKey (mode : Mode) (stack : List Frame) (c : Nat) : Option State :=
  if isSpace c then some ⟨mode, stack⟩
  else if c = quote then some ⟨.string true [], stack⟩
  else none

/-- After a value: a separator, the end of the container, or nothing but space. -/
def stepEnd (s : State) (c : Nat) : Option State :=
  if isSpace c then some s
  else match s.mode with
    | .after =>
      if c = comma then
        match s.stack with
        | .array elements :: stack => some ⟨.value, .array elements :: stack⟩
        | .object members _ :: stack => some ⟨.nextKey, .object members [] :: stack⟩
        | [] => none
      else if c = closeBracket then closeArray s.stack
      else if c = closeBrace then closeObject s.stack
      else none
    | _ => none

def step (s : State) (c : Nat) : Option State :=
  match s.mode with
  | .value => stepValue s.stack c
  | .firstElement =>
    if c = closeBracket then closeArray s.stack
    else if isSpace c then some s
    else stepValue s.stack c
  | .firstKey => if c = closeBrace then closeObject s.stack else stepKey .firstKey s.stack c
  | .nextKey => stepKey .nextKey s.stack c
  | .colon =>
    if isSpace c then some s else if c = colon then some ⟨.value, s.stack⟩ else none
  | .after | .done _ => stepEnd s c
  | .string isKey buffer =>
    if c = quote then endString isKey buffer s.stack
    else if c = backslash then some ⟨.escape isKey buffer, s.stack⟩
    else if c < 32 then none
    else some ⟨.string isKey (buffer ++ [c]), s.stack⟩
  | .escape isKey buffer =>
    if c = 117 then some ⟨.hex isKey buffer 3 0, s.stack⟩
    else (unescape c).map fun d => ⟨.string isKey (buffer ++ [d]), s.stack⟩
  | .hex isKey buffer left code =>
    (hexValue c).map fun d =>
      match left with
      | 0 => ⟨.string isKey (buffer ++ [code * 16 + d]), s.stack⟩
      | left + 1 => ⟨.hex isKey buffer left (code * 16 + d), s.stack⟩
  | .number state literal =>
    match state.next c with
    | some state => some ⟨.number state (literal ++ [c]), s.stack⟩
    | none => if state.final then stepEnd (complete (.number literal) s.stack) c else none
  | .word word seen =>
    if (wordText word)[seen]? ≠ some c then none
    else if seen + 1 = (wordText word).length then some (complete (wordValue word) s.stack)
    else some ⟨.word word (seen + 1), s.stack⟩

def finish (s : State) : Option Value :=
  match s.mode, s.stack with
  | .done v, _ => some v
  | .number state literal, [] => if state.final then some (.number literal) else none
  | _, _ => none

/-- The value of a whole text, if it is JSON. -/
def parse (text : Text) : Option Value := (exec step ⟨.value, []⟩ text).bind finish

/-! Texts that are written between quotes as they are -/

/-- The code units that a string may have unescaped. -/
def Unescaped (text : Text) : Prop := ∀ c ∈ text, c ≠ quote ∧ c ≠ backslash ∧ 32 ≤ c

instance (text : Text) : Decidable (Unescaped text) := inferInstanceAs (Decidable (∀ c ∈ text, _))

theorem exec_unescaped {text : Text} (unescaped : Unescaped text) (isKey : Bool) (buffer : Text)
    (stack : List Frame) : exec step ⟨.string isKey buffer, stack⟩ text =
      some ⟨.string isKey (buffer ++ text), stack⟩ := by
  induction text generalizing buffer with
  | nil => simp
  | cons c text ih =>
      obtain ⟨⟨notQuote, notBackslash, visible⟩, unescaped⟩ := List.forall_mem_cons.mp unescaped
      have one : step ⟨.string isKey buffer, stack⟩ c =
          some ⟨.string isKey (buffer ++ [c]), stack⟩ := by
        simp [step, notQuote, notBackslash, visible]
      rw [exec_cons, one, Option.bind_some, ih unescaped, List.append_assoc]
      rfl

theorem exec_key {key : Text} (unescaped : Unescaped key) (members : List (Text × Value))
    (last : Text) (stack : List Frame) :
    exec step ⟨.nextKey, .object members last :: stack⟩ (quote :: (key ++ [quote, colon])) =
      some ⟨.value, .object members key :: stack⟩ := by
  have opened : step ⟨.nextKey, .object members last :: stack⟩ quote =
      some ⟨.string true [], .object members last :: stack⟩ := rfl
  rw [exec_cons, opened, Option.bind_some, exec_append, exec_unescaped unescaped]
  rfl

theorem exec_firstKey (text : Text) (stack : List Frame) :
    exec step ⟨.firstKey, stack⟩ (quote :: text) = exec step ⟨.nextKey, stack⟩ (quote :: text) :=
  rfl

/-- A key and the start of its string. -/
theorem exec_open {key : Text} (unescaped : Unescaped key) (members : List (Text × Value))
    (last : Text) (stack : List Frame) :
    exec step ⟨.nextKey, .object members last :: stack⟩ (quote :: (key ++ [quote, colon, quote])) =
      some ⟨.string false [], .object members key :: stack⟩ := by
  have split : quote :: (key ++ [quote, colon, quote]) =
      quote :: (key ++ [quote, colon]) ++ [quote] := by simp
  rw [split, exec_append, exec_key unescaped]
  rfl

/-- What a text has to do in the place of a member's value. -/
def Reads (text : Text) (v : Value) : Prop :=
  ∀ members key stack c, c = comma ∨ c = closeBrace →
    exec step ⟨.value, .object members key :: stack⟩ (text ++ [c]) =
      stepEnd ⟨.after, .object (members ++ [(key, v)]) key :: stack⟩ c

theorem reads_string {text : Text} (unescaped : Unescaped text) :
    Reads (quote :: (text ++ [quote])) (.string text) := by
  intro members key stack c _
  have opened : step ⟨.value, .object members key :: stack⟩ quote =
      some ⟨.string false [], .object members key :: stack⟩ := rfl
  rw [List.cons_append, exec_cons, opened, Option.bind_some, List.append_assoc, exec_append,
    exec_unescaped unescaped]
  simp [exec_cons, step, endString, complete]

theorem reads_true : Reads [116, 114, 117, 101] (.bool true) := by
  rintro members key stack c (rfl | rfl) <;> rfl

theorem reads_false : Reads [102, 97, 108, 115, 101] (.bool false) := by
  rintro members key stack c (rfl | rfl) <;> rfl

theorem exec_digits {digits : Text} (all : ∀ c ∈ digits, isDigit c = true) (literal : Text)
    (stack : List Frame) : exec step ⟨.number .digits literal, stack⟩ digits =
      some ⟨.number .digits (literal ++ digits), stack⟩ := by
  induction digits generalizing literal with
  | nil => simp
  | cons c digits ih =>
      obtain ⟨here, all⟩ := List.forall_mem_cons.mp all
      have one : step ⟨.number .digits literal, stack⟩ c =
          some ⟨.number .digits (literal ++ [c]), stack⟩ := by
        simp [step, NumberState.next, here]
      rw [exec_cons, one, Option.bind_some, ih all, List.append_assoc]
      rfl

/-- Integers as they are usually written: no zero in front, a minus or none. -/
inductive Integer : Text → Prop where
  | zero : Integer [48]
  | positive {c : Nat} {digits : Text} (first : isDigit c = true) (nonzero : c ≠ 48)
      (all : ∀ d ∈ digits, isDigit d = true) : Integer (c :: digits)
  | negative {c : Nat} {digits : Text} (first : isDigit c = true) (nonzero : c ≠ 48)
      (all : ∀ d ∈ digits, isDigit d = true) : Integer (45 :: c :: digits)

theorem reads_integer {literal : Text} (integer : Integer literal) :
    Reads literal (.number literal) := by
  intro members key stack c separator
  cases integer with
  | zero => rcases separator with rfl | rfl <;> rfl
  | @positive d digits first nonzero all =>
      have opened : step ⟨.value, .object members key :: stack⟩ d =
          some ⟨.number .digits [d], .object members key :: stack⟩ := by
        have bounds : 48 ≤ d ∧ d ≤ 57 := by simpa [isDigit] using first
        have positive : 49 ≤ d := by omega
        have small := bounds.2
        interval_cases d <;> rfl
      rw [List.cons_append, exec_cons, opened, Option.bind_some, exec_append, exec_digits all]
      rcases separator with rfl | rfl <;> rfl
  | @negative d digits first nonzero all =>
      have opened : step ⟨.value, .object members key :: stack⟩ 45 =
          some ⟨.number .minus [45], .object members key :: stack⟩ := rfl
      have second : step ⟨.number .minus [45], .object members key :: stack⟩ d =
          some ⟨.number .digits [45, d], .object members key :: stack⟩ := by
        simp [step, NumberState.next, first, nonzero]
      rw [List.cons_append, exec_cons, opened, Option.bind_some, List.cons_append, exec_cons,
        second, Option.bind_some, exec_append, exec_digits all]
      rcases separator with rfl | rfl <;> rfl

/-! How long the strings can be that a text puts into the open objects -/

/-- A string member of an object that is still open. -/
def Holds (stack : List Frame) (key text : Text) : Prop :=
  ∃ members last, Frame.object members last ∈ stack ∧ (key, Value.string text) ∈ members

/-- The length of the string that is being read. -/
def Mode.pending : Mode → Nat
  | .string _ buffer | .escape _ buffer | .hex _ buffer _ _ => buffer.length
  | _ => 0

/-- Every string that has been read is an old one or shorter than a bound. -/
structure Short (bound : Nat) (old : Text → Text → Prop) (s : State) : Prop where
  held : ∀ key text, Holds s.stack key text → old key text ∨ text.length < bound
  pending : s.mode.pending < bound

theorem Holds.tail {f : Frame} {stack : List Frame} {key text : Text}
    (holds : Holds stack key text) : Holds (f :: stack) key text := by
  obtain ⟨members, last, frame, member⟩ := holds
  exact ⟨members, last, List.mem_cons_of_mem f frame, member⟩

theorem holds_object {members : List (Text × Value)} {last key text : Text} {stack : List Frame} :
    Holds (.object members last :: stack) key text ↔
      (key, .string text) ∈ members ∨ Holds stack key text := by
  constructor
  · rintro ⟨found, word, frame, member⟩
    rcases List.mem_cons.mp frame with same | later
    · cases same
      exact .inl member
    · exact .inr ⟨found, word, later, member⟩
  · rintro (member | holds)
    · exact ⟨members, last, List.mem_cons_self, member⟩
    · exact holds.tail

theorem holds_array {elements : List Value} {key text : Text} {stack : List Frame} :
    Holds (.array elements :: stack) key text ↔ Holds stack key text := by
  constructor
  · rintro ⟨found, word, frame, member⟩
    rcases List.mem_cons.mp frame with same | later
    · cases same
    · exact ⟨found, word, later, member⟩
  · exact Holds.tail

theorem holds_complete {v : Value} {stack : List Frame} {key text : Text}
    (holds : Holds (complete v stack).stack key text) :
    Holds stack key text ∨ v = .string text := by
  unfold complete at holds
  split at holds
  · exact .inl holds
  · exact .inl (holds_array.mpr (holds_array.mp holds))
  · rcases holds_object.mp holds with member | later
    · rcases List.mem_append.mp member with old | new
      · exact .inl (holds_object.mpr (.inl old))
      · cases List.mem_singleton.mp new
        exact .inr rfl
    · exact .inl later.tail

theorem complete_pending (v : Value) (stack : List Frame) :
    (complete v stack).mode.pending = 0 := by
  unfold complete
  split <;> rfl

/-- A step that reads no string: nothing is pending after it and no string is new. -/
def Quiet (stack : List Frame) (t : State) : Prop :=
  t.mode.pending = 0 ∧ ∀ key text, Holds t.stack key text → Holds stack key text

theorem complete_quiet {v : Value} (other : ∀ text, v ≠ .string text) (stack : List Frame) :
    Quiet stack (complete v stack) :=
  ⟨complete_pending v stack, fun _ text holds => (holds_complete holds).resolve_right (other text)⟩

theorem Quiet.tail {f : Frame} {stack : List Frame} {t : State} (quiet : Quiet stack t) :
    Quiet (f :: stack) t := ⟨quiet.1, fun key text holds => (quiet.2 key text holds).tail⟩

theorem closeArray_quiet {stack : List Frame} {t : State} (closed : closeArray stack = some t) :
    Quiet stack t := by
  unfold closeArray at closed
  split at closed
  · cases closed
    exact Quiet.tail (complete_quiet (by nofun) _)
  · cases closed

theorem closeObject_quiet {stack : List Frame} {t : State} (closed : closeObject stack = some t) :
    Quiet stack t := by
  unfold closeObject at closed
  split at closed
  · cases closed
    exact Quiet.tail (complete_quiet (by nofun) _)
  · cases closed

/-- The first condition of a chain holds, or the rest of the chain decides. -/
theorem guarded_some {p : Prop} [Decidable p] {s t : State} {rest : Option State}
    (taken : (if p then some s else rest) = some t) : s = t ∨ rest = some t := by
  split at taken
  · exact .inl (Option.some.inj taken)
  · exact .inr taken

theorem stepValue_quiet {stack : List Frame} {c : Nat} {t : State}
    (taken : stepValue stack c = some t) : Quiet stack t := by
  unfold stepValue at taken
  iterate 2
    obtain rfl | taken := guarded_some taken
    · exact ⟨rfl, fun _ _ holds => holds⟩
  obtain rfl | taken := guarded_some taken
  · exact ⟨rfl, fun _ _ holds => (holds_object.mp holds).resolve_left List.not_mem_nil⟩
  obtain rfl | taken := guarded_some taken
  · exact ⟨rfl, fun _ _ holds => holds_array.mp holds⟩
  -- a number or a word begins
  iterate 6
    obtain rfl | taken := guarded_some taken
    · exact ⟨rfl, fun _ _ holds => holds⟩
  cases taken

theorem stepKey_quiet {mode : Mode} {stack : List Frame} {c : Nat} {t : State}
    (idle : mode.pending = 0) (taken : stepKey mode stack c = some t) : Quiet stack t := by
  unfold stepKey at taken
  split_ifs at taken <;> cases taken
  · exact ⟨idle, fun _ _ holds => holds⟩
  · exact ⟨rfl, fun _ _ holds => holds⟩

theorem stepEnd_quiet {s t : State} {c : Nat} (idle : s.mode.pending = 0)
    (taken : stepEnd s c = some t) : Quiet s.stack t := by
  unfold stepEnd at taken
  split at taken
  · cases taken
    exact ⟨idle, fun _ _ holds => holds⟩
  split at taken
  · split at taken
    · split at taken
      next same =>
        cases taken
        exact ⟨rfl, fun _ _ holds => same ▸ holds⟩
      next same =>
        cases taken
        exact ⟨rfl, fun _ _ holds => same ▸ holds_object.mpr (holds_object.mp holds)⟩
      next => cases taken
    split at taken
    · exact closeArray_quiet taken
    split at taken
    · exact closeObject_quiet taken
    · cases taken
  · cases taken

theorem Quiet.short {stack : List Frame} {t : State} {bound : Nat} {old : Text → Text → Prop}
    (quiet : Quiet stack t)
    (held : ∀ key text, Holds stack key text → old key text ∨ text.length < bound) :
    Short (bound + 1) old t := by
  refine ⟨fun key text holds => ?_, ?_⟩
  · exact (held key text (quiet.2 key text holds)).imp_right Nat.lt_succ_of_lt
  · rw [quiet.1]
    exact Nat.succ_pos bound

theorem complete_short {bound : Nat} {old : Text → Text → Prop} {stack : List Frame}
    {buffer : Text} (held : ∀ key text, Holds stack key text → old key text ∨ text.length < bound)
    (small : buffer.length < bound) : Short bound old (complete (.string buffer) stack) := by
  refine ⟨fun key text holds => ?_, ?_⟩
  · rcases holds_complete holds with before | new
    · exact held key text before
    · cases new
      exact .inr small
  · rw [complete_pending]
    exact Nat.zero_lt_of_lt small

/-- Each code unit makes the string that is read longer by one at most. -/
theorem step_short {bound : Nat} {old : Text → Text → Prop} {s t : State} {c : Nat}
    (short : Short bound old s) (taken : step s c = some t) : Short (bound + 1) old t := by
  obtain ⟨mode, stack⟩ := s
  obtain ⟨held, pending⟩ := short
  have later (key text : Text) (holds : Holds stack key text) :
      old key text ∨ text.length < bound + 1 :=
    (held key text holds).imp_right Nat.lt_succ_of_lt
  have grown {isKey : Bool} {buffer : Text} (small : buffer.length < bound) (d : Nat) :
      Short (bound + 1) old ⟨.string isKey (buffer ++ [d]), stack⟩ := by
    refine ⟨later, ?_⟩
    simpa [Mode.pending] using small
  cases mode with
  | value => exact (stepValue_quiet taken).short held
  | firstElement =>
      simp only [step] at taken
      split at taken
      · exact (closeArray_quiet taken).short held
      split at taken
      · cases taken
        exact ⟨later, Nat.succ_pos bound⟩
      · exact (stepValue_quiet taken).short held
  | firstKey =>
      simp only [step] at taken
      split at taken
      · exact (closeObject_quiet taken).short held
      · exact (stepKey_quiet rfl taken).short held
  | nextKey => exact (stepKey_quiet rfl taken).short held
  | colon =>
      simp only [step] at taken
      split_ifs at taken <;> cases taken
      · exact ⟨later, Nat.succ_pos bound⟩
      · exact ⟨later, Nat.succ_pos bound⟩
  | after => exact (stepEnd_quiet rfl taken).short held
  | done v => exact (stepEnd_quiet rfl taken).short held
  | string isKey buffer =>
      simp only [step] at taken
      split_ifs at taken
      · cases isKey with
        | true =>
            simp only [endString, if_true] at taken
            split at taken
            next =>
              cases taken
              refine ⟨fun key text holds => later key text ?_, Nat.succ_pos bound⟩
              exact holds_object.mpr (holds_object.mp holds)
            next => cases taken
        | false =>
            cases taken
            exact complete_short later (Nat.lt_succ_of_lt pending)
      · cases taken
        exact ⟨later, Nat.lt_succ_of_lt pending⟩
      · cases taken
        exact grown pending c
  | escape isKey buffer =>
      simp only [step] at taken
      split at taken
      · cases taken
        exact ⟨later, Nat.lt_succ_of_lt pending⟩
      · obtain ⟨d, _, same⟩ := Option.map_eq_some_iff.mp taken
        exact same ▸ grown pending d
  | hex isKey buffer left code =>
      obtain ⟨d, _, same⟩ := Option.map_eq_some_iff.mp taken
      cases left with
      | zero => exact same ▸ grown pending _
      | succ left => exact same ▸ ⟨later, Nat.lt_succ_of_lt pending⟩
  | number state literal =>
      simp only [step] at taken
      split at taken
      · cases taken
        exact ⟨later, Nat.succ_pos bound⟩
      split at taken
      · have quiet := stepEnd_quiet (complete_pending _ _) taken
        have kept : Quiet stack (complete (.number literal) stack) :=
          complete_quiet (by nofun) stack
        exact quiet.short fun key text holds => held key text (kept.2 key text holds)
      · cases taken
  | word word seen =>
      simp only [step] at taken
      split_ifs at taken <;> cases taken
      · refine (complete_quiet ?_ stack).short held
        cases word <;> nofun
      · exact ⟨later, Nat.succ_pos bound⟩

theorem exec_short {bound : Nat} {old : Text → Text → Prop} {s t : State} {text : Text}
    (short : Short bound old s) (run : exec step s text = some t) :
    Short (bound + text.length) old t := by
  induction text generalizing bound s with
  | nil =>
      cases run
      exact short
  | cons c text ih =>
      obtain ⟨u, first, rest⟩ := exec_cons_some run
      rw [List.length_cons, Nat.add_comm text.length, ← Nat.add_assoc]
      exact ih (step_short short first) rest

theorem step_special {buffer : Text} {stack : List Frame} {c : Nat} {t : State}
    (special : ¬ (c ≠ quote ∧ c ≠ backslash ∧ 32 ≤ c))
    (taken : step ⟨.string false buffer, stack⟩ c = some t) :
    Short (buffer.length + 1) (Holds stack) t := by
  simp only [step] at taken
  split_ifs at taken with quoted escaped
  · cases taken
    exact complete_short (fun _ _ holds => .inl holds) (Nat.lt_succ_self _)
  · cases taken
    exact ⟨fun _ _ holds => .inl holds, Nat.lt_succ_self _⟩
  · next visible => exact absurd ⟨quoted, escaped, Nat.not_lt.mp visible⟩ special

/-- A text inside a string is taken as it is, or every string it makes is shorter than it. -/
theorem exec_string {buffer text : Text} {stack : List Frame} {t : State}
    (run : exec step ⟨.string false buffer, stack⟩ text = some t) :
    (Unescaped text ∧ t = ⟨.string false (buffer ++ text), stack⟩) ∨
      (¬ Unescaped text ∧ Short (buffer.length + text.length) (Holds stack) t) := by
  induction text generalizing buffer with
  | nil =>
      cases run
      exact .inl ⟨nofun, by rw [List.append_nil]⟩
  | cons c text ih =>
      obtain ⟨u, first, rest⟩ := exec_cons_some run
      rw [List.length_cons, Nat.add_comm text.length, ← Nat.add_assoc]
      by_cases plain : c ≠ quote ∧ c ≠ backslash ∧ 32 ≤ c
      · have same : u = ⟨.string false (buffer ++ [c]), stack⟩ := by
          simp only [step] at first
          rw [if_neg plain.1, if_neg plain.2.1, if_neg (Nat.not_lt.mpr plain.2.2)] at first
          exact (Option.some.inj first).symm
        subst same
        rcases ih rest with ⟨unescaped, rfl⟩ | ⟨special, short⟩
        · exact .inl ⟨List.forall_mem_cons.mpr ⟨plain, unescaped⟩, by rw [List.append_assoc]; rfl⟩
        · refine .inr ⟨fun all => special (List.forall_mem_cons.mp all).2, ?_⟩
          rwa [List.length_append] at short
      · refine .inr ⟨fun all => plain (List.forall_mem_cons.mp all).1, ?_⟩
        exact exec_short (step_special plain first) rest

theorem step_number_quote (state : NumberState) (literal : Text) (stack : List Frame) :
    step ⟨.number state literal, stack⟩ quote = none := by
  have closed : stepEnd (complete (.number literal) stack) quote = none := by
    unfold complete
    split <;> rfl
  cases state <;> first | rfl | exact closed

theorem step_word_quote (word : Option Bool) (seen : Nat) (stack : List Frame) :
    step ⟨.word word seen, stack⟩ quote = none := by
  have other : (wordText word)[seen]? ≠ some quote := by
    intro here
    have member := List.mem_of_getElem? here
    rcases word with _ | _ | _ <;> exact absurd member (by decide)
  simp only [step]
  rw [if_pos other]

theorem stepEnd_letter (v : Value) (stack : List Frame) : step (complete v stack) 101 = none := by
  unfold complete
  split <;> rfl

/-- Where a quote, a comma and a new key can follow: inside the string value of a member. -/
theorem leave_string {s t : State} {key rest : Text} (unescaped : Unescaped (101 :: key))
    (run : exec step s (quote :: comma :: quote :: 101 :: (key ++ quote :: colon :: rest)) =
      some t) :
    ∃ buffer members last stack, s = ⟨.string false buffer, .object members last :: stack⟩ := by
  obtain ⟨s₁, first, run⟩ := exec_cons_some run
  obtain ⟨s₂, second, run⟩ := exec_cons_some run
  obtain ⟨s₃, third, run⟩ := exec_cons_some run
  obtain ⟨s₄, fourth, run'⟩ := exec_cons_some run
  obtain ⟨mode, stack⟩ := s
  cases mode with
  | string isKey buffer =>
      cases isKey with
      | true =>
          rcases stack with _ | ⟨_ | _, stack⟩
          · cases first
          · cases first
          · cases first
            cases second
      | false =>
          rcases stack with _ | ⟨elements | ⟨members, last⟩, stack⟩
          · cases first
            cases second
          · cases first
            cases second
            cases third
            rw [← List.cons_append, exec_append, exec_unescaped unescaped] at run
            cases run
          · exact ⟨buffer, members, last, stack, rfl⟩
  | escape isKey buffer =>
      cases first
      cases second
      cases isKey with
      | true =>
          rcases stack with _ | ⟨_ | _, stack⟩
          · cases third
          · cases third
          · cases third
            cases fourth
      | false =>
          cases third
          rw [stepEnd_letter] at fourth
          cases fourth
  | hex isKey buffer left code => cases first
  | value | firstElement =>
      cases first
      cases second
      cases third
      rw [stepEnd_letter] at fourth
      cases fourth
  | firstKey | nextKey =>
      cases first
      cases second
      rcases stack with _ | ⟨_ | _, stack⟩
      · cases third
      · cases third
      · cases third
        cases fourth
  | colon => cases first
  | after => cases first
  | done v => cases first
  | number state literal =>
      rw [step_number_quote] at first
      cases first
  | word word seen =>
      rw [step_word_quote] at first
      cases first

/-- A quote and a brace end the whole text only after a string member of the outermost object. -/
theorem close_string {s t : State} {v : Value} (run : exec step s [quote, closeBrace] = some t)
    (finished : finish t = some v) : ∃ buffer members last,
      s = ⟨.string false buffer, [.object members last]⟩ ∧
        v = .object (members ++ [(last, Value.string buffer)]) := by
  obtain ⟨s₁, first, run⟩ := exec_cons_some run
  obtain ⟨s₂, second, run⟩ := exec_cons_some run
  cases run
  obtain ⟨mode, stack⟩ := s
  cases mode with
  | string isKey buffer =>
      cases isKey with
      | true =>
          rcases stack with _ | ⟨_ | _, stack⟩
          · cases first
          · cases first
          · cases first
            cases second
      | false =>
          rcases stack with _ | ⟨elements | ⟨members, last⟩, stack⟩
          · cases first
            cases second
          · cases first
            cases second
          · cases first
            cases second
            rcases stack with _ | ⟨_ | _, stack⟩
            · cases finished
              exact ⟨buffer, members, last, rfl, rfl⟩
            · cases finished
            · cases finished
  | escape | value | firstElement | firstKey | nextKey =>
      cases first
      cases second
      cases finished
  | hex | colon | after | done => cases first
  | number state literal =>
      rw [step_number_quote] at first
      cases first
  | word word seen =>
      rw [step_word_quote] at first
      cases first

/-- The strings of an object whose last member is about to end. -/
theorem Short.member {bound : Nat} {old : Text → Text → Prop} {buffer last : Text}
    {members : List (Text × Value)} {stack : List Frame}
    (short : Short bound old ⟨.string false buffer, .object members last :: stack⟩)
    {key text : Text} (member : (key, .string text) ∈ members ++ [(last, Value.string buffer)]) :
    old key text ∨ text.length < bound := by
  rcases List.mem_append.mp member with before | ending
  · exact short.held key text (holds_object.mpr (.inl before))
  · cases List.mem_singleton.mp ending
    exact .inr short.pending

/-! Objects that are written member by member -/

/-- A member with the text of its value. -/
structure Entry where
  key : Text
  text : Text
  value : Value

def Entry.member (e : Entry) : Text × Value := (e.key, e.value)

/-- The member as it is written, with the separator after it. -/
def Entry.render (e : Entry) : Text := quote :: (e.key ++ quote :: colon :: (e.text ++ [comma]))

structure Entry.Sound (e : Entry) : Prop where
  key : Unescaped e.key
  value : Reads e.text e.value

theorem Entry.Sound.exec {e : Entry} (sound : e.Sound) (members : List (Text × Value)) (last : Text)
    (stack : List Frame) : Transition.exec step ⟨.nextKey, .object members last :: stack⟩ e.render =
      some ⟨.nextKey, .object (members ++ [e.member]) [] :: stack⟩ := by
  have split : e.render = quote :: (e.key ++ [quote, colon]) ++ (e.text ++ [comma]) := by
    simp [Entry.render]
  rw [split, exec_append, exec_key sound.key, Option.bind_some, sound.value _ _ _ _ (.inl rfl)]
  rfl

theorem exec_entries {entries : List Entry} (sound : ∀ e ∈ entries, e.Sound)
    (members : List (Text × Value)) (stack : List Frame) :
    exec step ⟨.nextKey, .object members [] :: stack⟩ (entries.flatMap Entry.render) =
      some ⟨.nextKey, .object (members ++ entries.map Entry.member) [] :: stack⟩ := by
  induction entries generalizing members with
  | nil => simp
  | cons e entries ih =>
      obtain ⟨here, sound⟩ := List.forall_mem_cons.mp sound
      rw [List.flatMap_cons, exec_append, here.exec, Option.bind_some, ih sound, List.append_assoc]
      rfl

end Json
