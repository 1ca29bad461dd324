import Screenscrab.Library.Json
import Screenscrab.Library.Utf8

/-! Texts that stand for a JSON value wherever one can stand: strings with escapes, objects
member by member, arrays element by element. The same for texts in UTF-8. -/
namespace Json
open Transition

/-- A text in a string that stands for one code unit. -/
def Writes (out : Text) (c : Nat) : Prop :=
  ∀ isKey buffer stack, exec step ⟨.string isKey buffer, stack⟩ out =
    some ⟨.string isKey (buffer ++ [c]), stack⟩

theorem writes_self {c : Nat} (plain : c ≠ quote ∧ c ≠ backslash ∧ 32 ≤ c) : Writes [c] c := by
  intro isKey buffer stack
  have unescaped : Unescaped [c] := List.forall_mem_singleton.mpr plain
  exact exec_unescaped unescaped isKey buffer stack

theorem writes_escape {c d : Nat} (known : unescape c = some d) (other : c ≠ 117) :
    Writes [backslash, c] d := by
  intro isKey buffer stack
  have opened : step ⟨.string isKey buffer, stack⟩ backslash =
      some ⟨.escape isKey buffer, stack⟩ := rfl
  rw [exec_cons, opened, Option.bind_some, exec_cons]
  simp [step, other, known]

theorem exec_written {write : Nat → Text} {text : Text} (writes : ∀ c ∈ text, Writes (write c) c)
    (isKey : Bool) (buffer : Text) (stack : List Frame) :
    exec step ⟨.string isKey buffer, stack⟩ (text.flatMap write) =
      some ⟨.string isKey (buffer ++ text), stack⟩ := by
  induction text generalizing buffer with
  | nil => simp
  | cons c text ih =>
      obtain ⟨here, writes⟩ := List.forall_mem_cons.mp writes
      rw [List.flatMap_cons, exec_append, here, Option.bind_some, ih writes, List.append_assoc]
      rfl

/-- A text that the machine takes for a value and that needs nothing after it to end. -/
def Spells (text : Text) (v : Value) : Prop :=
  ∀ stack, exec step ⟨.value, stack⟩ text = some (complete v stack)

theorem Spells.parse {text : Text} {v : Value} (spells : Spells text v) :
    parse text = some v := by
  rw [Json.parse, spells, Option.bind_some]
  rfl

theorem Spells.reads {text : Text} {v : Value} (spells : Spells text v) : Reads text v := by
  intro members key stack c _
  rw [exec_append, spells, Option.bind_some, exec_cons]
  cases ended : step (complete v (.object members key :: stack)) c with
  | none => exact ended.symm
  | some t => exact ended.symm

theorem spells_string {write : Nat → Text} {text : Text}
    (writes : ∀ c ∈ text, Writes (write c) c) :
    Spells (quote :: (text.flatMap write ++ [quote])) (.string text) := by
  intro stack
  have opened : step ⟨.value, stack⟩ quote = some ⟨.string false [], stack⟩ := rfl
  rw [exec_cons, opened, Option.bind_some, exec_append, exec_written writes]
  rfl

/-- The last member of an object, which has no separator after it. -/
def Entry.bare (e : Entry) : Text := quote :: (e.key ++ quote :: colon :: e.text)

theorem Entry.Sound.closes {e : Entry} (sound : e.Sound) (members : List (Text × Value))
    (last : Text) (stack : List Frame) :
    Transition.exec step ⟨.nextKey, .object members last :: stack⟩ (e.bare ++ [closeBrace]) =
      some (complete (.object (members ++ [e.member])) stack) := by
  have split : e.bare ++ [closeBrace] =
      quote :: (e.key ++ [quote, colon]) ++ (e.text ++ [closeBrace]) := by
    simp [Entry.bare]
  rw [split, exec_append, exec_key sound.key, Option.bind_some, sound.value _ _ _ _ (.inr rfl)]
  rfl

/-- An object with at least one member. -/
def objectText (entries : List Entry) (last : Entry) : Text :=
  openBrace :: (entries.flatMap Entry.render ++ (last.bare ++ [closeBrace]))

theorem spells_object {entries : List Entry} {last : Entry} (sound : ∀ e ∈ entries, e.Sound)
    (ending : last.Sound) :
    Spells (objectText entries last) (.object (entries.map Entry.member ++ [last.member])) := by
  intro stack
  have opened : step ⟨.value, stack⟩ openBrace = some ⟨.firstKey, .object [] [] :: stack⟩ := rfl
  have first : ∃ rest, entries.flatMap Entry.render ++ (last.bare ++ [closeBrace]) =
      quote :: rest := by
    cases entries with
    | nil => exact ⟨_, rfl⟩
    | cons e entries => exact ⟨_, rfl⟩
  obtain ⟨rest, first⟩ := first
  rw [objectText, exec_cons, opened, Option.bind_some, first, exec_firstKey, ← first, exec_append,
    exec_entries sound, Option.bind_some, ending.closes]
  rfl

/-- Elements with the separators between them. -/
def elementsText : List Text → Text
  | [] => []
  | element :: elements => element ++ elements.flatMap (comma :: ·)

theorem exec_element {text : Text} {v : Value} (spells : Spells text v) (elements : List Value)
    (stack : List Frame) :
    exec step ⟨.after, .array elements :: stack⟩ (comma :: text) =
      some ⟨.after, .array (elements ++ [v]) :: stack⟩ := by
  have next : step ⟨.after, .array elements :: stack⟩ comma =
      some ⟨.value, .array elements :: stack⟩ := rfl
  rw [exec_cons, next, Option.bind_some, spells]
  rfl

/-- A bracket that opens an array may be followed by one that closes it, and else by what any
value begins with. -/
theorem exec_firstElement {text : Text} {stack : List Frame} {t : State}
    (run : exec step ⟨.value, stack⟩ text = some t) :
    exec step ⟨.firstElement, stack⟩ text = some t ∨ t = ⟨.value, stack⟩ := by
  induction text with
  | nil =>
      cases run
      exact .inr rfl
  | cons c text ih =>
      obtain ⟨s, first, rest⟩ := exec_cons_some run
      have open_ : c ≠ closeBracket := by
        rintro rfl
        cases first
      by_cases space : isSpace c = true
      · have same : step ⟨.value, stack⟩ c = some ⟨.value, stack⟩ := if_pos space
        have stays : step ⟨.firstElement, stack⟩ c = some ⟨.firstElement, stack⟩ := by
          simp only [step]
          rw [if_neg open_, if_pos space]
        obtain rfl : _ = s := Option.some.inj (same.symm.trans first)
        rw [exec_cons, stays, Option.bind_some]
        exact ih rest
      · have same : step ⟨.firstElement, stack⟩ c = step ⟨.value, stack⟩ c := by
          simp only [step]
          rw [if_neg open_, if_neg space]
        rw [exec_cons, same]
        exact .inl run

theorem exec_elements {elements : List (Text × Value)} (spells : ∀ e ∈ elements, Spells e.1 e.2)
    (before : List Value) (stack : List Frame) :
    exec step ⟨.after, .array before :: stack⟩ ((elements.map Prod.fst).flatMap (comma :: ·)) =
      some ⟨.after, .array (before ++ elements.map Prod.snd) :: stack⟩ := by
  induction elements generalizing before with
  | nil => simp
  | cons e elements ih =>
      obtain ⟨here, spells⟩ := List.forall_mem_cons.mp spells
      rw [List.map_cons, List.flatMap_cons, exec_append, exec_element here, Option.bind_some,
        ih spells, List.append_assoc]
      rfl

theorem spells_array {elements : List (Text × Value)} (spells : ∀ e ∈ elements, Spells e.1 e.2) :
    Spells (openBracket :: (elementsText (elements.map Prod.fst) ++ [closeBracket]))
      (.array (elements.map Prod.snd)) := by
  intro stack
  have opened : step ⟨.value, stack⟩ openBracket =
      some ⟨.firstElement, .array [] :: stack⟩ := rfl
  rw [exec_cons, opened, Option.bind_some]
  cases elements with
  | nil => rfl
  | cons e elements =>
      obtain ⟨here, spells⟩ := List.forall_mem_cons.mp spells
      have first := (exec_firstElement (here (.array [] :: stack))).resolve_right nofun
      rw [List.map_cons, elementsText, exec_append, exec_append, first, Option.bind_some,
        complete, exec_elements spells, Option.bind_some]
      rfl

/-! Texts in UTF-8 -/

abbrev Bytes := List UInt8

/-- Bytes whose decoding stands for a value. -/
def Renders (text : Bytes) (v : Value) : Prop := ∃ out, Utf8.decode text = some out ∧ Spells out v

theorem decode_cons {b : UInt8} (low : b < 0x80) {text : Bytes} {out : Text}
    (decoded : Utf8.decode text = some out) :
    Utf8.decode (b :: text) = some (b.toNat :: out) :=
  Utf8.decode_concat (Utf8.decode_ascii (List.forall_mem_singleton.mpr low)) decoded

theorem renders_string {put : UInt8 → Bytes} (low : ∀ b < 0x80, ∀ c ∈ put b, c < 0x80)
    {text : Bytes} {decoded : Text} (taken : Utf8.decode text = some decoded)
    (writes : ∀ c ∈ decoded, Writes (Utf8.putUnit put c) c) :
    Renders (34 :: (Utf8.replace put text ++ [34])) (.string decoded) := by
  refine ⟨_, decode_cons (by decide) ?_, spells_string writes⟩
  exact Utf8.decode_concat (Utf8.decode_replace low taken) rfl

/-- A member with the bytes of its value. -/
structure Field where
  key : Bytes
  text : Bytes
  value : Value

namespace Field

def member (f : Field) : Text × Value := (f.key.map UInt8.toNat, f.value)

def bytes (f : Field) : Bytes := 34 :: (f.key ++ 34 :: 58 :: f.text)

structure Sound (f : Field) : Prop where
  low : ∀ b ∈ f.key, b < 0x80
  key : Unescaped (f.key.map UInt8.toNat)
  value : ∃ out, Utf8.decode f.text = some out ∧ Reads out f.value

theorem Sound.entry {f : Field} (sound : f.Sound) : ∃ e : Entry, e.Sound ∧
    e.member = f.member ∧ Utf8.decode f.bytes = some e.bare := by
  obtain ⟨out, decoded, reads⟩ := sound.value
  refine ⟨⟨f.key.map UInt8.toNat, out, f.value⟩, ⟨sound.key, reads⟩, rfl, ?_⟩
  refine decode_cons (by decide) (Utf8.decode_concat (Utf8.decode_ascii sound.low) ?_)
  exact decode_cons (by decide) (decode_cons (by decide) decoded)

end Field

/-- An object with at least one member. -/
def objectBytes (fields : List Field) (last : Field) : Bytes :=
  123 :: (fields.flatMap (fun f => f.bytes ++ [44]) ++ (last.bytes ++ [125]))

theorem entries_of_fields {fields : List Field} (sound : ∀ f ∈ fields, f.Sound) :
    ∃ entries : List Entry, (∀ e ∈ entries, e.Sound) ∧
      entries.map Entry.member = fields.map Field.member ∧
      Utf8.decode (fields.flatMap fun f => f.bytes ++ [44]) =
        some (entries.flatMap Entry.render) := by
  induction fields with
  | nil => exact ⟨[], nofun, rfl, rfl⟩
  | cons f fields ih =>
      obtain ⟨here, sound⟩ := List.forall_mem_cons.mp sound
      obtain ⟨e, sound', member, first⟩ := here.entry
      obtain ⟨entries, all, members, later⟩ := ih sound
      refine ⟨e :: entries, List.forall_mem_cons.mpr ⟨sound', all⟩, ?_, ?_⟩
      · rw [List.map_cons, List.map_cons, member, members]
      · have render : e.render = e.bare ++ [comma] := by simp [Entry.render, Entry.bare]
        rw [List.flatMap_cons, List.flatMap_cons, render]
        exact Utf8.decode_concat (Utf8.decode_concat first rfl) later

theorem renders_object {fields : List Field} {last : Field} (sound : ∀ f ∈ fields, f.Sound)
    (ending : last.Sound) :
    Renders (objectBytes fields last) (.object (fields.map Field.member ++ [last.member])) := by
  obtain ⟨entries, all, members, decoded⟩ := entries_of_fields sound
  obtain ⟨e, sound', member, closing⟩ := ending.entry
  refine ⟨objectText entries e, ?_, ?_⟩
  · refine decode_cons (by decide) (Utf8.decode_concat decoded ?_)
    exact Utf8.decode_concat closing rfl
  · rw [← members, ← member]
    exact spells_object all sound'

def elementsBytes : List Bytes → Bytes
  | [] => []
  | element :: elements => element ++ elements.flatMap (44 :: ·)

theorem renders_array {elements : List (Bytes × Value)}
    (renders : ∀ e ∈ elements, Renders e.1 e.2) :
    Renders (91 :: (elementsBytes (elements.map Prod.fst) ++ [93]))
      (.array (elements.map Prod.snd)) := by
  have tail (later : List (Bytes × Value)) (renders : ∀ e ∈ later, Renders e.1 e.2) :
      ∃ spelled : List (Text × Value), (∀ e ∈ spelled, Spells e.1 e.2) ∧
        spelled.map Prod.snd = later.map Prod.snd ∧
        Utf8.decode ((later.map Prod.fst).flatMap (44 :: ·)) =
          some ((spelled.map Prod.fst).flatMap (comma :: ·)) := by
    induction later with
    | nil => exact ⟨[], nofun, rfl, rfl⟩
    | cons e later ih =>
        obtain ⟨⟨out, decoded, spells⟩, renders⟩ := List.forall_mem_cons.mp renders
        obtain ⟨spelled, all, values, texts⟩ := ih renders
        refine ⟨(out, e.2) :: spelled, List.forall_mem_cons.mpr ⟨spells, all⟩, ?_, ?_⟩
        · rw [List.map_cons, List.map_cons, values]
        · rw [List.map_cons, List.flatMap_cons, List.map_cons, List.flatMap_cons]
          exact Utf8.decode_concat (decode_cons (by decide) decoded) texts
  cases elements with
  | nil => exact ⟨_, rfl, @spells_array [] nofun⟩
  | cons e elements =>
      obtain ⟨⟨out, decoded, spells⟩, renders⟩ := List.forall_mem_cons.mp renders
      obtain ⟨spelled, all, values, texts⟩ := tail elements renders
      have every : ∀ d ∈ (out, e.2) :: spelled, Spells d.1 d.2 :=
        List.forall_mem_cons.mpr ⟨spells, all⟩
      have whole := spells_array every
      rw [List.map_cons, List.map_cons, values] at whole
      refine ⟨_, decode_cons (by decide) (Utf8.decode_concat ?_ rfl), whole⟩
      exact Utf8.decode_concat decoded texts

end Json
