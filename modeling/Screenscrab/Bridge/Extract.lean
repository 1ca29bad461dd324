import Mathlib.Data.Bool.AllAny
import Screenscrab.Bridge.StatusParser

/-! What the extraction functions read from text that is made of segments. -/
namespace Screenscrab.Bridge
open Search Decimal
open Network

instance : DecidablePred jsonMarks.letter := fun b =>
  inferInstanceAs (Decidable (65 ≤ b ∧ b ≤ 90 ∨ 97 ≤ b ∧ b ≤ 122))

/-- The text up to its first quote. -/
def unquoted (text : Bytes) : Bytes := text.takeWhile (· ≠ quoteByte)

theorem quoteByte_notMem_unquoted (text : Bytes) : quoteByte ∉ unquoted text := by
  intro member
  simpa using List.mem_takeWhile_imp member

theorem unquoted_of_notMem {text : Bytes} (absent : quoteByte ∉ text) : unquoted text = text := by
  refine List.takeWhile_eq_self_iff.mpr fun b member => decide_eq_true ?_
  rintro rfl
  exact absent member

theorem unquoted_split (text rest : Bytes) :
    ∃ more, text ++ quoteByte :: rest = unquoted text ++ quoteByte :: more := by
  induction text with
  | nil => exact ⟨rest, rfl⟩
  | cons b text ih =>
      by_cases quoted : b = quoteByte
      · exact ⟨text ++ quoteByte :: rest, by simp [unquoted, quoted]⟩
      · obtain ⟨more, split⟩ := ih
        refine ⟨more, ?_⟩
        rw [List.cons_append, split, unquoted, unquoted,
          List.takeWhile_cons_of_pos (by simp [quoted])]
        rfl

/-- The string that the first label of a key is followed by. -/
def Quoted (json : Bytes) (key : String) (string : Bytes) : Prop :=
  ∃ front gap rest, json = front ++ (needle jsonMarks (ascii key) ++
      (gap ++ quoteByte :: (string ++ quoteByte :: rest))) ∧
    find (needle jsonMarks (ascii key)) json = some front.length ∧
    quoteByte ∉ gap ∧ quoteByte ∉ string

theorem extractJsonString_quoted {json string : Bytes} {key : String}
    (quoted : Quoted json key string) : extractJsonString json key = string := by
  obtain ⟨front, gap, rest, rfl, start, gapFree, stringFree⟩ := quoted
  unfold extractJsonString
  generalize needle jsonMarks (ascii key) = label at start ⊢
  have opening := findFrom_mark (front ++ label) (string ++ quoteByte :: rest) gapFree
  have closing := findFrom_mark (front ++ (label ++ (gap ++ [quoteByte]))) rest stringFree
  have string_drop :
      (front ++ (label ++ (gap ++ [quoteByte])) ++ (string ++ quoteByte :: rest)).drop
        (front ++ (label ++ (gap ++ [quoteByte]))).length = string ++ quoteByte :: rest :=
    List.drop_left
  simp only [List.append_assoc, List.length_append, List.cons_append, List.nil_append,
    List.length_cons, List.length_nil, ← Nat.add_assoc, Nat.zero_add]
    at opening closing string_drop
  simp only [start, opening, closing, substr, string_drop]
  rw [Nat.sub_sub, Nat.add_sub_cancel_left, List.take_left]

/-- An extracted string is one that stands there, unless it is empty. -/
theorem quoted_of_extract {json : Bytes} {key : String} (some_ : extractJsonString json key ≠ []) :
    Quoted json key (extractJsonString json key) := by
  unfold extractJsonString at some_ ⊢
  unfold Quoted
  generalize needle jsonMarks (ascii key) = label at some_ ⊢
  cases start : find label json with
  | none => simp [start] at some_
  | some labelStart =>
      cases opening : findFrom (· = quoteByte) json (labelStart + label.length) with
      | none => simp [start, opening] at some_
      | some valueStart =>
          cases closing : findFrom (· = quoteByte) json (valueStart + 1) with
          | none => simp [start, opening, closing] at some_
          | some valueEnd =>
              obtain ⟨gap, gap_split, gapFree, gap_end⟩ := findFrom_cut opening
              obtain ⟨string, string_split, stringFree, string_end⟩ := findFrom_cut closing
              obtain ⟨behind, label_split⟩ := find_begins start
              have inside := findFrom_bound opening
              have extracted : substr json (valueStart + 1) (valueEnd - valueStart - 1) =
                  string := by
                rw [substr, string_split, string_end, Nat.sub_sub, Nat.add_sub_cancel_left,
                  List.take_left]
              have behind_eq : behind = gap ++ quoteByte :: (string ++ quoteByte ::
                  json.drop (valueEnd + 1)) := by
                rw [← string_split, ← gap_split, ← List.drop_drop, ← label_split, List.drop_left]
              simp only [start, opening, closing, extracted]
              refine ⟨json.take labelStart, gap, json.drop (valueEnd + 1), ?_, ?_, gapFree,
                stringFree⟩
              · rw [← behind_eq, label_split, List.take_append_drop]
              · rw [List.length_take, Nat.min_eq_left (by omega)]

section segments
variable {key : String} {segments back : List (Segment UInt8)}

theorem find_key (valid : Key jsonMarks (ascii key)) (sound : ∀ s ∈ segments, s.Sound jsonMarks)
    (first : .label (ascii key) ∉ segments) (rest : Bytes) :
    find (needle jsonMarks (ascii key))
      (render jsonMarks segments ++ (needle jsonMarks (ascii key) ++ rest)) =
        some (render jsonMarks segments).length := by
  have found := find_label valid sound first (List.nil_prefix : [] <+: rest)
  rwa [List.append_nil] at found

/-- The first string after the label of a key is extracted, whatever stands before it. -/
theorem extractJsonString_split (valid : Key jsonMarks (ascii key))
    (sound : ∀ s ∈ segments, s.Sound jsonMarks) (first : .label (ascii key) ∉ segments)
    {gap value : Bytes} (rest : Bytes) (gapFree : quoteByte ∉ gap)
    (valueFree : quoteByte ∉ value) :
    extractJsonString (render jsonMarks segments ++ (needle jsonMarks (ascii key) ++
      (gap ++ quoteByte :: (value ++ quoteByte :: rest)))) key = value :=
  extractJsonString_quoted ⟨_, gap, rest, rfl, find_key valid sound first _, gapFree, valueFree⟩

theorem extractJsonBool_split (valid : Key jsonMarks (ascii key))
    (sound : ∀ s ∈ segments, s.Sound jsonMarks) (first : .label (ascii key) ∉ segments)
    {value : Bytes} {stop : UInt8} (rest : Bytes) (inside : ∀ b ∈ value, b ∉ ascii ",\x7d]")
    (stops : stop ∈ ascii ",\x7d]") :
    extractJsonBool (render jsonMarks segments ++
      (needle jsonMarks (ascii key) ++ (value ++ stop :: rest))) key = value := by
  have start := find_key valid sound first (value ++ stop :: rest)
  generalize render jsonMarks segments = front at start ⊢
  unfold extractJsonBool
  generalize needle jsonMarks (ascii key) = label at start ⊢
  have rejected : ∀ b ∈ value, (fun b => decide (b ∈ ascii ",\x7d]")) b = false :=
    fun b member => decide_eq_false (inside b member)
  have closing := findFrom_split (front ++ label) rest rejected (decide_eq_true stops)
  have value_drop : (front ++ label ++ (value ++ stop :: rest)).drop (front ++ label).length =
      value ++ stop :: rest := List.drop_left
  simp only [List.append_assoc, List.length_append] at closing value_drop
  simp only [start, closing, substr, value_drop]
  rw [Nat.add_sub_cancel_left, List.take_left]

variable (valid : Key jsonMarks (ascii key)) (sound : ∀ s ∈ segments, s.Sound jsonMarks)
include valid sound

theorem extract_text {body : Bytes} {stop : UInt8}
    (found : after (ascii key) segments = some (.text body stop :: back)) (rest : Bytes) :
    extractJsonString (render jsonMarks segments ++ rest) key = unquoted body := by
  obtain ⟨front, rfl, first⟩ := after_split found
  obtain ⟨more, split⟩ := unquoted_split body (stop :: (render jsonMarks back ++ rest))
  have read := extractJsonString_split valid
    (fun s member => sound s (List.mem_append_left _ member)) first more List.not_mem_nil
    (quoteByte_notMem_unquoted body)
  rw [List.nil_append, ← split] at read
  simpa [Segment.render, jsonMarks] using read

/-- A member without quotes: the first string after it is the next key. -/
theorem extract_bare {cs other : Bytes}
    (found : after (ascii key) segments = some (.bare cs :: .label other :: back)) (rest : Bytes) :
    extractJsonString (render jsonMarks segments ++ rest) key = other := by
  obtain ⟨front, rfl, first⟩ := after_split found
  have bareSound := sound (.bare cs) (by simp)
  have labelSound := sound (.label other) (by simp)
  have read := extractJsonString_split valid
    (fun s member => sound s (List.mem_append_left _ member)) first
    (colonByte :: (render jsonMarks back ++ rest)) bareSound labelSound
  simpa [Segment.render, needle, jsonMarks] using read

theorem extract_bool {cs : Bytes} {b : Bool} {stop : UInt8}
    (found : after (ascii key) segments = some (.bare (encodeBool b ++ stop :: cs) :: back))
    (stops : stop ∈ ascii ",\x7d]") (rest : Bytes) :
    extractJsonBool (render jsonMarks segments ++ rest) key = encodeBool b := by
  obtain ⟨front, rfl, first⟩ := after_split found
  have inside : ∀ c ∈ encodeBool b, c ∉ ascii ",\x7d]" :=
    List.all_iff_forall_prop.mp (by cases b <;> decide)
  have read := extractJsonBool_split valid
    (fun s member => sound s (List.mem_append_left _ member)) first
    (cs ++ (render jsonMarks back ++ rest)) inside stops
  simpa [Segment.render] using read

end segments

end Screenscrab.Bridge
