import Mathlib.Data.List.Basic

/-! Substring search, and the keys it finds in text whose strings stand between quotes. -/
namespace Search

universe u
variable {α : Type u}

/-- The position of the first occurrence of a needle. -/
def find [DecidableEq α] (needle : List α) : List α → Option Nat
  | [] => if needle = [] then some 0 else none
  | c :: text => if needle <+: c :: text then some 0 else (find needle text).map (· + 1)

/-- The first position from `start` on that holds an accepted element. -/
def findFrom (accept : α → Bool) (text : List α) (start : Nat) : Option Nat :=
  ((text.drop start).findIdx? accept).map (· + start)

/-- No occurrence of the needle starts in the front of `front ++ rest`. -/
def Free (needle : List α) : List α → List α → Prop
  | [], _ => True
  | c :: front, rest => ¬ needle <+: c :: (front ++ rest) ∧ Free needle front rest

theorem find_of_prefix [DecidableEq α] {needle text : List α} (here : needle <+: text) :
    find needle text = some 0 := by
  cases text with
  | nil => simp [find, List.prefix_nil.mp here]
  | cons c text => simp only [find, here, if_true]

theorem find_free [DecidableEq α] {needle front rest : List α} (free : Free needle front rest) :
    find needle (front ++ rest) = (find needle rest).map (· + front.length) := by
  induction front with
  | nil => simp
  | cons c front ih =>
      rw [List.cons_append, find, if_neg free.1, ih free.2, Option.map_map]
      rfl

theorem find_split [DecidableEq α] {needle front rest : List α} (free : Free needle front rest)
    (here : needle <+: rest) : find needle (front ++ rest) = some front.length := by
  simp [find_free free, find_of_prefix here]

theorem Free.append {needle front middle rest : List α}
    (first : Free needle front (middle ++ rest)) (second : Free needle middle rest) :
    Free needle (front ++ middle) rest := by
  induction front with
  | nil => exact second
  | cons c front ih =>
      refine ⟨fun found => first.1 ?_, ih first.2⟩
      rw [← List.append_assoc]
      exact found

theorem Free.of_prefix {needle longer front rest : List α} (begins : needle <+: longer)
    (free : Free needle front rest) : Free longer front rest := by
  induction front with
  | nil => trivial
  | cons c front ih => exact ⟨fun found => free.1 (begins.trans found), ih free.2⟩

theorem free_of_notMem {first : α} {needle front : List α} (rest : List α)
    (absent : first ∉ front) : Free (first :: needle) front rest := by
  induction front with
  | nil => trivial
  | cons c front ih =>
      obtain ⟨different, absent⟩ := List.ne_and_not_mem_of_not_mem_cons absent
      exact ⟨fun found => different (List.cons_prefix_cons.mp found).1, ih absent⟩

theorem findFrom_split {accept : α → Bool} (front : List α) {middle : List α} {c : α}
    (rest : List α) (rejected : ∀ d ∈ middle, accept d = false) (accepted : accept c = true) :
    findFrom accept (front ++ (middle ++ c :: rest)) front.length =
      some (front.length + middle.length) := by
  rw [findFrom, List.drop_left, List.findIdx?_append,
    List.findIdx?_eq_none_iff.mpr rejected, Option.none_or, List.findIdx?_cons, accepted]
  simp [Nat.add_comm]

theorem findFrom_mark [DecidableEq α] {mark : α} (front : List α) {middle : List α}
    (rest : List α) (absent : mark ∉ middle) :
    findFrom (· = mark) (front ++ (middle ++ mark :: rest)) front.length =
      some (front.length + middle.length) := by
  refine findFrom_split front rest (fun c member => decide_eq_false ?_) (decide_eq_true rfl)
  rintro rfl
  exact absent member

theorem findFrom_accepted {accept : α → Bool} {text : List α} {start position : Nat}
    (found : findFrom accept text start = some position) :
    ∃ c, text[position]? = some c ∧ accept c = true := by
  obtain ⟨offset, first, rfl⟩ := Option.map_eq_some_iff.mp found
  have accepted := List.of_findIdx?_eq_some first
  rw [List.getElem?_drop, Nat.add_comm] at accepted
  split at accepted
  next c here => exact ⟨c, here, accepted⟩
  next => cases accepted

theorem find_begins [DecidableEq α] {needle text : List α} {start : Nat}
    (found : find needle text = some start) : needle <+: text.drop start := by
  induction text generalizing start with
  | nil =>
      rw [find] at found
      split at found
      · next empty => exact empty ▸ List.nil_prefix
      · cases found
  | cons c text ih =>
      rw [find] at found
      split at found
      · next here =>
          cases found
          exact here
      · obtain ⟨offset, later, rfl⟩ := Option.map_eq_some_iff.mp found
        exact ih later

theorem find_bound [DecidableEq α] {needle text : List α} {start : Nat}
    (found : find needle text = some start) (some_ : needle ≠ []) :
    start + needle.length ≤ text.length := by
  have shorter := (find_begins found).length_le
  have filled := List.length_pos_iff.mpr some_
  rw [List.length_drop] at shorter
  omega

theorem findFrom_bound {accept : α → Bool} {text : List α} {start position : Nat}
    (found : findFrom accept text start = some position) : position < text.length := by
  obtain ⟨c, here, -⟩ := findFrom_accepted found
  exact (List.getElem?_eq_some_iff.mp here).1

theorem findFrom_none [DecidableEq α] {mark : α} {text : List α} {start : Nat}
    (missing : findFrom (· = mark) text start = none) : mark ∉ text.drop start := by
  rw [findFrom, Option.map_eq_none_iff, List.findIdx?_eq_none_iff] at missing
  intro member
  simpa using missing mark member

/-- The text from `start` on is cut at the first mark. -/
theorem findFrom_cut [DecidableEq α] {mark : α} {text : List α} {start position : Nat}
    (found : findFrom (· = mark) text start = some position) :
    ∃ middle, text.drop start = middle ++ mark :: text.drop (position + 1) ∧
      mark ∉ middle ∧ position = start + middle.length := by
  obtain ⟨offset, first, rfl⟩ := Option.map_eq_some_iff.mp found
  obtain ⟨inside, accepted, before⟩ := List.findIdx?_eq_some_iff_getElem.mp first
  have here : (text.drop start)[offset] = mark := by simpa using accepted
  refine ⟨(text.drop start).take offset, ?_, ?_, ?_⟩
  · rw [Nat.add_comm offset start, Nat.add_assoc, ← List.drop_drop, ← here,
      ← List.drop_eq_getElem_cons inside, List.take_append_drop]
  · intro member
    obtain ⟨i, small, equal⟩ := List.mem_take_iff_getElem.mp member
    exact before i (by omega) (by simpa using equal)
  · rw [List.length_take, Nat.min_eq_left (Nat.le_of_lt inside), Nat.add_comm]

/-- Two texts that agree up to the first mark of each are the same up to it. -/
theorem cut_unique [DecidableEq α] {mark : α} {a b more rest : List α} (leftFree : mark ∉ a)
    (rightFree : mark ∉ b) (begins : a ++ mark :: more <+: b ++ mark :: rest) : a = b := by
  obtain ⟨tail, same⟩ := begins
  rw [List.append_assoc, List.cons_append] at same
  have firstMark := congrArg (List.takeWhile (fun c => decide (c ≠ mark))) same
  have all {part : List α} (absent : mark ∉ part) :
      ∀ c ∈ part, (fun c => decide (c ≠ mark)) c = true := fun c member =>
    decide_eq_true fun equal => absent (equal ▸ member)
  rw [List.takeWhile_append_of_pos (all leftFree), List.takeWhile_append_of_pos (all rightFree)]
    at firstMark
  simpa using firstMark

/-- The marks of a text whose strings stand between quotes, and the letters of its keys. -/
structure Marks (α : Type u) where
  quote : α
  escape : α
  colon : α
  letter : α → Prop
  quote_ne_escape : quote ≠ escape
  colon_ne_quote : colon ≠ quote
  quote_not_letter : ¬ letter quote
  escape_not_letter : ¬ letter escape
  colon_not_letter : ¬ letter colon

/-- Each quote stands directly after an escape, the element before the text counted. -/
def Guarded (m : Marks α) : α → List α → Prop
  | _, [] => True
  | before, c :: text => (c = m.quote → before = m.escape) ∧ Guarded m c text

/-- Pieces of a text: a key with its colon, a string with the separator after it, and
what has no quote. -/
inductive Segment (α : Type u) where
  | label (key : List α)
  | text (body : List α) (stop : α)
  | bare (cs : List α)
  deriving DecidableEq

/-- What a search for a key looks for. -/
def needle (m : Marks α) (key : List α) : List α := m.quote :: (key ++ [m.quote, m.colon])

def Segment.render (m : Marks α) : Segment α → List α
  | .label key => needle m key
  | .text body stop => m.quote :: (body ++ [m.quote, stop])
  | .bare cs => cs

def render (m : Marks α) (segments : List (Segment α)) : List α :=
  segments.flatMap (Segment.render m)

/-- What stands after the first label of a key. -/
def after [DecidableEq α] (key : List α) : List (Segment α) → Option (List (Segment α))
  | [] => none
  | s :: segments => if s = .label key then some segments else after key segments

structure Key (m : Marks α) (key : List α) : Prop where
  nonempty : key ≠ []
  letters : ∀ c ∈ key, m.letter c

instance (m : Marks α) [DecidablePred m.letter] (key : List α) : Decidable (Key m key) :=
  decidable_of_iff (key ≠ [] ∧ ∀ c ∈ key, m.letter c)
    ⟨fun both => ⟨both.1, both.2⟩, fun valid => ⟨valid.nonempty, valid.letters⟩⟩

def Segment.Sound (m : Marks α) : Segment α → Prop
  | .label key => m.quote ∉ key
  | .text body stop => Guarded m m.quote body ∧ stop ≠ m.quote ∧ stop ≠ m.colon ∧ ¬ m.letter stop
  | .bare cs => m.quote ∉ cs

section quoted
variable {m : Marks α}

@[simp] theorem render_nil : render m [] = [] := rfl

@[simp] theorem render_cons (s : Segment α) (more : List (Segment α)) :
    render m (s :: more) = s.render m ++ render m more := rfl

@[simp] theorem render_append (front rest : List (Segment α)) :
    render m (front ++ rest) = render m front ++ render m rest := List.flatMap_append

theorem notMem_render {segments : List (Segment α)} {c : α}
    (absent : ∀ s ∈ segments, c ∉ s.render m) : c ∉ render m segments := by
  intro found
  obtain ⟨s, member, here⟩ := List.mem_flatMap.mp found
  exact absent s member here

theorem Guarded.of_notMem {text : List α} (absent : m.quote ∉ text) (before : α) :
    Guarded m before text := by
  induction text generalizing before with
  | nil => trivial
  | cons c text ih =>
      obtain ⟨different, absent⟩ := List.ne_and_not_mem_of_not_mem_cons absent
      exact ⟨fun same => absurd same.symm different, ih absent c⟩

theorem Guarded.append {front rest : List α} {before : α} (first : Guarded m before front)
    (second : ∀ last, Guarded m last rest) : Guarded m before (front ++ rest) := by
  induction front generalizing before with
  | nil => exact second before
  | cons c front ih => exact ⟨first.1, ih first.2⟩

variable {key : List α}

theorem Key.notMem (valid : Key m key) {c : α} (other : ¬ m.letter c) : c ∉ key :=
  fun member => other (valid.letters c member)

/-- A key with its closing quote and its colon is no front of a guarded text that another
separator follows: the quote that closes the key would have to be the one that ends the text. -/
theorem guarded_not_key {body rest : List α} {stop before : α}
    (letters : ∀ c ∈ key, m.letter c) (other : stop ≠ m.colon)
    (guarded : Guarded m before body) (plain : before ≠ m.escape) :
    ¬ key ++ [m.quote, m.colon] <+: body ++ m.quote :: stop :: rest := by
  induction key generalizing body before with
  | nil =>
      cases body with
      | nil =>
          intro found
          have next := (List.cons_prefix_cons.mp found).2
          exact other (List.cons_prefix_cons.mp next).1.symm
      | cons c body =>
          intro found
          exact plain (guarded.1 (List.cons_prefix_cons.mp found).1.symm)
  | cons k key ih =>
      obtain ⟨letter, letters⟩ := List.forall_mem_cons.mp letters
      cases body with
      | nil =>
          intro found
          rw [(List.cons_prefix_cons.mp found).1] at letter
          exact m.quote_not_letter letter
      | cons c body =>
          intro found
          obtain ⟨same, later⟩ := List.cons_prefix_cons.mp found
          subst same
          refine ih letters guarded.2 ?_ later
          rintro rfl
          exact m.escape_not_letter letter

theorem not_key_of_head {text : List α} {c : α} (valid : Key m key) (other : ¬ m.letter c) :
    ¬ key ++ [m.quote, m.colon] <+: c :: text := by
  obtain ⟨nonempty, letters⟩ := valid
  cases key with
  | nil => exact absurd rfl nonempty
  | cons k key =>
      intro found
      rw [← (List.cons_prefix_cons.mp found).1] at other
      exact other (letters k List.mem_cons_self)

theorem free_text {body : List α} {stop : α} (valid : Key m key)
    (sound : (Segment.text body stop).Sound m) (rest : List α) :
    Free (needle m key) ((Segment.text body stop).render m) rest := by
  obtain ⟨guarded, notQuote, notColon, notLetter⟩ := sound
  -- an occurrence starts at a quote, so at one inside the body or at one of the two around it
  have inner (tail : List α) (before : α) (inside : Guarded m before tail) :
      Free (needle m key) (tail ++ [m.quote, stop]) rest := by
    induction tail generalizing before with
    | nil =>
        refine ⟨fun found => ?_, ?_, trivial⟩
        · exact not_key_of_head valid notLetter (List.cons_prefix_cons.mp found).2
        · exact fun found => notQuote (List.cons_prefix_cons.mp found).1.symm
    | cons c tail ih =>
        refine ⟨fun found => ?_, ih c inside.2⟩
        obtain ⟨same, later⟩ := List.cons_prefix_cons.mp found
        subst same
        have found : key ++ [m.quote, m.colon] <+: tail ++ [m.quote, stop] ++ rest := later
        rw [List.append_assoc] at found
        exact guarded_not_key valid.letters notColon inside.2 m.quote_ne_escape found
  refine ⟨fun found => ?_, inner body m.quote guarded⟩
  have found := (List.cons_prefix_cons.mp found).2
  rw [List.append_assoc] at found
  exact guarded_not_key valid.letters notColon guarded m.quote_ne_escape found

theorem free_label [DecidableEq α] {other : List α} (valid : Key m key)
    (sound : (Segment.label other).Sound m) (different : key ≠ other) (rest : List α) :
    Free (needle m key) ((Segment.label other).render m) rest := by
  refine ⟨fun found => ?_, Free.append (free_of_notMem _ sound) ⟨fun found => ?_, ?_, trivial⟩⟩
  · have found := (List.cons_prefix_cons.mp found).2
    rw [List.append_assoc] at found
    exact different (cut_unique (valid.notMem m.quote_not_letter) sound found)
  · exact not_key_of_head valid m.colon_not_letter (List.cons_prefix_cons.mp found).2
  · exact fun found => m.colon_ne_quote (List.cons_prefix_cons.mp found).1.symm

theorem free_render [DecidableEq α] {segments : List (Segment α)} (valid : Key m key)
    (sound : ∀ s ∈ segments, s.Sound m) (first : .label key ∉ segments) (rest : List α) :
    Free (needle m key) (render m segments) rest := by
  induction segments with
  | nil => trivial
  | cons s segments ih =>
      obtain ⟨here, sound⟩ := List.forall_mem_cons.mp sound
      obtain ⟨different, first⟩ := List.ne_and_not_mem_of_not_mem_cons first
      refine Free.append ?_ (ih sound first)
      cases s with
      | label other => exact free_label valid here (fun same => different (same ▸ rfl)) _
      | text body stop => exact free_text valid here _
      | bare cs => exact free_of_notMem _ here

theorem after_split [DecidableEq α] {segments back : List (Segment α)}
    (found : after key segments = some back) :
    ∃ front, segments = front ++ .label key :: back ∧ .label key ∉ front := by
  induction segments with
  | nil => cases found
  | cons s segments ih =>
      rw [after] at found
      split at found
      next here =>
        cases found
        exact ⟨[], by rw [here]; rfl, List.not_mem_nil⟩
      next other =>
        obtain ⟨front, split, first⟩ := ih found
        refine ⟨s :: front, by rw [split]; rfl, ?_⟩
        exact List.not_mem_cons_of_ne_of_not_mem (Ne.symm other) first

/-- A search for a key, and for what directly follows it, ends at its first label. -/
theorem find_label [DecidableEq α] {front : List (Segment α)} {more rest : List α}
    (valid : Key m key) (sound : ∀ s ∈ front, s.Sound m) (first : .label key ∉ front)
    (begins : more <+: rest) :
    find (needle m key ++ more) (render m front ++ (needle m key ++ rest)) =
      some (render m front).length := by
  refine find_split ?_ ((List.prefix_append_right_inj _).mpr begins)
  exact Free.of_prefix (List.prefix_append _ _) (free_render valid sound first _)

end quoted

end Search
