import Screenscrab.Bridge.ReadBack
import Screenscrab.Bridge.Locks

/-! Which status texts `refresh_status` survives. `substr` never starts behind its text, and the
conversions of the peers' numbers throw on what the scanner may find in their place. -/
namespace Screenscrab.Bridge
open Search Decimal Locked Locked.Call
open Network (quoteByte openBrace closeBrace jsonMarks)

/-- Where the parser starts a `substr`, which throws only behind the end of the text. -/
structure InRange (json : Bytes) : Prop where
  string : ∀ key start valueStart valueEnd, find (needle jsonMarks (ascii key)) json = some start →
    findFrom (· = quoteByte) json (start + (needle jsonMarks (ascii key)).length) =
      some valueStart →
    findFrom (· = quoteByte) json (valueStart + 1) = some valueEnd → valueStart + 1 ≤ json.length
  bool : ∀ key start, find (needle jsonMarks (ascii key)) json = some start →
    start + (needle jsonMarks (ascii key)).length ≤ json.length
  identity : ∀ start,
    find (needle jsonMarks (ascii "identity") ++ ascii "\x7b") json = some start →
      start + 11 ≤ json.length
  peers : ∀ start, find (needle jsonMarks (ascii "peers") ++ ascii "[") json = some start →
    start + 8 ≤ json.length
  peer : ∀ cursor objectStart, findFrom (· = openBrace) json cursor = some objectStart →
    objectStart ≤ json.length

theorem inRange (json : Bytes) : InRange json := by
  refine ⟨?_, ?_, ?_, ?_, ?_⟩
  · intro key start valueStart valueEnd _ opening _
    exact findFrom_bound opening
  · intro key start found
    exact find_bound found (List.cons_ne_nil _ _)
  · intro start found
    have bound := find_bound found (List.append_ne_nil_of_left_ne_nil (List.cons_ne_nil _ _) _)
    exact Nat.le_trans (Nat.add_le_add_left (by decide) start) bound
  · intro start found
    have bound := find_bound found (List.append_ne_nil_of_left_ne_nil (List.cons_ne_nil _ _) _)
    exact Nat.le_trans (Nat.add_le_add_left (by decide) start) bound
  · intro cursor objectStart found
    exact Nat.le_of_lt (findFrom_bound found)

theorem isSpace_of_isDigit {c : UInt8} (digit : IsDigit c) : isSpace c = false := by
  unfold IsDigit at digit
  unfold isSpace
  simp only [UInt8.le_iff_toNat_le, UInt8.reduceToNat] at digit
  simp only [Bool.or_eq_false_iff, Bool.and_eq_false_iff, decide_eq_false_iff_not,
    UInt8.le_iff_toNat_le, ← UInt8.toNat_inj, UInt8.reduceToNat]
  omega

/-- A text as `stoul` reads it: spaces, a sign, and digits that something else ends. -/
structure Scanned (text spaces sign digits rest : Bytes) : Prop where
  split : text = spaces ++ (sign ++ (digits ++ rest))
  blank : ∀ c ∈ spaces, isSpace c = true
  signed : sign = [] ∨ sign = [43] ∨ sign = [45]
  some_ : digits ≠ []
  digits : ∀ c ∈ digits, IsDigit c
  stops : ∀ c ∈ rest.head?, ¬ IsDigit c

/-- A text that the conversion of a peer's number accepts. -/
def Numeric (text : Bytes) : Prop :=
  text = [] ∨ ∃ spaces sign digits rest, Scanned text spaces sign digits rest ∧
    value (digits.map UInt8.toNat) < 2 ^ 32

theorem takeWhile_digits {digits rest : Bytes} (all : ∀ c ∈ digits, IsDigit c)
    (stops : ∀ c ∈ rest.head?, ¬ IsDigit c) :
    (digits ++ rest).takeWhile (fun c => decide (IsDigit c)) = digits := by
  rw [List.takeWhile_append_of_pos fun c member => decide_eq_true (all c member)]
  cases rest with
  | nil => exact List.append_nil _
  | cons c rest =>
      have other := stops c rfl
      rw [List.takeWhile_cons_of_neg (by simpa using other), List.append_nil]

theorem stoul_scanned {text spaces sign digits rest : Bytes}
    (scanned : Scanned text spaces sign digits rest) :
    stoul text ≠ none ↔ value (digits.map UInt8.toNat) < 2 ^ 32 := by
  obtain ⟨rfl, blank, signed, some_, all, stops⟩ := scanned
  obtain ⟨first, more, rfl⟩ := List.exists_cons_of_ne_nil some_
  have firstDigit := all first List.mem_cons_self
  have unspaced : (spaces ++ (sign ++ (first :: more ++ rest))).dropWhile isSpace =
      sign ++ (first :: more ++ rest) := by
    rw [List.dropWhile_append_of_pos blank]
    rcases signed with rfl | rfl | rfl
    · exact List.dropWhile_cons_of_neg (by simp [isSpace_of_isDigit firstDigit])
    · exact List.dropWhile_cons_of_neg (by decide)
    · exact List.dropWhile_cons_of_neg (by decide)
  have unsigned : (if (sign ++ (first :: more ++ rest)).head? = some 45 ∨
      (sign ++ (first :: more ++ rest)).head? = some 43 then
        (sign ++ (first :: more ++ rest)).tail
      else sign ++ (first :: more ++ rest)) = first :: more ++ rest := by
    rcases signed with rfl | rfl | rfl
    · have plain : ¬ (first = 45 ∨ first = 43) := by
        rintro (rfl | rfl) <;> exact absurd firstDigit (by decide)
      simpa using plain
    · rfl
    · rfl
  unfold stoul
  dsimp only
  rw [unspaced, unsigned, takeWhile_digits all stops]
  split
  · next bad =>
      have large := bad.resolve_left (List.cons_ne_nil _ _)
      exact iff_of_false (by simp) (by omega)
  · next good =>
      exact iff_of_true (by simp) (by omega)

theorem scanned_of_stoul {text : Bytes} (converts : stoul text ≠ none) :
    ∃ spaces sign digits rest, Scanned text spaces sign digits rest := by
  obtain ⟨sign, body, unspaced, signed, some_⟩ : ∃ sign body,
      text.dropWhile isSpace = sign ++ body ∧ (sign = [] ∨ sign = [43] ∨ sign = [45]) ∧
      body.takeWhile (fun c => decide (IsDigit c)) ≠ [] := by
    unfold stoul at converts
    dsimp only at converts
    generalize text.dropWhile isSpace = unspaced at converts
    have some_ : (if unspaced.head? = some 45 ∨ unspaced.head? = some 43 then unspaced.tail
        else unspaced).takeWhile (fun c => decide (IsDigit c)) ≠ [] :=
      fun empty => converts (if_pos (.inl empty))
    split at some_
    · next signed =>
        cases unspaced with
        | nil => simp at signed
        | cons c more =>
            rcases signed with minus | plus
            · cases Option.some.inj minus
              exact ⟨[45], more, rfl, .inr (.inr rfl), some_⟩
            · cases Option.some.inj plus
              exact ⟨[43], more, rfl, .inr (.inl rfl), some_⟩
    · exact ⟨[], unspaced, rfl, .inl rfl, some_⟩
  refine ⟨text.takeWhile isSpace, sign, body.takeWhile fun c => decide (IsDigit c),
    body.dropWhile fun c => decide (IsDigit c), ?_, ?_, signed, some_, ?_, ?_⟩
  · rw [List.takeWhile_append_dropWhile, ← unspaced, List.takeWhile_append_dropWhile]
  · exact fun c member => List.mem_takeWhile_imp member
  · intro c member
    simpa using List.mem_takeWhile_imp member
  · intro c first
    have stopped := List.head?_dropWhile_not (fun c => decide (IsDigit c)) body
    rw [first] at stopped
    simpa using stopped

theorem readNumber_some_iff (text : Bytes) : readNumber text ≠ none ↔ Numeric text := by
  unfold readNumber Numeric
  split
  · next empty => exact iff_of_true (by simp) (.inl empty)
  · next some_ =>
      rw [or_iff_right some_]
      constructor
      · intro converts
        obtain ⟨spaces, sign, digits, rest, scanned⟩ := scanned_of_stoul converts
        exact ⟨spaces, sign, digits, rest, scanned, (stoul_scanned scanned).mp converts⟩
      · rintro ⟨spaces, sign, digits, rest, scanned, small⟩
        exact (stoul_scanned scanned).mpr small

/-- The texts that the loop over the peers takes for objects: each runs from an open brace to
the first closing one, and the next is looked for behind it. -/
inductive PeerText : Bytes → Bytes → Prop where
  | first (front inside rest : Bytes) : openBrace ∉ front → closeBrace ∉ inside →
      PeerText (front ++ openBrace :: (inside ++ closeBrace :: rest))
        (openBrace :: (inside ++ [closeBrace]))
  | later (front inside rest text : Bytes) : openBrace ∉ front → closeBrace ∉ inside →
      PeerText rest text → PeerText (front ++ openBrace :: (inside ++ closeBrace :: rest)) text

theorem PeerText.braces {body text : Bytes} (piece : PeerText body text) :
    ∃ front rest, body = front ++ openBrace :: rest ∧ openBrace ∉ front ∧ closeBrace ∈ rest := by
  cases piece with
  | first front inside rest frontFree _ | later front inside rest _ frontFree _ _ =>
      exact ⟨front, _, rfl, frontFree, by simp⟩

/-- The part of a text before its first mark, and the part behind it, are its own. -/
theorem cut_inj {mark : UInt8} {a b more rest : Bytes} (leftFree : mark ∉ a)
    (rightFree : mark ∉ b) (same : a ++ mark :: more = b ++ mark :: rest) :
    a = b ∧ more = rest := by
  have front : a = b := cut_unique leftFree rightFree ⟨[], (List.append_nil _).trans same⟩
  subst front
  exact ⟨rfl, (List.cons.inj (List.append_cancel_left same)).2⟩

theorem peerText_iff {front inside rest text : Bytes} (frontFree : openBrace ∉ front)
    (insideFree : closeBrace ∉ inside) :
    PeerText (front ++ openBrace :: (inside ++ closeBrace :: rest)) text ↔
      text = openBrace :: (inside ++ [closeBrace]) ∨ PeerText rest text := by
  constructor
  · generalize body_eq : front ++ openBrace :: (inside ++ closeBrace :: rest) = body
    intro piece
    cases piece with
    | first front' inside' rest' frontFree' insideFree' =>
        obtain ⟨-, behind⟩ := cut_inj frontFree frontFree' body_eq
        obtain ⟨rfl, -⟩ := cut_inj insideFree insideFree' behind
        exact .inl rfl
    | later front' inside' rest' _ frontFree' insideFree' piece =>
        obtain ⟨-, behind⟩ := cut_inj frontFree frontFree' body_eq
        obtain ⟨-, rfl⟩ := cut_inj insideFree insideFree' behind
        exact .inr piece
  · rintro (rfl | piece)
    · exact .first front inside rest frontFree insideFree
    · exact .later front inside rest text frontFree insideFree piece

/-- The text between the cursor and the object, the object, and what is behind it. -/
theorem object_cut {body : Bytes} {cursor objectStart objectEnd : Nat}
    (start : findFrom (· = openBrace) body cursor = some objectStart)
    (stop : findFrom (· = closeBrace) body objectStart = some objectEnd) :
    ∃ front inside, body.drop cursor =
        front ++ openBrace :: (inside ++ closeBrace :: body.drop (objectEnd + 1)) ∧
      openBrace ∉ front ∧ closeBrace ∉ inside ∧
      substr body objectStart (objectEnd - objectStart + 1) =
        openBrace :: (inside ++ [closeBrace]) := by
  obtain ⟨front, opened, frontFree, rfl⟩ := findFrom_cut start
  obtain ⟨middle, closed, middleFree, rfl⟩ := findFrom_cut stop
  have here : body.drop (cursor + front.length) =
      openBrace :: body.drop (cursor + front.length + 1) := by
    rw [← List.drop_drop, opened, List.drop_left]
  cases middle with
  | nil =>
      rw [here] at closed
      exact absurd (List.cons.inj closed).1 (by decide)
  | cons c inside =>
      have both := closed
      rw [here] at both
      obtain ⟨rfl, behind⟩ := List.cons.inj both
      refine ⟨front, inside, ?_, frontFree, (middleFree <| List.mem_cons_of_mem _ ·), ?_⟩
      · rw [opened, behind]
        rfl
      · rw [substr, closed, Nat.add_sub_cancel_left]
        simp [List.take_append]

/-- Both numbers of a peer's text can be converted. -/
def NumericPeer (text : Bytes) : Prop :=
  ∀ key ∈ ["latencyMs", "quality"], ∀ string, Quoted text key string → Numeric string

theorem quoted_numeric_iff (text : Bytes) (key : String) :
    readNumber (extractJsonString text key) ≠ none ↔
      ∀ string, Quoted text key string → Numeric string := by
  rw [readNumber_some_iff]
  constructor
  · intro numeric string quoted
    rw [← extractJsonString_quoted quoted]
    exact numeric
  · intro every
    by_cases empty : extractJsonString text key = []
    · exact .inl empty
    · exact every _ (quoted_of_extract empty)

theorem parsePeer_some_iff (text : Bytes) : parsePeer text ≠ none ↔ NumericPeer text := by
  have latency := quoted_numeric_iff text "latencyMs"
  have quality := quoted_numeric_iff text "quality"
  simp only [NumericPeer, List.forall_mem_cons, List.not_mem_nil, false_imp_iff, implies_true,
    and_true]
  rw [← latency, ← quality]
  unfold parsePeer
  cases readNumber (extractJsonString text "latencyMs") <;>
    cases readNumber (extractJsonString text "quality") <;> simp

theorem parsePeers_some_iff (body : Bytes) (cursor : Nat) (pushed : List TailnetPeer) :
    parsePeers body cursor pushed ≠ none ↔
      ∀ text, PeerText (body.drop cursor) text → NumericPeer text := by
  induction cursor, pushed using parsePeers.induct body with
  | case1 cursor pushed inside start =>
      have absent := findFrom_none start
      rw [parsePeers_eq, if_pos inside, start]
      refine iff_of_true (by simp) fun text piece => ?_
      obtain ⟨front, rest, split, -⟩ := piece.braces
      exact absurd (by simp [split]) absent
  | case2 cursor pushed inside first start stop =>
      have absent := findFrom_none stop
      obtain ⟨front, opened, frontFree, rfl⟩ := findFrom_cut start
      rw [parsePeers_eq, if_pos inside, start]
      simp only [stop]
      refine iff_of_true (by simp) fun text piece => ?_
      obtain ⟨front', rest, split, frontFree', closes⟩ := piece.braces
      obtain ⟨-, rfl⟩ := cut_inj frontFree' frontFree (split.symm.trans opened)
      refine absurd ?_ absent
      rw [← List.drop_drop, opened, List.drop_left]
      exact List.mem_cons_of_mem _ closes
  | case3 cursor pushed inside first start last stop failed =>
      obtain ⟨front, within, split, frontFree, withinFree, object⟩ := object_cut start stop
      rw [object] at failed
      rw [parsePeers_eq, if_pos inside, start]
      simp only [stop, object, failed]
      refine iff_of_false (by simp) fun every => ?_
      rw [split] at every
      have numeric := every _ ((peerText_iff frontFree withinFree).mpr (.inl rfl))
      exact absurd failed ((parsePeer_some_iff _).mpr numeric)
  | case4 cursor pushed inside first start last stop peer read ih =>
      obtain ⟨front, within, split, frontFree, withinFree, object⟩ := object_cut start stop
      rw [object] at read
      rw [parsePeers_eq, if_pos inside, start]
      simp only [stop, object, read, Option.bind_some]
      rw [ih, split]
      have numeric := (parsePeer_some_iff _).mp (by rw [read]; exact Option.some_ne_none peer)
      constructor
      · intro every text piece
        rcases (peerText_iff frontFree withinFree).mp piece with rfl | piece
        · exact numeric
        · exact every text piece
      · intro every text piece
        exact every text ((peerText_iff frontFree withinFree).mpr (.inr piece))
  | case5 cursor pushed outside =>
      rw [parsePeers_eq, if_neg outside, List.drop_eq_nil_of_le (by omega)]
      refine iff_of_true (by simp) fun text piece => ?_
      obtain ⟨front, rest, split, -⟩ := piece.braces
      exact absurd split (by simp)

/-- Every object behind the label of the peers has numbers that can be converted. -/
def Readable (text : Bytes) : Prop :=
  ∀ start, find (needle jsonMarks (ascii "peers") ++ ascii "[") text = some start →
    ∀ peer, PeerText (text.drop (start + 8)) peer → NumericPeer peer

theorem parseStatusJson_some_iff (text : Bytes) : parseStatusJson text ≠ none ↔ Readable text := by
  unfold parseStatusJson Readable
  dsimp only
  rw [ne_eq, Option.map_eq_none_iff]
  cases find (needle jsonMarks (ascii "peers") ++ ascii "[") text with
  | none => exact iff_of_true (by simp) fun start found => by cases found
  | some start =>
      refine (parsePeers_some_iff _ 0 []).trans ?_
      rw [List.drop_zero]
      constructor
      · intro every other same
        cases same
        exact every
      · intro every
        exact every start rfl

/-! What a refresh leaves, whether or not its caller holds the lock. -/

/-- The call does not throw, and a failure leaves the identity and the peers as they are. -/
def Survives (p : Process) : Outcome Process Bool → Prop
  | .returned false next =>
    next.bridge.identity = p.bridge.identity ∧ next.bridge.peers = p.bridge.peers
  | .returned true _ | .relocked => True
  | .thrown _ => False

theorem failed_survives (error : Bytes) (held : Bool) {p next : Process}
    (same : next.bridge = p.bridge) :
    Survives p ((do updateError error; pure false : Call Process Bool) held next) := by
  cases held with
  | true => trivial
  | false =>
      show next.bridge.identity = p.bridge.identity ∧ next.bridge.peers = p.bridge.peers
      rw [same]
      exact ⟨rfl, rfl⟩

theorem loaded_bridge (p : Process) (loading : Loading) : (p.loaded loading).bridge = p.bridge := by
  unfold Process.loaded
  split <;> rfl

/-- The way to the DLL's function fails without a throw, and without touching what is kept. -/
theorem withExport_survives (answers : Answers) (loading : Loading) (name : String)
    (body : Call Process Bool) (held : Bool) (p : Process) :
    Survives p (withExport answers loading name false body held p) ↔
      (Found answers p loading name → Survives p (body held (p.loaded loading))) := by
  unfold withExport
  by_cases tried : Tried answers (p.loaders loading)
  · rw [bind_returned (loadOnce_tried tried), if_pos rfl, bind_returned (get_apply held _)]
    by_cases module : ((p.loaded loading).loaders loading).module = true
    · rw [if_neg (by simp [module])]
      by_cases exported : answers.exports name = true
      · rw [if_neg (by simp [exported])]
        have available := (available_iff ..).mpr ⟨tried, module⟩
        exact ⟨fun kept _ => kept, fun kept => kept ⟨available, exported⟩⟩
      · rw [if_pos (by simpa using exported)]
        exact iff_of_true (failed_survives _ _ (loaded_bridge p loading)) fun found =>
          absurd found.exported exported
    · rw [if_pos (by simpa using module)]
      exact iff_of_true (failed_survives _ _ (loaded_bridge p loading)) fun found =>
        absurd ((available_iff ..).mp found.available).2 module
  · refine iff_of_true ?_ fun found => absurd ((available_iff ..).mp found.available).1 tried
    obtain ⟨loader, fails⟩ := @loadOnce_failing answers loading p held tried
    cases held with
    | true =>
        rw [bind_relocked (fails.trans (failed_held _ _ _))]
        trivial
    | false =>
        rw [bind_returned fails]
        exact ⟨rfl, rfl⟩

/-- The texts that the DLL returns to the call, if the call comes to ask for one. -/
def Asked (answers : Answers) (p : Process) (text : Bytes) : Prop :=
  Found answers p .refreshStatus "Network_GetStatus" ∧ answers.status = some text

theorem refreshStatus_survives_iff (answers : Answers) (held : Bool) (p : Process) :
    Survives p (refreshStatus answers held p) ↔ ∀ text, Asked answers p text → Readable text := by
  apply (withExport_survives _ _ _ _ held p).trans
  constructor
  · intro survives text asked
    obtain ⟨found, status⟩ := asked
    have here := survives found
    rw [status] at here
    rw [← parseStatusJson_some_iff]
    intro unread
    simp only [unread] at here
    exact here
  · intro every found
    cases status : answers.status with
    | none => exact failed_survives _ held (loaded_bridge p _)
    | some text =>
        have readable := (parseStatusJson_some_iff text).mpr (every text ⟨found, status⟩)
        obtain ⟨parsed, read⟩ := Option.ne_none_iff_exists'.mp readable
        simp only [read]
        cases held <;> trivial

theorem survives_loaded (p : Process) (loading : Loading) (outcome : Outcome Process Bool) :
    Survives (p.loaded loading) outcome ↔ Survives p outcome := by
  unfold Survives
  rw [loaded_bridge]

/-- The function behind the two exported ones that poll the status. -/
theorem refreshRuntime_survives_iff (answers : Answers) (p : Process) :
    Survives p (refreshRuntime answers false p) ↔
      (Found answers p .refreshRuntime "Network_Refresh" → answers.refresh = 0 →
        ∀ text, Asked answers p text → Readable text) := by
  apply (withExport_survives _ _ _ _ true p).trans
  apply imp_congr_right
  intro _
  by_cases zero : answers.refresh = 0
  · have asked : ∀ text, Asked answers (p.loaded .refreshRuntime) text ↔ Asked answers p text :=
      fun text => and_congr_left' (BridgeCall.found_loaded (by decide) _)
    rw [if_neg (not_not_intro zero), ← survives_loaded p .refreshRuntime,
      refreshStatus_survives_iff]
    simp only [asked, zero, true_imp_iff]
  · rw [if_pos zero]
    exact iff_of_true (failed_survives _ _ (loaded_bridge p _)) fun none_ => absurd none_ zero

/-- The scanner keeps within its text, but a refresh survives a status exactly when the numbers
of every peer in it can be converted. -/
theorem refresh_survives_iff (answers : Answers) (p : Process) :
    (∀ json, InRange json) ∧
    (∀ held, Survives p (refreshStatus answers held p) ↔
      ∀ text, Asked answers p text → Readable text) ∧
    (Survives p (refreshRuntime answers false p) ↔
      (Found answers p .refreshRuntime "Network_Refresh" → answers.refresh = 0 →
        ∀ text, Asked answers p text → Readable text)) :=
  ⟨inRange, fun held => refreshStatus_survives_iff answers held p,
    refreshRuntime_survives_iff answers p⟩

/-- A status with a peer whose numbers are numbers: the string behind the first is `quality`. -/
theorem refresh_throws_on_numbers :
    ¬ ∀ (answers : Answers) (p : Process), Survives p (refreshRuntime answers false p) := by
  intro survives
  let peer := ascii "\x7b\"latencyMs\":12,\"quality\":34\x7d"
  let text := ascii "\x7b\"peers\":[" ++ peer ++ ascii "]\x7d"
  let answers : Answers :=
    { path := ascii "screenscrab_network.dll", loads := true, exports := fun _ => true,
      login := 0, refresh := 0, connectPeer := 1, status := some text }
  have found (loading : Loading) (name : String) : Found answers {} loading name :=
    ⟨(if_neg Bool.false_ne_true).mpr ⟨by decide, rfl⟩, rfl⟩
  have readable := (refreshRuntime_survives_iff answers {}).mp (survives answers {}) (found _ _) rfl
    text ⟨found _ _, rfl⟩
  have numeric := readable 1 (by decide) peer
    (.first (ascii "[") (ascii "\"latencyMs\":12,\"quality\":34") (ascii "]\x7d") (by decide)
      (by decide))
  exact absurd (by decide : parsePeer peer = none) ((parsePeer_some_iff peer).mpr numeric)

end Screenscrab.Bridge
