import Screenscrab.Network.Api
import Screenscrab.Library.Decimal
import Screenscrab.Library.Search

/-! The text that `json.Marshal` writes for an `api.Status`: compact, the members in the order
of the declarations, strings escaped for HTML too. -/
namespace Screenscrab.Network
open Decimal Search

def quoteByte : UInt8 := 34
def backslash : UInt8 := 92
def colonByte : UInt8 := 58
def comma : UInt8 := 44
def openBrace : UInt8 := 123
def closeBrace : UInt8 := 125

/-- The marks of JSON text, for keys that are English letters. -/
def jsonMarks : Marks UInt8 where
  quote := quoteByte
  escape := backslash
  colon := colonByte
  letter := fun b => 65 ≤ b ∧ b ≤ 90 ∨ 97 ≤ b ∧ b ≤ 122
  quote_ne_escape := by decide
  colon_ne_quote := by decide
  quote_not_letter := by decide
  escape_not_letter := by decide
  colon_not_letter := by decide

/-- The table of the ASCII bytes that encoding/json copies into a string. -/
def htmlSafe (b : UInt8) : Bool :=
  32 ≤ b && b < 128 && b ≠ quoteByte && b ≠ backslash && b ≠ 60 && b ≠ 62 && b ≠ 38

def isContinuation (b : UInt8) : Bool := 0x80 ≤ b && b ≤ 0xBF

/-- What the second byte of a rune may be after some first bytes. -/
def acceptRange (first : UInt8) : UInt8 × UInt8 :=
  if first = 0xE0 then (0xA0, 0xBF)
  else if first = 0xED then (0x80, 0x9F)
  else if first = 0xF0 then (0x90, 0xBF)
  else if first = 0xF4 then (0x80, 0x8F)
  else (0x80, 0xBF)

def bits (count : Nat) (b : UInt8) : Nat := b.toNat % 2 ^ count

/-- `utf8.DecodeRuneInString` after a byte that is not ASCII: the rune and how many bytes
follow its first, or `none` for `RuneError` and one byte. -/
def decodeRune (first : UInt8) (src : Bytes) : Option (Nat × Nat) :=
  match src with
  | [] => none
  | second :: src =>
    let (low, high) := acceptRange first
    if ¬ (low ≤ second ∧ second ≤ high) then none
    else if 0xC2 ≤ first ∧ first ≤ 0xDF then some (bits 5 first * 2 ^ 6 + bits 6 second, 1)
    else match src with
      | [] => none
      | third :: src =>
        if ¬ isContinuation third then none
        else if 0xE0 ≤ first ∧ first ≤ 0xEF then
          some (bits 4 first * 2 ^ 12 + bits 6 second * 2 ^ 6 + bits 6 third, 2)
        else match src with
          | [] => none
          | fourth :: _ =>
            if ¬ isContinuation fourth then none
            else if 0xF0 ≤ first ∧ first ≤ 0xF4 then
              some (bits 3 first * 2 ^ 18 + bits 6 second * 2 ^ 12 + bits 6 third * 2 ^ 6 +
                bits 6 fourth, 3)
            else none

def hexDigit (n : Nat) : UInt8 := (ascii "0123456789abcdef").getD n 0

/-- What `appendString` writes for an ASCII byte. -/
def escapeByte (b : UInt8) : Bytes :=
  if htmlSafe b then [b]
  else if b = backslash ∨ b = quoteByte then [backslash, b]
  else if b = 8 then ascii "\\b"
  else if b = 12 then ascii "\\f"
  else if b = 10 then ascii "\\n"
  else if b = 13 then ascii "\\r"
  else if b = 9 then ascii "\\t"
  else ascii "\\u00" ++ [hexDigit (b.toNat / 16), hexDigit (b.toNat % 16)]

def isLineSeparator (rune : Nat) : Bool := rune = 0x2028 || rune = 0x2029

/-- The loop of `appendString`, from inside a rune: `copied` of its bytes still go to the
output, then `skipped` bytes do not. -/
def appendFrom (copied skipped : Nat) (src : Bytes) : Bytes :=
  match copied, skipped, src with
  | _, _, [] => []
  | copied + 1, skipped, b :: src => b :: appendFrom copied skipped src
  | 0, skipped + 1, _ :: src => appendFrom 0 skipped src
  | 0, 0, b :: src =>
    if b < 0x80 then escapeByte b ++ appendFrom 0 0 src
    else match decodeRune b src with
      | none => ascii "\\ufffd" ++ appendFrom 0 0 src
      | some (rune, more) =>
        if isLineSeparator rune then
          ascii "\\u202" ++ hexDigit (rune % 16) :: appendFrom 0 more src
        else b :: appendFrom more 0 src

def appendString (src : Bytes) : Bytes := appendFrom 0 0 src

def encodeString (src : Bytes) : Bytes := quoteByte :: (appendString src ++ [quoteByte])

def encodeBool (b : Bool) : Bytes := if b then ascii "true" else ascii "false"

/-- `structEncoder.encode`, `next` being what it writes before the field. -/
def encodeFields (next : UInt8) : List (String × Bytes) → Bytes
  | [] => if next = openBrace then ascii "\x7b\x7d" else ascii "\x7d"
  | (name, value) :: fields =>
    next :: (needle jsonMarks (ascii name) ++ value ++ encodeFields comma fields)

def encodeStruct (fields : List (String × Bytes)) : Bytes := encodeFields openBrace fields

/-- `arrayEncoder.encode`, from the element at position `index`. -/
def encodeElements (index : Nat) : List Bytes → Bytes
  | [] => ascii "]"
  | value :: values =>
    (if index > 0 then ascii "," else []) ++ value ++ encodeElements (index + 1) values

def Identity.marshal (identity : Identity) : Bytes :=
  encodeStruct
    [("accountEmail", encodeString identity.accountEmail),
      ("tailnetName", encodeString identity.tailnetName),
      ("deviceName", encodeString identity.deviceName),
      ("deviceId", encodeString identity.deviceID),
      ("tailscaleIp", encodeString identity.tailscaleIP),
      ("signedIn", encodeBool identity.signedIn)]

def Peer.marshal (peer : Peer) : Bytes :=
  encodeStruct
    [("nodeId", encodeString peer.nodeID), ("name", encodeString peer.name),
      ("address", encodeString peer.address), ("platform", encodeString peer.platform),
      ("online", encodeBool peer.online), ("latencyMs", decimal peer.latencyMS.toNat),
      ("quality", decimal peer.quality.toNat)]

/-- What `Network_GetStatus` returns. -/
def Status.marshal (status : Status) : Bytes :=
  encodeStruct
    [("state", encodeString status.state), ("identity", status.identity.marshal),
      ("peers", ascii "[" ++ encodeElements 0 (status.peers.map Peer.marshal)),
      ("lastError", encodeString status.lastError), ("loginUrl", encodeString status.loginURL),
      ("peerCount", decimal status.peerCount), ("reconnectable", encodeBool status.reconnectable)]

/-- Whether `appendString` copies all runes of a text, from inside one with `rune` bytes left. -/
def verbatimFrom (rune : Nat) (src : Bytes) : Bool :=
  match rune, src with
  | _, [] => true
  | rune + 1, _ :: src => verbatimFrom rune src
  | 0, b :: src =>
    if b < 0x80 then htmlSafe b && verbatimFrom 0 src
    else match decodeRune b src with
      | none => false
      | some (rune, more) => !isLineSeparator rune && verbatimFrom more src

/-- The text is UTF-8 without a quote, a backslash, a control byte, one of `<`, `>` and `&`, or
a line or paragraph separator. -/
def Verbatim (src : Bytes) : Prop := verbatimFrom 0 src = true

instance (src : Bytes) : Decidable (Verbatim src) := inferInstanceAs (Decidable (_ = true))

/-! What escaping does to a text -/

/-- The bytes whose runes encoding/json copies. -/
def Copied (b : UInt8) : Prop := 0x80 ≤ b ∨ htmlSafe b = true

/-- The bytes of the escapes after their backslash. -/
def escapeLetters : Bytes := ascii "0123456789abcdefnrtu"

/-- Whether a text is written unchanged, the text, and what encoding/json makes of it. What is
not copied is replaced by an escape that is longer. -/
inductive Escaped : Bool → Bytes → Bytes → Prop where
  | nil : Escaped true [] []
  | copied {b : UInt8} {unchanged : Bool} {src out : Bytes} (copied : Copied b)
      (rest : Escaped unchanged src out) : Escaped unchanged (b :: src) (b :: out)
  | marked {b : UInt8} {unchanged : Bool} {src out : Bytes} (mark : b = backslash ∨ b = quoteByte)
      (rest : Escaped unchanged src out) : Escaped false (b :: src) (backslash :: b :: out)
  | replaced (chunk letters : Bytes) {unchanged : Bool} {src out : Bytes}
      (foreign : ∀ b ∈ chunk, 0x80 ≤ b ∨ htmlSafe b = false) (unquoted : quoteByte ∉ chunk)
      (known : ∀ b ∈ letters, b ∈ escapeLetters)
      (longer : chunk.length ≤ letters.length) (rest : Escaped unchanged src out) :
      Escaped false (chunk ++ src) (backslash :: (letters ++ out))

theorem appendFrom_copied (copied : Nat) (src : Bytes) :
    appendFrom copied 0 src = src.take copied ++ appendString (src.drop copied) := by
  induction copied generalizing src with
  | zero => simp [appendString]
  | succ copied ih =>
      cases src with
      | nil => simp [appendFrom, appendString]
      | cons b src => simp [appendFrom, ih]

theorem appendFrom_skipped (skipped : Nat) (src : Bytes) :
    appendFrom 0 skipped src = appendString (src.drop skipped) := by
  induction skipped generalizing src with
  | zero => rfl
  | succ skipped ih =>
      cases src with
      | nil => simp [appendFrom, appendString]
      | cons b src => simp [appendFrom, ih]

theorem isContinuation_high {b : UInt8} (continues : isContinuation b = true) : 0x80 ≤ b := by
  simp only [isContinuation, Bool.and_eq_true, decide_eq_true_eq] at continues
  exact continues.1

theorem acceptRange_high (first : UInt8) : 0x80 ≤ (acceptRange first).1 := by
  unfold acceptRange
  split_ifs <;> decide

/-- A rune that is not ASCII has no ASCII byte. -/
theorem decodeRune_high {first : UInt8} {src : Bytes} {rune more : Nat}
    (decoded : decodeRune first src = some (rune, more)) :
    more ≤ 3 ∧ ∀ b ∈ src.take more, 0x80 ≤ b := by
  unfold decodeRune at decoded
  split at decoded
  · cases decoded
  next second src =>
    dsimp only at decoded
    split at decoded
    · cases decoded
    next inside =>
    have high : 0x80 ≤ second := UInt8.le_trans (acceptRange_high first) (not_not.mp inside).1
    split at decoded
    · obtain ⟨-, rfl⟩ := Prod.mk.inj (Option.some.inj decoded)
      simpa using high
    split at decoded
    · cases decoded
    next third src =>
    split at decoded
    · cases decoded
    next continues =>
    have high' := isContinuation_high (not_not.mp continues)
    split at decoded
    · obtain ⟨-, rfl⟩ := Prod.mk.inj (Option.some.inj decoded)
      simpa using ⟨high, high'⟩
    split at decoded
    · cases decoded
    next fourth src =>
    split at decoded
    · cases decoded
    next continues =>
    have high'' := isContinuation_high (not_not.mp continues)
    split at decoded
    · obtain ⟨-, rfl⟩ := Prod.mk.inj (Option.some.inj decoded)
      simpa using ⟨high, high', high''⟩
    · cases decoded

theorem appendString_ascii {b : UInt8} (low : b < 0x80) (src : Bytes) :
    appendString (b :: src) = escapeByte b ++ appendString src := by
  simp [appendString, appendFrom, low]

theorem appendString_invalid {b : UInt8} (high : ¬ b < 0x80) {src : Bytes}
    (invalid : decodeRune b src = none) :
    appendString (b :: src) = ascii "\\ufffd" ++ appendString src := by
  simp [appendString, appendFrom, high, invalid]

theorem appendString_separator {b : UInt8} (high : ¬ b < 0x80) {src : Bytes} {rune more : Nat}
    (decoded : decodeRune b src = some (rune, more)) (separator : isLineSeparator rune = true) :
    appendString (b :: src) =
      ascii "\\u202" ++ hexDigit (rune % 16) :: appendString (src.drop more) := by
  rw [appendString, appendFrom, if_neg high, decoded]
  dsimp only
  rw [if_pos separator, appendFrom_skipped]

theorem appendString_rune {b : UInt8} (high : ¬ b < 0x80) {src : Bytes} {rune more : Nat}
    (decoded : decodeRune b src = some (rune, more)) (other : isLineSeparator rune = false) :
    appendString (b :: src) = b :: (src.take more ++ appendString (src.drop more)) := by
  rw [appendString, appendFrom, if_neg high, decoded]
  dsimp only
  rw [if_neg (by simp [other]), appendFrom_copied]

theorem hexDigit_known (n : Nat) (small : n < 16) : hexDigit n ∈ escapeLetters := by
  interval_cases n <;> decide

/-- What `appendString` writes for a byte that it does not copy. -/
theorem escapeByte_cases {b : UInt8} (escaped : htmlSafe b = false) :
    (b = backslash ∨ b = quoteByte) ∧ escapeByte b = [backslash, b] ∨
      b ≠ quoteByte ∧ ∃ letters, escapeByte b = backslash :: letters ∧ letters ≠ [] ∧
        ∀ c ∈ letters, c ∈ escapeLetters := by
  by_cases mark : b = backslash ∨ b = quoteByte
  · exact .inl ⟨mark, by simp [escapeByte, escaped, mark]⟩
  · refine .inr ⟨fun same => mark (.inr same), ?_⟩
    have hex : b.toNat / 16 < 16 ∧ b.toNat % 16 < 16 := by
      have bound := b.toNat_lt
      omega
    unfold escapeByte
    rw [if_neg (by simp [escaped]), if_neg mark]
    split_ifs
    iterate 5 exact ⟨_, rfl, by decide, (by decide : _ ⊆ escapeLetters)⟩
    refine ⟨ascii "u00" ++ [hexDigit (b.toNat / 16), hexDigit (b.toNat % 16)], rfl, by simp, ?_⟩
    intro c member
    rcases List.mem_append.mp member with front | digits
    · exact (by decide : ascii "u00" ⊆ escapeLetters) front
    · simp only [List.mem_cons, List.not_mem_nil, or_false] at digits
      rcases digits with rfl | rfl
      · exact hexDigit_known _ hex.1
      · exact hexDigit_known _ hex.2

theorem escaped_copied {chunk : Bytes} (copied : ∀ b ∈ chunk, Copied b) {unchanged : Bool}
    {src out : Bytes} (rest : Escaped unchanged src out) :
    Escaped unchanged (chunk ++ src) (chunk ++ out) := by
  induction chunk with
  | nil => exact rest
  | cons b chunk ih =>
      exact .copied (copied b List.mem_cons_self)
        (ih fun c member => copied c (List.mem_cons_of_mem b member))

theorem verbatimFrom_drop (rune : Nat) (src : Bytes) :
    verbatimFrom rune src = verbatimFrom 0 (src.drop rune) := by
  induction rune generalizing src with
  | zero => rfl
  | succ rune ih =>
      cases src with
      | nil => rfl
      | cons b src => exact ih src

theorem verbatimFrom_ascii {b : UInt8} (low : b < 0x80) (src : Bytes) :
    verbatimFrom 0 (b :: src) = (htmlSafe b && verbatimFrom 0 src) := by
  simp [verbatimFrom, low]

theorem verbatimFrom_rune {b : UInt8} (high : ¬ b < 0x80) {src : Bytes} {rune more : Nat}
    (decoded : decodeRune b src = some (rune, more)) :
    verbatimFrom 0 (b :: src) = (!isLineSeparator rune && verbatimFrom 0 (src.drop more)) := by
  rw [verbatimFrom, if_neg high, decoded]
  dsimp only
  rw [verbatimFrom_drop more]

theorem appendString_escaped (src : Bytes) :
    Escaped (verbatimFrom 0 src) src (appendString src) := by
  induction size : src.length using Nat.strong_induction_on generalizing src with
  | _ n ih =>
  cases src with
  | nil => exact .nil
  | cons b src =>
    subst size
    have rest (count : Nat) :
        Escaped (verbatimFrom 0 (src.drop count)) (src.drop count)
          (appendString (src.drop count)) :=
      ih _ (by simp only [List.length_drop, List.length_cons]; omega) _ rfl
    by_cases low : b < 0x80
    · rw [appendString_ascii low, verbatimFrom_ascii low]
      cases safe : htmlSafe b with
      | true =>
          rw [escapeByte, if_pos safe, Bool.true_and]
          exact .copied (.inr safe) (rest 0)
      | false =>
          rcases escapeByte_cases safe with ⟨mark, out⟩ | ⟨other, letters, out, some, known⟩
          · rw [out]
            exact .marked mark (rest 0)
          · rw [out]
            refine Escaped.replaced [b] letters ?_ ?_ known ?_ (rest 0)
            · simp [safe]
            · simpa using Ne.symm other
            · exact List.length_pos_iff.mpr some
    · have high : 0x80 ≤ b := UInt8.not_lt.mp low
      cases decoded : decodeRune b src with
      | none =>
          have flag : verbatimFrom 0 (b :: src) = false := by simp [verbatimFrom, low, decoded]
          rw [appendString_invalid low decoded, flag]
          refine Escaped.replaced [b] (ascii "ufffd") ?_ ?_ ?_ ?_ (rest 0)
          · simp [high]
          · intro member
            rw [← List.mem_singleton.mp member] at low
            exact low (by decide)
          · exact (by decide : ascii "ufffd" ⊆ escapeLetters)
          · exact Nat.le_of_ble_eq_true rfl
      | some rune =>
          obtain ⟨rune, more⟩ := rune
          obtain ⟨few, follow⟩ := decodeRune_high decoded
          have all : ∀ c ∈ b :: src.take more, 0x80 ≤ c := List.forall_mem_cons.mpr ⟨high, follow⟩
          have whole : b :: src = (b :: src.take more) ++ src.drop more := by simp
          rw [verbatimFrom_rune low decoded]
          cases separator : isLineSeparator rune with
          | true =>
              rw [appendString_separator low decoded separator, whole]
              refine .replaced _ (ascii "u202" ++ [hexDigit (rune % 16)]) ?_ ?_ ?_ ?_ (rest more)
              · exact fun c member => .inl (all c member)
              · exact fun member => absurd (all _ member) (by decide)
              · intro c member
                rcases List.mem_append.mp member with front | digit
                · exact (by decide : ascii "u202" ⊆ escapeLetters) front
                · rw [List.mem_singleton.mp digit]
                  exact hexDigit_known _ (Nat.mod_lt _ (by decide))
              · have length : (ascii "u202").length = 4 := rfl
                simp only [List.length_cons, List.length_append, List.length_take, length]
                omega
          | false =>
              rw [appendString_rune low decoded separator, whole, ← List.cons_append,
                Bool.not_false, Bool.true_and]
              exact escaped_copied (fun c member => .inl (all c member)) (rest more)

theorem quoteByte_notMem_letters {letters : Bytes} (known : ∀ b ∈ letters, b ∈ escapeLetters) :
    quoteByte ∉ letters := fun member => absurd (known _ member) (by decide)

theorem Copied.ne_quoteByte {b : UInt8} (copied : Copied b) : b ≠ quoteByte := by
  rintro rfl
  exact absurd copied (by unfold Copied; decide)

/-- In what encoding/json writes, every quote of a string stands after a backslash. -/
theorem Escaped.guarded {unchanged : Bool} {src out : Bytes}
    (escaped : Escaped unchanged src out) (before : UInt8) :
    Guarded jsonMarks before out := by
  induction escaped generalizing before with
  | nil => trivial
  | copied copied _ ih => exact ⟨fun same => absurd same copied.ne_quoteByte, ih _⟩
  | marked _ _ ih => exact ⟨fun same => absurd same (by decide), fun _ => rfl, ih _⟩
  | replaced chunk letters _ _ known _ _ ih =>
      refine ⟨fun same => absurd same (by decide), ?_⟩
      exact (Guarded.of_notMem (quoteByte_notMem_letters known) _).append ih

theorem Escaped.quoteByte_notMem {unchanged : Bool} {src out : Bytes}
    (escaped : Escaped unchanged src out)
    (absent : quoteByte ∉ src) : quoteByte ∉ out := by
  induction escaped with
  | nil => exact absent
  | copied _ _ ih =>
      obtain ⟨other, absent⟩ := List.ne_and_not_mem_of_not_mem_cons absent
      exact List.not_mem_cons_of_ne_of_not_mem other (ih absent)
  | marked _ _ ih =>
      obtain ⟨other, absent⟩ := List.ne_and_not_mem_of_not_mem_cons absent
      refine List.not_mem_cons_of_ne_of_not_mem (by decide) ?_
      exact List.not_mem_cons_of_ne_of_not_mem other (ih absent)
  | replaced chunk letters _ _ known _ _ ih =>
      have absent := fun member => absent (List.mem_append_right chunk member)
      refine List.not_mem_cons_of_ne_of_not_mem (by decide) fun member => ?_
      rcases List.mem_append.mp member with letter | later
      · exact quoteByte_notMem_letters known letter
      · exact ih absent later

/-- A byte that is copied and that no escape has is in both texts or in none. -/
theorem Escaped.mem_iff {unchanged : Bool} {src out : Bytes}
    (escaped : Escaped unchanged src out) {c : UInt8}
    (low : c < 0x80) (safe : htmlSafe c = true) (other : c ∉ backslash :: escapeLetters) :
    c ∈ out ↔ c ∈ src := by
  obtain ⟨notBackslash, notLetter⟩ := List.ne_and_not_mem_of_not_mem_cons other
  induction escaped with
  | nil => rfl
  | copied _ _ ih => rw [List.mem_cons, List.mem_cons, ih]
  | marked _ _ ih => rw [List.mem_cons, List.mem_cons, List.mem_cons, ih, or_iff_right notBackslash]
  | replaced chunk letters foreign _ known _ _ ih =>
      have notChunk : c ∉ chunk := by
        intro member
        rcases foreign c member with high | unsafe'
        · exact absurd low (UInt8.not_lt.mpr high)
        · rw [safe] at unsafe'
          cases unsafe'
      have notLetters : c ∉ letters := fun member => notLetter (known c member)
      rw [List.mem_cons, List.mem_append, List.mem_append, ih, or_iff_right notBackslash,
        or_iff_right notChunk, or_iff_right notLetters]

end Screenscrab.Network
