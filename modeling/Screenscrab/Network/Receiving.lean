import Mathlib.Data.List.Basic
import Screenscrab.Network.Connections

/-! The bytes of a connection, as `conn.Read` delivers them to the calls of `Network_Receive` and
as these report them to their callers. -/
namespace Screenscrab.Network

/-- A call of `conn.Read` on a buffer of `size` bytes. It delivers `bytes`, it may use what is
behind them in the buffer, and it may return an error beside them. -/
structure Reading where
  size : UInt32
  bytes : Bytes
  scratch : Bytes
  failed : Bool
  fits : bytes.length + scratch.length = size.toNat

/-- What a call of `Network_Receive` returns, what its read delivered and what is in the
caller's buffer afterwards. -/
structure Receipt where
  returned : Int
  delivered : Bytes := []
  buffer : Bytes := []

/-- `none` is a null pointer. -/
def networkReceive (c : Connections) (connID : UInt64) : Option Reading → Receipt
  | none => { returned := -1 }
  | some reading =>
    if reading.size = 0 then { returned := -1 }
    else
      match c.runtime.conns.lookup connID with
      | none => { returned := -1 }
      | some _ =>
        { returned := if reading.failed then -1 else (reading.bytes.length : Int).bmod (2 ^ 32)
          delivered := reading.bytes
          buffer := reading.bytes ++ reading.scratch }

/-- The bytes that a value which is not negative says are in the buffer. -/
def Receipt.reported (r : Receipt) : Bytes :=
  if r.returned < 0 then [] else r.buffer.take r.returned.toNat

/-- The call reaches the read. -/
def Reading.reached (c : Connections) (connID : UInt64) (reading : Reading) : Prop :=
  reading.size ≠ 0 ∧ c.runtime.conns.lookup connID ≠ none

/-- A read whose bytes, if there are any, arrive without an error and can be counted. -/
def Reading.Clean (reading : Reading) : Prop :=
  reading.bytes = [] ∨ reading.failed = false ∧ reading.bytes.length < 2 ^ 31

def Reading.answer (reading : Reading) : Except Unit Nat :=
  if reading.failed then .error () else .ok reading.bytes.length

theorem networkReceive_refused {c : Connections} {connID : UInt64} {data : Option Reading}
    (unread : ∀ reading, data = some reading → ¬ reading.reached c connID) :
    networkReceive c connID data = { returned := -1 } := by
  cases data with
  | none => rfl
  | some reading =>
      have missing := unread reading rfl
      unfold Reading.reached at missing
      unfold networkReceive
      dsimp only
      split
      · rfl
      · next filled =>
          rw [Classical.not_not.mp fun found => missing ⟨filled, found⟩]

theorem networkReceive_reached {c : Connections} {connID : UInt64} {reading : Reading}
    (reached : reading.reached c connID) :
    networkReceive c connID (some reading) =
      { returned := if reading.failed then -1 else (reading.bytes.length : Int).bmod (2 ^ 32)
        delivered := reading.bytes
        buffer := reading.bytes ++ reading.scratch } := by
  obtain ⟨filled, found⟩ := reached
  obtain ⟨conn, found⟩ := Option.ne_none_iff_exists'.mp found
  unfold networkReceive
  dsimp only
  rw [if_neg filled, found]

/-- It is the call that the connections know by its lookup and by its transfer. -/
theorem networkReceive_transfer {c : Connections} {connID : UInt64} {reading : Reading}
    (reached : reading.reached c connID) (caller : Nat) :
    c.lookUp connID (some reading.size) = { conn := c.runtime.conns.lookup connID } ∧
    (c.result (.transferred caller reading.answer)).value =
      some (networkReceive c connID (some reading)).returned := by
  rw [networkReceive_reached reached]
  obtain ⟨filled, found⟩ := reached
  obtain ⟨conn, found⟩ := Option.ne_none_iff_exists'.mp found
  refine ⟨?_, ?_⟩
  · unfold Connections.lookUp
    dsimp only
    rw [if_neg filled, found]
  · unfold Reading.answer
    cases reading.failed <;> simp [Connections.result, Result.refused]

theorem Receipt.reported_negative {r : Receipt} (negative : r.returned < 0) : r.reported = [] :=
  if_pos negative

theorem Receipt.reported_count {r : Receipt} {n : Nat} (counted : r.returned = n) :
    r.reported = r.buffer.take n := by
  unfold Receipt.reported
  rw [counted, if_neg (Int.not_lt.mpr (Int.natCast_nonneg n)), Int.toNat_natCast]

/-- A value that is not negative reports the very bytes that were read. -/
theorem reported_reached {c : Connections} {connID : UInt64} {reading : Reading}
    (reached : reading.reached c connID) :
    (networkReceive c connID (some reading)).reported =
      if reading.failed = false ∧ reading.bytes.length < 2 ^ 31 then reading.bytes else [] := by
  have fits := reading.fits
  have small := reading.size.toNat_lt
  rw [networkReceive_reached reached]
  by_cases whole : reading.failed = false ∧ reading.bytes.length < 2 ^ 31
  · rw [if_pos whole]
    obtain ⟨succeeded, counted⟩ := whole
    have value : (reading.bytes.length : Int).bmod (2 ^ 32) = reading.bytes.length :=
      Int.bmod_eq_of_le (by omega) (by omega)
    rw [succeeded, if_neg Bool.false_ne_true]
    refine Eq.trans (Receipt.reported_count (n := reading.bytes.length) ?_) List.take_left
    dsimp only
    exact value
  · rw [if_neg whole]
    apply Receipt.reported_negative
    dsimp only
    cases failed : reading.failed with
    | true => exact Int.negSucc_lt_zero 0
    | false =>
        have many : ¬ reading.bytes.length < 2 ^ 31 := fun counted => whole ⟨failed, counted⟩
        rw [if_neg Bool.false_ne_true, Int.bmod_def]
        split <;> omega

/-- A call reports all that its read delivered, or nothing. -/
theorem networkReceive_whole (c : Connections) (connID : UInt64) (data : Option Reading) :
    let receipt := networkReceive c connID data
    (receipt.reported = receipt.delivered ↔
        ∀ reading, data = some reading → reading.reached c connID → reading.Clean) ∧
      (receipt.reported = receipt.delivered ∨ receipt.reported = []) := by
  intro receipt
  by_cases read : ∃ reading, data = some reading ∧ reading.reached c connID
  · obtain ⟨reading, rfl, reached⟩ := read
    have reported : receipt.reported = _ := reported_reached reached
    have delivered : receipt.delivered = reading.bytes := by
      rw [show receipt = _ from networkReceive_reached reached]
    have clean : (∀ other, some reading = some other → other.reached c connID → other.Clean) ↔
        reading.Clean := by
      constructor
      · intro every
        exact every reading rfl reached
      · intro clean other same _
        cases same
        exact clean
    rw [reported, delivered, clean, Reading.Clean]
    split
    · next whole =>
        constructor
        · exact iff_of_true rfl (.inr whole)
        · exact .inl rfl
    · next broken =>
        constructor
        · rw [or_iff_left broken]
          exact eq_comm
        · exact .inr rfl
  · have unread : ∀ reading, data = some reading → ¬ reading.reached c connID := by
      intro reading same reached
      exact read ⟨reading, same, reached⟩
    have refused : receipt = { returned := -1 } := networkReceive_refused unread
    have empty : ({ returned := -1 } : Receipt).reported = [] := rfl
    rw [refused]
    constructor
    · apply iff_of_true empty
      intro reading same reached
      exact absurd reached (unread reading same)
    · exact .inr empty

theorem length_flatMap_le {α β : Type} {kept all : α → List β} {as : List α}
    (dropped : ∀ a ∈ as, kept a = all a ∨ kept a = []) :
    (as.flatMap kept).length ≤ (as.flatMap all).length := by
  induction as with
  | nil => exact Nat.le_refl _
  | cons a as ih =>
      have rest : (as.flatMap kept).length ≤ (as.flatMap all).length := by
        apply ih
        intro b member
        exact dropped b (List.mem_cons_of_mem a member)
      have here : (kept a).length ≤ (all a).length := by
        rcases dropped a List.mem_cons_self with equal | empty
        · exact Nat.le_of_eq (congrArg List.length equal)
        · rw [empty]
          exact Nat.zero_le _
      rw [List.flatMap_cons, List.flatMap_cons, List.length_append, List.length_append]
      exact Nat.add_le_add here rest

/-- Where every part may be dropped, the concatenations agree only part by part. -/
theorem flatMap_eq_iff {α β : Type} {kept all : α → List β} {as : List α}
    (dropped : ∀ a ∈ as, kept a = all a ∨ kept a = []) :
    as.flatMap kept = as.flatMap all ↔ ∀ a ∈ as, kept a = all a := by
  constructor
  · induction as with
    | nil => exact fun _ _ member => absurd member List.not_mem_nil
    | cons a as ih =>
        intro same
        have rest : ∀ a ∈ as, kept a = all a ∨ kept a = [] := by
          intro b member
          exact dropped b (List.mem_cons_of_mem a member)
        rw [List.flatMap_cons, List.flatMap_cons] at same
        have shorter := length_flatMap_le rest
        have here : kept a = all a := by
          rcases dropped a List.mem_cons_self with equal | empty
          · exact equal
          · have lengths := congrArg List.length same
            rw [empty, List.nil_append, List.length_append] at lengths
            have nothing : all a = [] := List.eq_nil_of_length_eq_zero (by omega)
            exact empty.trans nothing.symm
        rw [here, List.append_cancel_left_eq] at same
        exact List.forall_mem_cons.mpr ⟨here, ih rest same⟩
  · intro same
    exact List.flatMap_congr same

/-- No byte of a connection is dropped exactly when no read delivers bytes beside an error, or
more of them than the result can count. -/
theorem received_iff (connID : UInt64) (calls : List (Connections × Option Reading)) :
    calls.flatMap (fun call => (networkReceive call.1 connID call.2).reported) =
        calls.flatMap (fun call => (networkReceive call.1 connID call.2).delivered) ↔
      ∀ call ∈ calls, ∀ reading, call.2 = some reading → reading.reached call.1 connID →
        reading.Clean := by
  rw [flatMap_eq_iff fun call _ => (networkReceive_whole call.1 connID call.2).2]
  refine forall₂_congr fun call _ => ?_
  exact (networkReceive_whole call.1 connID call.2).1

/-- The last bytes of a stream, which arrive together with the end of it. -/
def lastReading : Reading where
  size := 4
  bytes := [0x6F, 0x6B]
  scratch := [0, 0]
  failed := true
  fits := rfl

theorem last_bytes_dropped :
    ¬ ∀ (connID : UInt64) (calls : List (Connections × Option Reading)),
      (∀ call ∈ calls, ∃ ops, Transition.exec Connections.step {} ops = some call.1) →
      calls.flatMap (fun call => (networkReceive call.1 connID call.2).reported) =
        calls.flatMap (fun call => (networkReceive call.1 connID call.2).delivered) := by
  intro kept
  let opening : List Operation :=
    [.other (.start {}), .connectPeer (some (ascii "desk")) (.ok ())]
  obtain ⟨c, reached, open_⟩ : ∃ c, Transition.exec Connections.step {} opening = some c ∧
      c.runtime.conns = [(1, 0)] := ⟨_, rfl, rfl⟩
  have same := kept 1 [(c, some lastReading)] fun call member => by
    cases List.mem_singleton.mp member
    exact ⟨opening, reached⟩
  simp only [List.flatMap_cons, List.flatMap_nil, networkReceive, open_] at same
  exact absurd same (by decide)

end Screenscrab.Network
