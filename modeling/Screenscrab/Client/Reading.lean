import Screenscrab.Client.Stream

/-! What the loop of `_onData` makes of arbitrary bytes: where it cuts them into packets, and
what it does about bytes that are none. -/
namespace Screenscrab.Client
open Dart
open LittleEndian (word word_append)

/-- The bytes that are cut off as one packet: a readable header and what it announces. -/
def Cut (bytes : Bytes) : Prop := WirePacket.totalLength bytes = .ok bytes.length

/-- No complete packet: too short for a header, or for what the header announces. -/
def Settled (bytes : Bytes) : Prop :=
  bytes.length < 24 ∨ ∃ n, WirePacket.totalLength bytes = .ok n ∧ bytes.length < n

/-- What `decode` asks of a header beyond what `totalLength` asks. -/
def Known (bytes : Bytes) : Prop :=
  word bytes 6 2 ≤ MessageType.error.value ∧
    (signed64 (word bytes 16 8)).natAbs ≤ maxMicroseconds

instance : DecidablePred Cut := fun bytes =>
  inferInstanceAs (Decidable (WirePacket.totalLength bytes = .ok bytes.length))

instance : DecidablePred Known := fun bytes =>
  inferInstanceAs (Decidable (word bytes 6 2 ≤ MessageType.error.value ∧
    (signed64 (word bytes 16 8)).natAbs ≤ maxMicroseconds))

/-- A packet that is understood and ends the connection. -/
def Ends (bytes : Bytes) : Prop :=
  Known bytes ∧ word bytes 6 2 = MessageType.disconnect.value

instance : DecidablePred Ends := fun bytes =>
  inferInstanceAs (Decidable (Known bytes ∧ word bytes 6 2 = MessageType.disconnect.value))

/-- A packet that the bytes behind it are read after. -/
def Passes (bytes : Bytes) : Prop := Cut bytes ∧ ¬ Ends bytes

theorem totalLength_ok {bytes : Bytes} {n : Nat} :
    WirePacket.totalLength bytes = .ok n ↔ 24 ≤ bytes.length ∧ word bytes 0 4 = wireMagic ∧
      word bytes 4 2 = wireVersion ∧ n = 24 + word bytes 12 4 := by
  unfold WirePacket.totalLength
  constructor
  · intro total
    split at total
    · cases total
    split at total
    · cases total
    split at total
    · cases total
    next long magic version =>
    cases total
    exact ⟨Nat.not_lt.mp long, not_not.mp magic, not_not.mp version, rfl⟩
  · rintro ⟨long, magic, version, rfl⟩
    rw [if_neg (Nat.not_lt.mpr long), if_neg (not_not.mpr magic), if_neg (not_not.mpr version)]

theorem Cut.length {bytes : Bytes} (cut : Cut bytes) : 24 ≤ bytes.length :=
  (totalLength_ok.mp cut).1

/-- What follows a header does not change what it announces. -/
theorem totalLength_append {f : Bytes} (long : 24 ≤ f.length) (rest : Bytes) :
    WirePacket.totalLength (f ++ rest) = WirePacket.totalLength f := by
  have more : ¬ (f ++ rest).length < 24 := by
    rw [List.length_append]
    omega
  simp only [WirePacket.totalLength, if_neg more, if_neg (Nat.not_lt.mpr long)]
  rw [word_append f rest (by omega), word_append f rest (by omega),
    word_append f rest (by omega)]

theorem Cut.totalLength_append {f : Bytes} (cut : Cut f) (rest : Bytes) :
    WirePacket.totalLength (f ++ rest) = .ok f.length :=
  (Client.totalLength_append cut.length rest).trans cut

theorem cut_prefixFree : Framing.PrefixFree Cut := by
  intro f g r t here there same
  have total := here.totalLength_append r
  rw [same, there.totalLength_append t] at total
  exact (List.append_inj same (Except.ok.inj total).symm).1

theorem Settled.not_cut {bytes : Bytes} (settled : Settled bytes) (f r : Bytes)
    (split : bytes = f ++ r) : ¬ Cut f := by
  intro cut
  have size := congrArg List.length split
  have long := cut.length
  rw [List.length_append] at size
  rcases settled with short | ⟨n, total, short⟩
  · omega
  · rw [split, cut.totalLength_append r] at total
    cases total
    omega

theorem not_cut_of_error {bytes : Bytes} {e : WireError}
    (malformed : WirePacket.totalLength bytes = .error e) (f r : Bytes) (split : bytes = f ++ r) :
    ¬ Cut f := by
  intro cut
  rw [split, cut.totalLength_append r] at malformed
  cases malformed

/-- The front of a buffer that holds all that its header announces. -/
theorem cut_take {bytes : Bytes} {n : Nat} (total : WirePacket.totalLength bytes = .ok n)
    (enough : n ≤ bytes.length) : Cut (bytes.take n) := by
  obtain ⟨long, magic, version, size⟩ := totalLength_ok.mp total
  have front : (bytes.take n).length = n := List.length_take_of_le enough
  have parts : bytes = bytes.take n ++ bytes.drop n := (List.take_append_drop n bytes).symm
  rw [parts, word_append _ _ (by omega)] at magic version size
  exact totalLength_ok.mpr ⟨by omega, magic, version, front.trans size⟩

/-- Of a packet that is cut off, `decode` only checks the type and the timestamp. -/
theorem decode_known {f : Bytes} (cut : Cut f) (known : Known f) :
    ∃ p, WirePacket.decode f = .ok p ∧ (p.type = .disconnect ↔ Ends f) := by
  obtain ⟨long, magic, version, size⟩ := totalLength_ok.mp cut
  have timestamp : DateTime.fromMicroseconds (signed64 (word f 16 8)) =
      some ⟨signed64 (word f 16 8), known.2⟩ := dif_pos known.2
  have decoded : ∃ p, WirePacket.decode f = .ok p ∧ p.type.value = word f 6 2 := by
    unfold WirePacket.decode
    rw [if_neg (by omega), if_neg (not_not.mpr magic), if_neg (not_not.mpr version),
      MessageType.values_ofValue known.1]
    dsimp only
    rw [if_neg (by omega), timestamp]
    exact ⟨_, rfl, MessageType.value_of_values (MessageType.values_ofValue known.1) |>.symm⟩
  obtain ⟨p, same, type⟩ := decoded
  refine ⟨p, same, ?_, ?_⟩
  · intro last
    exact ⟨known, by rw [← type, last]⟩
  · intro last
    have found := MessageType.values_value p.type
    rw [type, last.2, MessageType.values_value] at found
    exact (Option.some.inj found).symm

theorem decode_unknown {f : Bytes} (unknown : ¬ Known f) :
    ∃ e, WirePacket.decode f = .error e := by
  cases decoded : WirePacket.decode f with
  | error e => exact ⟨e, rfl⟩
  | ok p =>
      have words := (WirePacket.decode_words decoded).1
      have kind : p.type.value < 16 := p.type.value_lt
      refine absurd ⟨?_, ?_⟩ unknown
      · rw [words.type]
        exact Nat.le_of_lt_succ kind
      · rw [words.timestamp]
        exact p.timestampUtc.inRange

theorem known_of_decode {f : Bytes} (cut : Cut f) {p : WirePacket}
    (decoded : WirePacket.decode f = .ok p) : Known f ∧ (p.type = .disconnect ↔ Ends f) := by
  have known : Known f := by
    by_contra unknown
    obtain ⟨e, thrown⟩ := decode_unknown unknown
    rw [decoded] at thrown
    cases thrown
  obtain ⟨q, same, ends⟩ := decode_known cut known
  obtain rfl : p = q := Except.ok.inj (decoded.symm.trans same)
  exact ⟨known, ends⟩

/-- Every packet that is reached is one that `decode` understands. -/
def Clean (bytes : Bytes) : Prop :=
  ∀ frame rest, Framing.Behind Passes bytes (frame ++ rest) → Cut frame → Known frame

theorem clean_append {f : Bytes} (cut : Cut f) (bytes : Bytes) :
    Clean (f ++ bytes) ↔ Known f ∧ (¬ Ends f → Clean bytes) := by
  constructor
  · intro clean
    refine ⟨clean f bytes (.refl _) cut, ?_⟩
    intro goesOn frame rest behind
    exact clean frame rest (behind.step ⟨cut, goesOn⟩)
  · rintro ⟨known, later⟩ frame rest behind cutFrame
    rcases (Framing.behind_append cut_prefixFree (fun _ passed => passed.1) cut).mp behind with
      here | ⟨passed, behind⟩
    · obtain rfl := cut_prefixFree _ _ _ _ cutFrame cut here
      exact known
    · exact later passed.2 frame rest behind cutFrame

theorem clean_of_stuck {bytes : Bytes} (stuck : ∀ f r, bytes = f ++ r → ¬ Cut f) : Clean bytes := by
  intro frame rest behind cut
  have here := behind.stuck fun f r split passed => stuck f r split passed.1
  exact absurd cut (stuck frame rest here.symm)

theorem settled_nil : Settled [] := .inl (by decide)

namespace RemoteSessionClient

/-- The buffer that a packet leaves to the loop. -/
theorem handlePacket_clean (clock : Nat → DateTime) (c : RemoteSessionClient) {f : Bytes}
    {p : WirePacket} (ends : p.type = .disconnect ↔ Ends f) :
    Clean (handlePacket clock c p).buffer ↔ (¬ Ends f → Clean c.buffer) := by
  rw [handlePacket_buffer]
  by_cases last : p.type = .disconnect
  · rw [if_pos last]
    exact iff_of_true (clean_of_stuck settled_nil.not_cut) fun goesOn =>
      absurd (ends.mp last) goesOn
  · rw [if_neg last, ← ends]
    exact ⟨fun clean _ => clean, fun clean => clean last⟩

/-- One turn of the loop, when the buffer begins with a packet that can be cut off. -/
theorem drain_cut (clock : Nat → DateTime) {c : RemoteSessionClient} {f rest : Bytes}
    (cut : Cut f) (front : c.buffer = f ++ rest) :
    drain clock c =
      match WirePacket.decode f with
      | .error e => ({ c with buffer := rest }, some e)
      | .ok p => drain clock (handlePacket clock { c with buffer := rest } p) := by
  have total := cut.totalLength_append rest
  rw [← front] at total
  exact drain_turn clock front total

/-- The loop of `_onData` ends without an exception exactly when it meets no packet that only
`decode` refuses. -/
theorem drain_escapes (clock : Nat → DateTime) (c : RemoteSessionClient) :
    (drain clock c).2 = none ↔ Clean c.buffer := by
  fun_induction drain clock c with
  | case1 c short =>
      exact iff_of_true rfl (clean_of_stuck (Settled.not_cut (.inl short)))
  | case2 c long e total => exact iff_of_true rfl (clean_of_stuck (not_cut_of_error total))
  | case3 c long n total short =>
      exact iff_of_true rfl (clean_of_stuck (Settled.not_cut (.inr ⟨n, total, short⟩)))
  | case4 c long n total enough bytes rest e thrown =>
      have cut : Cut bytes := cut_take total (Nat.not_lt.mp enough)
      refine iff_of_false (Option.some_ne_none e) ?_
      intro clean
      rw [← List.take_append_drop n c.buffer] at clean
      obtain ⟨p, decoded, _⟩ := decode_known cut ((clean_append cut _).mp clean).1
      rw [thrown] at decoded
      cases decoded
  | case5 c long n total enough bytes rest packet decoded ih =>
      have cut : Cut bytes := cut_take total (Nat.not_lt.mp enough)
      obtain ⟨known, ends⟩ := known_of_decode cut decoded
      rw [ih, handlePacket_clean clock rest ends]
      conv_rhs => rw [← List.take_append_drop n c.buffer, clean_append cut]
      exact (and_iff_right known).symm

theorem drain_settled (clock : Nat → DateTime) (c : RemoteSessionClient)
    (finished : (drain clock c).2 = none) : Settled (drain clock c).1.buffer := by
  fun_induction drain clock c with
  | case1 c short => exact .inl short
  | case2 => exact settled_nil
  | case3 c long n total short => exact .inr ⟨n, total, short⟩
  | case4 => cases finished
  | case5 c long n total enough bytes rest packet decoded ih => exact ih finished

/-- Neither a packet that is handled nor an error or a state that is reported. -/
def Plain : Action → Prop
  | .handled _ | .error _ | .state _ => False
  | _ => True

theorem handlePacket_trace (clock : Nat → DateTime) (c : RemoteSessionClient) (p : WirePacket) :
    ∃ acts, (handlePacket clock c p).trace = c.trace ++ .handled p :: acts ∧
      ∀ a ∈ acts, Plain a := by
  have first : (c.act (.handled p)).trace = c.trace ++ [.handled p] := rfl
  have none : ∃ acts, (c.act (.handled p)).trace = c.trace ++ .handled p :: acts ∧
      ∀ a ∈ acts, Plain a := ⟨[], first, List.forall_mem_nil _⟩
  have one (a : Action) (plain : Plain a) :
      ∃ acts, ((c.act (.handled p)).act a).trace = c.trace ++ .handled p :: acts ∧
        ∀ a ∈ acts, Plain a :=
    ⟨[a], List.append_assoc .., List.forall_mem_singleton.mpr plain⟩
  unfold handlePacket
  cases p.type with
  | hello | capabilities | clipboardSync | disconnect => exact one _ trivial
  | frameMetadata =>
      dsimp only
      cases RemoteFrameMetadata.fromBytes p.payload <;> exact none
  | videoFrame =>
      dsimp only
      cases (c.act (.handled p)).pendingMetadata with
      | none => exact none
      | some metadata => exact one _ trivial
  | ping =>
      dsimp only
      split
      · exact one _ trivial
      · exact none
  | _ => exact none

theorem drain_trace (clock : Nat → DateTime) (c : RemoteSessionClient) :
    ∃ new, (drain clock c).1.trace = c.trace ++ new := by
  fun_induction drain clock c with
  | case1 | case3 | case4 => exact ⟨[], (List.append_nil _).symm⟩
  | case2 c long e total => exact ⟨[_], rfl⟩
  | case5 c long n total enough bytes rest packet decoded ih =>
      obtain ⟨acts, handled, _⟩ := handlePacket_trace clock rest packet
      obtain ⟨new, later⟩ := ih
      exact ⟨.handled packet :: acts ++ new, by rw [later, handled, List.append_assoc]⟩

def wireDecodeError (e : WireError) : Action := .error ("Wire decode error: " ++ e.text)

/-- A header without the magic or the version of the wire is reported when it is reached. -/
theorem drain_reports (clock : Nat → DateTime) (c : RemoteSessionClient)
    (finished : (drain clock c).2 = none) {rest : Bytes} {e : WireError}
    (reached : Framing.Behind Passes c.buffer rest) (long : 24 ≤ rest.length)
    (malformed : WirePacket.totalLength rest = .error e) :
    ∃ new, (drain clock c).1.trace = c.trace ++ new ∧ wireDecodeError e ∈ new := by
  fun_induction drain clock c with
  | case1 c short =>
      have settled : Settled c.buffer := .inl short
      have here := reached.stuck fun f r split passed => settled.not_cut f r split passed.1
      rw [here] at long
      exact absurd short (Nat.not_lt.mpr long)
  | case2 c _ e' total =>
      have here := reached.stuck fun f r split passed => not_cut_of_error total f r split passed.1
      rw [here, total] at malformed
      cases malformed
      exact ⟨[wireDecodeError e], rfl, List.mem_singleton.mpr rfl⟩
  | case3 c _ n total short =>
      have settled : Settled c.buffer := .inr ⟨n, total, short⟩
      have here := reached.stuck fun f r split passed => settled.not_cut f r split passed.1
      rw [here, total] at malformed
      cases malformed
  | case4 => cases finished
  | case5 c _ n total enough bytes left packet decoded ih =>
      have cut : Cut bytes := cut_take total (Nat.not_lt.mp enough)
      have parts : c.buffer = bytes ++ left.buffer := (List.take_append_drop n c.buffer).symm
      rw [parts, Framing.behind_append cut_prefixFree (fun _ passed => passed.1) cut] at reached
      rcases reached with rfl | ⟨passed, reached⟩
      · rw [cut.totalLength_append left.buffer] at malformed
        cases malformed
      · have goesOn : packet.type ≠ .disconnect := fun last =>
          passed.2 ((known_of_decode cut decoded).2.mp last)
        rw [handlePacket_buffer, if_neg goesOn] at ih
        obtain ⟨acts, handled, _⟩ := handlePacket_trace clock left packet
        obtain ⟨new, later, member⟩ := ih finished reached
        refine ⟨.handled packet :: acts ++ new, ?_, List.mem_append_right _ member⟩
        rw [later, handled, List.append_assoc]

/-- What is expected of `_onData`: no exception leaves it, no complete packet stays in the
buffer, and a malformed header that is reached is reported. -/
def Finishes (clock : Nat → DateTime) (c : RemoteSessionClient) (chunk : Bytes) : Prop :=
  (c.onData clock chunk).2 = none ∧ Settled (c.onData clock chunk).1.buffer ∧
    ∀ rest e, Framing.Behind Passes (c.buffer ++ chunk) rest → 24 ≤ rest.length →
      WirePacket.totalLength rest = .error e →
      ∃ new, (c.onData clock chunk).1.trace = c.trace ++ new ∧ wireDecodeError e ∈ new

theorem onData_finishes_iff (clock : Nat → DateTime) (c : RemoteSessionClient) (chunk : Bytes) :
    Finishes clock c chunk ↔ Clean (c.buffer ++ chunk) := by
  let arrived : RemoteSessionClient := { c with buffer := c.buffer ++ chunk }
  have escapes : (c.onData clock chunk).2 = none ↔ Clean (c.buffer ++ chunk) :=
    drain_escapes clock arrived
  constructor
  · intro finishes
    exact escapes.mp finishes.1
  · intro clean
    have finished := escapes.mpr clean
    refine ⟨finished, drain_settled clock arrived finished, ?_⟩
    intro rest e reached long malformed
    exact drain_reports clock arrived finished reached long malformed

theorem unknown_escapes (clock : Nat → DateTime) {c : RemoteSessionClient} (empty : c.buffer = [])
    {chunk : Bytes} (cut : Cut chunk) (unknown : ¬ Known chunk) :
    (c.onData clock chunk).2 ≠ none := by
  intro finished
  have clean := (drain_escapes clock { c with buffer := c.buffer ++ chunk }).mp finished
  dsimp only at clean
  rw [empty, List.nil_append, ← List.append_nil chunk, clean_append cut] at clean
  exact unknown clean.1

/-- A ping packet with the type that follows the last one of the protocol. -/
theorem unknown_type_escapes :
    let clock : Nat → DateTime := fun _ => ⟨0, by decide⟩
    let ping := (SessionCodec.ping 7 (clock 0)).encode
    ¬ Finishes clock {} (ping.take 6 ++ [16, 0] ++ ping.drop 8) := by
  intro clock ping finishes
  exact unknown_escapes clock rfl (by decide +kernel) (by decide +kernel) finishes.1

end RemoteSessionClient
end Screenscrab.Client
