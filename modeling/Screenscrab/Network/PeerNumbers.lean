import Mathlib.Algebra.Group.Int.Defs
import Mathlib.Algebra.Group.Nat.Defs
import Screenscrab.Network.Api

/-! The two numbers that `toStatusJSON` reports of a peer, beside the true ones. Both are
narrowed to 32 bits before anything compares them with the largest such number. -/
namespace Screenscrab.Network

theorem toUint32_residue {n : Int64} {total : Int} (wrapped : n.toInt = total.bmod (2 ^ 64)) :
    ((toUint32 n).toNat : Int) = total % 2 ^ 32 := by
  have residue : (n.toUInt64.toNat : Int) % 2 ^ 32 = n.toInt % 2 ^ 32 := by
    rw [← Int64.toNat_toBitVec, ← Int64.toInt_toBitVec, BitVec.toInt_eq_toNat_bmod, Int.bmod_def]
    split <;> omega
  have narrowed : (toUint32 n).toNat = n.toUInt64.toNat % 2 ^ 32 := rfl
  rw [narrowed, Int.natCast_emod, show ((2 ^ 32 : Nat) : Int) = 2 ^ 32 from rfl, residue, wrapped,
    Int.bmod_def]
  split <;> omega

/-- The milliseconds since the last handshake, none without one. -/
def elapsed (peer : PeerStatus) : Nat :=
  match peer.sinceHandshake with
  | none => 0
  | some elapsed => elapsed.toInt.toNat

def traffic (peer : PeerStatus) : Nat := (peer.rxBytes.toInt + peer.txBytes.toInt).toNat

/-- The handshake is not in the future and the counters are not negative. -/
structure Counted (peer : PeerStatus) : Prop where
  past : ∀ elapsed, peer.sinceHandshake = some elapsed → 0 ≤ elapsed.toInt
  received : 0 ≤ peer.rxBytes.toInt
  sent : 0 ≤ peer.txBytes.toInt

/-- No 32-bit number exceeds the bound the latency is clamped to. -/
theorem latencyMS_toNat {peer : PeerStatus} (counted : Counted peer) :
    (latencyMS peer).toNat = elapsed peer % 2 ^ 32 := by
  have past := counted.past
  unfold latencyMS elapsed
  cases handshake : peer.sinceHandshake with
  | none => rfl
  | some since =>
      have within : ¬ (toUint32 since).toNat > 0xFFFFFFFF := by
        have bound := (toUint32 since).toNat_lt
        omega
      have unwrapped : since.toInt = since.toInt.bmod (2 ^ 64) :=
        (Int.bmod_eq_of_le since.le_toInt since.toInt_lt).symm
      have residue := toUint32_residue unwrapped
      have positive := past since handshake
      dsimp only
      rw [if_neg within]
      omega

theorem quality_toNat {peer : PeerStatus} (counted : Counted peer) :
    (toPeer peer).quality.toNat = traffic peer % 2 ^ 32 := by
  have residue := toUint32_residue (Int64.toInt_add peer.rxBytes peer.txBytes)
  have received := counted.received
  have sent := counted.sent
  unfold traffic toPeer
  dsimp only
  omega

/-- What a number narrowed to 32 bits is to be. -/
def saturated (n : Nat) : Nat := min n (2 ^ 32 - 1)

/-- The numbers that a narrowing does not change, or happens to saturate. -/
def Narrows (n : Nat) : Prop := n < 2 ^ 32 ∨ n % 2 ^ 32 = 2 ^ 32 - 1

theorem residue_saturated_iff (n : Nat) : n % 2 ^ 32 = saturated n ↔ Narrows n := by
  unfold saturated Narrows
  omega

theorem saturated_mono {n m : Nat} (order : n ≤ m) : saturated n ≤ saturated m := by
  unfold saturated
  omega

/-- A status reports of each peer the true numbers, saturated, in the order of the true ones,
and how many peers it reports. -/
structure Faithful (st : BackendStatus) (status : Status) : Prop where
  latency : status.peers.map (·.latencyMS.toNat) = st.peer.map (saturated ∘ elapsed)
  quality : status.peers.map (·.quality.toNat) = st.peer.map (saturated ∘ traffic)
  latency_mono : ∀ peer ∈ st.peer, ∀ other ∈ st.peer, elapsed peer ≤ elapsed other →
    (toPeer peer).latencyMS ≤ (toPeer other).latencyMS
  quality_mono : ∀ peer ∈ st.peer, ∀ other ∈ st.peer, traffic peer ≤ traffic other →
    (toPeer peer).quality ≤ (toPeer other).quality
  count : status.peerCount = status.peers.length

theorem map_saturated_iff {peers : List PeerStatus} {reported actual : PeerStatus → Nat}
    (narrowed : ∀ peer ∈ peers, reported peer = actual peer % 2 ^ 32) :
    peers.map reported = peers.map (saturated ∘ actual) ↔
      ∀ peer ∈ peers, Narrows (actual peer) := by
  rw [List.map_inj_left]
  apply forall₂_congr
  intro peer member
  rw [narrowed peer member]
  exact residue_saturated_iff (actual peer)

/-- The status is faithful exactly when every true number fits in 32 bits, or wraps to the very
largest of them. -/
theorem toStatusJSON_faithful_iff {st : BackendStatus} (counted : ∀ peer ∈ st.peer, Counted peer)
    (authURL lastError : Bytes) :
    Faithful st (toStatusJSON (some st) authURL lastError) ↔
      ∀ peer ∈ st.peer, Narrows (elapsed peer) ∧ Narrows (traffic peer) := by
  have latency : st.peer.map (fun peer => (latencyMS peer).toNat) =
      st.peer.map (saturated ∘ elapsed) ↔ ∀ peer ∈ st.peer, Narrows (elapsed peer) := by
    apply map_saturated_iff
    intro peer member
    exact latencyMS_toNat (counted peer member)
  have quality : st.peer.map (fun peer => (toPeer peer).quality.toNat) =
      st.peer.map (saturated ∘ traffic) ↔ ∀ peer ∈ st.peer, Narrows (traffic peer) := by
    apply map_saturated_iff
    intro peer member
    exact quality_toNat (counted peer member)
  have peers : (toStatusJSON (some st) authURL lastError).peers = st.peer.map toPeer := rfl
  constructor
  · intro faithful peer member
    have latencies := faithful.latency
    have qualities := faithful.quality
    rw [peers, List.map_map] at latencies qualities
    exact ⟨latency.mp latencies peer member, quality.mp qualities peer member⟩
  · intro narrows
    have latencies := latency.mpr (by
      intro peer member
      exact (narrows peer member).1)
    have qualities := quality.mpr (by
      intro peer member
      exact (narrows peer member).2)
    rw [List.map_inj_left] at latencies qualities
    refine ⟨?_, ?_, ?_, ?_, ?_⟩
    · rw [peers, List.map_map]
      exact List.map_inj_left.mpr latencies
    · rw [peers, List.map_map]
      exact List.map_inj_left.mpr qualities
    · intro peer member other member' order
      rw [UInt32.le_iff_toNat_le]
      calc (latencyMS peer).toNat = saturated (elapsed peer) := latencies peer member
        _ ≤ saturated (elapsed other) := saturated_mono order
        _ = (latencyMS other).toNat := (latencies other member').symm
    · intro peer member other member' order
      rw [UInt32.le_iff_toNat_le]
      calc (toPeer peer).quality.toNat = saturated (traffic peer) := qualities peer member
        _ ≤ saturated (traffic other) := saturated_mono order
        _ = (toPeer other).quality.toNat := (qualities other member').symm
    · rw [peers, List.length_map]
      rfl

/-- A peer by its numbers alone. -/
def numbered (sinceHandshake : Option Int64) (rxBytes txBytes : Int64) : PeerStatus :=
  { nodeID := [], userID := 0, dnsName := [], os := [], tailscaleIPs := [], online := true,
    sinceHandshake, rxBytes, txBytes }

def reporting (peer : List PeerStatus) : BackendStatus := ⟨[], none, none, [], peer⟩

/-- A peer whose numbers fit, alone and beside one that has moved more than 2 ^ 32 bytes. -/
theorem toStatusJSON_faithful_iff_two :
    let small := numbered (some 40) 1000 24
    let large := numbered (some 5000) 4294967296 7
    Faithful (reporting [small]) (toStatusJSON (some (reporting [small])) [] []) ∧
      ¬ Faithful (reporting [small, large])
        (toStatusJSON (some (reporting [small, large])) [] []) := by
  intro small large
  have counted : ∀ peer ∈ (reporting [small, large]).peer, Counted peer := by
    refine List.forall_mem_cons.mpr ⟨?_, List.forall_mem_singleton.mpr ?_⟩
    · exact ⟨by rintro _ ⟨⟩; decide, by decide, by decide⟩
    · exact ⟨by rintro _ ⟨⟩; decide, by decide, by decide⟩
  have alone : ∀ peer ∈ (reporting [small]).peer, Counted peer :=
    fun peer member => counted peer (List.mem_cons.mpr (.inl (List.mem_singleton.mp member)))
  rw [toStatusJSON_faithful_iff alone, toStatusJSON_faithful_iff counted]
  refine ⟨List.forall_mem_singleton.mpr ⟨.inl (by decide), .inl (by decide)⟩, fun narrows => ?_⟩
  have wraps := (narrows large (List.mem_cons_of_mem _ List.mem_cons_self)).2
  revert wraps
  unfold Narrows
  decide

/-- A handshake of 2 ^ 32 milliseconds ago is reported as one of no milliseconds ago. -/
theorem old_handshake_reported_as_new :
    ¬ ∀ (st : BackendStatus) (authURL lastError : Bytes), (∀ peer ∈ st.peer, Counted peer) →
      Faithful st (toStatusJSON (some st) authURL lastError) := by
  intro promised
  have counted : ∀ peer ∈ [numbered (some 4294967296) 0 0], Counted peer := by
    intro peer member
    cases List.mem_singleton.mp member
    exact ⟨by rintro _ ⟨⟩; decide, by decide, by decide⟩
  have faithful := promised (reporting [numbered (some 4294967296) 0 0]) [] [] counted
  have latency := faithful.latency
  revert latency
  decide

end Screenscrab.Network
