import Screenscrab.Client.Reading

/-! What a connection makes of a byte stream behind a malformed header, over all the ways the
stream can be cut into chunks. -/
namespace Screenscrab.Client
open Dart

/-- The packets of a stream that is read packet by packet: unknown ones are left out, a
disconnect packet is the last one, and nothing is read behind a malformed header. -/
def packets (bytes : Bytes) : List WirePacket :=
  match _total : WirePacket.totalLength bytes with
  | .error _ => []
  | .ok n =>
    if bytes.length < n then []
    else
      match WirePacket.decode (bytes.take n) with
      | .error _ => packets (bytes.drop n)
      | .ok p => if p.type = .disconnect then [p] else p :: packets (bytes.drop n)
termination_by bytes.length
decreasing_by
  all_goals
    have size := RemoteSessionClient.totalLength_ge _total
    simp only [List.length_drop]
    omega

def decoded (f : Bytes) : Option WirePacket := (WirePacket.decode f).toOption

theorem packets_stuck {bytes : Bytes} (stuck : ∀ f r, bytes = f ++ r → ¬ Cut f) :
    packets bytes = [] := by
  rw [packets]
  split
  · rfl
  · next n total =>
      by_cases short : bytes.length < n
      · rw [if_pos short]
      · have parts := (List.take_append_drop n bytes).symm
        exact absurd (cut_take total (Nat.not_lt.mp short)) (stuck _ _ parts)

theorem packets_append {f : Bytes} (cut : Cut f) (rest : Bytes) :
    packets (f ++ rest) =
      match WirePacket.decode f with
      | .error _ => packets rest
      | .ok p => if p.type = .disconnect then [p] else p :: packets rest := by
  have total := cut.totalLength_append rest
  conv_lhs => rw [packets]
  split
  · next e malformed => rw [total] at malformed; cases malformed
  · next n found =>
      obtain rfl : f.length = n := Except.ok.inj (total.symm.trans found)
      rw [if_neg (by rw [List.length_append]; omega), List.take_left, List.drop_left]

/-- A frame that is passed gives its packet, if it holds one. -/
theorem packets_passed {f : Bytes} (passed : Passes f) (rest : Bytes) :
    packets (f ++ rest) = (decoded f).toList ++ packets rest := by
  rw [packets_append passed.1, decoded]
  cases found : WirePacket.decode f with
  | error e => rfl
  | ok p =>
      have goesOn : p.type ≠ .disconnect := fun last =>
        passed.2 ((known_of_decode passed.1 found).2.mp last)
      exact if_neg goesOn

theorem packets_flatten {frames : List Bytes} (passed : ∀ f ∈ frames, Passes f) (rest : Bytes) :
    packets (frames.flatten ++ rest) = frames.filterMap decoded ++ packets rest := by
  induction frames with
  | nil => rfl
  | cons f frames ih =>
      obtain ⟨here, later⟩ := List.forall_mem_cons.mp passed
      have split : (f :: frames).flatten ++ rest = f ++ (frames.flatten ++ rest) :=
        List.append_assoc ..
      rw [split, packets_passed here, ih later, ← List.append_assoc, List.filterMap_cons]
      cases decoded f <;> rfl

theorem packets_unknown {bytes : Bytes}
    (unknown : ∀ f r, Framing.Behind Passes bytes (f ++ r) → Cut f → ¬ Known f) :
    packets bytes = [] := by
  fun_induction packets bytes with
  | case1 | case2 => rfl
  | case3 bytes n total enough e thrown ih =>
      have cut : Cut (bytes.take n) := cut_take total (Nat.not_lt.mp enough)
      have parts := List.take_append_drop n bytes
      have here : ¬ Known (bytes.take n) :=
        unknown _ (bytes.drop n) (by rw [parts]; exact .refl _) cut
      have passed : Passes (bytes.take n) := ⟨cut, fun ends => here ends.1⟩
      refine ih fun f r behind => unknown f r ?_
      rw [← parts]
      exact behind.step passed
  | case4 bytes n total enough p found last | case5 bytes n total enough p found goesOn ih =>
      have cut : Cut (bytes.take n) := cut_take total (Nat.not_lt.mp enough)
      have parts := List.take_append_drop n bytes
      exact absurd (known_of_decode cut found).1
        (unknown _ (bytes.drop n) (by rw [parts]; exact .refl _) cut)

/-- No packet begins anywhere behind a malformed header that is reached. -/
def QuietBehindMalformed (stream : Bytes) : Prop :=
  ∀ bad tail, Framing.Behind Passes stream (bad ++ tail) → bad.length = 24 →
    (∃ e, WirePacket.totalLength bad = .error e) →
    ∀ front f back, tail = front ++ f ++ back → Cut f → ¬ Known f

/-- No packet is reached behind one that only `decode` refuses. -/
def QuietBehindUnknown (stream : Bytes) : Prop :=
  ∀ bad tail, Framing.Behind Passes stream (bad ++ tail) → Cut bad → ¬ Known bad →
    ∀ f back, Framing.Behind Passes tail (f ++ back) → Cut f → ¬ Known f

theorem QuietBehindMalformed.left {stream more : Bytes}
    (quiet : QuietBehindMalformed (stream ++ more)) : QuietBehindMalformed stream := by
  rintro bad tail ⟨frames, rfl, passed⟩ long malformed front f back rfl cut
  refine quiet bad (front ++ f ++ back ++ more) ⟨frames, ?_, passed⟩ long malformed front f
    (back ++ more) ?_ cut
  · simp only [List.append_assoc]
  · simp only [List.append_assoc]

namespace RemoteSessionClient

/-- The packets among some actions. -/
def heard (actions : List Action) : List WirePacket :=
  actions.filterMap fun
    | .handled packet => some packet
    | _ => none

theorem heard_append (actions more : List Action) :
    heard (actions ++ more) = heard actions ++ heard more := List.filterMap_append

theorem heard_plain {acts : List Action} (plain : ∀ a ∈ acts, Plain a) : heard acts = [] := by
  refine List.filterMap_eq_nil_iff.mpr fun a member => ?_
  cases a with
  | handled p => exact (plain _ member).elim
  | _ => rfl

/-- Nothing is handled after an error. -/
def Quiet (actions : List Action) : Prop :=
  ∀ before m after, actions = before ++ .error m :: after → ∀ p, Action.handled p ∉ after

theorem Quiet.of_fine {actions : List Action} (fine : ∀ m, Action.error m ∉ actions) :
    Quiet actions := by
  intro before m after split
  refine absurd ?_ (fine m)
  rw [split]
  exact List.mem_append_right before List.mem_cons_self

theorem Quiet.append {actions more : List Action} (quiet : Quiet actions)
    (nothing : ∀ p, Action.handled p ∉ more) : Quiet (actions ++ more) := by
  intro before m after split p member
  rcases List.append_eq_append_iff.mp split with ⟨left, _, tail⟩ | ⟨left, front, tail⟩
  · refine nothing p ?_
    rw [tail]
    exact List.mem_append_right left (List.mem_cons_of_mem _ member)
  · cases left with
    | nil =>
        refine nothing p ?_
        rw [← List.nil_append more, ← tail]
        exact List.mem_cons_of_mem _ member
    | cons a left =>
        obtain ⟨rfl, rfl⟩ := List.cons.inj tail
        rcases List.mem_append.mp member with inside | later
        · exact quiet before m left front p inside
        · exact nothing p later

theorem heard_error (actions : List Action) (e : WireError) :
    heard (actions ++ [wireDecodeError e]) = heard actions := by
  rw [heard_append]
  exact List.append_nil _

theorem Quiet.error {actions : List Action} (quiet : Quiet actions) (e : WireError) :
    Quiet (actions ++ [wireDecodeError e]) := by
  refine quiet.append fun p member => ?_
  cases List.mem_singleton.mp member

/-- Events of the socket `s` reach the client, which holds its subscription. -/
def Listens (s : Nat) (c : RemoteSessionClient) : Prop :=
  (s ∈ c.opened ∧ s ∈ c.listening) ∧ c.subscription = some s

/-- The client when `stream` has arrived on a connection: it still cuts off packets, it has met
a malformed header and dropped what came with it, or a packet has ended the connection. -/
inductive Phase (s : Nat) (start : RemoteSessionClient) (stream : Bytes)
    (c : RemoteSessionClient) : Prop
  | reading (frames : List Bytes) (new : List Action) (split : stream = frames.flatten ++ c.buffer)
      (passed : ∀ f ∈ frames, Passes f) (live : Listens s c) (trace : c.trace = start.trace ++ new)
      (all : heard new = frames.filterMap decoded) (fine : ∀ m, Action.error m ∉ new)
      (left : (∃ f ∈ frames, ¬ Known f) ∨ Settled c.buffer)
  | lost (frames : List Bytes) (bad skipped : Bytes) (new : List Action)
      (split : stream = frames.flatten ++ (bad ++ (skipped ++ c.buffer)))
      (passed : ∀ f ∈ frames, Passes f) (long : bad.length = 24)
      (malformed : ∃ e, WirePacket.totalLength bad = .error e) (live : Listens s c)
      (trace : c.trace = start.trace ++ new) (all : heard new = frames.filterMap decoded)
      (quiet : Quiet new)
  | ended (frames : List Bytes) (last rest : Bytes) (p : WirePacket) (new : List Action)
      (split : stream = frames.flatten ++ (last ++ rest)) (passed : ∀ f ∈ frames, Passes f)
      (cut : Cut last) (understood : WirePacket.decode last = .ok p) (type : p.type = .disconnect)
      (dead : ¬ (s ∈ c.opened ∧ s ∈ c.listening)) (trace : c.trace = start.trace ++ new)
      (all : heard new = frames.filterMap decoded ++ [p]) (fine : ∀ m, Action.error m ∉ new)

theorem handled_eq_heard {start c : RemoteSessionClient} {new : List Action}
    (trace : c.trace = start.trace ++ new) : c.handled = start.handled ++ heard new := by
  have same : c.handled = heard c.trace := rfl
  rw [same, trace, heard_append]
  rfl

theorem plain_fine {new acts : List Action} {p : WirePacket} (fine : ∀ m, Action.error m ∉ new)
    (plain : ∀ a ∈ acts, Plain a) (m : String) : Action.error m ∉ new ++ .handled p :: acts := by
  intro member
  rcases List.mem_append.mp member with old | now
  · exact fine m old
  · rcases List.mem_cons.mp now with same | later
    · cases same
    · exact plain _ later

/-- A packet that is handled keeps the connection alive, unless it is a disconnect packet. -/
theorem handlePacket_listens (clock : Nat → DateTime) {s : Nat} {c : RemoteSessionClient}
    (live : Listens s c) (p : WirePacket) :
    if p.type = .disconnect then
      ¬ (s ∈ (handlePacket clock c p).opened ∧ s ∈ (handlePacket clock c p).listening)
    else Listens s (handlePacket clock c p) := by
  obtain ⟨_, opened, subscription, listening⟩ := handlePacket_listening clock c p
  by_cases last : p.type = .disconnect
  · rw [if_pos last] at listening ⊢
    rintro ⟨_, member⟩
    rw [listening, live.2] at member
    simp at member
  · rw [if_neg last] at listening ⊢
    exact ⟨by rw [opened, listening]; exact live.1, subscription.trans live.2⟩

theorem heard_handled {new acts : List Action} {p : WirePacket} (plain : ∀ a ∈ acts, Plain a) :
    heard (new ++ .handled p :: acts) = heard new ++ [p] := by
  have front : heard (.handled p :: acts) = p :: heard acts := rfl
  rw [heard_append, front, heard_plain plain]

theorem filterMap_concat {frames : List Bytes} {f : Bytes} {p : WirePacket}
    (found : WirePacket.decode f = .ok p) :
    (frames ++ [f]).filterMap decoded = frames.filterMap decoded ++ [p] := by
  have here : decoded f = some p := by rw [decoded, found]; rfl
  simp only [List.filterMap_append, List.filterMap_cons, List.filterMap_nil, here]

theorem flatten_concat (frames : List Bytes) (f rest : Bytes) :
    (frames ++ [f]).flatten ++ rest = frames.flatten ++ (f ++ rest) := by
  simp only [List.flatten_append, List.flatten_cons, List.flatten_nil, List.append_nil,
    List.append_assoc]

theorem forall_mem_concat {frames : List Bytes} {f : Bytes} (passed : ∀ g ∈ frames, Passes g)
    (here : Passes f) : ∀ g ∈ frames ++ [f], Passes g :=
  List.forall_mem_append.mpr ⟨passed, List.forall_mem_singleton.mpr here⟩

/-- The loop of `_onData` while nothing malformed has been met. -/
theorem drain_reading (clock : Nat → DateTime) {s : Nat} {start : RemoteSessionClient}
    {stream : Bytes} (c : RemoteSessionClient) (frames : List Bytes) (new : List Action)
    (split : stream = frames.flatten ++ c.buffer) (passed : ∀ f ∈ frames, Passes f)
    (live : Listens s c) (trace : c.trace = start.trace ++ new)
    (all : heard new = frames.filterMap decoded) (fine : ∀ m, Action.error m ∉ new) :
    Phase s start stream (drain clock c).1 := by
  fun_induction drain clock c generalizing frames new with
  | case1 c short => exact .reading frames new split passed live trace all fine (.inr (.inl short))
  | case2 c long e total =>
      have front : (c.buffer.take 24).length = 24 := List.length_take_of_le (Nat.not_lt.mp long)
      have malformed : WirePacket.totalLength (c.buffer.take 24) = .error e := by
        rw [← totalLength_append front.ge (c.buffer.drop 24), List.take_append_drop, total]
      refine .lost frames (c.buffer.take 24) (c.buffer.drop 24) (new ++ [wireDecodeError e]) ?_
        passed front ⟨e, malformed⟩ live ?_ ((heard_error new e).trans all)
        ((Quiet.of_fine fine).error e)
      · rw [List.append_nil, List.take_append_drop]
        exact split
      · rw [← List.append_assoc, ← trace]
        rfl
  | case3 c long n total short =>
      exact .reading frames new split passed live trace all fine (.inr (.inr ⟨n, total, short⟩))
  | case4 c long n total enough bytes rest e thrown =>
      have cut : Cut bytes := cut_take total (Nat.not_lt.mp enough)
      have unknown : ¬ Known bytes := by
        intro known
        obtain ⟨p, found, _⟩ := decode_known cut known
        rw [thrown] at found
        cases found
      have here : Passes bytes := ⟨cut, fun ends => unknown ends.1⟩
      have nothing : decoded bytes = none := by rw [decoded, thrown]; rfl
      refine .reading (frames ++ [bytes]) new ?_ (forall_mem_concat passed here) live trace ?_ fine
        (.inl ⟨bytes, List.mem_append_right _ List.mem_cons_self, unknown⟩)
      · rw [flatten_concat, split]
        exact congrArg _ (List.take_append_drop n c.buffer).symm
      · simp only [List.filterMap_append, List.filterMap_cons, List.filterMap_nil, nothing,
          List.append_nil, all]
  | case5 c long n total enough bytes rest packet found ih =>
      have cut : Cut bytes := cut_take total (Nat.not_lt.mp enough)
      have ends := (known_of_decode cut found).2
      obtain ⟨acts, added, plain⟩ := handlePacket_trace clock rest packet
      have parts : c.buffer = bytes ++ rest.buffer := (List.take_append_drop n c.buffer).symm
      have longer : (handlePacket clock rest packet).trace =
          start.trace ++ (new ++ .handled packet :: acts) := by
        rw [added, ← List.append_assoc, ← trace]
      have heardMore := (heard_handled plain).trans (congrArg (· ++ [packet]) all)
      have alive : Listens s rest := live
      have listens := handlePacket_listens clock alive packet
      by_cases last : packet.type = .disconnect
      · rw [if_pos last] at listens
        rw [drain_empty clock (by rw [handlePacket_buffer, if_pos last])]
        exact .ended frames bytes rest.buffer packet _ (by rw [split, parts]) passed cut found last
          listens longer heardMore (plain_fine fine plain)
      · have here : Passes bytes := ⟨cut, fun last' => last (ends.mpr last')⟩
        have left : (handlePacket clock rest packet).buffer = rest.buffer := by
          rw [handlePacket_buffer, if_neg last]
        rw [if_neg last] at listens
        refine ih (frames ++ [bytes]) _ ?_ (forall_mem_concat passed here) listens longer ?_
          (plain_fine fine plain)
        · rw [flatten_concat, left, ← parts, split]
        · rw [filterMap_concat found]
          exact heardMore

/-- The loop of `_onData` behind a malformed header, when no packet is left to be found. -/
theorem drain_lost (clock : Nat → DateTime) {s : Nat} {start : RemoteSessionClient}
    {frames : List Bytes} {bad stream : Bytes} (c : RemoteSessionClient) (skipped : Bytes)
    (new : List Action) (split : stream = frames.flatten ++ (bad ++ (skipped ++ c.buffer)))
    (passed : ∀ f ∈ frames, Passes f) (long : bad.length = 24)
    (malformed : ∃ e, WirePacket.totalLength bad = .error e) (live : Listens s c)
    (trace : c.trace = start.trace ++ new) (all : heard new = frames.filterMap decoded)
    (quiet : Quiet new)
    (nothing : ∀ front f back, skipped ++ c.buffer = front ++ f ++ back → Cut f → ¬ Known f) :
    Phase s start stream (drain clock c).1 := by
  fun_induction drain clock c with
  | case1 | case3 =>
      exact .lost frames bad skipped new split passed long malformed live trace all quiet
  | case2 c _ e total =>
      refine .lost frames bad (skipped ++ c.buffer) (new ++ [wireDecodeError e]) ?_ passed long
        malformed live ?_ ((heard_error new e).trans all) (quiet.error e)
      · rw [List.append_nil]
        exact split
      · rw [← List.append_assoc, ← trace]
        rfl
  | case4 c _ n total enough bytes rest e thrown =>
      refine .lost frames bad (skipped ++ bytes) new ?_ passed long malformed live trace all quiet
      rw [List.append_assoc skipped, split]
      exact congrArg (fun left => frames.flatten ++ (bad ++ (skipped ++ left)))
        (List.take_append_drop n c.buffer).symm
  | case5 c _ n total enough bytes rest packet found ih =>
      have cut : Cut bytes := cut_take total (Nat.not_lt.mp enough)
      refine absurd (known_of_decode cut found).1 (nothing skipped bytes rest.buffer ?_ cut)
      rw [List.append_assoc]
      exact congrArg (skipped ++ ·) (List.take_append_drop n c.buffer).symm

theorem arrive_phase (clock : Nat → DateTime) {s : Nat} {start c : RemoteSessionClient}
    {stream : Bytes} (arrival : Arrival) (phase : Phase s start stream c)
    (clean : QuietBehindMalformed (stream ++ arrival.bytes)) :
    Phase s start (stream ++ arrival.bytes) (arrive clock s c arrival) := by
  cases arrival with
  | rendered ok =>
      -- an answer only counts the frame
      have same : stream ++ Arrival.bytes (.rendered ok) = stream := List.append_nil _
      rw [same]
      cases ok with
      | false => exact phase
      | true =>
          cases phase with
          | reading frames new split passed live trace all fine left =>
              exact .reading frames new split passed live trace all fine left
          | lost frames bad skipped new split passed long malformed live trace all quiet =>
              exact .lost frames bad skipped new split passed long malformed live trace all quiet
          | ended frames last rest p new split passed cut understood type dead trace all fine =>
              exact .ended frames last rest p new split passed cut understood type dead trace all
                fine
  | chunk bytes =>
      have added : Arrival.bytes (.chunk bytes) = bytes := rfl
      rw [added] at clean ⊢
      cases phase with
      | reading frames new split passed live trace all fine left =>
          rw [arrive, deliver, if_pos live.1, onData]
          refine drain_reading clock _ frames new ?_ passed live trace all fine
          rw [split, List.append_assoc]
      | lost frames bad skipped new split passed long malformed live trace all quiet =>
          rw [arrive, deliver, if_pos live.1, onData]
          have grown : stream ++ bytes =
              frames.flatten ++ (bad ++ (skipped ++ (c.buffer ++ bytes))) := by
            simp only [split, List.append_assoc]
          refine drain_lost clock _ skipped new grown passed long malformed live trace all quiet ?_
          exact clean bad _ ⟨frames, grown, passed⟩ long malformed
      | ended frames last rest p new split passed cut understood type dead trace all fine =>
          rw [arrive, deliver, if_neg dead]
          refine .ended frames last (rest ++ bytes) p new ?_ passed cut understood type dead trace
            all fine
          simp only [split, List.append_assoc]

theorem arrivals_phase (clock : Nat → DateTime) {s : Nat} {start c : RemoteSessionClient}
    {stream : Bytes} (arrivals : List Arrival) (phase : Phase s start stream c)
    (clean : QuietBehindMalformed (stream ++ arrivals.flatMap Arrival.bytes)) :
    Phase s start (stream ++ arrivals.flatMap Arrival.bytes)
      (arrivals.foldl (arrive clock s) c) := by
  induction arrivals generalizing c stream with
  | nil =>
      rw [List.flatMap_nil, List.append_nil]
      exact phase
  | cons arrival arrivals ih =>
      rw [List.flatMap_cons, ← List.append_assoc] at clean ⊢
      exact ih (arrive_phase clock arrival phase clean.left) clean

/-- What has been handled when a stream has arrived does not depend on how it was cut. -/
theorem Phase.outcome {s : Nat} {start c : RemoteSessionClient} {stream : Bytes}
    (phase : Phase s start stream c) (clean : QuietBehindUnknown stream) :
    (∃ new, c.trace = start.trace ++ new ∧ Quiet new) ∧
      c.handled = start.handled ++ packets stream := by
  cases phase with
  | reading frames new split passed live trace all fine left =>
      have rest : packets c.buffer = [] := by
        rcases left with ⟨bad, member, unknown⟩ | settled
        · obtain ⟨before, after, rfl⟩ := List.append_of_mem member
          refine packets_unknown fun f back behind cut => ?_
          obtain ⟨first, here, later⟩ := List.forall_mem_append.mp passed |>.imp id
            (fun tail => List.forall_mem_cons.mp tail)
          refine clean bad (after.flatten ++ c.buffer) ⟨before, ?_, first⟩ here.1 unknown f back
            (.trans ⟨after, rfl, later⟩ behind) cut
          rw [split, List.flatten_append, List.flatten_cons, List.append_assoc, List.append_assoc]
        · exact packets_stuck settled.not_cut
      refine ⟨⟨new, trace, .of_fine fine⟩, ?_⟩
      rw [handled_eq_heard trace, all, split, packets_flatten passed, rest, List.append_nil]
  | lost frames bad skipped new split passed long malformed live trace all quiet =>
      obtain ⟨e, malformed⟩ := malformed
      have rest : packets (bad ++ (skipped ++ c.buffer)) = [] :=
        packets_stuck (not_cut_of_error ((totalLength_append long.ge _).trans malformed))
      refine ⟨⟨new, trace, quiet⟩, ?_⟩
      rw [handled_eq_heard trace, all, split, packets_flatten passed, rest, List.append_nil]
  | ended frames last rest p new split passed cut understood type dead trace all fine =>
      have here : packets (last ++ rest) = [p] := by
        rw [packets_append cut, understood]
        exact if_pos type
      refine ⟨⟨new, trace, .of_fine fine⟩, ?_⟩
      rw [handled_eq_heard trace, all, split, packets_flatten passed, here]

theorem deliver_trace (clock : Nat → DateTime) (s : Nat) (c : RemoteSessionClient) (chunk : Bytes) :
    ∃ new, (deliver clock s c chunk).trace = c.trace ++ new := by
  unfold deliver
  split
  · exact drain_trace clock { c with buffer := c.buffer ++ chunk }
  · exact ⟨[], (List.append_nil _).symm⟩

/-- A packet that arrives on its own. -/
theorem deliver_cut (clock : Nat → DateTime) {s : Nat} {c : RemoteSessionClient}
    (live : Listens s c) (empty : c.buffer = []) {f : Bytes} (cut : Cut f) :
    deliver clock s c f =
      match WirePacket.decode f with
      | .error _ => c
      | .ok p => handlePacket clock c p := by
  have front : c.buffer ++ f = f ++ [] := by rw [empty, List.nil_append, List.append_nil]
  have same : { c with buffer := [] } = c := by rw [← empty]
  rw [deliver, if_pos live.1, onData, drain_cut clock cut front]
  dsimp only
  rw [same]
  cases WirePacket.decode f with
  | error e => rfl
  | ok p =>
      have left : (handlePacket clock c p).buffer = [] := by
        rw [handlePacket_buffer, empty, ite_self]
      dsimp only
      rw [drain_empty clock left]

/-- Packets that arrive each on its own. -/
theorem deliver_frames (clock : Nat → DateTime) {s : Nat} {frames : List Bytes}
    (passed : ∀ f ∈ frames, Passes f) {c : RemoteSessionClient} (live : Listens s c)
    (empty : c.buffer = []) :
    ∃ d, (frames.map Arrival.chunk).foldl (arrive clock s) c = d ∧ Listens s d ∧ d.buffer = [] ∧
      d.handled = c.handled ++ frames.filterMap decoded ∧ ∃ new, d.trace = c.trace ++ new := by
  induction frames generalizing c with
  | nil => exact ⟨c, rfl, live, empty, (List.append_nil _).symm, [], (List.append_nil _).symm⟩
  | cons f frames ih =>
      obtain ⟨here, later⟩ := List.forall_mem_cons.mp passed
      have first := deliver_cut clock live empty here.1
      obtain ⟨front, added⟩ := deliver_trace clock s c f
      have kept : Listens s (deliver clock s c f) ∧ (deliver clock s c f).buffer = [] ∧
          (deliver clock s c f).handled = c.handled ++ (decoded f).toList := by
        rw [first, decoded]
        cases found : WirePacket.decode f with
        | error e => exact ⟨live, empty, (List.append_nil _).symm⟩
        | ok p =>
            have goesOn : p.type ≠ .disconnect := fun last =>
              here.2 ((known_of_decode here.1 found).2.mp last)
            have listens := handlePacket_listens clock live p
            rw [if_neg goesOn] at listens
            refine ⟨listens, ?_, handlePacket_handled clock c p⟩
            rw [handlePacket_buffer, if_neg goesOn, empty]
      obtain ⟨live', empty', handled⟩ := kept
      obtain ⟨d, same, live'', empty'', handled', new, trace⟩ := ih later live' empty'
      refine ⟨d, same, live'', empty'', ?_, front ++ new, ?_⟩
      · rw [handled', handled, List.append_assoc, List.filterMap_cons]
        cases decoded f <;> rfl
      · rw [trace, added, List.append_assoc]

/-- A chunk that begins with a malformed header. -/
theorem deliver_malformed (clock : Nat → DateTime) {s : Nat} {c : RemoteSessionClient}
    (live : Listens s c) (empty : c.buffer = []) {bad front : Bytes} (long : bad.length = 24)
    {e : WireError} (malformed : WirePacket.totalLength bad = .error e) :
    deliver clock s c (bad ++ front) = c.act (wireDecodeError e) := by
  have whole : WirePacket.totalLength (bad ++ front) = .error e :=
    (totalLength_append long.ge front).trans malformed
  have size : ¬ (bad ++ front).length < 24 := by
    rw [List.length_append]
    omega
  rw [deliver, if_pos live.1, onData, empty, List.nil_append, drain]
  dsimp only
  rw [if_neg size]
  split
  · next e' found =>
      obtain rfl : e = e' := Except.error.inj (whole.symm.trans found)
      unfold act wireDecodeError
      dsimp only
      rw [← empty]
  · next n found => rw [whole] at found; cases found

/-- Handling one packet after another: no more is handled than lies before an unknown one. -/
theorem drain_until_unknown (clock : Nat → DateTime) {frames : List Bytes}
    (passed : ∀ f ∈ frames, Passes f) {bad rest : Bytes} (cut : Cut bad) (unknown : ¬ Known bad)
    {c : RemoteSessionClient} (buffer : c.buffer = frames.flatten ++ (bad ++ rest)) :
    (drain clock c).1.handled.length ≤ c.handled.length + (frames.filterMap decoded).length := by
  induction frames generalizing c with
  | nil =>
      obtain ⟨e, thrown⟩ := decode_unknown unknown
      rw [drain_cut clock cut buffer, thrown]
      exact le_rfl
  | cons f frames ih =>
      obtain ⟨here, later⟩ := List.forall_mem_cons.mp passed
      have front : c.buffer = f ++ (frames.flatten ++ (bad ++ rest)) :=
        buffer.trans (List.append_assoc ..)
      rw [drain_cut clock here.1 front, List.filterMap_cons, decoded]
      cases found : WirePacket.decode f with
      | error e => exact Nat.le_add_right _ _
      | ok p =>
          have goesOn : p.type ≠ .disconnect := fun last =>
            here.2 ((known_of_decode here.1 found).2.mp last)
          refine (ih later (by rw [handlePacket_buffer, if_neg goesOn])).trans ?_
          rw [handlePacket_handled, List.length_append]
          change c.handled.length + 1 + (frames.filterMap decoded).length ≤
            c.handled.length + ((frames.filterMap decoded).length + 1)
          omega

/-- What is expected of a connection and a byte stream: however the stream is cut, nothing is
handled after an error, and the same packets are handled. -/
def FramingKept (clock : Nat → DateTime) (s : Nat) (start : RemoteSessionClient) (stream : Bytes) :
    Prop :=
  (∀ arrivals : List Arrival, arrivals.flatMap Arrival.bytes = stream →
    ∃ new, (arrivals.foldl (arrive clock s) start).trace = start.trace ++ new ∧ Quiet new) ∧
  ∀ arrivals arrivals' : List Arrival, arrivals.flatMap Arrival.bytes = stream →
    arrivals'.flatMap Arrival.bytes = stream →
    (arrivals.foldl (arrive clock s) start).handled =
      (arrivals'.foldl (arrive clock s) start).handled

theorem chunks_bytes (frames : List Bytes) :
    (frames.map Arrival.chunk).flatMap Arrival.bytes = frames.flatten := by
  rw [List.flatMap_map, List.flatMap_def]
  exact congrArg List.flatten (List.map_id frames)

/-- A packet behind a malformed header is handled when a chunk ends in front of it. -/
theorem not_kept_of_malformed (clock : Nat → DateTime) {s : Nat} {start : RemoteSessionClient}
    (live : Listens s start) (empty : start.buffer = []) {stream bad front f back : Bytes}
    (reached : Framing.Behind Passes stream (bad ++ (front ++ f ++ back))) (long : bad.length = 24)
    {e : WireError} (malformed : WirePacket.totalLength bad = .error e) (cut : Cut f)
    (known : Known f) : ¬ FramingKept clock s start stream := by
  rintro ⟨quiet, _⟩
  obtain ⟨frames, rfl, passed⟩ := reached
  obtain ⟨p, found, _⟩ := decode_known cut known
  obtain ⟨d, same, live', empty', _, new, trace⟩ := deliver_frames clock passed live empty
  obtain ⟨acts, handled, _⟩ := handlePacket_trace clock (d.act (wireDecodeError e)) p
  obtain ⟨more, later⟩ := deliver_trace clock s (handlePacket clock (d.act (wireDecodeError e)) p)
    back
  let arrivals := frames.map Arrival.chunk ++ [.chunk (bad ++ front), .chunk f, .chunk back]
  have whole : arrivals.flatMap Arrival.bytes =
      frames.flatten ++ (bad ++ (front ++ f ++ back)) := by
    rw [List.flatMap_append, chunks_bytes]
    simp [Arrival.bytes]
  have finish : (arrivals.foldl (arrive clock s) start).trace =
      start.trace ++ (new ++ wireDecodeError e :: (.handled p :: acts ++ more)) := by
    have reported : d.act (wireDecodeError e) = deliver clock s d (bad ++ front) :=
      (deliver_malformed clock live' empty' long malformed).symm
    have taken : handlePacket clock (d.act (wireDecodeError e)) p =
        deliver clock s (d.act (wireDecodeError e)) f := by
      have still : Listens s (d.act (wireDecodeError e)) := live'
      have cleared : (d.act (wireDecodeError e)).buffer = [] := empty'
      rw [deliver_cut clock still cleared cut, found]
    rw [List.foldl_append, same]
    simp only [List.foldl_cons, List.foldl_nil, arrive]
    rw [← reported, ← taken, later, handled, act, trace]
    simp only [List.append_assoc, List.cons_append, List.nil_append]
  obtain ⟨actions, added, quiet⟩ := quiet arrivals whole
  have actual := List.append_cancel_left (added.symm.trans finish)
  exact quiet new _ _ actual p List.mem_cons_self

/-- A packet behind an unknown one is handled when a chunk ends in front of it, and not when
everything arrives at once. -/
theorem not_kept_of_unknown (clock : Nat → DateTime) {s : Nat} {start : RemoteSessionClient}
    (live : Listens s start) (empty : start.buffer = []) {stream bad tail f back : Bytes}
    (reached : Framing.Behind Passes stream (bad ++ tail)) (cutBad : Cut bad)
    (unknown : ¬ Known bad) (behind : Framing.Behind Passes tail (f ++ back)) (cut : Cut f)
    (known : Known f) : ¬ FramingKept clock s start stream := by
  rintro ⟨_, same⟩
  obtain ⟨frames, rfl, passed⟩ := reached
  obtain ⟨others, rfl, passed'⟩ := behind
  obtain ⟨p, found, _⟩ := decode_known cut known
  have badPassed : Passes bad := ⟨cutBad, fun ends => unknown ends.1⟩
  have every : ∀ g ∈ frames ++ bad :: others, Passes g :=
    List.forall_mem_append.mpr ⟨passed, List.forall_mem_cons.mpr ⟨badPassed, passed'⟩⟩
  obtain ⟨d, reachedD, live', empty', handledD, _⟩ := deliver_frames clock every live empty
  let single := [Arrival.chunk (frames.flatten ++ (bad ++ (others.flatten ++ (f ++ back))))]
  let apart := (frames ++ bad :: others).map Arrival.chunk ++ [.chunk f, .chunk back]
  have wholeSingle : single.flatMap Arrival.bytes =
      frames.flatten ++ (bad ++ (others.flatten ++ (f ++ back))) := by
    simp [single, Arrival.bytes]
  have wholeApart : apart.flatMap Arrival.bytes =
      frames.flatten ++ (bad ++ (others.flatten ++ (f ++ back))) := by
    rw [List.flatMap_append, chunks_bytes]
    simp [Arrival.bytes]
  have few : (single.foldl (arrive clock s) start).handled.length ≤
      start.handled.length + (frames.filterMap decoded).length := by
    have arrived : single.foldl (arrive clock s) start =
        (drain clock
          { start with
            buffer := start.buffer ++
              (frames.flatten ++ (bad ++ (others.flatten ++ (f ++ back)))) }).1 :=
      if_pos live.1
    rw [arrived, empty, List.nil_append]
    let buffered : RemoteSessionClient :=
      { start with buffer := frames.flatten ++ (bad ++ (others.flatten ++ (f ++ back))) }
    have front : buffered.buffer = frames.flatten ++ (bad ++ (others.flatten ++ (f ++ back))) := rfl
    exact drain_until_unknown clock passed cutBad unknown front
  have many : start.handled.length + (frames.filterMap decoded).length + 1 ≤
      (apart.foldl (arrive clock s) start).handled.length := by
    obtain ⟨more, later⟩ := deliver_trace clock s (handlePacket clock d p) back
    have taken : deliver clock s d f = handlePacket clock d p := by
      rw [deliver_cut clock live' empty' cut, found]
    rw [List.foldl_append, reachedD]
    simp only [List.foldl_cons, List.foldl_nil, arrive]
    rw [taken, handled_eq_heard later, handlePacket_handled, handledD, List.filterMap_append]
    simp only [List.length_append, List.length_singleton]
    omega
  rw [same single apart wholeSingle wholeApart] at few
  omega

/-- A connection keeps to the framing of exactly those streams that hide no packet behind a
malformed header and none behind an unknown packet. -/
theorem framingKept_iff (clock : Nat → DateTime) (host : String) (port s : Nat)
    (earlier : RemoteSessionClient) (stream : Bytes) :
    FramingKept clock s (connect clock host port s earlier) stream ↔
      QuietBehindMalformed stream ∧ QuietBehindUnknown stream := by
  obtain ⟨open_, subscribed, empty⟩ := connect_fresh clock host port s earlier
  have live : Listens s (connect clock host port s earlier) := ⟨open_, subscribed⟩
  constructor
  · intro kept
    constructor
    · rintro bad tail reached long ⟨e, malformed⟩ front f back rfl cut known
      exact not_kept_of_malformed clock live empty reached long malformed cut known kept
    · intro bad tail reached cutBad unknown f back behind cut known
      exact not_kept_of_unknown clock live empty reached cutBad unknown behind cut known kept
  · rintro ⟨malformed, unknown⟩
    have first : Phase s (connect clock host port s earlier) []
        (connect clock host port s earlier) := by
      refine .reading [] [] empty.symm (List.forall_mem_nil _) live (List.append_nil _).symm rfl
        (fun _ => List.not_mem_nil) (.inr ?_)
      rw [empty]
      exact settled_nil
    have outcome (arrivals : List Arrival) (whole : arrivals.flatMap Arrival.bytes = stream) := by
      have phase := arrivals_phase clock arrivals first (by rw [whole]; exact malformed)
      rw [whole] at phase
      exact phase.outcome unknown
    refine ⟨fun arrivals whole => (outcome arrivals whole).1, ?_⟩
    intro arrivals arrivals' whole whole'
    rw [(outcome arrivals whole).2, (outcome arrivals' whole').2]

/-- A ping packet behind a header of zeros. -/
theorem ping_behind_malformed_handled :
    let clock : Nat → DateTime := fun _ => ⟨0, by decide⟩
    let start := connect clock "host" 4545 7 {}
    ¬ FramingKept clock 7 start
      (List.replicate 24 0 ++ (SessionCodec.ping 7 (clock 0)).encode) := by
  intro clock start
  obtain ⟨live, subscribed, empty⟩ := connect_fresh clock "host" 4545 7 {}
  have reached : Framing.Behind Passes
      (List.replicate 24 0 ++ (SessionCodec.ping 7 (clock 0)).encode)
      (List.replicate 24 0 ++ ([] ++ (SessionCodec.ping 7 (clock 0)).encode ++ [])) := by
    rw [List.nil_append, List.append_nil]
    exact .refl _
  have cut : Cut (SessionCodec.ping 7 (clock 0)).encode := by decide +kernel
  have known : Known (SessionCodec.ping 7 (clock 0)).encode := by decide +kernel
  have malformed : WirePacket.totalLength (List.replicate 24 0) = .error .magicMismatch := by
    decide +kernel
  exact not_kept_of_malformed clock ⟨live, subscribed⟩ empty reached List.length_replicate
    malformed cut known

end RemoteSessionClient
end Screenscrab.Client
