import Screenscrab.Library.Table
import Screenscrab.Network.Starting

/-! The connections of the network runtime: the table from ids to them, the calls that close
them, and `Network_Send` and `Network_Receive`, which use a connection after they have let go of
`state.mu`. -/
namespace Screenscrab.Network

/-- The connections on which a step calls `Close`. -/
def Runtime.closes (r : Runtime) : Label → List Nat
  | .stop | .logout => r.conns.map Prod.snd
  | .disconnect connID => (r.conns.lookup connID).toList
  | _ => []

/-- Connections are numbered in the order `DialTCP` makes them. `granted` has what the
successful calls of `Network_ConnectPeer` returned, with their connections, `closed` the calls
of `Close`, and `calls` the connections that pending calls write to or read from. -/
structure Connections where
  runtime : Runtime := {}
  granted : List (Int × Nat) := []
  closed : List Nat := []
  calls : Nat → Option Nat := fun _ => none

/-- The size of a transfer is `none` when the pointer is null. -/
inductive Operation where
  | connectPeer (peerName : Option Bytes) (dial : Except Bytes Unit)
  | send (caller : Nat) (connID : UInt64) (size : Option UInt32)
  | receive (caller : Nat) (connID : UInt64) (size : Option UInt32)
  | transferred (caller : Nat) (answer : Except Unit Nat)
  | other (label : Label)

/-- The connection a call works on, and what it returns when it is over with this step. -/
structure Result where
  conn : Option Nat := none
  value : Option Int := none
  deriving DecidableEq, Repr

def Result.refused : Result := { value := some (-1) }

namespace Operation

/-- The id that a call is made on. -/
def connID : Operation → Option UInt64
  | .send _ connID _ | .receive _ connID _ | .other (.disconnect connID) => some connID
  | _ => none

/-- A transfer without bytes, which is refused before the id is looked up. -/
def idle : Operation → Bool
  | .send _ _ size | .receive _ _ size => size = none ∨ size = some 0
  | _ => false

/-- The calls after which an id designates nothing. -/
def ends (connID : UInt64) : Operation → Bool
  | .other (.disconnect closing) => connID = closing
  | .other .stop | .other .logout => true
  | _ => false

end Operation

namespace Connections

/-- The connection that a dial opens. -/
def opened (c : Connections) (dial : Except Bytes Unit) : Option Nat :=
  if c.runtime.localClient = none then none
  else
    match dial with
    | .error _ => none
    | .ok _ => some c.granted.length

def connectPeer (c : Connections) (dial : Except Bytes Unit) : Runtime × Int :=
  c.runtime.connectPeer (dial.map fun _ => c.granted.length)

/-- `Network_Send` and `Network_Receive` up to the end of their lock. -/
def lookUp (c : Connections) (connID : UInt64) (size : Option UInt32) : Result :=
  match size with
  | none => .refused
  | some size =>
    if size = 0 then .refused
    else
      match c.runtime.conns.lookup connID with
      | none => .refused
      | some conn => { conn := some conn }

def result (c : Connections) : Operation → Result
  | .connectPeer none _ => .refused
  | .connectPeer (some _) dial => { conn := c.opened dial, value := some (c.connectPeer dial).2 }
  | .send _ connID size | .receive _ connID size => c.lookUp connID size
  | .transferred _ (.error _) => .refused
  | .transferred _ (.ok n) => { value := some ((n : Int).bmod (2 ^ 32)) }
  | .other (.disconnect connID) =>
    { conn := c.runtime.conns.lookup connID, value := some (c.runtime.disconnect connID).2 }
  | .other _ => {}

def setCall (c : Connections) (caller : Nat) (conn : Option Nat) : Connections :=
  { c with calls := fun i => if i = caller then conn else c.calls i }

def step (c : Connections) : Operation → Option Connections
  | .connectPeer none _ => some c
  | .connectPeer (some _) dial =>
    let granted := (c.opened dial).toList.map fun conn => ((c.connectPeer dial).2, conn)
    some { c with runtime := (c.connectPeer dial).1, granted := granted ++ c.granted }
  | .send caller connID size | .receive caller connID size =>
    if c.calls caller = none then some (c.setCall caller (c.lookUp connID size).conn) else none
  | .transferred caller _ =>
    if c.calls caller = none then none else some (c.setCall caller none)
  | .other (.connectPeer _) => none
  | .other label =>
    (c.runtime.step label).map fun runtime =>
      { c with runtime, closed := c.runtime.closes label ++ c.closed }

end Connections

namespace Runtime

/-- The entries that a step leaves in the table. -/
def keeps (r : Runtime) : Label → List (UInt64 × Nat)
  | .stop | .logout => []
  | .disconnect connID => Table.without r.conns connID
  | _ => r.conns

/-- The server, the local client and the flag stand or fall together. -/
structure Handles (r : Runtime) : Prop where
  server : r.started = true ↔ r.server ≠ none
  localClient : r.started = true ↔ r.localClient ≠ none
  conns : r.conns ≠ [] → r.started = true

theorem Handles.initial : Handles {} := by
  refine ⟨by decide, by decide, ?_⟩
  intro some_
  exact absurd rfl some_

/-- What the functions that only write a status leave alone. -/
structure Alike (r next : Runtime) : Prop where
  conns : next.conns = r.conns
  nextID : next.nextID = r.nextID
  started : next.started = r.started
  server : next.server = r.server
  localClient : next.localClient = r.localClient

theorem Alike.refl (r : Runtime) : Alike r r := ⟨rfl, rfl, rfl, rfl, rfl⟩

theorem Handles.alike {r next : Runtime} (handles : Handles r) (alike : Alike r next) :
    Handles next := by
  obtain ⟨conns, -, started, server, localClient⟩ := alike
  refine ⟨?_, ?_, ?_⟩
  · rw [started, server]
    exact handles.server
  · rw [started, localClient]
    exact handles.localClient
  · rw [started, conns]
    exact handles.conns

theorem Writes.alike {r next : Runtime} (writes : Writes r next) : Alike r next :=
  ⟨writes.conns, writes.nextID, writes.started, writes.server, writes.localClient⟩

theorem setGoroutine_alike (r : Runtime) (watcher : Nat) (g : Option Goroutine) :
    Alike r (r.setGoroutine watcher g) := ⟨rfl, rfl, rfl, rfl, rfl⟩

theorem watchIPNLocked_alike {r next : Runtime} {answer : Except Bytes Unit}
    {error : Option Bytes} (watched : r.watchIPNLocked answer = (next, error)) :
    Alike r next := by
  unfold watchIPNLocked at watched
  split at watched
  · cases watched
    exact .refl r
  · cases answer <;> cases watched <;> exact ⟨rfl, rfl, rfl, rfl, rfl⟩

/-- A start leaves the table as it was, also one that is rolled back. -/
structure Starts (r next : Runtime) : Prop where
  conns : next.conns = r.conns
  nextID : next.nextID = r.nextID
  handles : Handles r → Handles next

theorem Starts.then {r s next : Runtime} (first : Starts r s) (alike : Alike s next) :
    Starts r next where
  conns := alike.conns.trans first.conns
  nextID := alike.nextID.trans first.nextID
  handles := fun handles => (first.handles handles).alike alike

theorem startLocked_starts (r : Runtime) (os : StartAnswers) :
    Starts r (r.startLocked os).1 := by
  have starting := startLocked_starting r os
  generalize (r.startLocked os).1 = next at starting ⊢
  cases starting with
  | running => exact ⟨rfl, rfl, id⟩
  | refused =>
      refine ⟨rfl, rfl, fun handles => ?_⟩
      exact ⟨handles.server, handles.localClient, handles.conns⟩
  | unwatched _ _ stopped =>
      refine ⟨rfl, rfl, fun handles => ⟨by simp, by simp, fun some_ => ?_⟩⟩
      rw [handles.conns some_] at stopped
      cases stopped
  | begun watched answer lastError status stopped opened =>
      have alike := watchIPNLocked_alike opened
      refine ⟨alike.conns, alike.nextID, fun _ => ?_⟩
      have served : Handles r.served := ⟨by simp [served], by simp [served], fun _ => rfl⟩
      exact (served.alike alike).alike ⟨rfl, rfl, rfl, rfl, rfl⟩

theorem Alike.starts {r next : Runtime} (alike : Alike r next) : Starts r next :=
  ⟨alike.conns, alike.nextID, fun handles => handles.alike alike⟩

theorem disconnect_conns (r : Runtime) (connID : UInt64) :
    (r.disconnect connID).1.conns = Table.without r.conns connID := by
  unfold disconnect
  cases found : r.conns.lookup connID with
  | none =>
      rw [Table.without_eq (Table.notMem_of_lookup found)]
  | some conn => rfl

theorem disconnect_handles {r : Runtime} (handles : Handles r) (connID : UInt64) :
    Handles (r.disconnect connID).1 := by
  unfold disconnect
  split
  · exact handles
  · next found =>
      refine ⟨handles.server, handles.localClient, fun _ => handles.conns ?_⟩
      exact List.ne_nil_of_mem (Table.mem_of_lookup found)

/-- Whether a step is a connect, which is the only one that adds an entry. -/
def connects : Label → Bool
  | .connectPeer _ => true
  | _ => false

/-- A step that is not a connect keeps the entries that `keeps` says, and does not count. -/
structure Leaves (r next : Runtime) (label : Label) : Prop where
  conns : next.conns = r.keeps label
  nextID : next.nextID = r.nextID
  handles : Handles r → Handles next

theorem step_leaves {r next : Runtime} {label : Label} (other : connects label = false)
    (taken : r.step label = some next) : Leaves r next label := by
  cases label with
  | connectPeer conn => cases other
  | start answers =>
      cases taken
      have starts := (startLocked_starts r answers).then (start_writes r answers).alike
      exact ⟨starts.conns, starts.nextID, starts.handles⟩
  | login answers status =>
      cases taken
      have starts := (startLocked_starts r answers).then (login_writes r answers status).alike
      exact ⟨starts.conns, starts.nextID, starts.handles⟩
  | stop | logout =>
      cases taken
      have stopped : r.stopLocked.conns = [] ∧ r.stopLocked.nextID = r.nextID := by
        unfold stopLocked
        cases r.server <;> exact ⟨rfl, rfl⟩
      refine ⟨stopped.1, stopped.2, fun _ => ⟨by simp [stopLocked], by simp [stopLocked], ?_⟩⟩
      intro some_
      exact absurd stopped.1 some_
  | disconnect connID =>
      cases taken
      refine ⟨disconnect_conns r connID, ?_, fun handles => disconnect_handles handles connID⟩
      unfold disconnect
      split <;> rfl
  | refresh status =>
      cases taken
      have starts := (refreshLocked_writes r status).alike.starts
      exact ⟨starts.conns, starts.nextID, starts.handles⟩
  | reconnect status =>
      cases taken
      have starts := (reconnect_writes r status).alike.starts
      exact ⟨starts.conns, starts.nextID, starts.handles⟩
  | userLog msg =>
      cases taken
      have starts := (userLog_writes r msg).alike.starts
      exact ⟨starts.conns, starts.nextID, starts.handles⟩
  | received watcher notify | nextFailed watcher =>
      simp only [step] at taken
      split at taken
      · cases taken
        exact ⟨rfl, rfl, fun handles => handles.alike (setGoroutine_alike r _ _)⟩
      · cases taken
  | locked watcher =>
      obtain ⟨s, g, writes, -, rfl⟩ := step_locked taken
      have starts := writes.alike.starts.then (setGoroutine_alike s watcher g)
      exact ⟨starts.conns, starts.nextID, starts.handles⟩

/-- A dial that succeeds takes the next id. -/
theorem connectPeer_opens {r : Runtime} (here : r.localClient ≠ none) (conn : Nat) :
    (r.connectPeer (.ok conn)).1.conns =
        (r.nextID + 1, conn) :: Table.without r.conns (r.nextID + 1) ∧
      (r.connectPeer (.ok conn)).1.nextID = r.nextID + 1 ∧
      (r.connectPeer (.ok conn)).2 = ((r.nextID + 1).toNat : Int).bmod (2 ^ 32) ∧
      (Handles r → Handles (r.connectPeer (.ok conn)).1) := by
  unfold connectPeer
  rw [if_neg here]
  dsimp only
  refine ⟨rfl, rfl, rfl, fun handles => ⟨handles.server, handles.localClient, fun _ => ?_⟩⟩
  exact handles.localClient.mpr here

end Runtime

namespace Connections

/-- A step that opens a connection. -/
structure Opens (c next : Connections) : Prop where
  granted : next.granted =
    (((c.runtime.nextID + 1).toNat : Int).bmod (2 ^ 32), c.granted.length) :: c.granted
  conns : next.runtime.conns = (c.runtime.nextID + 1, c.granted.length) ::
    Table.without c.runtime.conns (c.runtime.nextID + 1)
  nextID : next.runtime.nextID = c.runtime.nextID + 1
  closed : next.closed = c.closed
  handles : c.runtime.Handles → next.runtime.Handles

/-- The entries that a step which opens no connection leaves in the table. -/
def keeps (c : Connections) : Operation → List (UInt64 × Nat)
  | .other label => c.runtime.keeps label
  | _ => c.runtime.conns

def closes (c : Connections) : Operation → List Nat
  | .other label => c.runtime.closes label
  | _ => []

structure Retains (c next : Connections) (op : Operation) : Prop where
  granted : next.granted = c.granted
  conns : next.runtime.conns = c.keeps op
  nextID : next.runtime.nextID = c.runtime.nextID
  closed : next.closed = c.closes op ++ c.closed
  handles : c.runtime.Handles → next.runtime.Handles

theorem Retains.refl (c : Connections) {op : Operation} (keeps : c.keeps op = c.runtime.conns)
    (closes : c.closes op = []) : Retains c c op := by
  refine ⟨rfl, keeps.symm, rfl, ?_, id⟩
  rw [closes]
  rfl

theorem step_connectPeer (c : Connections) (dial : Except Bytes Unit) {peerName : Bytes}
    {next : Connections} (taken : c.step (.connectPeer (some peerName) dial) = some next) :
    c.opened dial = some c.granted.length ∧ Opens c next ∨
      c.opened dial = none ∧ Retains c next (.connectPeer (some peerName) dial) := by
  simp only [step, Option.some.injEq] at taken
  subst taken
  unfold opened connectPeer
  by_cases missing : c.runtime.localClient = none
  · refine .inr ⟨if_pos missing, ?_⟩
    simp only [if_pos missing, Runtime.connectPeer]
    exact Retains.refl c rfl rfl
  · rw [if_neg missing]
    cases dial with
    | error err =>
        refine .inr ⟨rfl, ?_⟩
        simp only [Except.map, Runtime.connectPeer, if_neg missing]
        exact ⟨rfl, rfl, rfl, rfl, fun handles => handles.alike ⟨rfl, rfl, rfl, rfl, rfl⟩⟩
    | ok =>
        obtain ⟨conns, nextID, id, handles⟩ :=
          Runtime.connectPeer_opens missing c.granted.length
        exact .inl ⟨rfl, congrArg (fun id => (id, c.granted.length) :: c.granted) id, conns, nextID,
          rfl, handles⟩

theorem step_other {c next : Connections} {label : Label}
    (taken : c.step (.other label) = some next) :
    Runtime.connects label = false ∧ ∃ runtime, c.runtime.step label = some runtime ∧
      next = { c with runtime, closed := c.runtime.closes label ++ c.closed } := by
  cases label with
  | connectPeer conn => cases taken
  | _ =>
      simp only [step] at taken
      obtain ⟨runtime, reached, rfl⟩ := Option.map_eq_some_iff.mp taken
      exact ⟨rfl, runtime, reached, rfl⟩

theorem step_retains {c next : Connections} {op : Operation} (taken : c.step op = some next) :
    Opens c next ∧ (∀ connID, op.ends connID = false) ∨ Retains c next op := by
  cases op with
  | connectPeer peerName dial =>
      cases peerName with
      | none =>
          cases taken
          exact .inr (.refl c rfl rfl)
      | some peerName =>
          rcases step_connectPeer c dial taken with ⟨-, opens⟩ | ⟨-, retains⟩
          · exact .inl ⟨opens, fun _ => rfl⟩
          · exact .inr retains
  | send caller connID size | receive caller connID size =>
      simp only [step] at taken
      split at taken
      · cases taken
        exact .inr ⟨rfl, rfl, rfl, rfl, id⟩
      · cases taken
  | transferred caller answer =>
      simp only [step] at taken
      split at taken
      · cases taken
      · cases taken
        exact .inr ⟨rfl, rfl, rfl, rfl, id⟩
  | other label =>
      obtain ⟨other, runtime, reached, rfl⟩ := step_other taken
      have leaves := Runtime.step_leaves other reached
      exact .inr ⟨rfl, leaves.conns, leaves.nextID, rfl, leaves.handles⟩

/-- While few connections have been opened, the counter counts them, an entry pairs a
connection with the id one above its number, and a connection is in the table or closed once. -/
structure Accounted (c : Connections) : Prop where
  counted : c.runtime.nextID.toNat = c.granted.length
  entries : ∀ entry ∈ c.runtime.conns,
    entry.1.toNat = entry.2 + 1 ∧ entry.2 < c.granted.length
  keyed : Table.Keyed c.runtime.conns
  once : ∀ conn, c.closed.count conn + (c.runtime.conns.map Prod.snd).count conn =
    if conn < c.granted.length then 1 else 0
  ids : ∀ entry ∈ c.granted, 0 < entry.1 ∧ entry.1 ≤ c.granted.length
  distinct : (c.granted.map Prod.fst).Nodup

theorem Accounted.initial : Accounted {} where
  counted := rfl
  entries := nofun
  keyed := .nil
  once := fun _ => rfl
  ids := nofun
  distinct := .nil

/-- The id of the next connection, before and after its conversion to `C.int`. -/
theorem Accounted.next_id {c : Connections} (accounted : Accounted c)
    (few : c.granted.length + 1 < 2 ^ 31) :
    (c.runtime.nextID + 1).toNat = c.granted.length + 1 ∧
      ((c.runtime.nextID + 1).toNat : Int).bmod (2 ^ 32) = (c.granted.length : Int) + 1 := by
  have id : (c.runtime.nextID + 1).toNat = c.granted.length + 1 := by
    rw [UInt64.toNat_add, accounted.counted, UInt64.toNat_one]
    exact Nat.mod_eq_of_lt (by omega)
  refine ⟨id, ?_⟩
  rw [id]
  exact Int.bmod_eq_of_le (by omega) (by omega)

theorem Opens.accounted {c next : Connections} (opens : Opens c next) (accounted : Accounted c)
    (few : next.granted.length < 2 ^ 31) : Accounted next := by
  obtain ⟨granted, conns, nextID, closed, -⟩ := opens
  rw [granted, List.length_cons] at few
  obtain ⟨id, value⟩ := accounted.next_id few
  obtain ⟨counted, entries, keyed, once, ids, distinct⟩ := accounted
  rw [value] at granted
  have absent : c.runtime.nextID + 1 ∉ c.runtime.conns.map Prod.fst := by
    intro member
    obtain ⟨entry, inside, same⟩ := List.mem_map.mp member
    have bound := entries entry inside
    rw [same, id] at bound
    omega
  rw [Table.without_eq absent] at conns
  refine ⟨?_, ?_, ?_, ?_, ?_, ?_⟩
  · rw [nextID, id, granted]
    rfl
  · rw [conns, granted]
    intro entry member
    rcases List.mem_cons.mp member with rfl | member
    · exact ⟨id, Nat.lt_succ_self _⟩
    · obtain ⟨same, bound⟩ := entries entry member
      exact ⟨same, Nat.lt_succ_of_lt bound⟩
  · rw [conns]
    exact List.nodup_cons.mpr ⟨absent, keyed⟩
  · intro conn
    have before := once conn
    rw [conns, closed, granted, List.map_cons, List.count_cons, List.length_cons]
    by_cases new : c.granted.length = conn
    · subst new
      rw [if_neg (Nat.lt_irrefl _)] at before
      simp only [beq_self_eq_true, if_true, if_pos (Nat.lt_succ_self _)]
      omega
    · simp only [beq_iff_eq, new, if_false]
      split_ifs at before ⊢ <;> omega
  · rw [granted]
    intro entry member
    rcases List.mem_cons.mp member with rfl | member
    · simp only [List.length_cons]
      omega
    · have bound := ids entry member
      simp only [List.length_cons]
      omega
  · rw [granted]
    refine List.nodup_cons.mpr ⟨fun member => ?_, distinct⟩
    obtain ⟨entry, inside, same⟩ := List.mem_map.mp member
    have bound := (ids entry inside).2
    rw [same] at bound
    omega

/-- The connections that a step closes are those whose entries it does not keep. -/
theorem perm_closes {c : Connections} (keyed : Table.Keyed c.runtime.conns) (op : Operation) :
    (c.closes op ++ (c.keeps op).map Prod.snd).Perm (c.runtime.conns.map Prod.snd) := by
  cases op with
  | other label =>
      cases label with
      | disconnect connID => exact Table.perm_without keyed connID
      | stop | logout => exact .of_eq (List.append_nil _)
      | _ => exact .refl _
  | _ => exact .refl _

theorem keeps_sublist (c : Connections) (op : Operation) :
    (c.keeps op).Sublist c.runtime.conns := by
  cases op with
  | other label =>
      cases label with
      | disconnect connID => exact List.filter_sublist
      | stop | logout => exact List.nil_sublist _
      | _ => exact .refl _
  | _ => exact .refl _

theorem Retains.accounted {c next : Connections} {op : Operation} (retains : Retains c next op)
    (accounted : Accounted c) : Accounted next := by
  obtain ⟨granted, conns, nextID, closed, -⟩ := retains
  obtain ⟨counted, entries, keyed, once, ids, distinct⟩ := accounted
  have sublist := c.keeps_sublist op
  refine ⟨?_, ?_, ?_, ?_, ?_, ?_⟩
  · rw [nextID, granted]
    exact counted
  · rw [conns, granted]
    exact fun entry member => entries entry (sublist.subset member)
  · rw [conns]
    exact keyed.sublist (sublist.map _)
  · intro conn
    have moved := (perm_closes keyed op).count_eq conn
    rw [List.count_append] at moved
    rw [conns, closed, granted, List.count_append, ← once conn, ← moved]
    omega
  · rw [granted]
    exact ids
  · rw [granted]
    exact distinct

theorem Accounted.step {c next : Connections} {op : Operation} (accounted : Accounted c)
    (taken : c.step op = some next) (few : next.granted.length < 2 ^ 31) : Accounted next := by
  rcases step_retains taken with ⟨opens, -⟩ | retains
  · exact opens.accounted accounted few
  · exact retains.accounted accounted

end Connections
end Screenscrab.Network
