/-! Calls on an object with a mutex that is not recursive. A call knows whether it holds the
mutex, and is stuck when it locks the mutex that it holds. -/
namespace Locked

universe u
variable {σ : Type u} {α β : Type u}

/-- How a call ends, with the object it leaves. -/
inductive Outcome (σ : Type u) (α : Type u) where
  | returned (value : α) (object : σ)
  | thrown (object : σ)
  | relocked

/-- A call on an object, from whether the mutex is held. -/
def Call (σ : Type u) (α : Type u) : Type u := Bool → σ → Outcome σ α

namespace Call

def bind (c : Call σ α) (next : α → Call σ β) : Call σ β := fun held s =>
  match c held s with
  | .returned a t => next a held t
  | .thrown t => .thrown t
  | .relocked => .relocked

instance : Monad (Call σ) where
  pure a := fun _ s => .returned a s
  bind := bind

def get : Call σ σ := fun _ s => .returned s s

def modify (f : σ → σ) : Call σ PUnit := fun _ s => .returned ⟨⟩ (f s)

def throw : Call σ α := fun _ s => .thrown s

/-- The scope of a lock, which is let go of however the body ends. -/
def scopedLock (body : Call σ α) : Call σ α := fun held s => if held then .relocked else body true s

@[simp] theorem get_apply (held : Bool) (s : σ) :
    (get : Call σ σ) held s = .returned s s := rfl

@[simp] theorem modify_apply (f : σ → σ) (held : Bool) (s : σ) :
    modify f held s = .returned ⟨⟩ (f s) := rfl

@[simp] theorem throw_apply (held : Bool) (s : σ) :
    (throw : Call σ α) held s = .thrown s := rfl

@[simp] theorem scopedLock_held (body : Call σ α) (s : σ) :
    scopedLock body true s = .relocked := rfl

/-- What follows a call that returns. -/
theorem bind_returned {c : Call σ α} {next : α → Call σ β} {held : Bool} {s t : σ} {a : α}
    (ends : c held s = .returned a t) : (c >>= next) held s = next a held t := by
  show bind c next held s = _
  unfold bind
  rw [ends]

theorem bind_relocked {c : Call σ α} {next : α → Call σ β} {held : Bool} {s : σ}
    (stuck : c held s = .relocked) : (c >>= next) held s = .relocked := by
  show bind c next held s = _
  unfold bind
  rw [stuck]

/-- Where nothing that follows a call gets stuck, the call itself has to. -/
theorem bind_eq_relocked {c : Call σ α} {next : α → Call σ β} {held : Bool}
    (safe : ∀ a t, next a held t ≠ .relocked) (s : σ) :
    (c >>= next) held s = .relocked ↔ c held s = .relocked := by
  refine ⟨fun stuck => ?_, bind_relocked⟩
  have stuck' : bind c next held s = .relocked := stuck
  unfold bind at stuck'
  split at stuck'
  · exact absurd stuck' (safe _ _)
  · cases stuck'
  · next here => exact here

end Call
end Locked
