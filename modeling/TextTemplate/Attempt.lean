import TextTemplate.Error

/-!
Computations that change a state and may fail. A failure ends the computation but does not
undo it: the state reached so far is part of the outcome.
-/
namespace TextTemplate

def Attempt (σ α : Type) : Type := σ → Except Error α × σ

namespace Attempt

variable {σ α β : Type}

def pure (a : α) : Attempt σ α := fun s => (.ok a, s)

def bind (m : Attempt σ α) (f : α → Attempt σ β) : Attempt σ β := fun s =>
  match m s with
  | (.ok a, s') => f a s'
  | (.error e, s') => (.error e, s')

instance : Monad (Attempt σ) where
  pure := Attempt.pure
  bind := Attempt.bind

def fail (e : Error) : Attempt σ α := fun s => (.error e, s)

def get : Attempt σ σ := fun s => (.ok s, s)

def modify (f : σ → σ) : Attempt σ Unit := fun s => (.ok (), f s)

theorem bind_of_ok {m : Attempt σ α} {f : α → Attempt σ β} {s s' : σ} {a : α}
    (h : m s = (.ok a, s')) : (m >>= f) s = f a s' := by
  change Attempt.bind m f s = _
  simp [Attempt.bind, h]

theorem bind_of_error {m : Attempt σ α} {f : α → Attempt σ β} {s s' : σ} {e : Error}
    (h : m s = (.error e, s')) : (m >>= f) s = (.error e, s') := by
  change Attempt.bind m f s = _
  simp [Attempt.bind, h]

end Attempt

end TextTemplate
