import Rollout.Path
namespace Rollout

-- What a command asks of its surroundings and shows to its user, as far as it can be observed.
inductive Event
  | askedDefault
  | askedContext (name : String)
  | askedConfig
  | listedFiles (dir : Path)
  | readFile (p : Path)
  | askedProject (name : String)
  | askedProfiles
  | output (message : String)
  | error (message : String)
  | printed (text : String)
  deriving DecidableEq, Repr

-- A computation together with the events that it caused, in order.
@[ext]
structure Traced (ε α : Type) where
  events : List Event
  result : Except ε α

namespace Traced

variable {ε ε' α β γ : Type}

protected def pure (a : α) : Traced ε α where
  events := []
  result := .ok a

protected def bind (x : Traced ε α) (f : α → Traced ε β) : Traced ε β :=
  match x.result with
  | .ok a    => ⟨x.events ++ (f a).events, (f a).result⟩ 
  | .error e => ⟨x.events, .error e⟩ 

instance : Monad (Traced ε) where
  pure := Traced.pure
  bind := Traced.bind

def fail (e : ε) : Traced ε α where
  events := []
  result := .error e

-- An answer that costs nothing.
def of (x : Except ε α) : Traced ε α where
  events := []
  result := x

-- An answer that had to be asked for.
def asked (e : Event) (x : Except ε α) : Traced ε α where
  events := [e]
  result := x

def emit (e : Event) : Traced ε Unit where
  events := [e]
  result := .ok ()

def mapError (f : ε → ε') (x : Traced ε α) : Traced ε' α where
  events := x.events
  result := x.result.mapError f

theorem bind_eq (x : Traced ε α) (f : α → Traced ε β) : x >>= f = Traced.bind x f :=
  rfl

theorem pure_eq (a : α) : (pure a : Traced ε α) = Traced.pure a :=
  rfl

theorem bind_of_ok {x : Traced ε α} (f : α → Traced ε β) (h : x.result = .ok a) : 
    Traced.bind x f = ⟨x.events ++ (f a).events, (f a).result⟩ := by
  simp [Traced.bind, h]

-- Nothing happens after a failure.
theorem bind_of_error {x : Traced ε α} (f : α → Traced ε β) (h : x.result = .error e) : 
    Traced.bind x f = ⟨x.events, .error e⟩ := by
  simp [Traced.bind, h]

protected theorem id_map (x : Traced ε α) : id <$> x = x := by
  cases x with | mk es r => cases r <;> simp [Functor.map, Traced.bind, Traced.pure]

protected theorem bind_assoc (x : Traced ε α) (f : α → Traced ε β) (g : β → Traced ε γ) : 
    x >>= f >>= g = x >>= fun a => f a >>= g := by
  cases hx : x.result with
  | error e => simp [bind_eq, Traced.bind, hx]
  | ok a    => cases hf : (f a).result <;> simp [bind_eq, Traced.bind, hx, hf]

instance : LawfulMonad (Traced ε) :=
  LawfulMonad.mk' (Traced ε) Traced.id_map (fun _ _ => rfl) Traced.bind_assoc

end Traced
end Rollout
