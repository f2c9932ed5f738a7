/-!
# Log lines and commented results

A decision that fills in what the host left open says so in the log. `Noted ε α` is a result
together with the lines written on the way to it; a failed computation keeps its lines.
`result_bind` says that the lines never influence the result.
-/

namespace UsbVideo

/-- How much a log line matters. -/
inductive Level where
  | info
  | warn
  | error
  deriving DecidableEq

/-- One line of the log. -/
structure LogLine where
  level : Level
  text : String
  deriving DecidableEq

namespace Level

def name : Level → String
  | info => "INFO"
  | warn => "WARN"
  | error => "ERROR"

end Level

namespace LogLine

def info (text : String) : LogLine := ⟨.info, text⟩

def warn (text : String) : LogLine := ⟨.warn, text⟩

def error (text : String) : LogLine := ⟨.error, text⟩

/-- The level's name, a blank and the text. -/
def render (line : LogLine) : String := line.level.name ++ " " ++ line.text

end LogLine

/-- A result and the log lines written while it was computed, oldest first. -/
structure Noted (ε α : Type) where
  result : Except ε α
  log : List LogLine := []

namespace Noted

variable {ε α β : Type}

/-- Write one line and go on. -/
def note (line : LogLine) : Noted ε Unit := ⟨.ok (), [line]⟩

/-- Give up with `e`. -/
def fail (e : ε) : Noted ε α := ⟨.error e, []⟩

/-- A silent result. -/
def ofExcept (r : Except ε α) : Noted ε α := ⟨r, []⟩

protected def bind (x : Noted ε α) (f : α → Noted ε β) : Noted ε β :=
  match x.result with
  | .error e => ⟨.error e, x.log⟩
  | .ok a => ⟨(f a).result, x.log ++ (f a).log⟩

instance : Monad (Noted ε) where
  pure a := ⟨.ok a, []⟩
  bind := Noted.bind

@[simp] theorem result_pure (a : α) : (pure a : Noted ε α).result = .ok a := rfl

@[simp] theorem result_note (line : LogLine) :
    (note line : Noted ε Unit).result = .ok () := rfl

@[simp] theorem result_fail (e : ε) : (fail e : Noted ε α).result = .error e := rfl

@[simp] theorem result_ofExcept (r : Except ε α) : (ofExcept r).result = r := rfl

/-- What is logged does not influence what is computed. -/
theorem result_bind (x : Noted ε α) (f : α → Noted ε β) :
    (x >>= f).result = x.result >>= fun a => (f a).result := by
  show (Noted.bind x f).result = _
  unfold Noted.bind
  cases x.result <;> rfl

/-- What is computed after something else has a result only when that has one. -/
theorem bind_ok {x : Noted ε α} {f : α → Noted ε β} {b : β} :
    (x >>= f).result = .ok b ↔ ∃ a, x.result = .ok a ∧ (f a).result = .ok b := by
  rw [result_bind]
  cases x.result with
  | error e => exact ⟨nofun, fun ⟨_, h, _⟩ => nomatch h⟩
  | ok a => exact ⟨fun h => ⟨a, rfl, h⟩, fun ⟨_, h, h'⟩ => by cases h; exact h'⟩

/-- It fails when either does. -/
theorem bind_error {x : Noted ε α} {f : α → Noted ε β} {e : ε} :
    (x >>= f).result = .error e ↔
      x.result = .error e ∨ ∃ a, x.result = .ok a ∧ (f a).result = .error e := by
  rw [result_bind]
  cases x.result with
  | error e' => simp [bind, Except.bind]
  | ok a => simp [bind, Except.bind]

/-- What is computed after something else matters only for what that comes to. -/
theorem bind_congr {x : Noted ε α} {f g : α → Noted ε β} (h : ∀ a, x.result = .ok a → f a = g a) :
    x >>= f = x >>= g := by
  show Noted.bind x f = Noted.bind x g
  unfold Noted.bind
  cases hresult : x.result with
  | error e => rfl
  | ok a =>
    dsimp only
    rw [h a hresult]

end Noted

end UsbVideo
