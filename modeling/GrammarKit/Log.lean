import GrammarKit.Text.Basic

/-!
# Log lines

What is reported while the program works, and steps that report what they do. Steps one behind the
other report one behind the other, up to the first that fails.
-/

namespace GrammarKit

inductive LogLevel where
  | debug
  | info
  /-- Probably not what was wanted. -/
  | warning
  deriving DecidableEq, Repr

def LogLevel.name : LogLevel → Text
  | .debug => "DEBUG".toList
  | .info => "INFO".toList
  | .warning => "WARNING".toList

structure LogLine where
  level : LogLevel
  message : Text
  deriving DecidableEq, Repr

/-- The lines reported so far, in order. -/
abbrev Log := List LogLine

/-- What a step reported, and what came of it. -/
structure Logged (ε α : Type) where
  log : Log
  /-- The result, or why there is none. -/
  result : Except ε α

namespace Logged

variable {ε α β : Type}

/-- A result without a report. -/
def of (result : Except ε α) : Logged ε α := ⟨[], result⟩

def report (level : LogLevel) (message : Text) : Logged ε Unit := ⟨[⟨level, message⟩], .ok ()⟩

/-- A step behind a report. -/
def after (log : Log) (x : Logged ε α) : Logged ε α := ⟨log ++ x.log, x.result⟩

def bind (x : Logged ε α) (f : α → Logged ε β) : Logged ε β :=
  match x.result with
  | .ok a => (f a).after x.log
  | .error e => ⟨x.log, .error e⟩

def mapError {δ : Type} (f : ε → δ) (x : Logged ε α) : Logged δ α := ⟨x.log, x.result.mapError f⟩

instance : Monad (Logged ε) where
  pure a := of (.ok a)
  bind := bind

theorem result_bind_ok {x : Logged ε α} {f : α → Logged ε β} {a : α} (h : x.result = .ok a) :
    (x >>= f).result = (f a).result := by
  change (x.bind f).result = _
  rw [bind, h]
  rfl

theorem result_bind_error {x : Logged ε α} {f : α → Logged ε β} {e : ε}
    (h : x.result = .error e) : (x >>= f).result = .error e := by
  change (x.bind f).result = _
  rw [bind, h]

end Logged
end GrammarKit
