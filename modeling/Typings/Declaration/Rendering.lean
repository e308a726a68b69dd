import Typings.Diagnostic.Report
import Typings.Failure

/-!
# Renderings

Rendering gives a text or a failure. On the way it records diagnostics in a log that it shares with
everything rendered before: each step is handed the log and hands it on, also when it fails. No step
looks at what is in the log, and none does anything but add to its end; a rendering carries the proof
of that.
-/

namespace Typings

/-- A computation that may record diagnostics. -/
structure Rendering (α : Type) where
  /-- The outcome and the log afterwards, given the log before. -/
  run : Log → Except Failure α × Log
  /-- The outcome is the same with every log, and what is recorded goes to the end of it. -/
  run_eq : ∀ log, run log = ((run []).1, log ++ (run []).2)

namespace Rendering

variable {α β : Type}

def result (x : Rendering α) : Except Failure α := (x.run []).1

/-- The diagnostics recorded on the way. -/
def log (x : Rendering α) : Log := (x.run []).2

theorem run_eq_append (x : Rendering α) (log : Log) : x.run log = (x.result, log ++ x.log) :=
  x.run_eq log

/-- A rendering that records nothing. -/
def ofExcept (result : Except Failure α) : Rendering α where
  run log := (result, log)
  run_eq log := by rw [List.append_nil]

/-- Records a diagnostic. -/
def record (d : Diagnostic) : Rendering Unit where
  run log := (.ok (), log ++ [d])
  run_eq log := by rw [List.nil_append]

/-- Goes on with the result, if there is one, and the log as it is then. -/
def andThen (x : Rendering α) (f : α → Rendering β) : Rendering β where
  run log :=
    match x.run log with
    | (.ok a, log) => (f a).run log
    | (.error e, log) => (.error e, log)
  run_eq log := by
    rw [x.run_eq_append log, x.run_eq_append [], List.nil_append]
    cases x.result with
    | error e => rfl
    | ok a =>
        change (f a).run (log ++ x.log) = (((f a).run x.log).1, log ++ ((f a).run x.log).2)
        rw [(f a).run_eq_append (log ++ x.log), (f a).run_eq_append x.log, List.append_assoc]

instance : Monad Rendering where
  pure a := ofExcept (.ok a)
  bind := andThen

end Rendering

/-- Where a document comes from and how it is laid out: the unit of indentation and the file named
in diagnostics. -/
structure Context where
  indent : String
  file : String

/-- Records a gap of a node, unless it can not be worded. -/
def Context.record (ctx : Context) (gap : Gap) (loc : Option Location) : Rendering Unit := do
  let _ ← Rendering.ofExcept (gap.message.mapError .malformed)
  Rendering.record ⟨gap, ctx.file, Location.lineOf loc⟩

end Typings
