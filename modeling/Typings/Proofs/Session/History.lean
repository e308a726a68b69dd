import Typings.Session

/-!
# Sessions as histories of steps

What a session answers to a step does not depend on the steps before it, reports apart, and a report
depends on them through the log alone. The log only grows: every step adds what it would record in a
session of its own, whether or not it fails.
-/

namespace Typings

/-- What a session is asked to do: the document of a tree, the document of a source given how the
parser went, or a report. -/
inductive Step where
  | tree (data : Json) (file : String)
  | source (file : String) (launch : Launch)
  | report

inductive Answer where
  | document (result : Except Failure String)
  | report (printed : Printout)

/-- What a step records if nothing has been recorded before. -/
def Step.recorded (settings : Settings) : Step → Log
  | .tree data file => ((documentOfTree (settings.context file) data).run []).2
  | .source file launch =>
    ((documentOfSource (settings.context file) settings.parser launch).run []).2
  | .report => []

/-- The answer to a step: the document that is made if nothing has been recorded before, or the
report on what has been. -/
def Step.answer (settings : Settings) (before : Log) : Step → Answer
  | .tree data file => .document ((documentOfTree (settings.context file) data).run []).1
  | .source file launch =>
    .document ((documentOfSource (settings.context file) settings.parser launch).run []).1
  | .report => .report (before.report settings.verbose)

namespace Session

def perform (s : Session) : Step → Answer × Session
  | .tree data file => (s.addTree data file).map .document id
  | .source file launch => (s.addSource file launch).map .document id
  | .report => (.report s.report, s)

/-- Performs steps one after the other. -/
def run (s : Session) : List Step → List Answer × Session
  | [] => ([], s)
  | step :: rest =>
    let (answer, s) := s.perform step
    let (answers, s) := s.run rest
    (answer :: answers, s)

/-! ## One step -/

theorem render_eq (s : Session) (r : Rendering String) :
    s.render r = ((r.run []).1, ⟨s.settings, s.log ++ (r.run []).2⟩) := by
  rw [render, r.run_eq_append]
  rfl

theorem perform_eq (s : Session) (step : Step) :
    s.perform step =
      (step.answer s.settings s.log, ⟨s.settings, s.log ++ step.recorded s.settings⟩) := by
  cases step with
  | tree data file => rw [perform, addTree, render_eq]; rfl
  | source file launch => rw [perform, addSource, render_eq]; rfl
  | report => rw [perform, Step.recorded, List.append_nil]; rfl

/-! ## Steps after each other -/

theorem run_cons (s : Session) (step : Step) (rest : List Step) :
    s.run (step :: rest) =
      ((s.perform step).1 :: ((s.perform step).2.run rest).1, ((s.perform step).2.run rest).2) :=
  rfl

theorem run_session (s : Session) (steps : List Step) :
    (s.run steps).2 = ⟨s.settings, s.log ++ steps.flatMap (Step.recorded s.settings)⟩ := by
  induction steps generalizing s with
  | nil => simp [run]
  | cons step rest ih =>
      rw [run_cons, ih, perform_eq]
      simp

theorem run_answers (s : Session) (steps : List Step) :
    (s.run steps).1 = steps.mapIdx fun i step =>
      step.answer s.settings (s.log ++ (steps.take i).flatMap (Step.recorded s.settings)) := by
  induction steps generalizing s with
  | nil => rfl
  | cons step rest ih =>
      rw [run_cons, ih, List.mapIdx_cons, perform_eq]
      simp

theorem run_take_log_isPrefix (s : Session) (steps : List Step) (i : Nat) :
    (s.run (steps.take i)).2.log <+: (s.run steps).2.log := by
  have h : steps.flatMap (Step.recorded s.settings) =
      (steps.take i).flatMap (Step.recorded s.settings) ++
        (steps.drop i).flatMap (Step.recorded s.settings) := by
    rw [← List.flatMap_append, List.take_append_drop]
  rw [run_session, run_session, h, ← List.append_assoc]
  exact List.prefix_append _ _

/-- A session of its own for a step answers it and records what it has to record. After any steps a
session holds what each of them records in a session of its own, in their order. Each step but a
report is answered as in a session of its own, and a report is that of the log up to there. What the
log holds at any point it goes on to hold. -/
theorem run_fresh (settings : Settings) (steps : List Step) :
    (∀ step, (fresh settings).perform step =
      (step.answer settings [], ⟨settings, step.recorded settings⟩)) ∧
    ((fresh settings).run steps).2 = ⟨settings, steps.flatMap (Step.recorded settings)⟩ ∧
    ((fresh settings).run steps).1 = steps.mapIdx (fun i step =>
      step.answer settings ((steps.take i).flatMap (Step.recorded settings))) ∧
    ∀ i, ((fresh settings).run (steps.take i)).2.log <+: ((fresh settings).run steps).2.log := by
  refine ⟨fun step => ?_, ?_, ?_, run_take_log_isPrefix (fresh settings) steps⟩
  · rw [perform_eq]
    rfl
  · rw [run_session]
    rfl
  · rw [run_answers]
    rfl

end Session

end Typings
