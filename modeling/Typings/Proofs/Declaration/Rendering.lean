import Typings.Declaration.Rendering

/-!
# Renderings in sequence

A rendering is known by its outcome and by what it adds to the log. Renderings obey the laws of a
monad: what a sequence adds is what its steps recorded, one after the other, up to the step that
failed.
-/

namespace Typings.Rendering

variable {α β : Type}

theorem ext {x y : Rendering α} (hr : x.result = y.result) (hl : x.log = y.log) : x = y := by
  have h : x.run = y.run := by
    funext log
    rw [x.run_eq_append, y.run_eq_append, hr, hl]
  cases x; cases y
  cases h
  rfl

/-- The rendering with an outcome that adds the given entries to the log. -/
def of (result : Except Failure α) (entries : Log) : Rendering α where
  run log := (result, log ++ entries)
  run_eq _ := rfl

@[simp]
theorem result_of (result : Except Failure α) (entries : Log) :
    (of result entries).result = result :=
  rfl

@[simp]
theorem log_of (result : Except Failure α) (entries : Log) : (of result entries).log = entries :=
  rfl

@[simp]
theorem result_ofExcept (result : Except Failure α) : (ofExcept result).result = result :=
  rfl

@[simp]
theorem log_ofExcept (result : Except Failure α) : (ofExcept result).log = [] :=
  rfl

@[simp]
theorem log_pure (a : α) : (pure a : Rendering α).log = [] :=
  rfl

theorem run_bind (x : Rendering α) (f : α → Rendering β) (log : Log) :
    (x >>= f).run log =
      match x.run log with
      | (.ok a, log) => (f a).run log
      | (.error e, log) => (.error e, log) :=
  rfl

theorem bind_of_ok {x : Rendering α} {f : α → Rendering β} {a : α} (h : x.result = .ok a) :
    x >>= f = of (f a).result (x.log ++ (f a).log) := by
  have hr : (x >>= f).run [] = (f a).run x.log := by
    rw [run_bind, x.run_eq_append, h, List.nil_append]
  rw [(f a).run_eq_append] at hr
  exact ext (congrArg Prod.fst hr) (congrArg Prod.snd hr)

theorem bind_of_error {x : Rendering α} {f : α → Rendering β} {e : Failure}
    (h : x.result = .error e) : x >>= f = of (.error e) x.log := by
  have hr : (x >>= f).run [] = (.error e, x.log) := by
    rw [run_bind, x.run_eq_append, h, List.nil_append]
  exact ext (congrArg Prod.fst hr) (congrArg Prod.snd hr)

theorem result_bind (x : Rendering α) (f : α → Rendering β) :
    (x >>= f).result = x.result >>= fun a => (f a).result := by
  cases h : x.result with
  | ok a => rw [bind_of_ok h]; rfl
  | error e => rw [bind_of_error h]; rfl

instance : LawfulMonad Rendering := LawfulMonad.mk' Rendering
  (by
    intro α x
    cases h : x.result with
    | error e => exact (bind_of_error h).trans (ext h.symm rfl)
    | ok a => exact (bind_of_ok h).trans (ext h.symm (List.append_nil x.log)))
  (fun _ _ => (bind_of_ok rfl).trans (ext rfl rfl))
  (by
    intro α β γ x f g
    cases hx : x.result with
    | error e => rw [bind_of_error hx, bind_of_error rfl, bind_of_error hx]; rfl
    | ok a =>
      rw [bind_of_ok hx, bind_of_ok hx]
      cases hf : (f a).result with
      | error e => rw [bind_of_error rfl, bind_of_error hf]; rfl
      | ok b => rw [bind_of_ok rfl, bind_of_ok hf]; exact ext rfl (by simp))

theorem result_mapM (f : α → Rendering β) :
    (xs : List α) → (xs.mapM f).result = xs.mapM fun x => (f x).result
  | [] => rfl
  | x :: xs => by
      rw [List.mapM_cons, List.mapM_cons, result_bind]
      congr 1
      funext b
      rw [result_bind, result_mapM f xs]
      rfl

end Typings.Rendering
