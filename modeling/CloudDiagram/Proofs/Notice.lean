import CloudDiagram.Exchange.Transfer

/-!
# Results without their notices

* `Noted.result_bind`, `Attempt.result_bind`: the result of a sequence does not depend on the notices
  that are given on the way.
-/

namespace CloudDiagram

variable {α β ε : Type}

@[simp] theorem Noted.result_pure (a : α) : (pure a : Noted α).result = a := rfl

@[simp] theorem Noted.result_bind (x : Noted α) (f : α → Noted β) :
    (x >>= f).result = (f x.result).result := rfl

namespace Attempt

@[simp] theorem result_pure (a : α) : (pure a : Attempt ε α).run.result = .ok a := rfl

@[simp] theorem result_throw (e : ε) : (throw e : Attempt ε α).run.result = .error e := rfl

@[simp] theorem result_bind (x : Attempt ε α) (f : α → Attempt ε β) :
    (x >>= f).run.result = x.run.result.bind fun a => (f a).run.result := by
  rw [ExceptT.run_bind, Noted.result_bind]
  cases x.run.result <;> rfl

@[simp] theorem result_lift (x : Except ε α) : (liftM x : Attempt ε α).run.result = x := rfl

@[simp] theorem result_say (level : Level) (text : String) :
    (liftM (Noted.say level text) : Attempt ε Unit).run.result = .ok () := rfl

@[simp] theorem result_map (f : α → β) (x : Attempt ε α) :
    (ExceptT.map f x).run.result = x.run.result.map f := by
  have hmap : ExceptT.map f x = x >>= fun a => pure (f a) := rfl
  rw [hmap, result_bind]
  cases x.run.result <;> rfl

end Attempt

end CloudDiagram
