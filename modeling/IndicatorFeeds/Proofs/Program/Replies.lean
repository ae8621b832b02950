import IndicatorFeeds.Proofs.Program.Along

/-!
Surroundings with a memory. What they answer may depend on all that has been asked before, and what has
been asked stays known, so that a run says which requests were made, in which order, and what came of
them.
-/

namespace IndicatorFeeds

/-- An answer to each request after each series of requests. -/
abbrev Replies := (asked : List Request) → (r : Request) → r.Answer

namespace Replies

/-- The answer to a request, which is one of those that have been asked then. -/
def answer (replies : Replies) (r : Request) (asked : List Request) : r.Answer × List Request :=
  (replies asked r, asked ++ [r])

end Replies

namespace Program

variable {replies : Replies}

/-- What a program comes to if nothing has been asked before, and what it has asked for. -/
def outcome (p : Program α) (replies : Replies) : Except Failure α × List Request :=
  p.run replies.answer []

@[simp] theorem run_ofResult (result : Except Failure α) (asked : List Request) :
    (ofResult result).run replies.answer asked = (result, asked) := by
  cases result <;> rfl

theorem run_bind_done (p : Program α) (f : α → β) (asked : List Request) :
    (p.bind fun a => done (f a)).run replies.answer asked =
      ((p.run replies.answer asked).1.map f, (p.run replies.answer asked).2) := by
  rw [run_bind]
  rcases p.run replies.answer asked with ⟨_ | _, _⟩ <;> rfl

theorem prefix_run (p : Program α) (asked : List Request) :
    asked <+: (p.run replies.answer asked).2 := by
  induction p generalizing asked with
  | done | fail => exact List.prefix_refl _
  | ask r next ih => exact (List.prefix_append asked [r]).trans (ih _ _)

end Program

end IndicatorFeeds
