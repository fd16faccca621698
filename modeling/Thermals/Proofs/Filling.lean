namespace Thermals

inductive Filling (α : Type) where
  | put (a : α)
  | clear

namespace Filling

variable {α σ : Type}

def act (put : σ → α → σ) (clear : σ → σ) (s : σ) : Filling α → σ
  | .put a => put s a
  | .clear => clear s

/-- What went in since the last clear, behind what was there at the start. -/
def log (start : List α) (steps : List (Filling α)) : List α :=
  steps.foldl (act (fun items a => items ++ [a]) fun _ => []) start

theorem foldl_act {put : σ → α → σ} {clear : σ → σ} (ofLog : List α → σ)
    (puts : ∀ items a, put (ofLog items) a = ofLog (items ++ [a]))
    (clears : ∀ items, clear (ofLog items) = ofLog []) (start : List α) (steps : List (Filling α)) :
    steps.foldl (act put clear) (ofLog start) = ofLog (log start steps) := by
  apply List.foldl_hom ofLog
  intro items step
  cases step with
  | put a => exact puts items a
  | clear => exact clears items

end Filling
end Thermals
