/-!
# Reading a fixed beginning

`after? token s` is what follows `token` in `s`; `after?_eq_some_iff` says exactly when there is
such a rest.
-/

namespace CommitStamp.Text

/-- What follows `token` in a text that starts with it. -/
def after? {α : Type} [DecidableEq α] : List α → List α → Option (List α)
  | [], s => some s
  | _ :: _, [] => none
  | t :: token, c :: s => if c = t then after? token s else none

theorem after?_eq_some_iff {α : Type} [DecidableEq α] {token s r : List α} :
    after? token s = some r ↔ s = token ++ r := by
  induction token generalizing s with
  | nil => simp [after?]
  | cons t token ih =>
    cases s with
    | nil => simp [after?]
    | cons c s => by_cases h : c = t <;> simp [after?, h, ih]

theorem after?_eq_none_iff {α : Type} [DecidableEq α] {token s : List α} :
    after? token s = none ↔ ¬token <+: s := by
  rw [Option.eq_none_iff_forall_ne_some]
  constructor
  · rintro h ⟨r, rfl⟩
    exact h r (after?_eq_some_iff.2 rfl)
  · intro h r hr
    exact h ⟨r, (after?_eq_some_iff.1 hr).symm⟩

end CommitStamp.Text
