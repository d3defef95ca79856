import Mathlib.Data.List.Count
import Mathlib.Data.List.Basic

namespace SorobanSas.Library
namespace SlidingWindow

open List

/-!
# Sliding windows

A limiter keeps the times of recent admissions and admits another one while there are fewer
than a limit of them.  Times that have left the window are dropped whenever an admission is
recorded, so the history is not the whole log of admissions.

Two comparisons between a history and a log are all that the limiter needs.  A history that
covers a log holds every time of the log that is still in the window: then the log stays
bounded in every window, wherever it is placed.  A history that is a sublist of a log holds
nothing else: then a refusal is justified by the log.
-/

/-- The times in the window that ends now. -/
def recent (window now : Nat) (times : List Nat) : List Nat :=
  times.filter fun time => now - (window - 1) <= time && time <= now

/-- The history after one more admission, if there may be one. -/
def accept (limit window now : Nat) (history : List Nat) : Option (List Nat) :=
  if (recent window now history).length < limit then
    some (recent window now history ++ [now])
  else
    none

variable {limit window now later : Nat} {log history next : List Nat}

theorem accept_eq_some : accept limit window now history = some next ↔
      (recent window now history).length < limit ∧ next = recent window now history ++ [now] := by
  by_cases room : (recent window now history).length < limit
  · rw [accept, if_pos room, Option.some.injEq, and_iff_right room, eq_comm]
  · rw [accept, if_neg room]
    simp [room]

theorem accept_eq_none : accept limit window now history = none ↔ limit <= (recent window now history).length := by
  by_cases room : (recent window now history).length < limit
  · rw [accept, if_pos room]
    simp [room]
  · rw [accept, if_neg room]
    simp [Nat.le_of_not_lt room]

theorem recent_sublist : (recent window now history).Sublist history := filter_sublist

theorem recent_concat (times : List Nat) : recent window now (times ++ [now]) = recent window now times ++ [now] := by
  rw [recent, filter_append, filter_cons_of_pos (by simp), filter_nil, recent]

theorem recent_replicate (window now count : Nat) (log : List Nat) :
    (recent window now (log ++ List.replicate count now)).length = (recent window now log).length + count := by
  induction count with
  | zero => simp
  | succ count ih =>
    rw [replicate_succ', ← append_assoc, recent_concat, length_append, ih, length_singleton, Nat.add_assoc]

theorem recent_recent : recent window now (recent window now history) = recent window now history := by
  simp only [recent, filter_filter, Bool.and_self]

/-- The history never grows beyond the limit. -/
theorem length_accept (admitted : accept limit window now history = some next) : next.length <= limit := by
  rcases accept_eq_some.mp admitted with ⟨room, rfl⟩
  rw [length_append, length_singleton]
  exact room

theorem accept_sublist (admitted : accept limit window now history = some next) : next.Sublist (history ++ [now]) := by
  rcases accept_eq_some.mp admitted with ⟨-, rfl⟩
  exact recent_sublist.append_right [now]

/-! ## Covered logs -/

/-- The history holds what the log says about the window that ends now. -/
structure Covers (window now : Nat) (log history : List Nat) : Prop where
  past : ∀ time ∈ log, time <= now
  held : (recent window now log).Sublist (recent window now history)

namespace Covers

theorem nil (window now : Nat) (history : List Nat) : Covers window now [] history where
  past := by simp
  held := nil_sublist _

/-- A window that ends later holds no more of what is already there. -/
theorem mono (covers : Covers window now log history) (passed : now <= later) : Covers window later log history where
  past := fun time member => Nat.le_trans (covers.past time member) passed
  held := by
    have narrowed : recent window later log = recent window later (recent window now log) := by
      rw [recent, recent, recent, filter_filter]
      refine filter_congr fun time member => ?_
      have early := covers.past time member
      rw [Bool.eq_iff_iff]
      simp only [Bool.and_eq_true, decide_eq_true_eq]
      omega
    rw [narrowed]
    exact (covers.held.filter _).trans (recent_sublist.filter _)

/-- Both grow by an admission. -/
theorem admitted (covers : Covers window now log history)
    (admission : accept limit window now history = some next) : Covers window now (log ++ [now]) next where
  past := by
    intro time member
    rcases List.mem_append.mp member with earlier | new
    · exact covers.past time earlier
    · exact Nat.le_of_eq (List.mem_singleton.mp new)
  held := by
    rcases accept_eq_some.mp admission with ⟨-, rfl⟩
    rw [recent_concat, recent_concat, recent_recent]
    exact covers.held.append_right [now]

/-- Once everything in the log has left the window, any history covers it. -/
theorem of_past (gone : ∀ time ∈ log, time + window < now) (history : List Nat) : Covers window now log history where
  past := fun time member => by
    have early := gone time member
    omega
  held := by
    have empty : recent window now log = [] := by
      refine List.filter_eq_nil_iff.mpr fun time member => ?_
      have early := gone time member
      simp only [Bool.and_eq_true, decide_eq_true_eq]
      omega
    rw [empty]
    exact nil_sublist _

end Covers

/-- How many of the times are among `window` consecutive ones. -/
def within (window first : Nat) (log : List Nat) : Nat := log.countP fun time => first <= time && time < first + window

/-- No window, wherever it is placed, holds more than the limit. -/
def Bounded (limit window : Nat) (log : List Nat) : Prop := ∀ first, within window first log <= limit

theorem bounded_nil (limit window : Nat) : Bounded limit window [] := fun _ => Nat.zero_le _

/-- A window that contains the present reaches no further back than the one that ends now. -/
theorem within_le_recent {first : Nat} (past : ∀ time ∈ log, time <= now)
    (contains : first <= now ∧ now < first + window) : within window first log <= (recent window now log).length := by
  rw [within, recent, ← countP_eq_length_filter]
  refine countP_mono_left fun time member counted => ?_
  have early := past time member
  simp only [Bool.and_eq_true, decide_eq_true_eq] at counted ⊢
  omega

theorem Bounded.admitted (bounded : Bounded limit window log) (covers : Covers window now log history)
    (admission : accept limit window now history = some next) : Bounded limit window (log ++ [now]) := by
  intro first
  rcases accept_eq_some.mp admission with ⟨room, -⟩
  rw [within, countP_append, countP_singleton]
  by_cases contains : first <= now ∧ now < first + window
  · have counted := within_le_recent covers.past contains
    have held := covers.held.length_le
    rw [within] at counted
    split <;> omega
  · have outside : ¬ (first <= now && now < first + window) = true := by
      simpa only [Bool.and_eq_true, decide_eq_true_eq] using contains
    rw [if_neg outside]
    exact bounded first

/-- An admission is refused only if the log that the history comes from fills the window. -/
theorem refused_of_sublist (refused : accept limit window now history = none)
    (genuine : history.Sublist log) : limit <= (recent window now log).length :=
  Nat.le_trans (accept_eq_none.mp refused) (genuine.filter _).length_le

end SlidingWindow
end SorobanSas.Library
