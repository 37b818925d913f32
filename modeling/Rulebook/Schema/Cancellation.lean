/-!
# Cancellation

A token watches a flag and may have a deadline.  Tokens made from one another share the flag; the
deadline is each token's own.  A token is cancelled when its flag is raised or its deadline has
passed.  Who runs a schema only sees what its token shows at each look: that is a `Watch`.
-/

namespace Rulebook

structure CancellationToken where
  /-- the number of its flag -/
  flag : Nat
  /-- on the same clock as the time that tokens are looked at -/
  deadline : Option Nat
deriving DecidableEq, Repr

/-- the same flag with another deadline -/
def CancellationToken.withDeadline (t : CancellationToken) (deadline : Nat) : CancellationToken :=
  { t with deadline := some deadline }

/-- a deadline some time from now -/
def CancellationToken.withTimeout (t : CancellationToken) (now timeout : Nat) : CancellationToken :=
  t.withDeadline (now + timeout)

/-- which flags are raised, by their numbers -/
structure CancellationFlags where
  raised : List Bool
deriving DecidableEq, Repr

namespace CancellationFlags

def empty : CancellationFlags := ⟨[]⟩

/-- a token with a flag of its own -/
def newToken (f : CancellationFlags) : CancellationFlags × CancellationToken :=
  (⟨f.raised ++ [false]⟩, ⟨f.raised.length, none⟩)

def isRaised (f : CancellationFlags) (i : Nat) : Bool := (f.raised[i]?).getD false

/-- raises the flag of a token -/
def cancel (f : CancellationFlags) (t : CancellationToken) : CancellationFlags :=
  ⟨f.raised.set t.flag true⟩

def isCancelled (f : CancellationFlags) (t : CancellationToken) (now : Nat) : Bool :=
  f.isRaised t.flag || t.deadline.any (· ≤ now)

theorem isRaised_newToken (f : CancellationFlags) (i : Nat) :
    f.newToken.1.isRaised i = f.isRaised i := by
  unfold newToken isRaised
  rcases Nat.lt_trichotomy i f.raised.length with hlt | rfl | hgt
  · rw [List.getElem?_append_left hlt]
  · simp
  · have hlast : (f.raised ++ [false]).length ≤ i := by
      rw [List.length_append]
      exact hgt
    rw [List.getElem?_eq_none hlast, List.getElem?_eq_none (Nat.le_of_lt hgt)]

theorem isRaised_cancel {f : CancellationFlags} {t : CancellationToken}
    (h : t.flag < f.raised.length) (i : Nat) :
    (f.cancel t).isRaised i = true ↔ f.isRaised i = true ∨ t.flag = i := by
  unfold cancel isRaised
  rw [List.getElem?_set]
  by_cases hi : t.flag = i
  · subst hi
    simp [h]
  · simp [hi]

theorem isCancelled_iff {f : CancellationFlags} {t : CancellationToken} {now : Nat} :
    f.isCancelled t now = true ↔
      f.isRaised t.flag = true ∨ ∃ deadline, t.deadline = some deadline ∧ deadline ≤ now := by
  unfold isCancelled
  simp [Option.any_eq_true]

end CancellationFlags

/-! ## looking at a token -/

/-- what a token shows at each look, counted from zero, and how many looks there were -/
structure Watch where
  shows : Nat → Bool
  looks : Nat

namespace Watch

def start (shows : Nat → Bool) : Watch := ⟨shows, 0⟩

/-- one look: whether the token is cancelled, and the watch after it -/
def look (w : Watch) : Bool × Watch := (w.shows w.looks, { w with looks := w.looks + 1 })

end Watch

end Rulebook
