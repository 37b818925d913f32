import Rulebook.Text.Scan

/-!
# Finding a text in another

`splitAt?` cuts a text around the first occurrence of another one; the empty text occurs at the
very beginning.
-/

namespace Rulebook.Text

/-- what stands before and after the first occurrence -/
def splitAt? (pattern : List Char) (cs : List Char) : Option (List Char × List Char) :=
  match afterPrefix? pattern cs with
  | some rest => some ([], rest)
  | none =>
    match cs with
    | [] => none
    | c :: cs => (splitAt? pattern cs).map fun (before, after) => (c :: before, after)

def occursIn (pattern s : String) : Bool := (splitAt? pattern.toList s.toList).isSome

def begins (start s : String) : Bool := (afterPrefix? start.toList s.toList).isSome

def ends (tail s : String) : Bool := (afterPrefix? tail.toList.reverse s.toList.reverse).isSome

/-- the text before the first occurrence, empty without one -/
def textBefore (pattern s : String) : String :=
  match splitAt? pattern.toList s.toList with
  | some (before, _) => String.ofList before
  | none => ""

/-- the text after the first occurrence, empty without one -/
def textAfter (pattern s : String) : String :=
  match splitAt? pattern.toList s.toList with
  | some (_, after) => String.ofList after
  | none => ""

/-- each character that is found in `source` replaced by the one at its place in `target`, and
dropped if there is none -/
def translate (source target : List Char) (cs : List Char) : List Char :=
  cs.filterMap fun c =>
    match source.findIdx? (· == c) with
    | some i => target[i]?
    | none => some c

@[simp] theorem afterPrefix?_nil (cs : List Char) : afterPrefix? [] cs = some cs := by
  cases cs <;> rfl

@[simp] theorem afterPrefix?_append (start cs : List Char) :
    afterPrefix? start (start ++ cs) = some cs := by
  induction start with
  | nil => exact afterPrefix?_nil cs
  | cons c start ih =>
    rw [List.cons_append, afterPrefix?, if_pos (beq_self_eq_true c), ih]

theorem append_of_afterPrefix {start cs rest : List Char}
    (h : afterPrefix? start cs = some rest) : cs = start ++ rest := by
  induction start generalizing cs with
  | nil => simpa [afterPrefix?] using h
  | cons s start ih =>
    cases cs with
    | nil => simp [afterPrefix?] at h
    | cons c cs =>
      by_cases hc : s = c
      · subst hc
        simp [afterPrefix?] at h
        rw [ih h]
        rfl
      · simp [afterPrefix?, hc] at h

end Rulebook.Text
