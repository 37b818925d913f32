import Rulebook.Proofs.Safety.Builtin

/-!
# Texts cut at the first occurrence of another

What `contains`, `substring-before` and `substring-after` say about two texts.

* `Text.FirstCut`   what stands before and after the first occurrence of a text in another.

`substringBefore_append_substringAfter`: **the parts that both give are those around the first
occurrence, in characters and in bytes, and are empty if there is none**.
-/

set_option autoImplicit false

namespace Rulebook

/-! ## texts -/

namespace Text

variable {s t before after : String}

/-- what stands before and after the first occurrence of `t` in `s` -/
structure FirstCut (s t before after : String) : Prop where
  append : before ++ t ++ after = s
  /-- an occurrence behind other characters is no earlier -/
  first : ∀ start rest : String, start ++ t ++ rest = s → before.length ≤ start.length
  /-- no bytes like those of `t` begin before the end of `before` -/
  firstByte : firstByte? s t = some before.utf8ByteSize

theorem toList_append_append (start t rest : String) :
    (start ++ t ++ rest).toList = start.toList ++ t.toList ++ rest.toList := by
  rw [String.toList_append, String.toList_append]

theorem toList_infix_iff :
    t.toList <:+: s.toList ↔ ∃ start rest : String, start ++ t ++ rest = s := by
  constructor
  · rintro ⟨start, rest, h⟩
    refine ⟨String.ofList start, String.ofList rest, ?_⟩
    rw [← String.toList_inj, toList_append_append, String.toList_ofList, String.toList_ofList, h]
  · rintro ⟨start, rest, rfl⟩
    exact ⟨start.toList, rest.toList, (toList_append_append start t rest).symm⟩

theorem Around.firstCut (h : Around t.toList s.toList before.toList after.toList) :
    FirstCut s t before after where
  append := (h.eq_append.trans String.append_assoc.symm).symm
  first := by
    intro start rest hs
    have hbegins : start.toList ++ t.toList <+: s.toList :=
      ⟨rest.toList, by rw [← toList_append_append, hs]⟩
    have hle : ¬start.toList.length < before.toList.length :=
      fun hlt => h.first start.toList hlt hbegins
    rw [String.length_toList, String.length_toList] at hle
    exact Nat.le_of_not_lt hle
  firstByte := firstByte?_of_around h

end Text

/-! ## calls -/

open Text in
/-- **A text is cut at the first occurrence of another.**  Whether it occurs is what `contains`
says.  If it does, then what `substring-before` gives, the text that occurs and what
`substring-after` gives are the whole again, and it does not occur any earlier.  If it does not,
both give the empty text.  They give the same where places are counted in bytes. -/
theorem substringBefore_append_substringAfter (v w : Value) (c : Context) :
    let s := v.text c.document
    let t := w.text c.document
    ∃ (found : Bool) (before after : String),
      Builtin.contains.invoke [v, w] c = .ok (.ofBool found) ∧
      Builtin.substringBefore.invoke [v, w] c = .ok (.ofText before) ∧
      Builtin.substringAfter.invoke [v, w] c = .ok (.ofText after) ∧
      Builtin.substringBefore.invokeChecked [v, w] c = .ok (.ofText before) ∧
      Builtin.substringAfter.invokeChecked [v, w] c = .ok (.ofText after) ∧
      (found = true ↔ ∃ start rest : String, start ++ t ++ rest = s) ∧
      (found = true → FirstCut s t before after) ∧
      (found = false → before = "" ∧ after = "" ∧ firstByte? s t = none) := by
  intro s t
  refine ⟨occursIn t s, textBefore t s, textAfter t s, rfl, rfl, rfl,
    Builtin.invokeChecked_eq _ _ c, Builtin.invokeChecked_eq _ _ c,
    occursIn_iff.trans toList_infix_iff, fun hfound => ?_, fun hfound => ?_⟩
  · obtain hnot | ⟨before, after, haround⟩ := around_cases t s
    · exact absurd (occursIn_iff.mp hfound) hnot
    · rw [textBefore_of_around haround, textAfter_of_around haround]
      exact haround.firstCut
  · have hnot : ¬t.toList <:+: s.toList := fun hin => by
      rw [occursIn_iff.mpr hin] at hfound
      cases hfound
    exact ⟨textBefore_of_not_occurs hnot, textAfter_of_not_occurs hnot,
      firstByte?_of_not_occurs hnot⟩

example : Text.textBefore "ss" "Straßsse" = "Straß" ∧ Text.textAfter "ss" "Straßsse" = "e" := by
  decide

end Rulebook
