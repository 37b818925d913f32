import Rulebook.Text.Search

/-!
# Where a text occurs in another

The first occurrence of a text, in characters and in bytes.

* `Around`         a text is cut around the first occurrence of another;
* `standsAt`       the bytes of a text stand in those of another from a place on;
* `firstByte?`     the first such place.

`splitAt?_eq_some_iff`: **a text is cut around the first of all occurrences of the other one**.
`firstByte?_of_around`: **in the bytes the first occurrence begins where the characters before it
end**, so no occurrence begins inside of a character.  `around_cases` is how to use both: a text
occurs in another and has a first occurrence, or it does not occur.
-/

set_option autoImplicit false

namespace Rulebook.Text

/-! ## characters -/

section
variable {pattern cs before after : List Char}

/-- what stands before and after the first occurrence of a pattern -/
structure Around (pattern cs before after : List Char) : Prop where
  append : cs = before ++ (pattern ++ after)
  first : ∀ earlier : List Char, earlier.length < before.length → ¬(earlier ++ pattern) <+: cs

theorem afterPrefix?_eq_some_iff {rest : List Char} :
    afterPrefix? pattern cs = some rest ↔ cs = pattern ++ rest := by
  refine ⟨append_of_afterPrefix, ?_⟩
  rintro rfl
  exact afterPrefix?_append pattern rest

theorem afterPrefix?_eq_none_iff : afterPrefix? pattern cs = none ↔ ¬pattern <+: cs := by
  rw [Option.eq_none_iff_forall_ne_some]
  constructor
  · rintro h ⟨rest, rfl⟩
    exact h rest (afterPrefix?_eq_some_iff.mpr rfl)
  · intro h rest hrest
    exact h ⟨rest, (afterPrefix?_eq_some_iff.mp hrest).symm⟩

theorem splitAt?_append (after : List Char) :
    splitAt? pattern (pattern ++ after) = some ([], after) := by
  rw [splitAt?.eq_def, afterPrefix?_eq_some_iff.mpr rfl]

theorem splitAt?_cons_of_not_begins {c : Char} (h : ¬pattern <+: c :: cs) :
    splitAt? pattern (c :: cs) =
      (splitAt? pattern cs).map fun (before, after) => (c :: before, after) := by
  rw [splitAt?, afterPrefix?_eq_none_iff.mpr h]

/-- an occurrence in a longer text that is not at its beginning is one in its rest -/
theorem Around.cons_iff {c : Char} (h : ¬pattern <+: c :: cs) :
    Around pattern (c :: cs) (c :: before) after ↔ Around pattern cs before after := by
  constructor
  · rintro ⟨happend, hfirst⟩
    refine ⟨(List.cons.inj happend).2, fun earlier hlt hbegins => ?_⟩
    exact hfirst (c :: earlier) (Nat.succ_lt_succ hlt) (List.cons_prefix_cons.mpr ⟨rfl, hbegins⟩)
  · rintro ⟨happend, hfirst⟩
    refine ⟨congrArg (c :: ·) happend, fun earlier hlt hbegins => ?_⟩
    cases earlier with
    | nil => exact h hbegins
    | cons e earlier =>
      exact hfirst earlier (Nat.lt_of_succ_lt_succ hlt) (List.cons_prefix_cons.mp hbegins).2

theorem Around.splitAt? (h : Around pattern cs before after) :
    splitAt? pattern cs = some (before, after) := by
  induction before generalizing cs with
  | nil =>
    rw [h.append]
    exact splitAt?_append after
  | cons c before ih =>
    obtain rfl := h.append
    have hnot : ¬pattern <+: c :: (before ++ (pattern ++ after)) := h.first [] (Nat.succ_pos _)
    rw [List.cons_append] at h ⊢
    rw [splitAt?_cons_of_not_begins hnot, ih ((cons_iff hnot).mp h)]
    rfl

/-- what occurs has a first occurrence -/
theorem exists_around (h : pattern <:+: cs) : ∃ before after, Around pattern cs before after := by
  induction cs with
  | nil =>
    obtain rfl := List.infix_nil.mp h
    exact ⟨[], [], rfl, fun _ hlt => absurd hlt (Nat.not_lt_zero _)⟩
  | cons c cs ih =>
    by_cases hbegins : pattern <+: c :: cs
    · obtain ⟨after, hafter⟩ := hbegins
      exact ⟨[], after, hafter.symm, fun _ hlt => absurd hlt (Nat.not_lt_zero _)⟩
    · obtain ⟨before, after, haround⟩ := ih ((List.infix_cons_iff.mp h).resolve_left hbegins)
      exact ⟨c :: before, after, (Around.cons_iff hbegins).mpr haround⟩

theorem splitAt?_of_not_occurs (h : ¬pattern <:+: cs) : splitAt? pattern cs = none := by
  induction cs with
  | nil =>
    rw [splitAt?, afterPrefix?_eq_none_iff.mpr fun hbegins => h hbegins.isInfix]
  | cons c cs ih =>
    rw [List.infix_cons_iff, not_or] at h
    rw [splitAt?_cons_of_not_begins h.1, ih h.2]
    rfl

/-- **The cut is around the first occurrence.** -/
theorem splitAt?_eq_some_iff :
    splitAt? pattern cs = some (before, after) ↔ Around pattern cs before after := by
  refine ⟨fun h => ?_, Around.splitAt?⟩
  by_cases hin : pattern <:+: cs
  · obtain ⟨before', after', haround⟩ := exists_around hin
    cases h.symm.trans haround.splitAt?
    exact haround
  · rw [splitAt?_of_not_occurs hin] at h
    cases h

/-- without a cut the pattern does not occur -/
theorem splitAt?_eq_none_iff : splitAt? pattern cs = none ↔ ¬pattern <:+: cs := by
  refine ⟨fun h hin => ?_, splitAt?_of_not_occurs⟩
  obtain ⟨before, after, haround⟩ := exists_around hin
  rw [haround.splitAt?] at h
  cases h

end

/-! ## bytes -/

/-- the bytes of `t` stand in those of `s` from the place `i` on -/
def standsAt (s t : String) (i : Nat) : Bool :=
  decide ((s.toByteArray.extract i (i + t.utf8ByteSize)).data = t.toByteArray.data)

/-- the first place in the bytes of `s` where those of `t` stand -/
def firstByte? (s t : String) : Option Nat :=
  (List.range (s.utf8ByteSize + 1)).find? (standsAt s t)

section
variable {s t : String}

theorem extract_append_middle (a b c : ByteArray) :
    (a ++ (b ++ c)).extract a.size (a.size + b.size) = b := by
  have h := ByteArray.extract_append_size_add (a := a) (b := b ++ c) (i := 0) (j := b.size)
  rwa [Nat.add_zero, ByteArray.extract_append_eq_left rfl] at h

theorem standsAt_append (before t after : String) :
    standsAt (before ++ (t ++ after)) t before.utf8ByteSize = true := by
  refine decide_eq_true (congrArg ByteArray.data ?_)
  rw [String.toByteArray_append, String.toByteArray_append]
  exact extract_append_middle _ _ _

/-- no text but the empty one stands inside of a character -/
theorem exists_append_of_standsAt {i : Nat} (h : standsAt s t i = true) (ht : t ≠ "") :
    ∃ before after : String, s = before ++ (t ++ after) ∧ before.utf8ByteSize = i := by
  have hbytes : s.toByteArray.extract i (i + t.utf8ByteSize) = t.toByteArray :=
    ByteArray.ext (of_decide_eq_true h)
  have hpos : t.utf8ByteSize ≠ 0 := fun hzero => ht (String.utf8ByteSize_eq_zero_iff.mp hzero)
  have hsize := congrArg ByteArray.size hbytes
  rw [ByteArray.size_extract, String.size_toByteArray, String.size_toByteArray] at hsize
  have hend : i + t.utf8ByteSize ≤ s.utf8ByteSize := by omega
  have hvalid : (s.toByteArray.extract i (i + t.utf8ByteSize)).IsValidUTF8 := by
    rw [hbytes]
    exact t.isValidUTF8
  rcases (String.Pos.Raw.isValidUTF8_extract_iff ⟨i⟩ ⟨i + t.utf8ByteSize⟩ (Nat.le_add_right _ _)
    hend).mp hvalid with heq | ⟨hfirst, hlast⟩
  · exact absurd (Nat.left_eq_add.mp (congrArg String.Pos.Raw.byteIdx heq)) hpos
  · obtain ⟨before, rest, hs, hbefore⟩ := String.Pos.Raw.isValid_iff_exists_append.mp hfirst
    obtain ⟨upto, after, hs', hupto⟩ := String.Pos.Raw.isValid_iff_exists_append.mp hlast
    obtain rfl : i = before.toByteArray.size := congrArg String.Pos.Raw.byteIdx hbefore
    have hupto : before.toByteArray.size + t.utf8ByteSize = upto.toByteArray.size :=
      congrArg String.Pos.Raw.byteIdx hupto
    -- up to the end of the occurrence stand the bytes before it, then its own
    have hboth : upto.toByteArray = (before ++ t).toByteArray := by
      calc upto.toByteArray
          = s.toByteArray.extract 0 upto.toByteArray.size := by
            rw [hs', String.toByteArray_append, ByteArray.extract_append_eq_left rfl]
        _ = s.toByteArray.extract 0 before.toByteArray.size ++
              s.toByteArray.extract before.toByteArray.size upto.toByteArray.size :=
            ByteArray.extract_eq_extract_append_extract _ (Nat.zero_le _) (by omega)
        _ = (before ++ t).toByteArray := by
            rw [← hupto, hbytes, hs, String.toByteArray_append,
              ByteArray.extract_append_eq_left rfl, String.toByteArray_append]
    obtain rfl := String.toByteArray_inj.mp hboth
    exact ⟨before, after, hs'.trans String.append_assoc, rfl⟩

/-- of two beginnings of a text the one with fewer bytes has fewer characters -/
theorem length_lt_of_utf8ByteSize_lt {a b : String} (ha : a.toList <+: s.toList)
    (hb : b.toList <+: s.toList) (h : a.utf8ByteSize < b.utf8ByteSize) :
    a.toList.length < b.toList.length := by
  refine Nat.lt_of_not_le fun hle => ?_
  obtain ⟨rest, hrest⟩ := List.prefix_of_prefix_length_le hb ha hle
  have happend : b ++ String.ofList rest = a := by
    rw [← String.toList_inj, String.toList_append, String.toList_ofList, hrest]
  rw [← happend, String.utf8ByteSize_append] at h
  omega

theorem Around.eq_append {before after : String}
    (h : Around t.toList s.toList before.toList after.toList) :
    s = before ++ (t ++ after) := by
  rw [← String.toList_inj, String.toList_append, String.toList_append, h.append]

/-- **In the bytes the first occurrence begins where the characters before it end.** -/
theorem firstByte?_of_around {before after : String}
    (h : Around t.toList s.toList before.toList after.toList) :
    firstByte? s t = some before.utf8ByteSize := by
  have hs := h.eq_append
  have hstands : standsAt s t before.utf8ByteSize = true := by
    rw [hs]
    exact standsAt_append before t after
  have hle : before.utf8ByteSize < s.utf8ByteSize + 1 := by
    rw [hs, String.utf8ByteSize_append]
    omega
  refine List.find?_range_eq_some.mpr ⟨hstands, List.mem_range.mpr hle, fun i hi => ?_⟩
  rw [Bool.not_eq_true']
  refine Bool.eq_false_iff.mpr fun hearlier => ?_
  by_cases ht : t = ""
  · -- the empty text occurs in front of everything
    obtain rfl := ht
    have hlength : 0 < before.toList.length := by
      rw [List.length_pos_iff, ne_eq, String.toList_eq_nil_iff]
      rintro rfl
      exact Nat.not_lt_zero _ hi
    exact h.first [] hlength List.nil_prefix
  · obtain ⟨before', after', hs', rfl⟩ := exists_append_of_standsAt hearlier ht
    have hbefore : before.toList <+: s.toList := ⟨_, h.append.symm⟩
    have hlist : s.toList = before'.toList ++ (t.toList ++ after'.toList) := by
      rw [hs', String.toList_append, String.toList_append]
    have hlength := length_lt_of_utf8ByteSize_lt ⟨_, hlist.symm⟩ hbefore hi
    refine h.first before'.toList hlength ⟨after'.toList, ?_⟩
    rw [List.append_assoc, hlist]

theorem firstByte?_of_not_occurs (h : ¬t.toList <:+: s.toList) : firstByte? s t = none := by
  refine List.find?_eq_none.mpr fun i _ hstands => ?_
  by_cases ht : t = ""
  · obtain rfl := ht
    exact h List.nil_infix
  · obtain ⟨before, after, rfl, -⟩ := exists_append_of_standsAt hstands ht
    refine h ⟨before.toList, after.toList, ?_⟩
    rw [String.toList_append, String.toList_append, List.append_assoc]

/-! ## what is cut -/

/-- a text either does not occur, or has its first occurrence between two texts -/
theorem around_cases (t s : String) : ¬t.toList <:+: s.toList ∨
    ∃ before after : String, Around t.toList s.toList before.toList after.toList := by
  by_cases h : t.toList <:+: s.toList
  · obtain ⟨before, after, haround⟩ := exists_around h
    refine .inr ⟨String.ofList before, String.ofList after, ?_⟩
    rwa [String.toList_ofList, String.toList_ofList]
  · exact .inl h

theorem occursIn_iff : occursIn t s = true ↔ t.toList <:+: s.toList := by
  rw [occursIn, Option.isSome_iff_ne_none, ne_eq, splitAt?_eq_none_iff, Classical.not_not]

theorem textBefore_of_not_occurs (h : ¬t.toList <:+: s.toList) : textBefore t s = "" := by
  rw [textBefore, splitAt?_of_not_occurs h]

theorem textAfter_of_not_occurs (h : ¬t.toList <:+: s.toList) : textAfter t s = "" := by
  rw [textAfter, splitAt?_of_not_occurs h]

section
variable {before after : String}

theorem textBefore_of_around (h : Around t.toList s.toList before.toList after.toList) :
    textBefore t s = before := by
  rw [textBefore, splitAt?_eq_some_iff.mpr h]
  exact String.ofList_toList

theorem textAfter_of_around (h : Around t.toList s.toList before.toList after.toList) :
    textAfter t s = after := by
  rw [textAfter, splitAt?_eq_some_iff.mpr h]
  exact String.ofList_toList

end

end

end Rulebook.Text
