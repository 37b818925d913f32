import Mathlib.Data.List.TakeWhile
import Rulebook.Proofs.Expr.Printer
import Rulebook.Proofs.Text.Names
import Rulebook.Proofs.Text.Scanning

/-!
# Reading lexemes

The words, names, literals and node tests of a written expression, each in front of a rest that
cannot belong to it.

* `Grammar.Ends`       a rest that does not go on with a character of some kind;
* `Grammar.Clear`      a rest that no lexeme runs into;
* `Grammar.Tight`      a text without blanks at its ends.

Each lemma `…_append` says: **a lexeme in front of such a rest is read, and the rest is left.**
-/

set_option autoImplicit false

namespace Rulebook.Grammar

open Text Scan

/-! ## rests -/

/-- does not go on with such a character -/
def Ends (p : Char → Bool) (rest : List Char) : Prop := ∀ c ∈ rest.head?, p c = false

theorem ends_nil (p : Char → Bool) : Ends p [] := fun _ h => nomatch h

theorem ends_cons {p : Char → Bool} {c : Char} (h : p c = false) (cs : List Char) :
    Ends p (c :: cs) := by
  intro d hd
  cases hd
  exact h

theorem Ends.takeWhile_append {p : Char → Bool} {cs rest : List Char} (h : Ends p rest)
    (hcs : cs.all p = true) : (cs ++ rest).takeWhile p = cs := by
  rw [List.takeWhile_append_of_pos (List.all_eq_true.mp hcs)]
  cases rest with
  | nil => simp
  | cons c rest => simp [h c rfl]

theorem Ends.dropWhile_append {p : Char → Bool} {cs rest : List Char} (h : Ends p rest)
    (hcs : cs.all p = true) : (cs ++ rest).dropWhile p = rest := by
  rw [List.dropWhile_append_of_pos (List.all_eq_true.mp hcs)]
  cases rest with
  | nil => rfl
  | cons c rest => simp [h c rfl]

theorem takeWhile_of_all {p : Char → Bool} {cs : List Char} (h : cs.all p = true) :
    cs.takeWhile p = cs ∧ cs.dropWhile p = [] := by
  have htake := (ends_nil p).takeWhile_append h
  have hdrop := (ends_nil p).dropWhile_append h
  rw [List.append_nil] at htake hdrop
  exact ⟨htake, hdrop⟩

/-- what can stand behind an operand, but for the end -/
def separators : List Char := [' ', '\t', '\r', '\n', ')', ']', ',', '/', '[']

/-- a rest that no lexeme runs into -/
def Clear (rest : List Char) : Prop := ∀ c ∈ rest.head?, c ∈ separators

theorem Clear.ends {rest : List Char} (h : Clear rest) {p : Char → Bool}
    (hp : separators.any p = false) : Ends p rest := by
  intro c hc
  rw [Bool.eq_false_iff]
  exact List.any_eq_false.mp hp c (h c hc)

theorem Clear.ends_name {rest : List Char} (h : Clear rest) : Ends isNameChar rest :=
  h.ends (by decide)

theorem Clear.ends_colon {rest : List Char} (h : Clear rest) : Ends (· == ':') rest :=
  h.ends (by decide)

theorem clear_nil : Clear [] := fun _ h => nomatch h

theorem clear_cons {c : Char} (h : c ∈ separators) (cs : List Char) : Clear (c :: cs) := by
  intro d hd
  cases hd
  exact h

/-! ## ends of texts -/

/-- no blank at the front and none at the back -/
structure Tight (cs : List Char) : Prop where
  head : ∃ c ∈ cs.head?, isBlank c = false
  last : ∃ c ∈ cs.getLast?, isBlank c = false

theorem isBlank_of_isSpace {c : Char} (h : isSpace c = true) : isBlank c = true := by
  simp only [isSpace, Bool.or_eq_true, beq_iff_eq] at h
  rcases h with ((rfl | rfl) | rfl) | rfl <;> rfl

namespace Tight

variable {cs ds : List Char}

theorem solid (h : Tight cs) : Solid cs := by
  obtain ⟨c, hc, hb⟩ := h.head
  cases cs with
  | nil => nomatch hc
  | cons d cs =>
    cases hc
    show isSpace c = false
    rw [Bool.eq_false_iff]
    intro hs
    rw [isBlank_of_isSpace hs] at hb
    cases hb

theorem ne_nil (h : Tight cs) : cs ≠ [] := by
  rintro rfl
  obtain ⟨c, hc, -⟩ := h.head
  nomatch hc

theorem of_forall {cs : List Char} (hne : cs ≠ []) (h : ∀ c ∈ cs, isBlank c = false) :
    Tight cs := by
  obtain ⟨c, ds, rfl⟩ := List.exists_cons_of_ne_nil hne
  exact ⟨⟨c, rfl, h c List.mem_cons_self⟩,
    ⟨_, List.getLast?_eq_some_getLast hne, h _ (List.getLast_mem hne)⟩⟩

theorem singleton {c : Char} (h : isBlank c = false) : Tight [c] := ⟨⟨c, rfl, h⟩, ⟨c, rfl, h⟩⟩

theorem append (h : Tight cs) (h' : Tight ds) (middle : List Char) : Tight (cs ++ (middle ++ ds)) := by
  obtain ⟨c, hc, hb⟩ := h.head
  obtain ⟨d, hd, hb'⟩ := h'.last
  refine ⟨⟨c, ?_, hb⟩, ⟨d, ?_, hb'⟩⟩
  · rw [List.head?_append, Option.mem_def.mp hc]
    rfl
  · rw [← List.append_assoc, List.getLast?_append, Option.mem_def.mp hd]
    rfl

theorem append_flatMap {α : Type} {xs : List α} {f : α → List Char} (h : Tight cs)
    (hf : ∀ x ∈ xs, Tight (f x)) : Tight (cs ++ xs.flatMap f) := by
  induction xs generalizing cs with
  | nil => rwa [List.flatMap_nil, List.append_nil]
  | cons x xs ih =>
    rw [List.flatMap_cons, ← List.append_assoc]
    have hx : Tight (cs ++ f x) := h.append (hf x List.mem_cons_self) []
    exact ih hx fun y hy => hf y (List.mem_cons_of_mem _ hy)

theorem trimStart_append (h : Tight cs) (rest : List Char) : trimStart (cs ++ rest) = cs ++ rest := by
  obtain ⟨c, hc, hb⟩ := h.head
  cases cs with
  | nil => nomatch hc
  | cons c' cs =>
    cases hc
    unfold trimStart
    rw [List.cons_append, List.dropWhile_cons, hb]
    rfl

theorem trimEnd_append (h : Tight cs) {trail : List Char} (ht : trail.all isBlank = true) :
    trimEnd (cs ++ trail) = cs := by
  obtain ⟨d, hd, hb⟩ := h.last
  rw [← List.head?_reverse] at hd
  have htrail : ∀ c ∈ trail.reverse, isBlank c = true :=
    fun c hc => List.all_eq_true.mp ht c (List.mem_reverse.mp hc)
  unfold trimEnd
  rw [List.reverse_append, List.dropWhile_append_of_pos htrail]
  cases hr : cs.reverse with
  | nil => rw [hr] at hd; nomatch hd
  | cons d' ds =>
    rw [hr] at hd
    cases hd
    rw [List.dropWhile_cons, hb]
    show (d :: ds).reverse = cs
    rw [← hr, List.reverse_reverse]

theorem trimChars_append (h : Tight cs) {lead trail : List Char} (hl : lead.all isBlank = true)
    (ht : trail.all isBlank = true) : trimChars (lead ++ (cs ++ trail)) = cs := by
  have hlead : trimStart (lead ++ (cs ++ trail)) = trimStart (cs ++ trail) :=
    List.dropWhile_append_of_pos (List.all_eq_true.mp hl)
  unfold trimChars
  rw [hlead, h.trimStart_append, h.trimEnd_append ht]

theorem trimChars_eq (h : Tight cs) : trimChars cs = cs := by
  have htrim : trimChars ([] ++ (cs ++ [])) = cs := h.trimChars_append rfl rfl
  rwa [List.append_nil] at htrim

end Tight

/-! ## names -/

theorem isNameChar_of_isName {cs : List Char} (h : IsName cs) : cs.all isNameChar = true := by
  cases cs with
  | nil => rfl
  | cons c cs => rw [List.all_cons, isNameChar_of_isNameStart h.1, h.2]; rfl

theorem tight_of_isName {cs : List Char} (h : IsName cs) : Tight cs := by
  have hne : cs ≠ [] := by rintro rfl; exact h
  exact .of_forall hne fun c hc =>
    isBlank_of_isNameChar (List.all_eq_true.mp (isNameChar_of_isName h) c hc)

/-- what no name begins with -/
theorem ends_of_isName {cs : List Char} (h : IsName cs) {p : Char → Bool}
    (hp : ∀ c, isNameStart c = true → p c = false) (rest : List Char) : Ends p (cs ++ rest) := by
  cases cs with
  | nil => exact h.elim
  | cons c cs => exact ends_cons (hp c h.1) _

theorem beq_of_isNameStart {d : Char} (hd : isNameStart d = false) :
    ∀ c, isNameStart c = true → (c == d) = false := by
  intro c hc
  rw [beq_eq_false_iff_ne]
  rintro rfl
  rw [hc] at hd
  cases hd

theorem name_append {cs rest : List Char} (h : IsName cs) (hr : Ends isNameChar rest) :
    name (cs ++ rest) = some (cs, rest) := by
  cases cs with
  | nil => exact h.elim
  | cons c cs =>
    simp [name, satisfy, takeWhile, h.1, hr.takeWhile_append h.2, hr.dropWhile_append h.2]

theorem name_of_ends {rest : List Char} (h : Ends isNameStart rest) : name rest = none := by
  cases rest with
  | nil => rfl
  | cons c rest => simp [name, satisfy, h c rfl]

theorem optional?_colon {rest : List Char} (h : Ends (· == ':') rest) :
    optional? (char ':' *> name) rest = some (none, rest) := by
  apply optional?_of_none
  cases rest with
  | nil => rfl
  | cons c rest => simp [char, h c rfl]

theorem tight_of_isQualifiedName {n : String} (h : IsQualifiedName n) : Tight n.toList := by
  rcases h with h | ⟨first, second, h₁, h₂, h⟩
  · exact tight_of_isName h
  · rw [h]
    exact (tight_of_isName h₁).append (tight_of_isName h₂) [':']

/-- what no name begins with a qualified name does not begin with -/
theorem ends_of_isQualifiedName {n : String} (h : IsQualifiedName n) {p : Char → Bool}
    (hp : ∀ c, isNameStart c = true → p c = false) (rest : List Char) :
    Ends p (n.toList ++ rest) := by
  rcases h with h | ⟨first, second, hfirst, -, h⟩
  · exact ends_of_isName h hp rest
  · rw [h, List.append_assoc]
    exact ends_of_isName hfirst hp _

theorem qualifiedName_append {n : String} {rest : List Char} (h : IsQualifiedName n)
    (hr : Ends isNameChar rest) (hc : Ends (· == ':') rest) :
    qualifiedName (n.toList ++ rest) = some (n, rest) := by
  rcases h with h | ⟨first, second, h₁, h₂, h⟩
  · simp [qualifiedName, name_append h hr, optional?_colon hc]
  · have hcolon : Ends isNameChar (':' :: (second ++ rest)) := ends_cons (by decide) _
    have hsecond : (char ':' *> name) (':' :: (second ++ rest)) = some (second, rest) := by
      simp [char, name_append h₂ hr]
    rw [h, List.append_assoc, List.cons_append]
    simp only [qualifiedName, bind_apply, name_append h₁ hcolon, Option.bind_some,
      optional?_of_some _ _ hsecond, pure_apply]
    rw [← h, String.ofList_toList]

/-! ## words -/

theorem notFollowedBy_of_ends {p : Char → Bool} {rest : List Char} (h : Ends p rest) :
    notFollowedBy (satisfy p) rest = some ((), rest) := by
  cases rest with
  | nil => rfl
  | cons c rest => simp [notFollowedBy, satisfy, h c rfl]

theorem word_append (w : String) {rest : List Char} (h : Ends isNameChar rest) :
    word w (w.toList ++ rest) = some ((), rest) := by
  simp [word, notFollowedBy_of_ends h]

/-- a prefix of name characters ends within a name -/
theorem append_of_afterPrefix? {w n rest rest' : List Char} (hw : w.all isNameChar = true)
    (hr : Ends isNameChar rest) (h : afterPrefix? w (n ++ rest) = some rest') :
    ∃ more, n = w ++ more ∧ rest' = more ++ rest := by
  induction w generalizing n with
  | nil =>
    rw [afterPrefix?_nil] at h
    cases h
    exact ⟨n, rfl, rfl⟩
  | cons c w ih =>
    rw [List.all_cons, Bool.and_eq_true] at hw
    cases n with
    | nil =>
      cases rest with
      | nil => cases h
      | cons d rest =>
        rw [List.nil_append, afterPrefix?] at h
        split at h
        · rename_i hcd
          rw [← beq_iff_eq.mp hcd] at hr
          rw [hr c rfl] at hw
          exact absurd hw.1 (by decide)
        · cases h
    | cons d n =>
      rw [List.cons_append, afterPrefix?] at h
      split at h
      · rename_i hcd
        obtain ⟨more, rfl, hrest⟩ := ih hw.2 h
        exact ⟨more, by rw [beq_iff_eq.mp hcd]; rfl, hrest⟩
      · cases h

/-- a word at the front of a name is the whole name -/
theorem eq_of_word {w : String} {n rest left : List Char} {u : Unit}
    (hw : w.toList.all isNameChar = true) (hn : n.all isNameChar = true)
    (hr : Ends isNameChar rest) (h : word w (n ++ rest) = some (u, left)) :
    n = w.toList ∧ left = rest := by
  simp only [word, bind_apply, text_apply] at h
  cases hp : afterPrefix? w.toList (n ++ rest) with
  | none => rw [hp] at h; cases h
  | some rest' =>
    obtain ⟨more, rfl, rfl⟩ := append_of_afterPrefix? hw hr hp
    rw [hp] at h
    cases more with
    | nil =>
      rw [List.nil_append] at h
      rw [Option.map_some, Option.bind_some, notFollowedBy_of_ends hr] at h
      cases h
      exact ⟨List.append_nil _, rfl⟩
    | cons c more =>
      have hc : isNameChar c = true := by
        rw [List.all_append, List.all_cons] at hn
        simp only [Bool.and_eq_true] at hn
        exact hn.2.1
      simp [notFollowedBy, satisfy, hc] at h

/-! ## literals and numerals -/

theorem quoted_append {quote : Char} {cs : List Char} (h : quote ∉ cs) (rest : List Char) :
    quoted quote (quote :: (cs ++ quote :: rest)) = some (String.ofList cs, rest) := by
  have hall : cs.all (· != quote) = true := by
    rw [List.all_eq_true]
    intro c hc
    rw [bne_iff_ne]
    rintro rfl
    exact h hc
  have hends : Ends (· != quote) (quote :: rest) := ends_cons (by simp) rest
  simp [quoted, char, takeWhile, hends.takeWhile_append hall, hends.dropWhile_append hall]

theorem literal_append {text : String} (h : ¬ ('\'' ∈ text.toList ∧ '"' ∈ text.toList))
    (rest : List Char) : literal (quotedText text ++ rest) = some (text, rest) := by
  unfold quotedText
  by_cases hq : '\'' ∈ text.toList
  · have hd : '"' ∉ text.toList := fun hd => h ⟨hq, hd⟩
    rw [if_pos (List.contains_iff_mem.mpr hq)]
    have hread := quoted_append hd rest
    rw [String.ofList_toList] at hread
    have hnone : ∀ cs, quoted '\'' ('"' :: cs) = none := fun _ => rfl
    simp [literal, hread, hnone]
  · rw [if_neg (fun hc => hq (List.contains_iff_mem.mp hc))]
    have hread := quoted_append hq rest
    rw [String.ofList_toList] at hread
    simp [literal, hread]

/-- a digit or a point -/
def isNumeralChar (c : Char) : Bool := Number.isDigit c || c == '.'

/-- digits with a point after, among or before them -/
inductive NumeralShape : List Char → Prop where
  | whole (c : Char) (cs : List Char) : Number.isDigit c = true → cs.all Number.isDigit = true →
    NumeralShape (c :: cs)
  | among (c : Char) (cs places : List Char) : Number.isDigit c = true →
    cs.all Number.isDigit = true → places.all Number.isDigit = true →
    NumeralShape (c :: (cs ++ '.' :: places))
  | fraction (c : Char) (cs : List Char) : Number.isDigit c = true →
    cs.all Number.isDigit = true → NumeralShape ('.' :: c :: cs)

theorem isDigit_point : Number.isDigit '.' = false := rfl

theorem numeralShape_of_eq {cs : List Char} {value : Float}
    (h : numeral cs = some (value, [])) : NumeralShape cs := by
  cases cs with
  | nil => cases h
  | cons c cs =>
    by_cases hc : Number.isDigit c = true
    · have hsplit := List.takeWhile_append_dropWhile (p := Number.isDigit) (l := cs)
      have hall : (cs.takeWhile Number.isDigit).all Number.isDigit = true := List.all_takeWhile
      cases hrest : cs.dropWhile Number.isDigit with
      | nil => exact .whole c cs hc (List.all_eq_true.mpr (List.dropWhile_eq_nil_iff.mp hrest))
      | cons d rest =>
        rw [hrest] at hsplit
        by_cases hd : d = '.'
        · subst hd
          have hrest' : ∀ x ∈ rest, Number.isDigit x = true := by
            simp [numeral, takeWhile1, takeWhile, char, optional?, hc, hrest] at h
            exact h.2
          rw [← hsplit]
          exact .among c _ rest hc hall (List.all_eq_true.mpr hrest')
        · simp [numeral, takeWhile1, takeWhile, char, optional?, hc, hrest, hd] at h
    · rw [Bool.not_eq_true] at hc
      by_cases hp : c = '.'
      · subst hp
        cases cs with
        | nil => cases h
        | cons d cs =>
          by_cases hd : Number.isDigit d = true
          · have hcs : ∀ x ∈ cs, Number.isDigit x = true := by
              simp [numeral, takeWhile1, char, isDigit_point, hd] at h
              exact h.2
            exact .fraction d cs hd (List.all_eq_true.mpr hcs)
          · simp [numeral, takeWhile1, char, isDigit_point, hd] at h
      · simp [numeral, takeWhile1, char, hc, hp] at h

theorem numeral_append {cs rest : List Char} {value : Float} (h : numeral cs = some (value, []))
    (hr : Ends isNumeralChar rest) : numeral (cs ++ rest) = some (value, rest) := by
  have hdigit : Ends Number.isDigit rest := fun c hc => (Bool.or_eq_false_iff.mp (hr c hc)).1
  have hpoint : optional? (char '.' *> takeWhile Number.isDigit) rest = some (none, rest) := by
    apply optional?_of_none
    cases rest with
    | nil => rfl
    | cons c rest => simp [char, (Bool.or_eq_false_iff.mp (hr c rfl)).2]
  have htake := fun {ds : List Char} (hds : ds.all Number.isDigit = true) =>
    And.intro (hdigit.takeWhile_append hds) (hdigit.dropWhile_append hds)
  cases numeralShape_of_eq h with
  | whole c cs hc hcs =>
    have hnone : optional? (char '.' *> takeWhile Number.isDigit) [] = some (none, []) := rfl
    have hcs' := takeWhile_of_all hcs
    simp [numeral, takeWhile1, hc, hcs'.1, hcs'.2, hnone] at h
    simp [numeral, takeWhile1, hc, (htake hcs).1, (htake hcs).2, hpoint, h]
  | among c cs places hc hcs hplaces =>
    have hends : ∀ ds, Ends Number.isDigit ('.' :: ds) := fun ds => ends_cons isDigit_point ds
    have hplaces' := takeWhile_of_all hplaces
    simp [numeral, takeWhile1, takeWhile, char, optional?, hc, (hends _).takeWhile_append hcs,
      (hends _).dropWhile_append hcs, hplaces'.1, hplaces'.2] at h
    simp [numeral, takeWhile1, takeWhile, char, optional?, hc, (hends _).takeWhile_append hcs,
      (hends _).dropWhile_append hcs, (htake hplaces).1, (htake hplaces).2, h]
  | fraction c cs hc hcs =>
    have hcs' := takeWhile_of_all hcs
    simp [numeral, takeWhile1, char, isDigit_point, hc, hcs'.1, hcs'.2] at h
    simp [numeral, takeWhile1, char, isDigit_point, hc, (htake hcs).1, (htake hcs).2, h]

theorem isNumeralChar_of_isDigit {c : Char} (h : Number.isDigit c = true) :
    isNumeralChar c = true :=
  Bool.or_eq_true_iff.mpr (.inl h)

theorem isNumeralChar_of_numeralShape {cs : List Char} (h : NumeralShape cs) :
    cs ≠ [] ∧ ∀ c ∈ cs, isNumeralChar c = true := by
  have hall : ∀ {ds : List Char}, ds.all Number.isDigit = true → ∀ c ∈ ds, isNumeralChar c = true :=
    fun hds c hc => isNumeralChar_of_isDigit (List.all_eq_true.mp hds c hc)
  cases h with
  | whole c cs hc hcs =>
    exact ⟨List.cons_ne_nil _ _, List.forall_mem_cons.mpr ⟨isNumeralChar_of_isDigit hc, hall hcs⟩⟩
  | among c cs places hc hcs hplaces =>
    refine ⟨List.cons_ne_nil _ _, List.forall_mem_cons.mpr ⟨isNumeralChar_of_isDigit hc, ?_⟩⟩
    exact List.forall_mem_append.mpr ⟨hall hcs, List.forall_mem_cons.mpr ⟨rfl, hall hplaces⟩⟩
  | fraction c cs hc hcs =>
    refine ⟨List.cons_ne_nil _ _, List.forall_mem_cons.mpr ⟨rfl, ?_⟩⟩
    exact List.forall_mem_cons.mpr ⟨isNumeralChar_of_isDigit hc, hall hcs⟩

theorem toNat_of_isNumeralChar {c : Char} (h : isNumeralChar c = true) :
    46 ≤ c.toNat ∧ c.toNat < 58 := by
  rcases Bool.or_eq_true_iff.mp h with hd | hp
  · simp only [Number.isDigit, Bool.and_eq_true, decide_eq_true_eq, Char.le_def,
      UInt32.le_iff_toNat_le] at hd
    exact ⟨Nat.le_trans (by decide) hd.1, Nat.lt_succ_of_le hd.2⟩
  · rw [beq_iff_eq.mp hp]
    decide

theorem isNumeralChar_disjoint {c : Char} (h : isNumeralChar c = true) :
    isBlank c = false ∧ isNameStart c = false := by
  have hcheck : ∀ n < 58, 46 ≤ n →
      isBlank (Char.ofNat n) = false ∧ isNameStart (Char.ofNat n) = false := by decide
  obtain ⟨hlow, hhigh⟩ := toNat_of_isNumeralChar h
  have hc := hcheck c.toNat hhigh hlow
  rwa [Char.ofNat_toNat] at hc

/-- a numeral begins with a digit or a point -/
theorem exists_cons_of_numeral {cs : List Char} {value : Float}
    (h : numeral cs = some (value, [])) : ∃ c ds, cs = c :: ds ∧ isNumeralChar c = true := by
  obtain ⟨hne, hall⟩ := isNumeralChar_of_numeralShape (numeralShape_of_eq h)
  obtain ⟨c, ds, rfl⟩ := List.exists_cons_of_ne_nil hne
  exact ⟨c, ds, rfl, hall c List.mem_cons_self⟩

theorem tight_of_numeral {cs : List Char} {value : Float} (h : numeral cs = some (value, [])) :
    Tight cs := by
  obtain ⟨hne, hall⟩ := isNumeralChar_of_numeralShape (numeralShape_of_eq h)
  exact .of_forall hne fun c hc => (isNumeralChar_disjoint (hall c hc)).1

/-! ## what no lexeme of a kind begins with -/

theorem numeral_of_ends {cs : List Char} (h : Ends isNumeralChar cs) : numeral cs = none := by
  cases cs with
  | nil => rfl
  | cons c cs =>
    have hc := Bool.or_eq_false_iff.mp (h c rfl)
    simp [numeral, takeWhile1, char, hc.1, hc.2]

theorem literal_of_ends {cs : List Char} (h : Ends (fun c => c == '\'' || c == '"') cs) :
    literal cs = none := by
  cases cs with
  | nil => rfl
  | cons c cs =>
    have hc := Bool.or_eq_false_iff.mp (h c rfl)
    simp [literal, quoted, char, hc.1, hc.2]

theorem char_of_ends {d : Char} {cs : List Char} (h : Ends (· == d) cs) : char d cs = none := by
  cases cs with
  | nil => rfl
  | cons c cs => simp [char, h c rfl]

theorem afterPrefix?_of_ends {d : Char} {cs : List Char} (h : Ends (· == d) cs) (w : List Char) :
    afterPrefix? (d :: w) cs = none := by
  cases cs with
  | nil => rfl
  | cons c cs =>
    have hne : d ≠ c := fun heq => beq_eq_false_iff_ne.mp (h c rfl) heq.symm
    simp [afterPrefix?, hne]

theorem reference_of_ends {cs : List Char} (h : Ends (· == '$') cs) : reference cs = none := by
  simp [reference, char_of_ends h]

/-! ## node tests and axes -/

theorem exists_of_choose {α : Type} {ps : List (Scan Unit × α)} {cs rest : List Char} {a : α}
    (h : choose ps cs = some (a, rest)) : ∃ p, (p, a) ∈ ps ∧ p cs = some ((), rest) := by
  induction ps with
  | nil => cases h
  | cons pa ps ih =>
    obtain ⟨p, b⟩ := pa
    rw [choose_cons] at h
    cases hp : p cs with
    | none =>
      rw [hp, Option.map_none, Option.none_or] at h
      obtain ⟨q, hq, hqs⟩ := ih h
      exact ⟨q, List.mem_cons_of_mem _ hq, hqs⟩
    | some x =>
      rw [hp] at h
      cases h
      exact ⟨p, List.mem_cons_self, hp⟩

/-- a word at the front of a name leaves more of the name and the rest -/
theorem exists_of_choose_text {α : Type} {ps : List (Scan Unit × α)}
    (hps : ∀ p ∈ ps, ∃ w : String, w.toList.all isNameChar = true ∧ p.1 = Scan.text w)
    {cs rest left : List Char} {a : α} (hcs : cs.all isNameChar = true) (hr : Ends isNameChar rest)
    (h : choose ps (cs ++ rest) = some (a, left)) :
    ∃ more, more.all isNameChar = true ∧ left = more ++ rest := by
  obtain ⟨p, hmem, hword⟩ := exists_of_choose h
  obtain ⟨w, hw, rfl⟩ := hps _ hmem
  rw [text_apply, Option.map_eq_some_iff] at hword
  obtain ⟨left', hprefix, heq⟩ := hword
  cases heq
  obtain ⟨more, rfl, rfl⟩ := append_of_afterPrefix? hw hr hprefix
  rw [List.all_append, Bool.and_eq_true] at hcs
  exact ⟨more, hcs.2, rfl⟩

theorem isSpace_of_isNameChar {c : Char} (h : isNameChar c = true) : isSpace c = false := by
  rw [Bool.eq_false_iff]
  intro hs
  have hb := isBlank_of_isNameChar h
  rw [isBlank_of_isSpace hs] at hb
  cases hb

theorem kindTest_of_name {cs rest : List Char} (hcs : cs.all isNameChar = true)
    (hr : Ends isNameChar rest) (hp : spaced (char '(') rest = none) :
    kindTest (cs ++ rest) = none := by
  unfold kindTest
  rw [bind_apply]
  cases hk : choose _ (cs ++ rest) with
  | none => rfl
  | some x =>
    obtain ⟨kind, left⟩ := x
    obtain ⟨more, hmore, rfl⟩ : ∃ more, more.all isNameChar = true ∧ left = more ++ rest := by
      refine exists_of_choose_text (fun p hmem => ?_) hcs hr hk
      simp only [List.mem_cons, List.not_mem_nil, or_false] at hmem
      rcases hmem with rfl | rfl | rfl | rfl <;> exact ⟨_, by rfl, rfl⟩
    have hopen : spaced (char '(') (more ++ rest) = none := by
      cases more with
      | nil => exact hp
      | cons c more =>
        rw [List.all_cons, Bool.and_eq_true] at hmore
        have hne : Ends (· == '(') (c :: more ++ rest) := by
          refine ends_cons ?_ _
          rw [beq_eq_false_iff_ne]
          rintro rfl
          exact absurd hmore.1 (by decide)
        rw [spaced_apply, List.cons_append, skip_cons (isSpace_of_isNameChar hmore.1),
          ← List.cons_append, char_of_ends hne]
        rfl
    simp [hopen]

theorem isName_keyword (a : Axis) : IsName a.keyword.toList := by
  cases a <;> exact ⟨rfl, rfl⟩

theorem axis_of_name {cs rest : List Char} (hcs : cs.all isNameChar = true)
    (hr : Ends isNameChar rest) (hp : Scan.text "::" rest = none) : axis (cs ++ rest) = none := by
  unfold axis
  rw [seqLeft_apply]
  cases hk : choose _ (cs ++ rest) with
  | none => rfl
  | some x =>
    obtain ⟨a, left⟩ := x
    obtain ⟨more, hmore, rfl⟩ : ∃ more, more.all isNameChar = true ∧ left = more ++ rest := by
      refine exists_of_choose_text (fun p hmem => ?_) hcs hr hk
      obtain ⟨b, -, rfl⟩ := List.mem_map.mp hmem
      exact ⟨b.keyword, isNameChar_of_isName (isName_keyword b), rfl⟩
    have hcolons : Scan.text "::" (more ++ rest) = none := by
      cases more with
      | nil => exact hp
      | cons c more =>
        rw [List.all_cons, Bool.and_eq_true] at hmore
        have hne : Ends (· == ':') (c :: more ++ rest) := by
          refine ends_cons ?_ _
          rw [beq_eq_false_iff_ne]
          rintro rfl
          exact absurd hmore.1 (by decide)
        rw [text_apply]
        show (afterPrefix? [':', ':'] _).map _ = none
        rw [afterPrefix?_of_ends hne]
        rfl
    rw [Option.bind_some, hcolons]
    rfl

theorem kindTest_append (k : KindTest) (rest : List Char) :
    kindTest (k.keyword.toList ++ '(' :: ')' :: rest) = some (k, skip rest) := by
  cases k <;> rfl

theorem nodeTest_append {test : NodeTest} (h : test.Lexical) {rest : List Char} (hr : Clear rest)
    (hp : spaced (char '(') rest = none) : Reads nodeTest (test.text ++ rest) test rest := by
  have hstarEnds : ∀ {cs : List Char}, IsName cs → ∀ ds, Ends (· == '*') (cs ++ ds) :=
    fun hcs ds => ends_of_isName hcs (beq_of_isNameStart (by decide)) ds
  have hstar : ∀ {cs : List Char}, IsName cs → ∀ ds, char '*' (cs ++ ds) = none :=
    fun hcs ds => char_of_ends (hstarEnds hcs ds)
  have hcolon : ∀ ds, Ends isNameChar (':' :: ds) := ends_cons (by decide)
  have hcolonKind : ∀ ds, spaced (char '(') (':' :: ds) = none := fun _ => rfl
  cases test with
  | any => exact .of_eq rfl
  | kind k =>
    refine .of_skip ?_
    have hnone : char '*' (k.keyword.toList ++ '(' :: ')' :: rest) = none := by cases k <;> rfl
    simp [nodeTest, NodeTest.text, hnone, kindTest_append]
  | within q =>
    have hq : IsName q.toList := h
    refine .of_eq ?_
    simp [nodeTest, NodeTest.text, hstar hq,
      kindTest_of_name (isNameChar_of_isName hq) (hcolon _) (hcolonKind _),
      name_append hq (hcolon _), afterPrefix?]
  | named q l =>
    obtain ⟨hq, hl⟩ := h
    refine .of_eq ?_
    cases q with
    | none =>
      have hkind := kindTest_of_name (isNameChar_of_isName hl) hr.ends_name hp
      have hany := afterPrefix?_of_ends hr.ends_colon ['*']
      simp [nodeTest, NodeTest.text, nameTest, hstar hl, hkind, hany, name_append hl hr.ends_name,
        optional?_colon hr.ends_colon]
    | some q =>
      have hq : IsName q.toList := hq q rfl
      have hkind := kindTest_of_name (isNameChar_of_isName hq) (hcolon (l.toList ++ rest)) rfl
      have hany : afterPrefix? [':', '*'] (':' :: (l.toList ++ rest)) = none := by
        show afterPrefix? ['*'] (l.toList ++ rest) = none
        exact afterPrefix?_of_ends (hstarEnds hl rest) []
      have hsecond : (char ':' *> name) (':' :: (l.toList ++ rest)) = some (l.toList, rest) := by
        simp [char, name_append hl hr.ends_name]
      have hoptional := optional?_of_some _ _ hsecond
      simp [nodeTest, NodeTest.text, nameTest, hstar hq, hkind, hany, hoptional,
        name_append hq (hcolon (l.toList ++ rest))]

theorem axis_append (a : Axis) (cs : List Char) :
    axis (a.keyword.toList ++ ':' :: ':' :: cs) = some (a, cs) := by
  cases a <;> rfl

theorem step_of_clear (single : Scan Expr) {rest : List Char} (h : Clear rest) :
    step single rest = none := by
  cases rest with
  | nil => rfl
  | cons c rest =>
    have hc : c ∈ separators := h c rfl
    simp only [separators, List.mem_cons, List.not_mem_nil, or_false] at hc
    rcases hc with rfl | rfl | rfl | rfl | rfl | rfl | rfl | rfl | rfl <;> rfl

/-! ## operators -/

/-- the operators of a level -/
def operator : Level → Scan BinaryOp
  | .disjunction => orOp
  | .conjunction => andOp
  | .equality => equalityOp
  | .relation => relationalOp
  | .sum => additiveOp
  | .product => multiplicativeOp
  | .union => unionOp
  | _ => failure

theorem operator_append (op : BinaryOp) {cs : List Char} (h : Solid cs) :
    spaced (operator op.level) (' ' :: (op.symbol.toList ++ ' ' :: cs)) = some (op, cs) := by
  have hread : operator op.level (skip (' ' :: (op.symbol.toList ++ ' ' :: cs))) =
      some (op, ' ' :: cs) := by
    rcases op with _ | _ | r | r | _ | _ | _ | _ | _ | _ <;> try cases r
    all_goals rfl
  rw [spaced_apply, hread, Option.map_some, skip_space, h.skip_eq]

end Rulebook.Grammar
