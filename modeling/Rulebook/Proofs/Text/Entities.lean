import Mathlib.Data.List.Infix
import Rulebook.Proofs.Text.Scanning
import Rulebook.Text.Blank
import Rulebook.Text.Search

/-!
# Angle brackets as entities

Texts with quoted literals, and the same texts with entities for `<` and `>`.

* `Text.entities`     a text with entities for its angle brackets;
* `Text.Plain`        no angle bracket stands in a literal;
* `Text.isMark`       literals and entities begin with such a character;
* `Text.Tame`         runs of unmarked characters.

A run of unmarked characters is the same in both texts, and what is left of the one are the entities
of what is left of the other (`Tame.cut_entities`, `afterPrefix?_entities`, `trimChars_entities`).
-/

set_option autoImplicit false

namespace Rulebook.Text

/-! ## texts with entities -/

def isAngle (c : Char) : Bool := c == '<' || c == '>'

def isQuote (c : Char) : Bool := c == '\'' || c == '"'

/-- the entity of an angle bracket, and any other character as it is -/
def entity (c : Char) : List Char :=
  if c == '<' then ['&', 'l', 't', ';'] else if c == '>' then ['&', 'g', 't', ';'] else [c]

def entities (cs : List Char) : List Char := cs.flatMap entity

/-- no angle bracket stands in a literal, where `quote` is the one that is open at the front -/
def anglesOutside : (quote : Option Char) → List Char → Bool
  | _, [] => true
  | none, c :: cs => anglesOutside (if isQuote c then some c else none) cs
  | some q, c :: cs => if c == q then anglesOutside none cs else !isAngle c && anglesOutside (some q) cs

/-- no angle bracket stands in a literal -/
def Plain (cs : List Char) : Prop := anglesOutside none cs = true

instance : DecidablePred Plain := fun cs => inferInstanceAs (Decidable (anglesOutside none cs = true))

/-- literals and entities begin with these -/
def isMark (c : Char) : Bool := isAngle c || isQuote c || c == '&'

section
variable {c : Char} {cs rest : List Char} {p : Char → Bool}

theorem isAngle_of_unmarked (h : isMark c = false) : isAngle c = false := by
  rw [isMark, Bool.or_eq_false_iff, Bool.or_eq_false_iff] at h
  exact h.1.1

theorem isQuote_of_unmarked (h : isMark c = false) : isQuote c = false := by
  rw [isMark, Bool.or_eq_false_iff, Bool.or_eq_false_iff] at h
  exact h.1.2

theorem ne_of_unmarked (h : isMark c = false) : c ≠ '&' := by
  rintro rfl
  exact absurd h (by decide)

theorem isAngle_of_isQuote (h : isQuote c = true) : isAngle c = false := by
  rw [isQuote, Bool.or_eq_true, beq_iff_eq, beq_iff_eq] at h
  rcases h with rfl | rfl <;> rfl

theorem isQuote_of_angle (h : isAngle c = true) : isQuote c = false := by
  rw [Bool.eq_false_iff]
  intro hq
  rw [isAngle_of_isQuote hq] at h
  cases h

theorem entity_of_not_angle (h : isAngle c = false) : entity c = [c] := by
  rw [isAngle, Bool.or_eq_false_iff] at h
  rw [entity, h.1, h.2]
  rfl

/-- an entity begins with `&` -/
theorem entity_of_angle (h : isAngle c = true) : ∃ cs, entity c = '&' :: (cs ++ [';']) := by
  rw [isAngle, Bool.or_eq_true, beq_iff_eq, beq_iff_eq] at h
  rcases h with rfl | rfl
  · exact ⟨['l', 't'], rfl⟩
  · exact ⟨['g', 't'], rfl⟩

@[simp] theorem entities_nil : entities [] = [] := rfl

theorem entities_cons (c : Char) (cs : List Char) : entities (c :: cs) = entity c ++ entities cs :=
  List.flatMap_cons

theorem entities_append (cs ds : List Char) : entities (cs ++ ds) = entities cs ++ entities ds :=
  List.flatMap_append

theorem entities_cons_of_not_angle (h : isAngle c = false) (cs : List Char) :
    entities (c :: cs) = c :: entities cs := by
  rw [entities_cons, entity_of_not_angle h]
  rfl

/-- the entities of a text begin with its first character, or with `&` -/
theorem entities_cons_cases (c : Char) (cs : List Char) :
    isAngle c = false ∧ entities (c :: cs) = c :: entities cs ∨
      isAngle c = true ∧ ∃ ds, entities (c :: cs) = '&' :: ds := by
  cases h : isAngle c with
  | false => exact .inl ⟨rfl, entities_cons_of_not_angle h cs⟩
  | true =>
    obtain ⟨ds, hentity⟩ := entity_of_angle h
    exact .inr ⟨rfl, ds ++ [';'] ++ entities cs, by rw [entities_cons, hentity]; rfl⟩

theorem entities_ne_nil (h : cs ≠ []) : entities cs ≠ [] := by
  obtain ⟨c, ds, rfl⟩ := List.exists_cons_of_ne_nil h
  rcases entities_cons_cases c ds with ⟨-, heq⟩ | ⟨-, es, heq⟩ <;>
    · rw [heq]
      exact List.cons_ne_nil _ _

theorem length_le_entities (cs : List Char) : cs.length ≤ (entities cs).length := by
  induction cs with
  | nil => exact Nat.le_refl 0
  | cons c cs ih =>
    have hentity : 1 ≤ (entity c).length := by
      unfold entity
      split
      · decide
      · split <;> simp
    rw [entities_cons, List.length_append, List.length_cons]
    omega

/-- a rest is shorter if and only if its entities are -/
theorem length_entities_lt_iff (h : rest <:+ cs) :
    (entities rest).length < (entities cs).length ↔ rest.length < cs.length := by
  obtain ⟨front, rfl⟩ := h
  rw [entities_append, List.length_append, List.length_append]
  cases front with
  | nil => exact iff_of_false (by simp) (by simp)
  | cons c front =>
    have hfront := length_le_entities (c :: front)
    rw [List.length_cons] at hfront ⊢
    exact iff_of_true (by omega) (by omega)

theorem plain_cons (h : isQuote c = false) : Plain (c :: cs) ↔ Plain cs := by
  unfold Plain
  rw [anglesOutside, h]
  rfl

theorem plain_quote (h : isQuote c = true) :
    Plain (c :: cs) ↔ anglesOutside (some c) cs = true := by
  unfold Plain
  rw [anglesOutside, h]
  rfl

theorem plain_append {start : List Char} (hs : start.any isMark = false) :
    Plain (start ++ rest) ↔ Plain rest := by
  induction start with
  | nil => rfl
  | cons s start ih =>
    obtain ⟨hs, hstart⟩ := Bool.or_eq_false_iff.mp hs
    exact (plain_cons (isQuote_of_unmarked hs)).trans (ih hstart)

/-- what comes behind does not matter -/
theorem anglesOutside_of_append {quote : Option Char} :
    anglesOutside quote (cs ++ rest) = true → anglesOutside quote cs = true := by
  induction cs generalizing quote with
  | nil => exact fun _ => by cases quote <;> rfl
  | cons c cs ih =>
    rw [List.cons_append]
    cases quote with
    | none =>
      rw [anglesOutside, anglesOutside]
      exact ih
    | some q =>
      rw [anglesOutside, anglesOutside]
      cases c == q with
      | true => exact ih
      | false =>
        rw [if_neg Bool.false_ne_true, if_neg Bool.false_ne_true, Bool.and_eq_true, Bool.and_eq_true]
        exact And.imp_right ih

/-- a literal without end is left as it is, and behind the quote at the end of another the text is
plain again -/
theorem literal_cases {q : Char} (hq : isQuote q = true) (h : anglesOutside (some q) cs = true) :
    q ∉ cs ∧ entities cs = cs ∨
      ∃ body rest, q ∉ body ∧ cs = body ++ q :: rest ∧ entities cs = body ++ q :: entities rest ∧
        Plain rest := by
  induction cs with
  | nil => exact .inl ⟨List.not_mem_nil, rfl⟩
  | cons c cs ih =>
    rw [anglesOutside] at h
    by_cases hc : c = q
    · subst hc
      rw [beq_self_eq_true, if_pos rfl] at h
      exact .inr ⟨[], cs, List.not_mem_nil, rfl,
        entities_cons_of_not_angle (isAngle_of_isQuote hq) cs, h⟩
    · rw [beq_false_of_ne hc, if_neg Bool.false_ne_true, Bool.and_eq_true, Bool.not_eq_true'] at h
      rw [entities_cons_of_not_angle h.1]
      have hne : q ≠ c := Ne.symm hc
      rcases ih h.2 with ⟨hmem, heq⟩ | ⟨body, rest, hmem, rfl, heq, hrest⟩
      · exact .inl ⟨List.not_mem_cons_of_ne_of_not_mem hne hmem, congrArg _ heq⟩
      · exact .inr ⟨c :: body, rest, List.not_mem_cons_of_ne_of_not_mem hne hmem, rfl,
          congrArg _ heq, hrest⟩

/-! ## runs of characters -/

/-- holds of no mark -/
def Tame (p : Char → Bool) : Prop := ['<', '>', '&', '\'', '"'].any p = false

instance : DecidablePred Tame := fun p => inferInstanceAs (Decidable (List.any _ p = false))

theorem Tame.unmarked (hp : Tame p) (hc : p c = true) : isMark c = false := by
  have hmarks : ∀ d ∈ ['<', '>', '&', '\'', '"'], p d ≠ true := List.any_eq_false.mp hp
  simp only [List.forall_mem_cons] at hmarks
  obtain ⟨hlt, hgt, hamp, hapostrophe, hquote, -⟩ := hmarks
  rw [Bool.eq_false_iff]
  intro h
  simp only [isMark, isAngle, isQuote, Bool.or_eq_true, beq_iff_eq] at h
  rcases h with ((rfl | rfl) | rfl | rfl) | rfl <;> contradiction

theorem Tame.amp (hp : Tame p) : p '&' = false := by
  rw [Bool.eq_false_iff]
  exact fun h => absurd (hp.unmarked h) (by decide)

theorem Tame.cut_entities (hp : Tame p) (cs : List Char) :
    (entities cs).takeWhile p = cs.takeWhile p ∧
      (entities cs).dropWhile p = entities (cs.dropWhile p) := by
  induction cs with
  | nil => exact ⟨rfl, rfl⟩
  | cons c cs ih =>
    cases hc : p c with
    | true =>
      rw [entities_cons_of_not_angle (isAngle_of_unmarked (hp.unmarked hc))]
      simp [hc, ih]
    | false =>
      rcases entities_cons_cases c cs with ⟨-, heq⟩ | ⟨-, ds, heq⟩
      · simp [heq, hc]
      · simp [heq, hc, hp.amp]

theorem Tame.plain_dropWhile (hp : Tame p) (h : Plain cs) : Plain (cs.dropWhile p) := by
  induction cs with
  | nil => exact h
  | cons c cs ih =>
    rw [List.dropWhile_cons]
    cases hc : p c with
    | true =>
      rw [if_pos rfl]
      exact ih ((plain_cons (isQuote_of_unmarked (hp.unmarked hc))).mp h)
    | false => rwa [if_neg Bool.false_ne_true]

/-- an unmarked text stands in front of both or of none -/
theorem afterPrefix?_entities {start : List Char} (hs : start.any isMark = false) (cs : List Char) :
    afterPrefix? start (entities cs) = (afterPrefix? start cs).map entities := by
  induction start generalizing cs with
  | nil => simp
  | cons s start ih =>
    obtain ⟨hs, hstart⟩ := Bool.or_eq_false_iff.mp hs
    cases cs with
    | nil => rfl
    | cons c cs =>
      rcases entities_cons_cases c cs with ⟨-, heq⟩ | ⟨hangle, ds, heq⟩
      · rw [heq, afterPrefix?, afterPrefix?]
        cases s == c with
        | true => exact ih hstart cs
        | false => rfl
      · have hne : s ≠ c := by
          rintro rfl
          rw [isAngle_of_unmarked hs] at hangle
          cases hangle
        rw [heq, afterPrefix?, afterPrefix?, beq_false_of_ne hne,
          beq_false_of_ne (ne_of_unmarked hs)]
        rfl

theorem rest_of_afterPrefix? {start : List Char} (hs : start.any isMark = false) (h : Plain cs)
    (hrest : afterPrefix? start cs = some rest) : Plain rest ∧ rest <:+ cs := by
  obtain rfl := append_of_afterPrefix hrest
  exact ⟨(plain_append hs).mp h, List.suffix_append _ _⟩

end

/-! ## trimming -/

theorem trimEnd_concat (cs : List Char) (c : Char) :
    trimEnd (cs ++ [c]) = if isBlank c then trimEnd cs else cs ++ [c] := by
  unfold trimEnd
  rw [List.reverse_append, List.reverse_singleton, List.singleton_append, List.dropWhile_cons]
  cases isBlank c with
  | true => rfl
  | false =>
    rw [if_neg Bool.false_ne_true, if_neg Bool.false_ne_true, List.reverse_cons, List.reverse_reverse]

theorem tame_isBlank : Tame isBlank := by decide

theorem trimEnd_entities (cs : List Char) : trimEnd (entities cs) = entities (trimEnd cs) := by
  induction cs using List.reverseRecOn with
  | nil => rfl
  | append_singleton cs c ih =>
    have hlast : entities [c] = entity c := List.append_nil _
    rw [entities_append, hlast, trimEnd_concat]
    cases hc : isBlank c with
    | true =>
      rw [entity_of_not_angle (isAngle_of_unmarked (tame_isBlank.unmarked hc)), trimEnd_concat, hc]
      exact ih
    | false =>
      rw [if_neg Bool.false_ne_true, entities_append, hlast]
      cases hangle : isAngle c with
      | false => rw [entity_of_not_angle hangle, trimEnd_concat, hc, if_neg Bool.false_ne_true]
      | true =>
        obtain ⟨ds, hentity⟩ := entity_of_angle hangle
        rw [hentity, ← List.cons_append, ← List.append_assoc, trimEnd_concat]
        rfl

theorem trimChars_entities (cs : List Char) : trimChars (entities cs) = entities (trimChars cs) := by
  unfold trimChars trimStart
  rw [(tame_isBlank.cut_entities cs).2, trimEnd_entities]

theorem Plain.trimChars {cs : List Char} (h : Plain cs) : Plain (Text.trimChars cs) := by
  obtain ⟨trail, htrail⟩ : trimEnd (trimStart cs) <+: trimStart cs := by
    have hsuffix := List.dropWhile_suffix (l := (trimStart cs).reverse) isBlank
    have hprefix := List.reverse_prefix.mpr hsuffix
    rwa [List.reverse_reverse] at hprefix
  have hstart : Plain (trimStart cs) := tame_isBlank.plain_dropWhile h
  rw [← htrail] at hstart
  exact anglesOutside_of_append hstart

end Rulebook.Text
