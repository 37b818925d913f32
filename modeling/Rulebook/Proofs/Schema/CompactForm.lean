import Mathlib.Data.List.Chain
import Mathlib.Data.List.Infix
import Mathlib.Data.List.TakeWhile
import Rulebook.Schema.Message

/-!
# Writing templates and reading them again

A template is written in its compact form and read again.  Text comes back whatever it is, since
its braces are doubled; a value comes back if and only if its source can stand in braces.

* `Nesting`      how reading a placeholder stands: the braces that are open, and the quote;
* `Closed`       sources that lack nothing but the brace at their end;
* `Enclosable`   sources that can stand in braces;
* `Separated`    parts as a text can have them: no empty text, and no two texts in a row.

`parse_display_iff`: **a separated template is read again if and only if all its sources are
enclosable**.  `parse_display_parse_iff`: **a template that was read is read again if and only if its
sources are closed and begin with no brace**; `parse_display_parse_ne` has one that begins with a
brace.
-/

set_option autoImplicit false

namespace Rulebook

/-! ## blanks at the ends -/

namespace Text

theorem head_trimStart (cs : List Char) : ∀ c ∈ (trimStart cs).head?, isBlank c = false := by
  intro c hc
  have h := List.head?_dropWhile_not isBlank cs
  rw [show (cs.dropWhile isBlank).head? = some c from hc] at h
  exact h

/-- what is trimmed off is blank -/
theorem exists_trimChars (cs : List Char) : ∃ lead trail : List Char,
    (∀ c ∈ lead, isBlank c = true) ∧ (∀ c ∈ trail, isBlank c = true) ∧
      cs = lead ++ (trimChars cs ++ trail) := by
  let rest := trimStart cs
  refine ⟨cs.takeWhile isBlank, (rest.reverse.takeWhile isBlank).reverse, ?_, ?_, ?_⟩
  · exact fun c hc => List.mem_takeWhile_imp hc
  · exact fun c hc => List.mem_takeWhile_imp (List.mem_reverse.mp hc)
  · have hrest : trimEnd rest ++ (rest.reverse.takeWhile isBlank).reverse = rest := by
      unfold trimEnd
      rw [← List.reverse_append, List.takeWhile_append_dropWhile, List.reverse_reverse]
    show cs = cs.takeWhile isBlank ++ (trimEnd rest ++ _)
    rw [hrest]
    exact List.takeWhile_append_dropWhile.symm

theorem head_trimChars (cs : List Char) : ∀ c ∈ (trimChars cs).head?, isBlank c = false := by
  intro c hc
  refine head_trimStart cs c ?_
  obtain ⟨rest, hrest⟩ : trimChars cs <+: trimStart cs := by
    have hsuffix := List.dropWhile_suffix (l := (trimStart cs).reverse) isBlank
    have hprefix := List.reverse_prefix.mpr hsuffix
    rwa [List.reverse_reverse] at hprefix
  rw [← hrest, List.head?_append, Option.mem_def.mp hc]
  rfl

theorem last_trimChars (cs : List Char) : ∀ c ∈ (trimChars cs).getLast?, isBlank c = false := by
  intro c hc
  have hlast : (trimChars cs).getLast? = (trimStart (trimStart cs).reverse).head? := by
    show (trimEnd (trimStart cs)).getLast? = _
    unfold trimEnd
    rw [List.getLast?_reverse]
    rfl
  rw [hlast] at hc
  exact head_trimStart _ c hc

theorem trimStart_eq_self {cs : List Char} (h : ∀ c ∈ cs.head?, isBlank c = false) :
    trimStart cs = cs := by
  cases cs with
  | nil => rfl
  | cons c cs =>
    unfold trimStart
    rw [List.dropWhile_cons, h c rfl]
    rfl

theorem trimChars_eq_self {cs : List Char} (hhead : ∀ c ∈ cs.head?, isBlank c = false)
    (hlast : ∀ c ∈ cs.getLast?, isBlank c = false) : trimChars cs = cs := by
  have hback : trimStart cs.reverse = cs.reverse := by
    refine trimStart_eq_self fun c hc => hlast c ?_
    rwa [List.head?_reverse] at hc
  unfold trimChars
  rw [trimStart_eq_self hhead]
  show (trimStart cs.reverse).reverse = cs
  rw [hback, List.reverse_reverse]

end Text

namespace Template

open Text

/-! ## nesting -/

/-- how reading a placeholder stands -/
structure Nesting where
  /-- the braces that are open, that of the placeholder among them -/
  depth : Nat
  /-- the quote that is open; braces in it do not count -/
  quote : Option Char
deriving DecidableEq, Repr

namespace Nesting

/-- right behind the brace of a placeholder -/
def start : Nesting := ⟨1, none⟩

/-- behind one more character -/
def next (s : Nesting) (c : Char) : Nesting :=
  match s.quote with
  | some q => if c = q then ⟨s.depth, none⟩ else s
  | none =>
    if c = '\'' ∨ c = '"' then ⟨s.depth, some c⟩
    else if c = '{' then ⟨s.depth + 1, none⟩
    else if c = '}' then ⟨s.depth - 1, none⟩
    else s

def after (s : Nesting) (cs : List Char) : Nesting := cs.foldl next s

/-- no brace of a text ends the placeholder -/
def Stays (s : Nesting) (cs : List Char) : Prop := ∀ front ∈ cs.inits, (s.after front).depth ≠ 0

instance (s : Nesting) (cs : List Char) : Decidable (s.Stays cs) :=
  inferInstanceAs (Decidable (∀ front ∈ cs.inits, (s.after front).depth ≠ 0))

theorem stays_nil {s : Nesting} : s.Stays [] ↔ s.depth ≠ 0 := by
  show (∀ front ∈ [[]], (s.after front).depth ≠ 0) ↔ _
  rw [List.forall_mem_singleton]
  rfl

theorem stays_cons {s : Nesting} {c : Char} {cs : List Char} :
    s.Stays (c :: cs) ↔ s.depth ≠ 0 ∧ (s.next c).Stays cs := by
  unfold Stays
  rw [List.inits_cons, List.forall_mem_cons, List.forall_mem_map]
  rfl

theorem Stays.depth_ne {s : Nesting} {cs : List Char} (h : s.Stays cs) : s.depth ≠ 0 := by
  cases cs with
  | nil => exact stays_nil.mp h
  | cons c cs => exact (stays_cons.mp h).1

end Nesting

/-- the placeholder goes on to the end of a source, where it lacks nothing but its brace -/
structure Closed (cs : List Char) : Prop where
  stays : Nesting.start.Stays cs
  settled : Nesting.start.after cs = .start

instance (cs : List Char) : Decidable (Closed cs) :=
  decidable_of_iff (Nesting.start.Stays cs ∧ Nesting.start.after cs = .start)
    ⟨fun h => ⟨h.1, h.2⟩, fun h => ⟨h.stays, h.settled⟩⟩

/-! ## placeholders -/

/-- one character of a placeholder: it is the brace at the end, or part of the source -/
theorem readPlaceholder_cons {s : Nesting} (h : s.depth ≠ 0) (c : Char) (cs : List Char) :
    (c = '}' ∧ s = .start ∧ readPlaceholder s.depth s.quote (c :: cs) = ([], cs)) ∨
      ((s.next c).depth ≠ 0 ∧ readPlaceholder s.depth s.quote (c :: cs) =
        (c :: (readPlaceholder (s.next c).depth (s.next c).quote cs).1,
          (readPlaceholder (s.next c).depth (s.next c).quote cs).2)) := by
  obtain ⟨depth, quote⟩ := s
  have hdepth : depth ≠ 0 := h
  cases quote with
  | some q =>
    right
    by_cases hq : c = q
    · simp [Nesting.next, readPlaceholder, hq, hdepth]
    · simp [Nesting.next, readPlaceholder, hq, hdepth]
  | none =>
    by_cases hend : c = '}' ∧ depth ≤ 1
    · obtain ⟨rfl, hle⟩ := hend
      obtain rfl : depth = 1 := by omega
      exact .inl ⟨rfl, rfl, by simp [readPlaceholder]⟩
    · right
      have hgoes : (c == '}' && decide (depth ≤ 1)) = false := by
        simpa using hend
      by_cases hquote : c = '\'' ∨ c = '"'
      · have hopen : c ≠ '{' := by rintro rfl; simp at hquote
        have hclose : c ≠ '}' := by rintro rfl; simp at hquote
        simp [Nesting.next, readPlaceholder, hquote, hopen, hclose, hdepth]
      · by_cases hopen : c = '{'
        · subst hopen
          simp [Nesting.next, readPlaceholder]
        · by_cases hclose : c = '}'
          · subst hclose
            have hdeep : 1 < depth := by
              by_contra hle
              exact hend ⟨rfl, by omega⟩
            have hleft : depth - 1 ≠ 0 := by omega
            simp [Nesting.next, readPlaceholder, hdeep, hleft]
          · simp [Nesting.next, readPlaceholder, hquote, hopen, hclose, hdepth]

/-- a source that lacks only its brace is read up to it -/
theorem readPlaceholder_append {s : Nesting} {cs : List Char} (hs : s.Stays cs)
    (hend : s.after cs = .start) (rest : List Char) :
    readPlaceholder s.depth s.quote (cs ++ '}' :: rest) = (cs, rest) := by
  induction cs generalizing s with
  | nil =>
    obtain rfl : s = .start := hend
    rcases readPlaceholder_cons hs.depth_ne '}' rest with ⟨-, -, h⟩ | ⟨hne, -⟩
    · exact h
    · exact absurd rfl hne
  | cons c cs ih =>
    obtain ⟨hdepth, hstays⟩ := Nesting.stays_cons.mp hs
    have hnext := ih hstays hend
    rcases readPlaceholder_cons hdepth c (cs ++ '}' :: rest) with ⟨rfl, rfl, -⟩ | ⟨-, h⟩
    · exact absurd rfl hstays.depth_ne
    · rw [List.cons_append, h, hnext]

/-- what is read of a placeholder lacks only its brace, or is all there is -/
theorem readPlaceholder_cases {s : Nesting} (h : s.depth ≠ 0) (cs : List Char) :
    (∃ body rest, cs = body ++ '}' :: rest ∧ s.Stays body ∧ s.after body = .start ∧
        readPlaceholder s.depth s.quote cs = (body, rest)) ∨
      readPlaceholder s.depth s.quote cs = (cs, []) := by
  induction cs generalizing s with
  | nil => exact .inr rfl
  | cons c cs ih =>
    rcases readPlaceholder_cons h c cs with ⟨rfl, rfl, hread⟩ | ⟨hnext, hread⟩
    · exact .inl ⟨[], cs, rfl, Nesting.stays_nil.mpr h, rfl, hread⟩
    · rcases ih hnext with ⟨body, rest, rfl, hstays, hend, hrest⟩ | hrest
      · refine .inl ⟨c :: body, rest, rfl, Nesting.stays_cons.mpr ⟨h, hstays⟩, hend, ?_⟩
        rw [hread, hrest]
      · right
        rw [hread, hrest]

/-- behind the blanks in front of a source stands either the source or its brace, so no blanks stand
there if the source is what is left of them -/
theorem eq_of_trimChars {source body rest : List Char} (hbody : body <+: source ++ '}' :: rest)
    (h : trimChars body = source) : body = source := by
  obtain ⟨lead, trail, hlead, htrail, hcut⟩ := exists_trimChars body
  rw [h] at hcut
  have hhead : ∀ c ∈ (source ++ '}' :: rest).head?, isBlank c = false := by
    intro c hc
    cases source with
    | nil =>
      cases hc
      decide
    | cons d source => exact head_trimChars body c (by rwa [h])
  obtain rfl : lead = [] := by
    cases lead with
    | nil => rfl
    | cons b lead =>
      obtain ⟨more, hmore⟩ := hbody
      have hb : isBlank b = false := hhead b (by rw [← hmore, hcut]; rfl)
      rw [hlead b List.mem_cons_self] at hb
      cases hb
  rw [List.nil_append] at hcut
  rw [hcut, List.prefix_append_right_inj] at hbody
  cases trail with
  | nil => rw [hcut, List.append_nil]
  | cons b trail =>
    obtain ⟨rfl, -⟩ := List.cons_prefix_cons.mp hbody
    exact absurd (htrail '}' List.mem_cons_self) (by decide)

/-- a source in braces comes back from its placeholder only if it is closed -/
theorem closed_of_readPlaceholder {source rest : List Char}
    (h : trimChars (readPlaceholder 1 none (source ++ '}' :: rest)).1 = source) :
    Closed source ∧ (readPlaceholder 1 none (source ++ '}' :: rest)).2 = rest := by
  rcases readPlaceholder_cases (s := .start) Nat.one_ne_zero (source ++ '}' :: rest) with
    ⟨body, left, hcut, hstays, hend, hread⟩ | hread
  · have hread : readPlaceholder 1 none (source ++ '}' :: rest) = (body, left) := hread
    rw [hread] at h ⊢
    obtain rfl : body = source := eq_of_trimChars ⟨'}' :: left, hcut.symm⟩ h
    have hleft := List.append_cancel_left hcut
    cases hleft
    exact ⟨⟨hstays, hend⟩, rfl⟩
  · have hread : readPlaceholder 1 none (source ++ '}' :: rest) = (source ++ '}' :: rest, []) := hread
    rw [hread] at h
    have hall : source ++ '}' :: rest = source := eq_of_trimChars (List.prefix_refl _) h
    have hlength := congrArg List.length hall
    rw [List.length_append, List.length_cons] at hlength
    omega

/-! ## parts -/

theorem readParts_nil (text : List Char) : readParts text [] = flush text := by
  rw [readParts]

theorem readParts_open (text cs : List Char) :
    readParts text ('{' :: '{' :: cs) = readParts ('{' :: text) cs := by
  rw [readParts]

theorem readParts_close (text cs : List Char) :
    readParts text ('}' :: '}' :: cs) = readParts ('}' :: text) cs := by
  rw [readParts]

/-- a character that is no brace stands for itself, and so does a single closing brace -/
theorem readParts_cons (text : List Char) {c : Char} {cs : List Char} (hopen : c ≠ '{')
    (hclose : c = '}' → cs.head? ≠ some '}') :
    readParts text (c :: cs) = readParts (c :: text) cs := by
  rw [readParts]
  · rw [if_neg (by simpa using hopen)]
  · rintro cs' rfl
    exact absurd rfl hopen
  · rintro cs' rfl rfl
    exact absurd rfl (hclose rfl)

theorem readParts_placeholder (text : List Char) {cs : List Char} (h : cs.head? ≠ some '{') :
    readParts text ('{' :: cs) =
      flush text ++ .valueOf (String.ofList (trimChars (readPlaceholder 1 none cs).1)) ::
        readParts [] (readPlaceholder 1 none cs).2 := by
  rw [readParts]
  · rfl
  · rintro cs' - rfl
    exact absurd rfl h
  · exact fun _ hbrace => absurd hbrace (by decide)

/-- text is read as it was before its braces were doubled -/
theorem readParts_escaped (s text rest : List Char) :
    readParts text (s.flatMap escapeChar ++ rest) = readParts (s.reverse ++ text) rest := by
  induction s generalizing text with
  | nil => rfl
  | cons c s ih =>
    have hstep : readParts text (escapeChar c ++ (s.flatMap escapeChar ++ rest)) =
        readParts (c :: text) (s.flatMap escapeChar ++ rest) := by
      by_cases hopen : c = '{'
      · subst hopen
        exact readParts_open _ _
      · by_cases hclose : c = '}'
        · subst hclose
          exact readParts_close _ _
        · have hescape : escapeChar c = [c] := by simp [escapeChar, hopen, hclose]
          rw [hescape]
          exact readParts_cons text hopen fun h => absurd h hclose
    rw [List.flatMap_cons, List.append_assoc, hstep, ih, List.reverse_cons, List.append_assoc]
    rfl

theorem flush_of_ne_nil {text : List Char} (h : text ≠ []) :
    flush text = [.text (String.ofList text.reverse)] := by
  unfold flush
  rw [if_neg (by simpa using h)]

theorem value_not_mem_flush (text : List Char) (source : String) :
    .valueOf source ∉ flush text := by
  by_cases htext : text = []
  · subst htext
    exact List.not_mem_nil
  · rw [flush_of_ne_nil htext, List.mem_singleton]
    nofun

/-- text that was begun is the beginning of the first part -/
theorem exists_readParts {text : List Char} (h : text ≠ []) (cs : List Char) : ∃ more ps,
    readParts text cs = .text (String.ofList (text.reverse ++ more)) :: ps := by
  fun_induction readParts text cs with
  | case1 text => exact ⟨[], [], by rw [flush_of_ne_nil h, List.append_nil]⟩
  | case2 text cs ih | case3 text cs ih | case5 text cs c _ _ _ ih =>
    obtain ⟨more, ps, hread⟩ := ih (List.cons_ne_nil _ _)
    exact ⟨_ :: more, ps, by rw [hread, List.reverse_cons, List.append_assoc]; rfl⟩
  | case4 text cs c _ _ _ _ ih =>
    exact ⟨[], _, by rw [flush_of_ne_nil h, List.append_nil]; rfl⟩

end Template

namespace TemplatePart

def isText : TemplatePart → Bool
  | text _ => true
  | _ => false

def isName : TemplatePart → Bool
  | name _ => true
  | _ => false

end TemplatePart

namespace Template

open Text

/-- text and values as a text can have them: no text is empty, and none follows another -/
structure Separated (ps : List TemplatePart) : Prop where
  plain : ∀ p ∈ ps, p ≠ .text "" ∧ p.isName = false
  apart : ps.IsChain fun p q => p.isText = false ∨ q.isText = false

instance (ps : List TemplatePart) : Decidable (Separated ps) :=
  decidable_of_iff ((∀ p ∈ ps, p ≠ .text "" ∧ p.isName = false) ∧
    ps.IsChain fun p q => p.isText = false ∨ q.isText = false)
    ⟨fun h => ⟨h.1, h.2⟩, fun h => ⟨h.plain, h.apart⟩⟩

theorem separated_nil : Separated [] := ⟨fun _ h => absurd h List.not_mem_nil, List.IsChain.nil⟩

theorem separated_cons {p : TemplatePart} {ps : List TemplatePart} :
    Separated (p :: ps) ↔ (p ≠ .text "" ∧ p.isName = false) ∧
      (∀ q ∈ ps.head?, p.isText = false ∨ q.isText = false) ∧ Separated ps := by
  constructor
  · rintro ⟨hplain, hapart⟩
    obtain ⟨hp, hps⟩ := List.forall_mem_cons.mp hplain
    obtain ⟨hhead, hrest⟩ := List.isChain_cons.mp hapart
    exact ⟨hp, hhead, hps, hrest⟩
  · rintro ⟨hp, hhead, hps, hrest⟩
    exact ⟨List.forall_mem_cons.mpr ⟨hp, hps⟩, List.isChain_cons.mpr ⟨hhead, hrest⟩⟩

theorem separated_value {source : String} {ps : List TemplatePart} (h : Separated ps) :
    Separated (.valueOf source :: ps) :=
  separated_cons.mpr ⟨⟨nofun, rfl⟩, fun _ _ => .inl rfl, h⟩

theorem separated_flush (text : List Char) {ps : List TemplatePart} (h : Separated ps)
    (hps : ∀ q ∈ ps.head?, q.isText = false) : Separated (flush text ++ ps) := by
  by_cases htext : text = []
  · subst htext
    exact h
  · rw [flush_of_ne_nil htext]
    refine separated_cons.mpr ⟨⟨fun hempty => ?_, rfl⟩, fun q hq => .inr (hps q hq), h⟩
    have hlist := congrArg String.toList (TemplatePart.text.inj hempty)
    rw [String.toList_ofList] at hlist
    exact htext (List.reverse_eq_nil_iff.mp hlist)

theorem separated_readParts (text cs : List Char) : Separated (readParts text cs) := by
  fun_induction readParts text cs with
  | case1 text =>
    have h := separated_flush text separated_nil nofun
    rwa [List.append_nil] at h
  | case2 text cs ih | case3 text cs ih | case5 text cs c _ _ _ ih => exact ih
  | case4 text cs c _ _ _ _ ih =>
    refine separated_flush text (separated_value ih) fun q hq => ?_
    cases hq
    rfl

/-- sources are read without the blanks at their ends -/
theorem exists_trimChars_of_mem {text cs : List Char} {source : String}
    (h : .valueOf source ∈ readParts text cs) :
    ∃ body, source.toList = trimChars body := by
  fun_induction readParts text cs with
  | case1 text => exact absurd h (value_not_mem_flush text source)
  | case2 text cs ih | case3 text cs ih | case5 text cs c _ _ _ ih => exact ih h
  | case4 text cs c _ _ _ _ ih =>
    rcases List.mem_append.mp h with h | h
    · exact absurd h (value_not_mem_flush text source)
    · rcases List.mem_cons.mp h with h | h
      · rw [TemplatePart.valueOf.inj h, String.toList_ofList]
        exact ⟨_, rfl⟩
      · exact ih h

/-! ## writing and reading -/

/-- a source that can stand in braces -/
structure Enclosable (source : String) : Prop where
  front : ∀ c ∈ source.toList.head?, isBlank c = false
  back : ∀ c ∈ source.toList.getLast?, isBlank c = false
  /-- two braces in front would stand for a brace of text -/
  brace : source.toList.head? ≠ some '{'
  closed : Closed source.toList

theorem enclosable_iff {source : String} : Enclosable source ↔
    source.toList.head?.any isBlank = false ∧ source.toList.getLast?.any isBlank = false ∧
      source.toList.head? ≠ some '{' ∧ Closed source.toList := by
  rw [Option.any_eq_false, Option.any_eq_false]
  exact ⟨fun h => ⟨h.front, h.back, h.brace, h.closed⟩,
    fun ⟨front, back, brace, closed⟩ => ⟨front, back, brace, closed⟩⟩

instance (source : String) : Decidable (Enclosable source) := decidable_of_iff' _ enclosable_iff

/-- the characters of parts as they are written -/
def displayed (ps : List TemplatePart) : List Char := ps.flatMap fun p => (displayPart p).toList

theorem toList_display (t : Template) : t.display.toList = displayed t.parts := by
  unfold display displayed
  rw [String.toList_join, List.flatMap_map]

theorem displayed_text (s : String) (ps : List TemplatePart) :
    displayed (.text s :: ps) = s.toList.flatMap escapeChar ++ displayed ps := by
  unfold displayed
  rw [List.flatMap_cons, displayPart, String.toList_ofList]

theorem displayed_value (source : String) (ps : List TemplatePart) :
    displayed (.valueOf source :: ps) = '{' :: (source.toList ++ '}' :: displayed ps) := by
  unfold displayed
  rw [List.flatMap_cons, displayPart, braced, String.toList_ofList]
  simp

/-- a value in braces is read again if and only if its source is enclosable, and then what follows
it is read as if it stood alone -/
theorem readParts_value (text : List Char) (source : String) (rest : List Char)
    (ps : List TemplatePart) :
    readParts text ('{' :: (source.toList ++ '}' :: rest)) = flush text ++ .valueOf source :: ps ↔
      Enclosable source ∧ readParts [] rest = ps := by
  by_cases hbrace : source.toList.head? = some '{'
  · refine iff_of_false (fun h => ?_) fun h => h.1.brace hbrace
    obtain ⟨cs, hcs⟩ := List.head?_eq_some_iff.mp hbrace
    rw [hcs, List.cons_append, readParts_open] at h
    obtain ⟨more, qs, hread⟩ := exists_readParts (List.cons_ne_nil '{' text) (cs ++ '}' :: rest)
    rw [hread] at h
    by_cases htext : text = []
    · subst htext
      cases (List.cons.inj h).1
    · rw [flush_of_ne_nil htext] at h
      have hlist := congrArg String.toList (TemplatePart.text.inj (List.cons.inj h).1)
      have hlength := congrArg List.length hlist
      simp only [String.toList_ofList, List.length_append, List.length_reverse,
        List.length_cons] at hlength
      omega
  · have hhead : (source.toList ++ '}' :: rest).head? ≠ some '{' := by
      cases hcs : source.toList with
      | nil => simp
      | cons c cs =>
        rw [hcs] at hbrace
        exact hbrace
    rw [readParts_placeholder text hhead, List.append_right_inj, List.cons.injEq,
      TemplatePart.valueOf.injEq]
    constructor
    · rintro ⟨hsource, hps⟩
      have htrim : trimChars (readPlaceholder 1 none (source.toList ++ '}' :: rest)).1 =
          source.toList := by
        rw [← String.toList_ofList (l := trimChars _), hsource]
      obtain ⟨hclosed, hrest⟩ := closed_of_readPlaceholder htrim
      rw [hrest] at hps
      refine ⟨⟨?_, ?_, hbrace, hclosed⟩, hps⟩
      · rw [← htrim]
        exact head_trimChars _
      · rw [← htrim]
        exact last_trimChars _
    · rintro ⟨henclosable, hps⟩
      have hread : readPlaceholder 1 none (source.toList ++ '}' :: rest) = (source.toList, rest) :=
        readPlaceholder_append henclosable.closed.stays henclosable.closed.settled rest
      rw [hread]
      refine ⟨?_, hps⟩
      rw [trimChars_eq_self henclosable.front henclosable.back, String.ofList_toList]

/-- **Separated parts are read as they were written if and only if their sources are enclosable.** -/
theorem readParts_displayed {ps : List TemplatePart} (h : Separated ps) {text : List Char}
    (htext : text = [] ∨ ∀ q ∈ ps.head?, q.isText = false) :
    readParts text (displayed ps) = flush text ++ ps ↔
      ∀ source, .valueOf source ∈ ps → Enclosable source := by
  induction ps generalizing text with
  | nil =>
    refine iff_of_true ?_ fun _ hsource => absurd hsource List.not_mem_nil
    rw [List.append_nil]
    exact readParts_nil text
  | cons p ps ih =>
    obtain ⟨hplain, hapart, hps⟩ := separated_cons.mp h
    cases p with
    | text s =>
      obtain rfl : text = [] := htext.resolve_right fun hhead => nomatch hhead _ rfl
      have hnext : ∀ q ∈ ps.head?, q.isText = false := fun q hq =>
        (hapart q hq).resolve_left nofun
      have hne : s.toList.reverse ≠ [] := by
        intro hnil
        have hs : s = "" := String.toList_eq_nil_iff.mp (List.reverse_eq_nil_iff.mp hnil)
        exact hplain.1 (congrArg _ hs)
      have hflush : flush [] ++ .text s :: ps = flush s.toList.reverse ++ ps := by
        rw [flush_of_ne_nil hne, List.reverse_reverse, String.ofList_toList]
        rfl
      rw [displayed_text, readParts_escaped, List.append_nil, hflush, ih hps (.inr hnext)]
      simp
    | valueOf source =>
      rw [displayed_value, readParts_value, ← List.nil_append ps]
      show _ ∧ readParts [] (displayed ps) = flush [] ++ ps ↔ _
      rw [ih hps (.inl rfl)]
      simp
    | name source => cases hplain.2

/-- **A separated template is read again from its compact form if and only if the sources of all its
values can stand in braces**: no blanks at their ends, no brace at their beginning, and closed. -/
theorem parse_display_iff (t : Template) (h : Separated t.parts) :
    parse t.display = t ↔ ∀ source, .valueOf source ∈ t.parts → Enclosable source := by
  rw [← readParts_displayed h (.inl rfl)]
  obtain ⟨ps⟩ := t
  unfold parse
  rw [toList_display, Template.mk.injEq]
  rfl

/-- braces beside values and in the quotes of a value, and a value whose quote is closed only by the
text behind it -/
theorem parse_display_iff_braces :
    let good : Template := ⟨[.text "\x7b", .valueOf "concat('\x7b', @sku)", .valueOf "",
      .text "\x7d\x7d"]⟩
    let bad : Template := ⟨[.valueOf "'", .text "'\x7d"]⟩
    (Separated good.parts ∧ parse good.display = good) ∧
      Separated bad.parts ∧ parse bad.display ≠ bad := by
  intro good bad
  have hgood : Separated good.parts := by decide +kernel
  have hbad : Separated bad.parts := by decide +kernel
  refine ⟨⟨hgood, (parse_display_iff good hgood).mpr fun source hsource => ?_⟩, hbad, fun h => ?_⟩
  · have hcases : source = "concat('\x7b', @sku)" ∨ source = "" := by simpa [good] using hsource
    rcases hcases with rfl | rfl
    · decide +kernel
    · decide +kernel
  · have hopen : Enclosable "'" := (parse_display_iff bad hbad).mp h _ List.mem_cons_self
    exact absurd hopen.closed (by decide +kernel)

/-- **A template that was read is read again from its compact form if and only if the sources of all
its values are closed and begin with no brace.** -/
theorem parse_display_parse_iff (source : String) :
    parse (parse source).display = parse source ↔
      ∀ value, .valueOf value ∈ (parse source).parts →
        value.toList.head? ≠ some '{' ∧ Closed value.toList := by
  have hseparated : Separated (parse source).parts := separated_readParts [] source.toList
  have hiff : parse (parse source).display = parse source ↔
      readParts [] (displayed (parse source).parts) = flush [] ++ (parse source).parts := by
    rw [parse, toList_display, parse, Template.mk.injEq]
    rfl
  rw [hiff, readParts_displayed hseparated (.inl rfl)]
  refine forall_congr' fun value => forall_congr' fun hvalue => ?_
  have hvalue : .valueOf value ∈ readParts [] source.toList := hvalue
  obtain ⟨body, hbody⟩ := exists_trimChars_of_mem hvalue
  constructor
  · exact fun h => ⟨h.brace, h.closed⟩
  · rintro ⟨hbrace, hclosed⟩
    refine ⟨?_, ?_, hbrace, hclosed⟩
    · rw [hbody]
      exact head_trimChars body
    · rw [hbody]
      exact last_trimChars body

/-- the source of a value that begins with a brace: its two braces are read as one of text -/
theorem parse_display_parse_ne :
    parse (parse "\x7b \x7bx\x7d\x7d").display ≠ parse "\x7b \x7bx\x7d\x7d" := by
  decide +kernel

end Template

end Rulebook
