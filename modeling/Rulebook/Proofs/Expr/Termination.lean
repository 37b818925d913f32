import Rulebook.Proofs.Expr.Paths
import Rulebook.Proofs.Text.Progress

/-!
# Reading ends

The rules of the grammar lead from one to the next without reading anything until they come to a
token, and from inside brackets back to whole expressions.

* `Tracks.singleBody`  a rule that contains expressions reads a character before each of them, so on
                       longer texts it only depends on what `single` does on shorter ones;
* `IsRule`, `IsLoose`, `IsRepeated`  the scans that the grammar consists of: its rules, what may be
                       missing in them, and what is repeated in them;
* `nested`             an expression nested as deep as the text goes.

`parse_progress`: **as an equation for the scan of its expressions the grammar has one solution;
with it every rule consumes, and a text is read with it up to a proper suffix.**
-/

set_option autoImplicit false

namespace Rulebook

open Text Scan

namespace Grammar

open scoped List

variable {k : Nat}

namespace Tracks

open Scan.Tracks

/-! ## tokens -/

protected theorem blanks : Tracks k 0 blanks blanks := by
  refine fun cs _ => ⟨rfl, ?_⟩
  rintro _ _ ⟨⟩
  exact ⟨List.dropWhile_suffix _, (List.dropWhile_suffix _).length_le⟩

protected theorem spaced {α : Type} {d : Nat} {p p' : Scan α} (h : Tracks k d p p') :
    Tracks k d (spaced p) (spaced p') :=
  Tracks.blanks.after fun _ => h.bind fun _ => Tracks.blanks.bind fun _ => .pure _

protected theorem word {w : String} (hw : w.toList ≠ []) : Tracks k 1 (word w) (word w) :=
  (Scan.Tracks.text hw).bind fun _ => (Scan.Tracks.satisfy _).notFollowedBy

protected theorem comma : Tracks k 1 comma comma := Tracks.spaced (.char ',')

protected theorem name : Tracks k 1 name name :=
  (Scan.Tracks.satisfy _).bind fun _ => (Scan.Tracks.takeWhile _).bind fun _ => .pure _

protected theorem afterColon : Tracks k 1 (Scan.char ':' *> name) (Scan.char ':' *> name) :=
  (Scan.Tracks.char ':').seqRight Tracks.name.loose

protected theorem qualifiedName : Tracks k 1 qualifiedName qualifiedName :=
  Tracks.name.bind fun _ => Tracks.afterColon.optional.bind fun _ => .pure _

protected theorem numeral : Tracks k 1 numeral numeral :=
  Scan.Tracks.orElse
    ((Scan.Tracks.takeWhile1 _).bind fun _ =>
      ((Scan.Tracks.char '.').seqRight (.takeWhile _)).optional.bind fun _ => .pure _)
    ((Scan.Tracks.char '.').bind fun _ => (Scan.Tracks.takeWhile1 _).loose.bind fun _ => .pure _)

protected theorem quoted (quote : Char) : Tracks k 1 (quoted quote) (quoted quote) :=
  (Scan.Tracks.char quote).bind fun _ => (Scan.Tracks.takeWhile _).bind fun _ =>
    (Scan.Tracks.char quote).loose.bind fun _ => .pure _

protected theorem literal : Tracks k 1 literal literal :=
  (Tracks.quoted _).orElse (Tracks.quoted _)

protected theorem kindTest : Tracks k 1 kindTest kindTest := by
  refine (Scan.Tracks.choose ?_).bind fun _ => ?_
  · simp only [List.forall_mem_cons]
    exact ⟨.text (by decide), .text (by decide), .text (by decide), .text (by decide), nofun⟩
  · exact (Tracks.spaced (.char '(')).loose.bind fun _ =>
      (Tracks.spaced (.char ')')).loose.bind fun _ => .pure _

protected theorem nameTest : Tracks k 1 nameTest nameTest :=
  Tracks.name.bind fun _ => Tracks.afterColon.optional.bind fun _ => .pure _

protected theorem nodeTest : Tracks k 1 nodeTest nodeTest :=
  first_cons ((Scan.Tracks.char '*').seqRight (.pure _)) <|
  first_cons (Tracks.kindTest.map _) <|
  first_cons (Tracks.name.bind fun _ => (Scan.Tracks.text (by decide)).loose.bind fun _ => .pure _) <|
  first_cons Tracks.nameTest .failure

protected theorem axis : Tracks k 1 axis axis := by
  refine (Scan.Tracks.choose ?_).seqLeft (Scan.Tracks.text (by decide)).loose
  intro x hx
  obtain ⟨a, -, rfl⟩ := List.mem_map.mp hx
  exact .text (by cases a <;> decide)

protected theorem stepStart : Tracks k 1 stepStart stepStart :=
  first_cons ((Scan.Tracks.text (by decide)).seqRight (.pure _)) <|
  first_cons ((Scan.Tracks.text (by decide)).seqRight (.pure _)) <|
  first_cons ((Scan.Tracks.char '@').bind fun _ => Tracks.nodeTest.loose.bind fun _ => .pure _) <|
  first_cons (Tracks.axis.optional.after fun _ => Tracks.nodeTest.bind fun _ => .pure _) .failure

protected theorem separator : Tracks k 1 separator separator := by
  refine Tracks.spaced (.choose ?_)
  simp only [List.forall_mem_cons]
  exact ⟨.text (by decide), .text (by decide), nofun⟩

protected theorem operator (level : Level) : Tracks k 1 (operator level) (operator level) := by
  have hword {w : String} (hw : w.toList ≠ []) (op : BinaryOp) :
      Tracks k 1 (word w *> pure op) (word w *> pure op) := (Tracks.word hw).seqRight (.pure op)
  cases level with
  | disjunction => exact hword (by decide) _
  | conjunction => exact hword (by decide) _
  | equality =>
    refine .choose ?_
    simp only [List.forall_mem_cons]
    exact ⟨.text (by decide), .text (by decide), Tracks.word (by decide), Tracks.word (by decide),
      nofun⟩
  | relation =>
    refine .choose ?_
    simp only [List.forall_mem_cons]
    exact ⟨.text (by decide), .text (by decide), .text (by decide), .text (by decide),
      .text (by decide), .text (by decide), .text (by decide), .text (by decide),
      Tracks.word (by decide), Tracks.word (by decide), Tracks.word (by decide),
      Tracks.word (by decide), nofun⟩
  | sum =>
    refine .choose ?_
    simp only [List.forall_mem_cons]
    exact ⟨.char _, .char _, nofun⟩
  | product =>
    refine .choose ?_
    simp only [List.forall_mem_cons]
    exact ⟨.char _, Tracks.word (by decide), Tracks.word (by decide), nofun⟩
  | union => exact (Scan.Tracks.char '|').seqRight (.pure _)
  | _ => exact .failure

/-! ## rules that contain expressions -/

section
variable {s s' : Scan Expr} {p p' : Scan Expr} {o : Scan BinaryOp}

protected theorem link (ho : Tracks k 1 o o) (h : Tracks k 1 p p') :
    Tracks k 1 (link o p) (link o p') :=
  (Tracks.spaced ho).bind fun _ => h.loose.bind fun _ => .pure _

protected theorem chain (ho : Tracks k 1 o o) (h : Tracks k 1 p p') :
    Tracks k 1 (chain o p) (chain o p') :=
  h.bind fun _ => (Tracks.link ho h).many.bind fun _ => .pure _

protected theorem between {α : Type} {l r : Char} {p p' : Scan α} (h : Tracks k 0 p p') :
    Tracks (k + 1) 1 (between l r p) (between l r p') :=
  (Tracks.spaced (.char l)).bind_behind fun _ => h.bind fun _ =>
    (Tracks.spaced (.char r)).loose.bind fun _ => .pure _

/-- a word with an expression behind it -/
protected theorem behindWord {w : String} (hw : w.toList ≠ []) {α : Type} {f f' : Expr → Scan α}
    (h : Tracks k 1 s s') (hf : ∀ e, Tracks k 0 (f e) (f' e)) :
    Tracks k 1 (spaced (word w) >>= fun _ => s >>= f) (spaced (word w) >>= fun _ => s' >>= f') :=
  (Tracks.spaced (Tracks.word hw)).bind fun _ => h.loose.bind hf

variable (h : Tracks k 1 s s')
include h

protected theorem item : Tracks k 1 (comma *> s) (comma *> s') := Tracks.comma.seqRight h.loose

protected theorem expression : Tracks k 1 (expression s) (expression s') :=
  (Tracks.comma.sepBy1 h).bind fun _ => .pure _

protected theorem predicate : Tracks (k + 1) 1 (predicate s) (predicate s') :=
  Tracks.between (Tracks.expression h).loose

/-! ### paths -/

protected theorem step : Tracks (k + 1) 1 (step s) (step s') :=
  Tracks.stepStart.bind fun _ => (Tracks.predicate h).many.bind fun _ => .pure _

protected theorem slashStep : Tracks (k + 1) 1 (slashStep s) (slashStep s') :=
  Tracks.separator.bind fun _ => (Tracks.step h).loose.bind fun _ => .pure _

protected theorem moreSteps : Tracks (k + 1) 0 (moreSteps s) (moreSteps s') :=
  (Tracks.slashStep h).many.bind fun _ => .pure _

/-- behind a slash the step may be missing, but the slash has been read -/
protected theorem locationPath : Tracks (k + 1) 1 (locationPath s) (locationPath s') := by
  intro cs hcs
  have hrest {start rest : List Char} {q q' : Scan Expr} (hq : Tracks (k + 1) 0 q q')
      (hne : 0 < start.length) (hstart : afterPrefix? start cs = some rest) :
      q' rest = q rest ∧
        ∀ e left, q rest = some (e, left) → left <:+ cs ∧ left.length + 1 ≤ cs.length := by
    obtain ⟨hsuffix, hlength⟩ := suffix_of_afterPrefix? hstart
    obtain ⟨heq, hleft⟩ := hq rest (by omega)
    refine ⟨heq, fun e left hread => ?_⟩
    obtain ⟨hsuffix', hle⟩ := hleft e left hread
    exact ⟨hsuffix'.trans hsuffix, by omega⟩
  unfold Grammar.locationPath
  cases hd : afterPrefix? ['/', '/'] cs with
  | some rest =>
    exact hrest ((Tracks.step h).loose.bind fun _ => (Tracks.moreSteps h).bind fun _ => .pure _)
      (by decide) hd
  | none =>
    cases hb : afterPrefix? ['/'] cs with
    | some rest =>
      exact hrest ((Tracks.step h).optional.bind fun _ =>
        (Tracks.moreSteps h).bind fun _ => .pure _) (by decide) hb
    | none =>
      exact (Tracks.step h).bind (fun _ => (Tracks.moreSteps h).bind fun _ => .pure _) cs hcs

/-! ### primary expressions -/

omit h in
protected theorem reference : Tracks k 1 reference reference :=
  ((Scan.Tracks.char '$').seqRight Tracks.qualifiedName.loose).map _

protected theorem call : Tracks (k + 1) 1 (call s) (call s') := by
  refine Tracks.qualifiedName.bind_behind fun _ => ?_
  refine (Tracks.spaced (.char '(')).lookAhead.bind fun _ => (Scan.Tracks.guard _).bind fun _ => ?_
  refine Tracks.blanks.bind fun _ => (Scan.Tracks.char '(').loose.bind fun _ => ?_
  exact (Tracks.comma.sepBy h).bind fun _ => (Tracks.spaced (.char ')')).loose.bind fun _ => .pure _

protected theorem parenthesized : Tracks (k + 1) 1 (parenthesized s) (parenthesized s') :=
  (Tracks.between (Tracks.expression h).optional).bind fun _ => .pure _

protected theorem primary : Tracks (k + 1) 1 (primary s) (primary s') :=
  Tracks.spaced <|
  first_cons Tracks.reference <|
  first_cons (Tracks.numeral.map _) <|
  first_cons (Tracks.literal.map _) <|
  first_cons (Tracks.call h) <|
  first_cons (Tracks.parenthesized h) .failure

protected theorem filtered : Tracks (k + 1) 1 (filtered s) (filtered s') :=
  (Tracks.primary h).bind fun _ => (Tracks.predicate h).many.bind fun _ => .pure _

protected theorem path : Tracks (k + 1) 1 (path s) (path s') :=
  ((Tracks.filtered h).orElse (Tracks.locationPath h)).bind fun _ =>
    (Tracks.moreSteps h).bind fun _ => .pure _

/-! ### operators -/

protected theorem union : Tracks (k + 1) 1 (union s) (union s') :=
  Tracks.chain (Tracks.operator .union) (Tracks.path h)

omit h in
protected theorem sign : Tracks k 1 (spaced (Scan.char '-')) (spaced (Scan.char '-')) :=
  Tracks.spaced (.char '-')

protected theorem signed : Tracks (k + 1) 1 (signed s) (signed s') :=
  Tracks.sign.many.after fun _ => (Tracks.union h).bind fun _ => .pure _

protected theorem product : Tracks (k + 1) 1 (product s) (product s') :=
  Tracks.chain (Tracks.operator .product) (Tracks.signed h)

protected theorem sum : Tracks (k + 1) 1 (sum s) (sum s') :=
  Tracks.chain (Tracks.operator .sum) (Tracks.product h)

protected theorem bound :
    Tracks (k + 1) 1 (spaced (word "to") *> sum s) (spaced (word "to") *> sum s') :=
  (Tracks.spaced (Tracks.word (by decide))).seqRight (Tracks.sum h).loose

protected theorem range : Tracks (k + 1) 1 (range s) (range s') :=
  (Tracks.sum h).bind fun _ => (Tracks.bound h).optional.bind fun _ => .pure _

protected theorem relational : Tracks (k + 1) 1 (relational s) (relational s') :=
  Tracks.chain (Tracks.operator .relation) (Tracks.range h)

protected theorem equality : Tracks (k + 1) 1 (equality s) (equality s') :=
  Tracks.chain (Tracks.operator .equality) (Tracks.relational h)

protected theorem conjunction : Tracks (k + 1) 1 (conjunction s) (conjunction s') :=
  Tracks.chain (Tracks.operator .conjunction) (Tracks.equality h)

protected theorem disjunction : Tracks (k + 1) 1 (disjunction s) (disjunction s') :=
  Tracks.chain (Tracks.operator .disjunction) (Tracks.conjunction h)

/-! ### conditions and quantifiers -/

protected theorem conditional : Tracks (k + 1) 1 (conditional s) (conditional s') := by
  -- behind the first word all texts are shorter
  refine (Tracks.spaced (Tracks.word (by decide))).bind_behind fun _ => ?_
  refine (Tracks.between (Tracks.expression h).loose).of_succ.loose.bind fun _ => ?_
  refine (Tracks.behindWord (by decide) h fun _ => ?_).loose
  exact (Tracks.behindWord (by decide) h fun _ => .pure _).loose

protected theorem clause : Tracks (k + 1) 1 (clause s) (clause s') := by
  refine (Tracks.spaced (.char '$')).bind_behind fun _ => Tracks.qualifiedName.loose.bind fun _ => ?_
  exact (Tracks.behindWord (by decide) h fun _ => .pure _).loose

protected theorem quantified : Tracks (k + 1) 1 (quantified s) (quantified s') := by
  refine (Tracks.spaced (.choose ?_)).bind_behind fun _ => ?_
  · simp only [List.forall_mem_cons]
    exact ⟨Tracks.word (by decide), Tracks.word (by decide), nofun⟩
  · refine (Tracks.comma.sepBy1 (Tracks.clause h).of_succ).loose.bind fun _ => ?_
    exact (Tracks.behindWord (by decide) h fun _ => .pure _).loose

protected theorem singleBody : Tracks (k + 1) 1 (singleBody s) (singleBody s') :=
  first_cons (Tracks.conditional h) <|
  first_cons (Tracks.quantified h) <|
  first_cons (Tracks.disjunction h) .failure

end

end Tracks

/-! ## nesting -/

/-- an expression without commas outside brackets, nested as deep as the text goes -/
def nested : Scan Expr := fun cs => single (cs.length + 1) cs

/-- how deep expressions may be nested does not matter to shorter texts -/
theorem tracks_single {depth depth' : Nat} (h : k ≤ depth) (h' : k ≤ depth') :
    Tracks k 1 (single depth) (single depth') := by
  induction k generalizing depth depth' with
  | zero => exact fun cs hcs => absurd hcs (Nat.not_lt_zero _)
  | succ k ih =>
    obtain ⟨depth, rfl⟩ := Nat.exists_eq_add_of_le' (Nat.le_trans (Nat.le_add_left 1 k) h)
    obtain ⟨depth', rfl⟩ := Nat.exists_eq_add_of_le' (Nat.le_trans (Nat.le_add_left 1 k) h')
    exact Tracks.singleBody (ih (Nat.le_of_succ_le_succ h) (Nat.le_of_succ_le_succ h'))

theorem tracks_nested (k : Nat) : Tracks k 1 (single k) nested :=
  fun cs hcs => tracks_single hcs (Nat.le_refl _) cs (Nat.lt_succ_self _)

theorem nested_eq : nested = singleBody nested := by
  funext cs
  exact (Tracks.singleBody (tracks_nested cs.length) cs (Nat.lt_succ_self _)).1.symm

/-- a scan that the rules make of itself does what they do with bounded nesting -/
theorem tracks_of_eq_singleBody {s : Scan Expr} (h : s = singleBody s) (k : Nat) :
    Tracks k 1 (single k) s := by
  induction k with
  | zero => exact fun cs hcs => absurd hcs (Nat.not_lt_zero _)
  | succ k ih =>
    rw [h]
    exact Tracks.singleBody ih

theorem eq_singleBody_iff {s : Scan Expr} : s = singleBody s ↔ s = nested := by
  constructor
  · intro h
    funext cs
    exact (tracks_of_eq_singleBody h (cs.length + 1) cs (Nat.lt_succ_self _)).1
  · rintro rfl
    exact nested_eq

theorem read?_eq (cs : List Char) : read? cs = expression nested cs :=
  (Tracks.expression (tracks_nested (cs.length + 1)) cs (Nat.lt_succ_self _)).1.symm

theorem consumes_single (depth : Nat) : (single depth).Consumes := by
  induction depth with
  | zero => exact fun _ _ _ h => nomatch h
  | succ depth ih =>
    have htracks := consumes_iff_tracks.mp ih
    exact consumes_iff_tracks.mpr fun k => (Tracks.singleBody (htracks k)).of_succ

theorem consumes_nested : nested.Consumes := fun cs a rest h => consumes_single _ cs a rest h

/-! ## the scans of the grammar -/

section
variable (single : Scan Expr)

/-- what is repeated in a rule, by `many` or between separators -/
inductive IsRepeated : {α : Type} → Scan α → Prop
  | sign : IsRepeated (spaced (Scan.char '-'))
  | link (op : BinaryOp) : IsRepeated (link (operator op.level) (op.level.next.scan single))
  | predicate : IsRepeated (predicate single)
  | slashStep : IsRepeated (slashStep single)
  | item : IsRepeated (comma *> single)
  | clause : IsRepeated (comma *> clause single)

/-- what may be missing in a rule: blanks, options and repetitions -/
inductive IsLoose : {α : Type} → Scan α → Prop
  | blanks : IsLoose blanks
  | fraction : IsLoose (optional? (Scan.char '.' *> Scan.takeWhile Number.isDigit))
  | afterColon : IsLoose (optional? (Scan.char ':' *> name))
  | axis : IsLoose (optional? axis)
  | firstStep : IsLoose (optional? (step single))
  | inParentheses : IsLoose (optional? (expression single))
  | bound : IsLoose (optional? (spaced (word "to") *> sum single))
  | many {α : Type} {p : Scan α} (h : IsRepeated single p) : IsLoose (many p)
  | minusSigns : IsLoose minusSigns
  | moreSteps : IsLoose (moreSteps single)
  | arguments : IsLoose (sepBy comma single)

/-- the rules, in which something is there -/
inductive IsRule : {α : Type} → Scan α → Prop
  | word {w : String} (h : w.toList ≠ []) : IsRule (word w)
  | comma : IsRule comma
  | name : IsRule name
  | qualifiedName : IsRule qualifiedName
  | numeral : IsRule numeral
  | literal : IsRule literal
  | kindTest : IsRule kindTest
  | nameTest : IsRule nameTest
  | nodeTest : IsRule nodeTest
  | axis : IsRule axis
  | stepStart : IsRule stepStart
  | separator : IsRule separator
  | operator (op : BinaryOp) : IsRule (operator op.level)
  | expression : IsRule (expression single)
  | predicate : IsRule (predicate single)
  | step : IsRule (step single)
  | locationPath : IsRule (locationPath single)
  | reference : IsRule reference
  | call : IsRule (call single)
  | parenthesized : IsRule (parenthesized single)
  | conditional : IsRule (conditional single)
  | clause : IsRule (clause single)
  | quantified : IsRule (quantified single)
  /-- a whole expression, and the rules from `or` to primary expressions -/
  | level (l : Level) : IsRule (l.scan single)

end

section
variable {single : Scan Expr} (h : single.Consumes) {α : Type} {p : Scan α}
include h

theorem Tracks.level (k : Nat) (l : Level) : Tracks k 1 (l.scan single) (l.scan single) := by
  have hsingle := consumes_iff_tracks.mp h k
  have hbody := (Tracks.singleBody hsingle).of_succ
  cases l with
  | whole => exact Tracks.expression hbody
  | sequence => exact Tracks.expression hbody
  | single => exact hbody
  | disjunction => exact (Tracks.disjunction hsingle).of_succ
  | conjunction => exact (Tracks.conjunction hsingle).of_succ
  | equality => exact (Tracks.equality hsingle).of_succ
  | relation => exact (Tracks.relational hsingle).of_succ
  | range => exact (Tracks.range hsingle).of_succ
  | sum => exact (Tracks.sum hsingle).of_succ
  | product => exact (Tracks.product hsingle).of_succ
  | sign => exact (Tracks.signed hsingle).of_succ
  | union => exact (Tracks.union hsingle).of_succ
  | path => exact (Tracks.path hsingle).of_succ
  | filter => exact (Tracks.filtered hsingle).of_succ
  | primary => exact (Tracks.primary hsingle).of_succ

theorem IsRepeated.tracks (hp : IsRepeated single p) (k : Nat) : Tracks k 1 p p := by
  have hsingle := consumes_iff_tracks.mp h k
  cases hp with
  | sign => exact Tracks.sign
  | link op => exact Tracks.link (Tracks.operator op.level) (Tracks.level h k op.level.next)
  | predicate => exact (Tracks.predicate hsingle).of_succ
  | slashStep => exact (Tracks.slashStep hsingle).of_succ
  | item => exact Tracks.item hsingle
  | clause => exact Tracks.comma.seqRight (Tracks.clause hsingle).of_succ.loose

theorem IsLoose.tracks (hp : IsLoose single p) (k : Nat) : Tracks k 0 p p := by
  have hsingle := consumes_iff_tracks.mp h k
  cases hp with
  | blanks => exact Tracks.blanks
  | fraction => exact ((Scan.Tracks.char '.').seqRight (.takeWhile _)).optional
  | afterColon => exact Tracks.afterColon.optional
  | axis => exact Tracks.axis.optional
  | firstStep => exact (Tracks.step hsingle).of_succ.optional
  | inParentheses => exact (Tracks.expression hsingle).optional
  | bound => exact (Tracks.bound hsingle).of_succ.optional
  | many hrepeated => exact (hrepeated.tracks h k).many
  | minusSigns => exact Tracks.sign.many
  | moreSteps => exact (Tracks.moreSteps hsingle).of_succ
  | arguments => exact Tracks.comma.sepBy hsingle

theorem IsRule.tracks (hp : IsRule single p) (k : Nat) : Tracks k 1 p p := by
  have hsingle := consumes_iff_tracks.mp h k
  cases hp with
  | word hw => exact Tracks.word hw
  | comma => exact Tracks.comma
  | name => exact Tracks.name
  | qualifiedName => exact Tracks.qualifiedName
  | numeral => exact Tracks.numeral
  | literal => exact Tracks.literal
  | kindTest => exact Tracks.kindTest
  | nameTest => exact Tracks.nameTest
  | nodeTest => exact Tracks.nodeTest
  | axis => exact Tracks.axis
  | stepStart => exact Tracks.stepStart
  | separator => exact Tracks.separator
  | operator op => exact Tracks.operator op.level
  | expression => exact Tracks.expression hsingle
  | predicate => exact (Tracks.predicate hsingle).of_succ
  | step => exact (Tracks.step hsingle).of_succ
  | locationPath => exact (Tracks.locationPath hsingle).of_succ
  | reference => exact Tracks.reference
  | call => exact (Tracks.call hsingle).of_succ
  | parenthesized => exact (Tracks.parenthesized hsingle).of_succ
  | conditional => exact (Tracks.conditional hsingle).of_succ
  | clause => exact (Tracks.clause hsingle).of_succ
  | quantified => exact (Tracks.quantified hsingle).of_succ
  | level l => exact Tracks.level h k l

end

/-! ## whole texts -/

theorem leftover_of_parse {source source' rest : String}
    (h : Expr.parse source = .error (.leftover source' rest)) :
    source' = source ∧ rest ≠ "" ∧
      ∃ e, read? (trimChars source.toList) = some (e, rest.toList) := by
  unfold Expr.parse at h
  dsimp only at h
  split at h
  · cases h
  · next e left hne hread =>
    cases h
    refine ⟨rfl, fun hempty => hne ?_, e, ?_⟩
    · have hlist := congrArg String.toList hempty
      rwa [String.toList_ofList] at hlist
    · rw [hread, String.toList_ofList]
  · cases h

/-- **Reading ends, and leaves what it has not read.**  The rules ask for whole expressions behind at
least one character only.  So, as an equation for the scan of these, they have one solution, and with
it a text is read, although the grammar bounds how deep expressions are nested.  With it as with every
bound a rule leaves a proper suffix of what it is applied to, and so does what is repeated; what may
be missing leaves a suffix.  The rest that an error shows is a proper suffix too, and not empty. -/
theorem parse_progress :
    (∀ k (s s' : Scan Expr), Tracks k 1 s s' → Tracks (k + 1) 1 (singleBody s) (singleBody s')) ∧
    (∀ s : Scan Expr, s = singleBody s ↔ s = nested) ∧
    (∀ cs, read? cs = expression nested cs) ∧
    (∀ s : Scan Expr, (s = nested ∨ ∃ depth, s = single depth) → ∀ {α : Type} (p : Scan α),
      (IsRule s p ∨ IsRepeated s p → p.Consumes) ∧ (IsLoose s p → p.Leaves)) ∧
    ∀ source source' rest, Expr.parse source = .error (.leftover source' rest) →
      source' = source ∧ rest ≠ "" ∧
        rest.toList <:+ trimChars source.toList ∧ rest.toList ≠ trimChars source.toList := by
  refine ⟨fun k s s' => Tracks.singleBody, fun s => eq_singleBody_iff, read?_eq, ?_, ?_⟩
  · intro s hs α p
    have hconsumes : s.Consumes := by
      rcases hs with rfl | ⟨depth, rfl⟩
      · exact consumes_nested
      · exact consumes_single depth
    refine ⟨?_, fun hp => leaves_iff_tracks.mpr (hp.tracks hconsumes)⟩
    rintro (hp | hp)
    · exact consumes_iff_tracks.mpr (hp.tracks hconsumes)
    · exact consumes_iff_tracks.mpr (hp.tracks hconsumes)
  · intro source source' rest h
    obtain ⟨hsource, hne, e, hread⟩ := leftover_of_parse h
    rw [read?_eq] at hread
    have hexpression : (expression nested).Consumes :=
      consumes_iff_tracks.mpr (IsRule.expression.tracks consumes_nested)
    exact ⟨hsource, hne, hexpression _ e _ hread⟩

end Grammar

end Rulebook
