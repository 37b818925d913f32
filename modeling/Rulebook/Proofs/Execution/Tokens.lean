import Rulebook.Schema.Cancellation

/-!
# Families of tokens

Tokens are made anew or from one another, and a clock that never goes back is read at each call.

* `TokenFamily.call`      the tokens and flags after a call;
* `TokenFamily.Becomes`   a family at some time and what calls make of it until a later time;
* `TokenFamily.Kin`       tokens that come from the same new token;
* `Derivation.Keeps`      the token that is made has a deadline that comes no later.

`isCancelled_of_reached`: **a token made from another is cancelled whenever that one is if its flag
is raised or its deadline is kept, and otherwise there is a time at which it is not**; cancelling a
token cancels its kin, and nothing is ever taken back.
-/

set_option autoImplicit false

namespace Rulebook

/-! ## making tokens -/

/-- how a token is made from another one -/
inductive Derivation where
  | clone
  | withDeadline (deadline : Nat)
  | withTimeout (timeout : Nat)

def Derivation.token (t : CancellationToken) (now : Nat) : Derivation → CancellationToken
  | clone => t
  | withDeadline deadline => t.withDeadline deadline
  | withTimeout timeout => t.withTimeout now timeout

/-- calls about tokens by their numbers, in the order in which they are made -/
inductive TokenCall where
  | new
  | derived (i : Nat) (d : Derivation)
  | cancel (i : Nat)

structure MadeToken where
  token : CancellationToken
  /-- the number of the token that it was made from; a new token was made from none -/
  source : Option Nat

structure TokenFamily where
  flags : CancellationFlags
  made : List MadeToken

namespace TokenFamily

def empty : TokenFamily := ⟨.empty, []⟩

/-- the family after a call; one about a token that there is not changes nothing -/
def call (f : TokenFamily) (now : Nat) : TokenCall → TokenFamily
  | .new => ⟨f.flags.newToken.1, f.made ++ [⟨f.flags.newToken.2, none⟩]⟩
  | .derived i d =>
    match f.made[i]? with
    | some t => { f with made := f.made ++ [⟨d.token t.token now, some i⟩] }
    | none => f
  | .cancel i =>
    match f.made[i]? with
    | some t => { f with flags := f.flags.cancel t.token }
    | none => f

/-- whether there is a token with a number and it is cancelled -/
def isCancelled (f : TokenFamily) (i now : Nat) : Bool :=
  f.made[i]?.any fun t => f.flags.isCancelled t.token now

/-- what calls make of a family while the time passes -/
inductive Becomes (f : TokenFamily) (now : Nat) : TokenFamily → Nat → Prop
  | here : Becomes f now f now
  | wait {f' m m'} (h : Becomes f now f' m) (later : m ≤ m') : Becomes f now f' m'
  | call {f' m} (h : Becomes f now f' m) (c : TokenCall) : Becomes f now (f'.call m c) m

/-- a family that calls make of none -/
def Reached (f : TokenFamily) (now : Nat) : Prop := empty.Becomes 0 f now

/-- the new token that a token comes from -/
inductive Origin (f : TokenFamily) : Nat → Nat → Prop
  | new {i t} (token : f.made[i]? = some t) (source : t.source = none) : Origin f i i
  | derived {i j o t} (token : f.made[i]? = some t) (source : t.source = some j)
    (h : Origin f j o) : Origin f i o

/-- tokens that come from the same new token -/
def Kin (f : TokenFamily) (i j : Nat) : Prop := ∃ o, f.Origin i o ∧ f.Origin j o

end TokenFamily

/-- the token that is made has a deadline if its source has one, and it comes no later, or has
passed already -/
def Derivation.Keeps (d : Derivation) (t : CancellationToken) (now : Nat) : Prop :=
  ∀ deadline, t.deadline = some deadline →
    ∃ deadline', (d.token t now).deadline = some deadline' ∧ deadline' ≤ max deadline now

theorem Derivation.keeps_clone (t : CancellationToken) (now : Nat) : clone.Keeps t now :=
  fun deadline h => ⟨deadline, h, Nat.le_max_left _ _⟩

/-- a token is made without a flag of its own -/
theorem Derivation.flag_token (d : Derivation) (t : CancellationToken) (now : Nat) :
    (d.token t now).flag = t.flag := by
  cases d <;> rfl

namespace TokenFamily

variable {f f' : TokenFamily} {now m i j : Nat}

theorem call_derived_of_some {t : MadeToken} (h : f.made[i]? = some t) (now : Nat)
    (d : Derivation) :
    f.call now (.derived i d) = { f with made := f.made ++ [⟨d.token t.token now, some i⟩] } := by
  simp only [call, h]

theorem call_derived_of_none (h : f.made[i]? = none) (now : Nat) (d : Derivation) :
    f.call now (.derived i d) = f := by
  simp only [call, h]

theorem call_cancel_of_some {t : MadeToken} (h : f.made[i]? = some t) (now : Nat) :
    f.call now (.cancel i) = { f with flags := f.flags.cancel t.token } := by
  simp only [call, h]

theorem call_cancel_of_none (h : f.made[i]? = none) (now : Nat) : f.call now (.cancel i) = f := by
  simp only [call, h]

theorem isCancelled_iff : f.isCancelled i now = true ↔
    ∃ t, f.made[i]? = some t ∧ f.flags.isCancelled t.token now = true := by
  unfold isCancelled
  rw [Option.any_eq_true]

theorem isCancelled_eq {t : MadeToken} (h : f.made[i]? = some t) (now : Nat) :
    f.isCancelled i now = f.flags.isCancelled t.token now := by
  unfold isCancelled
  rw [h, Option.any_some]

theorem isCancelled_of_none (h : f.made[i]? = none) (now : Nat) : f.isCancelled i now = false := by
  unfold isCancelled
  rw [h, Option.any_none]

/-! ## families that calls make -/

/-- flags stay raised, and tokens stay what they are -/
structure Extends (f f' : TokenFamily) : Prop where
  made : f.made <+: f'.made
  raised : ∀ k, f.flags.isRaised k = true → f'.flags.isRaised k = true

theorem Extends.refl (f : TokenFamily) : f.Extends f :=
  ⟨List.prefix_refl _, fun _ hk => hk⟩

theorem Extends.trans {f'' : TokenFamily} (h : f.Extends f') (h' : f'.Extends f'') :
    f.Extends f'' :=
  ⟨h.made.trans h'.made, fun k hk => h'.raised k (h.raised k hk)⟩

theorem Extends.getElem?_made (h : f.Extends f') {t : MadeToken} (ht : f.made[i]? = some t) :
    f'.made[i]? = some t := by
  obtain ⟨more, hmore⟩ := h.made
  rw [← hmore, List.getElem?_append_left (List.getElem?_eq_some_iff.mp ht).1]
  exact ht

/-- flags belong to tokens, are shared with the source of a token, and not with another new one -/
structure WellFormed (f : TokenFamily) : Prop where
  flag_lt : ∀ {i : Nat} {t : MadeToken}, f.made[i]? = some t →
    t.token.flag < f.flags.raised.length
  source : ∀ {i j : Nat} {t : MadeToken}, f.made[i]? = some t → t.source = some j →
    j < i ∧ ∃ s : MadeToken, f.made[j]? = some s ∧ s.token.flag = t.token.flag
  new_eq : ∀ {i j : Nat} {t s : MadeToken}, f.made[i]? = some t → f.made[j]? = some s →
    t.source = none → s.source = none → t.token.flag = s.token.flag → i = j

theorem wellFormed_empty : WellFormed empty := ⟨nofun, nofun, nofun⟩

theorem getElem?_concat_cases {α : Type} {l : List α} {a b : α} {i : Nat}
    (h : (l ++ [a])[i]? = some b) : l[i]? = some b ∨ i = l.length ∧ b = a := by
  rcases Nat.lt_or_ge i l.length with hlt | hge
  · rw [List.getElem?_append_left hlt] at h
    exact .inl h
  · obtain ⟨hlt, -⟩ := List.getElem?_eq_some_iff.mp h
    rw [List.length_append, List.length_singleton] at hlt
    obtain rfl : i = l.length := by omega
    rw [List.getElem?_concat_length] at h
    exact .inr ⟨rfl, (Option.some.inj h).symm⟩

theorem getElem?_concat_of_some {α : Type} {l : List α} {a b : α} {i : Nat}
    (h : l[i]? = some b) : (l ++ [a])[i]? = some b := by
  rw [List.getElem?_append_left (List.getElem?_eq_some_iff.mp h).1]
  exact h

theorem WellFormed.new (h : f.WellFormed) (now : Nat) : (f.call now .new).WellFormed where
  flag_lt ht := by
    show _ < (f.flags.raised ++ [false]).length
    rw [List.length_append, List.length_singleton]
    rcases getElem?_concat_cases ht with ht | ⟨-, rfl⟩
    · exact Nat.lt_succ_of_lt (h.flag_lt ht)
    · exact Nat.lt_succ_self _
  source ht hsource := by
    rcases getElem?_concat_cases ht with ht | ⟨-, rfl⟩
    · obtain ⟨hlt, s, hs, hflag⟩ := h.source ht hsource
      exact ⟨hlt, s, getElem?_concat_of_some hs, hflag⟩
    · cases hsource
  new_eq ht hs htnew hsnew hflag := by
    -- the flag of the token that is made is none of those that there were
    rcases getElem?_concat_cases ht with ht | ⟨rfl, rfl⟩ <;>
      rcases getElem?_concat_cases hs with hs | ⟨rfl, rfl⟩
    · exact h.new_eq ht hs htnew hsnew hflag
    · exact absurd hflag (Nat.ne_of_lt (h.flag_lt ht))
    · exact absurd hflag.symm (Nat.ne_of_lt (h.flag_lt hs))
    · rfl

theorem WellFormed.derived (h : f.WellFormed) {t : MadeToken} (hi : f.made[i]? = some t)
    (now : Nat) (d : Derivation) : (f.call now (.derived i d)).WellFormed := by
  rw [call_derived_of_some hi]
  refine ⟨fun ht' => ?_, fun ht' hsource => ?_, fun ht' hs htnew hsnew hflag => ?_⟩
  · rcases getElem?_concat_cases ht' with ht' | ⟨-, rfl⟩
    · exact h.flag_lt ht'
    · exact (d.flag_token t.token now).symm ▸ h.flag_lt hi
  · rcases getElem?_concat_cases ht' with ht' | ⟨rfl, rfl⟩
    · obtain ⟨hlt, s, hs, hflag⟩ := h.source ht' hsource
      exact ⟨hlt, s, getElem?_concat_of_some hs, hflag⟩
    · cases hsource
      exact ⟨(List.getElem?_eq_some_iff.mp hi).1, t, getElem?_concat_of_some hi,
        (d.flag_token t.token now).symm⟩
  · rcases getElem?_concat_cases ht' with ht' | ⟨-, rfl⟩
    · rcases getElem?_concat_cases hs with hs | ⟨-, rfl⟩
      · exact h.new_eq ht' hs htnew hsnew hflag
      · cases hsnew
    · cases htnew

theorem WellFormed.cancel (h : f.WellFormed) {t : MadeToken} (hi : f.made[i]? = some t)
    (now : Nat) : (f.call now (.cancel i)).WellFormed := by
  rw [call_cancel_of_some hi]
  refine ⟨fun ht' => ?_, h.source, h.new_eq⟩
  show _ < (f.flags.raised.set _ _).length
  rw [List.length_set]
  exact h.flag_lt ht'

theorem WellFormed.call (h : f.WellFormed) (now : Nat) (c : TokenCall) :
    (f.call now c).WellFormed := by
  cases c with
  | new => exact h.new now
  | derived i d =>
    cases hi : f.made[i]? with
    | none => rw [call_derived_of_none hi]; exact h
    | some t => exact h.derived hi now d
  | cancel i =>
    cases hi : f.made[i]? with
    | none => rw [call_cancel_of_none hi]; exact h
    | some t => exact h.cancel hi now

theorem WellFormed.extends_call (h : f.WellFormed) (now : Nat) (c : TokenCall) :
    f.Extends (f.call now c) := by
  cases c with
  | new => exact ⟨List.prefix_append .., fun k hk => (f.flags.isRaised_newToken k).trans hk⟩
  | derived i d =>
    cases hi : f.made[i]? with
    | none => rw [call_derived_of_none hi]; exact .refl f
    | some t => rw [call_derived_of_some hi]; exact ⟨List.prefix_append .., fun _ hk => hk⟩
  | cancel i =>
    cases hi : f.made[i]? with
    | none => rw [call_cancel_of_none hi]; exact .refl f
    | some t =>
      rw [call_cancel_of_some hi]
      exact ⟨List.prefix_refl _, fun k hk =>
        (CancellationFlags.isRaised_cancel (h.flag_lt hi) k).mpr (.inl hk)⟩

/-- what calls make of a family of tokens -/
theorem WellFormed.becomes (h : f.WellFormed) (hbecomes : f.Becomes now f' m) :
    f'.WellFormed ∧ f.Extends f' ∧ now ≤ m := by
  induction hbecomes with
  | here => exact ⟨h, .refl f, Nat.le_refl _⟩
  | wait _ later ih => exact ⟨ih.1, ih.2.1, Nat.le_trans ih.2.2 later⟩
  | call _ c ih =>
    obtain ⟨hwell, hextends, hle⟩ := ih
    exact ⟨hwell.call _ c, hextends.trans (hwell.extends_call _ c), hle⟩

theorem Reached.wellFormed (h : f.Reached now) : f.WellFormed :=
  (wellFormed_empty.becomes h).1

/-- **A token once cancelled stays cancelled.** -/
theorem WellFormed.isCancelled_of_becomes (h : f.WellFormed) (hbecomes : f.Becomes now f' m)
    (hi : f.isCancelled i now = true) : f'.isCancelled i m = true := by
  obtain ⟨-, hextends, hle⟩ := h.becomes hbecomes
  obtain ⟨t, ht, hcancelled⟩ := isCancelled_iff.mp hi
  rw [isCancelled_eq (hextends.getElem?_made ht), CancellationFlags.isCancelled_iff]
  rcases CancellationFlags.isCancelled_iff.mp hcancelled with hraised | ⟨deadline, hd, hpassed⟩
  · exact .inl (hextends.raised _ hraised)
  · exact .inr ⟨deadline, hd, Nat.le_trans hpassed hle⟩

/-! ## kin -/

/-- a token has the flag of the new token that it comes from -/
theorem WellFormed.flag_origin (h : f.WellFormed) {o : Nat} (ho : f.Origin i o) {t : MadeToken}
    (ht : f.made[i]? = some t) :
    ∃ s, f.made[o]? = some s ∧ s.source = none ∧ s.token.flag = t.token.flag := by
  induction ho generalizing t with
  | new token source =>
    obtain rfl := Option.some.inj (ht.symm.trans token)
    exact ⟨_, ht, source, rfl⟩
  | derived token source _ ih =>
    obtain rfl := Option.some.inj (ht.symm.trans token)
    obtain ⟨-, s, hs, hflag⟩ := h.source ht source
    obtain ⟨s', hs', hnew, hflag'⟩ := ih hs
    exact ⟨s', hs', hnew, hflag'.trans hflag⟩

/-- every token comes from a new one -/
theorem WellFormed.exists_origin (h : f.WellFormed) {t : MadeToken} (ht : f.made[i]? = some t) :
    ∃ o, f.Origin i o := by
  -- the source of a token has a smaller number
  induction i using Nat.strongRecOn generalizing t with
  | ind i ih =>
    cases hsource : t.source with
    | none => exact ⟨i, .new ht hsource⟩
    | some j =>
      obtain ⟨hlt, s, hs, -⟩ := h.source ht hsource
      obtain ⟨o, ho⟩ := ih j hlt hs
      exact ⟨o, .derived ht hsource ho⟩

theorem Origin.exists_made {o : Nat} (h : f.Origin i o) : ∃ t, f.made[i]? = some t := by
  cases h with
  | new token => exact ⟨_, token⟩
  | derived token => exact ⟨_, token⟩

/-- tokens come from the same new token if and only if they have the same flag -/
theorem WellFormed.kin_iff (h : f.WellFormed) {t s : MadeToken} (ht : f.made[i]? = some t)
    (hs : f.made[j]? = some s) : f.Kin i j ↔ t.token.flag = s.token.flag := by
  constructor
  · rintro ⟨o, hi, hj⟩
    obtain ⟨n, hn, -, hti⟩ := h.flag_origin hi ht
    obtain ⟨n', hn', -, hsj⟩ := h.flag_origin hj hs
    obtain rfl := Option.some.inj (hn.symm.trans hn')
    exact hti.symm.trans hsj
  · intro hflag
    obtain ⟨o, hi⟩ := h.exists_origin ht
    obtain ⟨o', hj⟩ := h.exists_origin hs
    obtain ⟨n, hn, hnew, hti⟩ := h.flag_origin hi ht
    obtain ⟨n', hn', hnew', hsj⟩ := h.flag_origin hj hs
    obtain rfl := h.new_eq hn hn' hnew hnew' (hti.trans (hflag.trans hsj.symm))
    exact ⟨o, hi, hj⟩

/-- **Cancelling a token cancels its kin and no other token.** -/
theorem WellFormed.isCancelled_cancel_iff (h : f.WellFormed) (i j now m : Nat) :
    (f.call now (.cancel i)).isCancelled j m = true ↔ f.isCancelled j m = true ∨ f.Kin i j := by
  cases hi : f.made[i]? with
  | none =>
    have hkin : ¬ f.Kin i j := by
      rintro ⟨o, ho, -⟩
      obtain ⟨t, ht⟩ := ho.exists_made
      rw [hi] at ht
      cases ht
    rw [call_cancel_of_none hi, or_iff_left hkin]
  | some t =>
    rw [call_cancel_of_some hi]
    cases hj : f.made[j]? with
    | none =>
      have hkin : ¬ f.Kin i j := by
        rintro ⟨o, -, ho⟩
        obtain ⟨s, hs⟩ := ho.exists_made
        rw [hj] at hs
        cases hs
      rw [or_iff_left hkin, isCancelled_of_none hj,
        isCancelled_of_none (f := { f with flags := f.flags.cancel t.token }) hj]
    | some s =>
      rw [h.kin_iff hi hj, isCancelled_eq hj,
        isCancelled_eq (f := { f with flags := f.flags.cancel t.token }) hj,
        CancellationFlags.isCancelled_iff, CancellationFlags.isCancelled_iff,
        CancellationFlags.isRaised_cancel (h.flag_lt hi)]
      exact or_right_comm

/-! ## tokens made from one another -/

section
variable {t : MadeToken} {d : Derivation}

/-- a token whose flag is raised, or whose source has no deadline that it does not keep, is
cancelled whenever its source is -/
theorem WellFormed.isCancelled_derived (h : f.WellFormed) (hi : f.made[i]? = some t)
    (hkeeps : f.flags.isRaised t.token.flag = true ∨ d.Keeps t.token now)
    (hbecomes : (f.call now (.derived i d)).Becomes now f' m)
    (hcancelled : f'.isCancelled i m = true) : f'.isCancelled f.made.length m = true := by
  have hcall := call_derived_of_some hi now d
  obtain ⟨-, hextends, hle⟩ := (h.derived hi now d).becomes hbecomes
  rw [hcall] at hextends
  have hsource := hextends.getElem?_made (getElem?_concat_of_some hi)
  have hmade := hextends.getElem?_made List.getElem?_concat_length
  rw [isCancelled_eq hsource, CancellationFlags.isCancelled_iff] at hcancelled
  rw [isCancelled_eq hmade, CancellationFlags.isCancelled_iff, d.flag_token]
  rcases hcancelled with hraised | ⟨deadline, hdeadline, hpassed⟩
  · exact .inl hraised
  · rcases hkeeps with hraised | hkeeps
    · exact .inl (hextends.raised _ hraised)
    · obtain ⟨deadline', hdeadline', hno_later⟩ := hkeeps deadline hdeadline
      exact .inr ⟨deadline', hdeadline', by omega⟩

/-- a token that loses the deadline of its source is not cancelled when that one passes -/
theorem keeps_of_isCancelled (hi : f.made[i]? = some t)
    (hlater : ∀ m, now ≤ m → (f.call now (.derived i d)).isCancelled i m = true →
      (f.call now (.derived i d)).isCancelled f.made.length m = true) :
    f.flags.isRaised t.token.flag = true ∨ d.Keeps t.token now := by
  refine Classical.or_iff_not_imp_left.mpr fun hnot deadline hdeadline => ?_
  rw [call_derived_of_some hi] at hlater
  have hcancelled := hlater (max deadline now) (Nat.le_max_right _ _)
  rw [isCancelled_eq (getElem?_concat_of_some hi), isCancelled_eq List.getElem?_concat_length,
    CancellationFlags.isCancelled_iff, CancellationFlags.isCancelled_iff, d.flag_token]
    at hcancelled
  obtain hraised | ⟨deadline', hdeadline', hle⟩ :=
    hcancelled (.inr ⟨deadline, hdeadline, Nat.le_max_left _ _⟩)
  · exact absurd hraised hnot
  · exact ⟨deadline', hdeadline', hle⟩

end

end TokenFamily

open TokenFamily in
/-- **How tokens are cancelled.**  A token that is made from another is cancelled at every later
time at which that one is, if and only if its flag is raised or it keeps the deadline.  Cancelling
a token cancels those that come from the same new token, and no others.  What is cancelled stays
so. -/
theorem isCancelled_of_reached {f : TokenFamily} {now : Nat} (h : f.Reached now) :
    (∀ i t d, f.made[i]? = some t →
      ((∀ f' m, (f.call now (.derived i d)).Becomes now f' m → f'.isCancelled i m = true →
        f'.isCancelled f.made.length m = true) ↔
      f.flags.isRaised t.token.flag = true ∨ d.Keeps t.token now)) ∧
    (∀ i j m, (f.call now (.cancel i)).isCancelled j m = true ↔
      f.isCancelled j m = true ∨ f.Kin i j) ∧
    ∀ i f' m, f.Becomes now f' m → f.isCancelled i now = true → f'.isCancelled i m = true := by
  have hwell := h.wellFormed
  refine ⟨fun i t d hi => ⟨fun hlater => ?_, fun hkeeps f' m hbecomes => ?_⟩,
    fun i j m => hwell.isCancelled_cancel_iff i j now m,
    fun i f' m => hwell.isCancelled_of_becomes⟩
  · exact keeps_of_isCancelled hi fun m hm => hlater _ m (.wait .here hm)
  · exact hwell.isCancelled_derived hi hkeeps hbecomes

/-- a new token, and one made from it whose deadline has come -/
def expiredFamily : TokenFamily :=
  (TokenFamily.empty.call 0 .new).call 0 (.derived 0 (.withDeadline 0))

theorem reached_expiredFamily : expiredFamily.Reached 0 := .call (.call .here _) _

/-- a copy of the token that has expired keeps its deadline; cancelling it reaches the new one -/
theorem isCancelled_of_reached_expired : expiredFamily.Reached 0 ∧
    (∀ f' m, (expiredFamily.call 0 (.derived 1 .clone)).Becomes 0 f' m →
      f'.isCancelled 1 m = true → f'.isCancelled 2 m = true) ∧
    expiredFamily.isCancelled 0 0 = false ∧
    (expiredFamily.call 0 (.cancel 1)).isCancelled 0 0 = true := by
  obtain ⟨hderived, hcancel, -⟩ := isCancelled_of_reached reached_expiredFamily
  have hkin : expiredFamily.Kin 1 0 :=
    ⟨0, .derived rfl rfl (.new rfl rfl), .new rfl rfl⟩
  exact ⟨reached_expiredFamily,
    (hderived 1 _ .clone rfl).mpr (.inr (Derivation.keeps_clone _ _)),
    by decide, (hcancel 1 0 0).mpr (.inr hkin)⟩

/-- a token that is made with a timeout from one that has expired is not cancelled -/
theorem isCancelled_derived_ne_source : expiredFamily.Reached 0 ∧
    (expiredFamily.call 0 (.derived 1 (.withTimeout 86400))).isCancelled 1 0 = true ∧
    (expiredFamily.call 0 (.derived 1 (.withTimeout 86400))).isCancelled 2 0 = false :=
  ⟨reached_expiredFamily, by decide, by decide⟩

end Rulebook
