import Rulebook.Eval.Builtin
import Rulebook.Regex.Cache

/-!
# Patterns from a cache

Patterns that are asked for one after the other, all from one cache that is empty at first.  What
a pattern is built into, and whether it can be, is up to the builder: the cache relies only on a
builder that answers alike whenever it is asked for the same text under the same flags.

* `outcome`         what a pattern with its flags is compiled to without a cache;
* `compiled`        the patterns of a history that can be compiled, each once;
* `kept`            the first of them, as many as a cache has room for;
* `Cache.Recalls`   a cache holds just those of its history that are kept;
* `Cache.serve`     the outcomes of patterns one after the other, and the cache afterwards.

`serve_empty`: **each outcome is the one without a cache**, a pattern that cannot be compiled or
has a flag that there is not changes nothing, and the cache holds the first 64 patterns.  With the
builder of `compile`, calls answer as `Builtin.matchesPattern` does.
-/

set_option autoImplicit false

namespace Rulebook

namespace Regex

/-! ## flags -/

namespace Flags

/-- the flags that there are -/
def letters : List Char := ['i', 's', 'm', 'x']

theorem exists_add_of_mem {flag : Char} (f : Flags) (h : flag ∈ letters) :
    ∃ f', f.add flag = .ok f' := by
  simp only [letters, List.mem_cons, List.not_mem_nil, or_false] at h
  rcases h with rfl | rfl | rfl | rfl <;> exact ⟨_, rfl⟩

theorem add_of_not_mem {flag : Char} (f : Flags) (h : flag ∉ letters) :
    f.add flag = .error (.unsupportedFlag flag) := by
  simp only [letters, List.mem_cons, List.not_mem_nil, or_false, not_or] at h
  obtain ⟨hi, hs, hm, hx⟩ := h
  rw [add.eq_def]
  split <;> first | contradiction | rfl

theorem foldlM_add_of_find? {flag : Char} {cs : List Char} (f : Flags)
    (h : cs.find? (· ∉ letters) = some flag) :
    cs.foldlM add f = .error (.unsupportedFlag flag) := by
  induction cs generalizing f with
  | nil => cases h
  | cons c cs ih =>
    rw [List.foldlM_cons]
    by_cases hc : c ∈ letters
    · obtain ⟨f', hf'⟩ := exists_add_of_mem f hc
      rw [List.find?_cons_of_neg (by simpa using hc)] at h
      rw [hf']
      exact ih f' h
    · rw [List.find?_cons_of_pos (by simpa using hc)] at h
      obtain rfl := Option.some.inj h
      rw [add_of_not_mem f hc]
      rfl

end Flags

/-! ## patterns without a cache -/

/-- the text of a pattern with its flags -/
abbrev Key := String × String

section
variable {α : Type}

/-- what a pattern is compiled to without a cache -/
def outcome (build : Builder α) (k : Key) : Except PatternError α := compileWith build k.1 k.2

/-- a pattern as a cache holds it, if it can be compiled -/
def held? (build : Builder α) (k : Key) : Option (Key × α) :=
  (outcome build k).toOption.map fun p => (k, p)

/-- the patterns of a history that can be compiled, each once, as they came -/
def compiled (build : Builder α) (history : List Key) : List (Key × α) :=
  history.eraseDups.filterMap (held? build)

/-- the patterns of a history that a cache has room for -/
def kept (build : Builder α) (history : List Key) : List (Key × α) :=
  (compiled build history).take Cache.capacity

variable {build : Builder α} {history : List Key} {k : Key} {p : α}

/-- the first flag that there is not is the error, whatever the pattern -/
theorem outcome_of_unsupported {flag : Char}
    (h : k.2.toList.find? (· ∉ Flags.letters) = some flag) :
    outcome build k = .error (.unsupportedFlag flag) := by
  have hflags : Flags.ofText k.2 = .error (.unsupportedFlag flag) :=
    Flags.foldlM_add_of_find? .standard h
  unfold outcome compileWith
  rw [hflags]
  rfl

theorem held?_of_ok (h : outcome build k = .ok p) : held? build k = some (k, p) := by
  rw [held?, h]
  rfl

theorem held?_of_error {e : PatternError} (h : outcome build k = .error e) : held? build k = none := by
  rw [held?, h]
  rfl

theorem mem_compiled {e : Key × α} :
    e ∈ compiled build history ↔ e.1 ∈ history ∧ outcome build e.1 = .ok e.2 := by
  rw [compiled, List.mem_filterMap]
  constructor
  · rintro ⟨k, hk, hheld⟩
    cases hout : outcome build k with
    | error => rw [held?_of_error hout] at hheld; cases hheld
    | ok p =>
      rw [held?_of_ok hout] at hheld
      obtain rfl := Option.some.inj hheld
      exact ⟨List.mem_eraseDups.mp hk, hout⟩
  · rintro ⟨hmem, hout⟩
    exact ⟨e.1, List.mem_eraseDups.mpr hmem, held?_of_ok hout⟩

/-- asking again changes nothing -/
theorem compiled_concat_of_mem (h : k ∈ history) :
    compiled build (history ++ [k]) = compiled build history := by
  have hnone : [k].removeAll history = [] := by simpa [List.removeAll] using h
  rw [compiled, List.eraseDups_append, hnone, List.eraseDups_nil, List.append_nil, compiled]

theorem compiled_concat_of_not_mem (h : k ∉ history) :
    compiled build (history ++ [k]) = compiled build history ++ (held? build k).toList := by
  have hnew : [k].removeAll history = [k] := by simpa [List.removeAll] using h
  rw [compiled, List.eraseDups_append, hnew, List.filterMap_append, compiled]
  cases hheld : held? build k <;> simp [List.eraseDups_cons, hheld]

theorem compiled_concat_of_error {e : PatternError} (h : outcome build k = .error e) :
    compiled build (history ++ [k]) = compiled build history := by
  by_cases hmem : k ∈ history
  · exact compiled_concat_of_mem hmem
  · rw [compiled_concat_of_not_mem hmem, held?_of_error h]
    exact List.append_nil _

/-- where there is room left nothing was refused -/
theorem kept_eq_compiled (h : (kept build history).length < Cache.capacity) :
    kept build history = compiled build history := by
  rw [kept, List.length_take] at h
  exact List.take_of_length_le (by omega)

/-- a new pattern is kept where there is room for it -/
theorem kept_concat_of_lt (hmem : k ∉ history) (hout : outcome build k = .ok p)
    (h : (kept build history).length < Cache.capacity) :
    kept build (history ++ [k]) = kept build history ++ [(k, p)] := by
  rw [kept, compiled_concat_of_not_mem hmem, held?_of_ok hout, ← kept_eq_compiled h]
  refine List.take_of_length_le ?_
  rw [List.length_append, Option.toList_some, List.length_singleton]
  omega

/-- what a full cache holds stays -/
theorem kept_concat_of_le (h : Cache.capacity ≤ (kept build history).length) :
    kept build (history ++ [k]) = kept build history := by
  by_cases hmem : k ∈ history
  · rw [kept, compiled_concat_of_mem hmem, kept]
  · have hfull : Cache.capacity ≤ (compiled build history).length := by
      rw [kept, List.length_take] at h
      omega
    rw [kept, compiled_concat_of_not_mem hmem, List.take_append_of_le_length hfull, kept]

end

/-! ## one pattern -/

namespace Cache

section
variable {α : Type}

/-- a cache holds what is kept of a history, the last first -/
def Recalls (build : Builder α) (c : Cache α) (history : List Key) : Prop :=
  c.entries = (kept build history).reverse

variable {build : Builder α} {c : Cache α} {history : List Key} {k : Key} {p : α}

theorem mem_entries_of_get? (h : c.get? k.1 k.2 = some p) : (k, p) ∈ c.entries := by
  obtain ⟨before, after, hentries, -⟩ := List.lookup_eq_some_iff.mp h
  rw [hentries]
  exact List.mem_append_right _ List.mem_cons_self

theorem ne_of_get?_eq_none (h : c.get? k.1 k.2 = none) {e : Key × α} (he : e ∈ c.entries) :
    e.1 ≠ k := by
  rintro rfl
  exact bne_iff_ne.mp (List.lookup_eq_none_iff.mp h e he) rfl

theorem compile_of_some (h : c.get? k.1 k.2 = some p) : c.compile build k.1 k.2 = (.ok p, c) := by
  rw [compile, h]

theorem compile_of_ok (h : c.get? k.1 k.2 = none) (hout : outcome build k = .ok p) :
    c.compile build k.1 k.2 = (.ok p, c.insert k.1 k.2 p) := by
  rw [outcome] at hout
  rw [compile, h]
  dsimp only
  rw [hout]

theorem compile_of_error {e : PatternError} (h : c.get? k.1 k.2 = none)
    (hout : outcome build k = .error e) : c.compile build k.1 k.2 = (.error e, c) := by
  rw [outcome] at hout
  rw [compile, h]
  dsimp only
  rw [hout]

theorem recalls_empty : (empty : Cache α).Recalls build [] := rfl

theorem Recalls.mem_compiled (h : c.Recalls build history) {e : Key × α} (he : e ∈ c.entries) :
    e ∈ compiled build history := by
  rw [h, List.mem_reverse] at he
  exact List.mem_of_mem_take he

/-- a pattern is held under its own text and flags -/
theorem Recalls.outcome_eq (h : c.Recalls build history) {e : Key × α} (he : e ∈ c.entries) :
    outcome build e.1 = .ok e.2 :=
  (Regex.mem_compiled.mp (h.mem_compiled he)).2

theorem Recalls.size_eq (h : c.Recalls build history) : c.size = (kept build history).length := by
  rw [size, h, List.length_reverse]

theorem Recalls.size_le (h : c.Recalls build history) : c.size ≤ capacity := by
  rw [h.size_eq, kept]
  exact List.length_take_le _ _

/-- a pattern that was asked for before and is not held found the cache full -/
theorem Recalls.capacity_le (h : c.Recalls build history) (hmem : k ∈ history)
    (hout : outcome build k = .ok p) (hnone : c.get? k.1 k.2 = none) : capacity ≤ c.size := by
  refine Nat.le_of_not_lt fun hroom => ?_
  rw [h.size_eq] at hroom
  have hheld : (k, p) ∈ c.entries := by
    rw [h, List.mem_reverse, kept_eq_compiled hroom]
    exact Regex.mem_compiled.mpr ⟨hmem, hout⟩
  exact ne_of_get?_eq_none hnone hheld rfl

theorem Recalls.insert (h : c.Recalls build history) (hout : outcome build k = .ok p)
    (hnone : c.get? k.1 k.2 = none) : (c.insert k.1 k.2 p).Recalls build (history ++ [k]) := by
  unfold Cache.insert
  by_cases hroom : c.size < capacity
  · have hmem : k ∉ history := fun hmem =>
      absurd hroom (Nat.not_lt_of_le (h.capacity_le hmem hout hnone))
    rw [if_pos hroom, Recalls, kept_concat_of_lt hmem hout (h.size_eq ▸ hroom),
      List.reverse_concat, ← h]
  · rw [if_neg hroom, Recalls, kept_concat_of_le (h.size_eq ▸ Nat.le_of_not_lt hroom)]
    exact h

/-- **One step.**  The outcome is the one without a cache, and the cache recalls one more. -/
theorem Recalls.compile (h : c.Recalls build history) (k : Key) :
    (c.compile build k.1 k.2).1 = outcome build k ∧
      (c.compile build k.1 k.2).2.Recalls build (history ++ [k]) := by
  cases hget : c.get? k.1 k.2 with
  | some p =>
    have hmem := Regex.mem_compiled.mp (h.mem_compiled (mem_entries_of_get? hget))
    rw [compile_of_some hget]
    refine ⟨hmem.2.symm, ?_⟩
    rw [Recalls, kept, compiled_concat_of_mem hmem.1]
    exact h
  | none =>
    cases hout : outcome build k with
    | ok p =>
      rw [compile_of_ok hget hout]
      exact ⟨rfl, h.insert hout hget⟩
    | error e =>
      rw [compile_of_error hget hout]
      refine ⟨rfl, ?_⟩
      rw [Recalls, kept, compiled_concat_of_error hout]
      exact h

/-- what cannot be compiled leaves the cache as it is -/
theorem Recalls.compile_of_error {e : PatternError} (h : c.Recalls build history)
    (hout : outcome build k = .error e) : c.compile build k.1 k.2 = (.error e, c) := by
  refine Cache.compile_of_error ?_ hout
  refine Option.eq_none_iff_forall_ne_some.mpr fun p hget => ?_
  have hok := h.outcome_eq (mem_entries_of_get? hget)
  rw [hout] at hok
  cases hok

/-! ## patterns one after the other -/

/-- the outcomes of patterns one after the other, and the cache afterwards -/
def serve (build : Builder α) (c : Cache α) : List Key → List (Except PatternError α) × Cache α
  | [] => ([], c)
  | k :: ks =>
    let first := c.compile build k.1 k.2
    let rest := first.2.serve build ks
    (first.1 :: rest.1, rest.2)

/-- **All steps.**  Every outcome is the one without a cache, and the cache recalls them all. -/
theorem Recalls.serve (h : c.Recalls build history) (keys : List Key) :
    (c.serve build keys).1 = keys.map (outcome build) ∧
      (c.serve build keys).2.Recalls build (history ++ keys) := by
  induction keys generalizing c history with
  | nil => exact ⟨rfl, (List.append_nil history).symm ▸ h⟩
  | cons k ks ih =>
    obtain ⟨hfirst, hrecalls⟩ := h.compile k
    obtain ⟨hrest, hall⟩ := ih hrecalls
    rw [List.append_assoc] at hall
    refine ⟨?_, hall⟩
    rw [List.map_cons, ← hfirst, ← hrest]
    rfl

end

end Cache

end Regex

/-! ## calls -/

namespace Builtin

/-- the outcome of a pattern as that of a call that asks whether a part of a text matches it -/
def answer (s : String) : Except Regex.PatternError Regex.Machine → Except EvalError Bool
  | .ok p => .ok (p.matchesIn s)
  | .error (.unsupportedFlag flag) => .error (.unsupportedFlag flag)
  | .error (.badSyntax e) => .error (.badPattern e.message)
  | .error .tooLarge => .error (.badPattern "pattern is too large")

theorem matchesPattern_eq (s : String) (k : Regex.Key) :
    matchesPattern s k.1 k.2 = answer s (Regex.outcome Regex.build k) := by
  unfold matchesPattern Regex.outcome Regex.compile
  cases Regex.compileWith Regex.build k.1 k.2 with
  | ok p => rfl
  | error e => cases e <;> rfl

end Builtin

namespace Regex.Cache

/-- whether some part of a text matches a pattern that is taken from a cache -/
def matchesPattern (c : Cache Machine) (s : String) (k : Key) :
    Except EvalError Bool × Cache Machine :=
  let first := c.compile Regex.build k.1 k.2
  (Builtin.answer s first.1, first.2)

theorem Recalls.matchesPattern_eq {c : Cache Machine} {history : List Key}
    (h : c.Recalls Regex.build history) (s : String) (k : Key) :
    (c.matchesPattern s k).1 = Builtin.matchesPattern s k.1 k.2 := by
  rw [Builtin.matchesPattern_eq, ← (h.compile k).1]
  rfl

/-- **The cache does not show.**  Whichever patterns are asked for, and whatever they are built
with, each outcome is the one without a cache.  What is held under a text and flags was compiled
from them; what cannot be compiled, or has a flag that there is not, leaves the cache as it is.  It
never holds more than 64 patterns, and these are the first that were compiled.  Where machines are
built the answer of each call that comes next is the one without a cache as well. -/
theorem serve_empty {α : Type} (build : Builder α) (keys : List Key) :
    let cache := ((empty : Cache α).serve build keys).2
    (empty.serve build keys).1 = keys.map (fun k => compileWith build k.1 k.2) ∧
    (∀ e ∈ cache.entries, compileWith build e.1.1 e.1.2 = .ok e.2) ∧
    (∀ (k : Key) e, compileWith build k.1 k.2 = .error e →
      cache.compile build k.1 k.2 = (.error e, cache)) ∧
    (∀ (k : Key) flag, k.2.toList.find? (· ∉ Flags.letters) = some flag →
      cache.compile build k.1 k.2 = (.error (.unsupportedFlag flag), cache)) ∧
    cache.size ≤ 64 ∧ cache.entries = (kept build keys).reverse ∧
    ∀ (s : String) (k : Key),
      ((empty.serve Regex.build keys).2.matchesPattern s k).1 = Builtin.matchesPattern s k.1 k.2 := by
  have hrecalls : ∀ {β : Type} (b : Builder β), (empty.serve b keys).2.Recalls b keys :=
    fun b => (recalls_empty.serve keys).2
  have h := hrecalls build
  exact ⟨(recalls_empty.serve keys).1, fun e => h.outcome_eq, fun k e => h.compile_of_error,
    fun k flag hflag => h.compile_of_error (outcome_of_unsupported hflag), h.size_le, h,
    fun s k => (hrecalls Regex.build).matchesPattern_eq s k⟩

end Regex.Cache

end Rulebook
