import NetNodeGateway.Common.MainArgs
import NetNodeGateway.Common.Correctness.Logger

/-!
# Correctness of the argument loops

**A command line read in pieces.**  A loop body that reads `argv[i + 1]` only as the value of an
option that requires one (`LocalStep`) reads a command line piece by piece: once the loop ends
normally on some arguments, the loop on more arguments after them goes on from the options it
left (`argLoop_append`).

**Invariants.**  A property of the options that every branch keeps holds of the options the
loop ends with (`argLoop_inv`); on arguments of one kind, such as the C strings of `argv`, the
branches may rely on the argument and the value they read being of that kind
(`argLoop_inv_of_forall`).  The proof is an induction on the loop's own recursion.

**Numbers.**  `std::stoi` reads back a number written with leading zeros (`stoi_decimal`), and
`static_cast<uint16_t>` gives a port back (`castUInt16_toNat`).
-/

namespace NetNodeGateway

variable {α : Type}

/-! ### The branches -/

@[simp] theorem ifValue_none (arg name : List Char) (f : List Char → ArgAction α)
    (otherwise : ArgAction α) : ifValue arg name none f otherwise = otherwise := rfl

@[simp] theorem ifValue_self (name v : List Char) (f : List Char → ArgAction α)
    (otherwise : ArgAction α) : ifValue name name (some v) f otherwise = f v := if_pos rfl

theorem ifValue_of_ne {arg name : List Char} (h : arg ≠ name) (next : Option (List Char))
    (f : List Char → ArgAction α) (otherwise : ArgAction α) :
    ifValue arg name next f otherwise = otherwise := by
  cases next
  · rfl
  · exact if_neg h

@[simp] theorem ifFlag_self (name : List Char) (a otherwise : ArgAction α) :
    ifFlag name name a otherwise = a := if_pos rfl

theorem ifFlag_of_ne {arg name : List Char} (h : arg ≠ name) (a otherwise : ArgAction α) :
    ifFlag arg name a otherwise = otherwise := if_neg h

/-- A value branch takes its branch on some value, or goes on to the later branches. -/
theorem ifValue_cases (arg name : List Char) (next : Option (List Char))
    (f : List Char → ArgAction α) (otherwise : ArgAction α) :
    (∃ v, next = some v ∧ ifValue arg name next f otherwise = f v) ∨
      ifValue arg name next f otherwise = otherwise := by
  unfold ifValue
  split
  · split_ifs
    · exact .inl ⟨_, rfl, rfl⟩
    · exact .inr rfl
  · exact .inr rfl

/-- A flag branch takes its branch or goes on to the later branches. -/
theorem ifFlag_cases (arg name : List Char) (a otherwise : ArgAction α) :
    ifFlag arg name a otherwise = a ∨ ifFlag arg name a otherwise = otherwise := by
  unfold ifFlag
  split_ifs
  · exact .inl rfl
  · exact .inr rfl

/-- Every way `r` goes on leaves options with the property `P`. -/
def ArgAction.Keeps (P : α → Prop) (r : ArgAction α) : Prop :=
  ∀ c', r = .next c' ∨ r = .nextValue c' → P c'

section Keeps

variable {P : α → Prop}

@[simp] theorem ArgAction.keeps_next (c : α) : (ArgAction.next c).Keeps P ↔ P c :=
  ⟨fun h => h c (.inl rfl), fun h c' hc' => by
    simp only [ArgAction.next.injEq, reduceCtorEq, or_false] at hc'
    exact hc' ▸ h⟩

@[simp] theorem ArgAction.keeps_nextValue (c : α) : (ArgAction.nextValue c).Keeps P ↔ P c :=
  ⟨fun h => h c (.inr rfl), fun h c' hc' => by
    simp only [ArgAction.nextValue.injEq, reduceCtorEq, false_or] at hc'
    exact hc' ▸ h⟩

@[simp] theorem ArgAction.keeps_help : (ArgAction.help : ArgAction α).Keeps P := by
  simp [ArgAction.Keeps]

@[simp] theorem ArgAction.keeps_unknown : (ArgAction.unknown : ArgAction α).Keeps P := by
  simp [ArgAction.Keeps]

@[simp] theorem ArgAction.keeps_abort : (ArgAction.abort : ArgAction α).Keeps P := by
  simp [ArgAction.Keeps]

@[simp] theorem ArgAction.keeps_elim {β : Type} (o : Option β) (f : β → ArgAction α) :
    (o.elim .abort f).Keeps P ↔ ∀ x ∈ o, (f x).Keeps P := by
  cases o <;> simp

end Keeps

/-- A property of what the branches do holds of a value branch when it holds of both ways on. -/
theorem ifValue_induct {Q : ArgAction α → Prop} {arg name : List Char}
    {next : Option (List Char)} {f : List Char → ArgAction α} {otherwise : ArgAction α}
    (hf : ∀ v, Q (f v)) (ho : Q otherwise) : Q (ifValue arg name next f otherwise) := by
  rcases ifValue_cases arg name next f otherwise with ⟨v, -, h⟩ | h <;> rw [h]
  exacts [hf v, ho]

/-- A property of what the branches do holds of a flag branch when it holds of both ways on. -/
theorem ifFlag_induct {Q : ArgAction α → Prop} {arg name : List Char}
    {a otherwise : ArgAction α} (ha : Q a) (ho : Q otherwise) : Q (ifFlag arg name a otherwise) := by
  rcases ifFlag_cases arg name a otherwise with h | h <;> rw [h]
  exacts [ha, ho]

/-! ### The loop -/

/-- A loop body that reads `argv[i + 1]` only as the value of an option that requires one. -/
structure LocalStep (step : α → List Char → Option (List Char) → ArgAction α) : Prop where
  /-- Without a following argument, no value is read. -/
  none_ne_nextValue : ∀ c arg c', step c arg none ≠ .nextValue c'
  /-- An argument passed over without a following one is passed over the same way with one. -/
  some_of_none : ∀ c arg c' v, step c arg none = .next c' → step c arg (some v) = .next c'

/-- **Reading in pieces**: with a local body, a loop that ends normally on `args` leaves the
loop on what follows to go on from the options it read. -/
theorem argLoop_append {step : α → List Char → Option (List Char) → ArgAction α}
    (hs : LocalStep step) (more : List (List Char)) (c : α) (args : List (List Char)) :
    ∀ c', argLoop step c args = .done c' →
      argLoop step c (args ++ more) = argLoop step c' more := by
  induction c, args using argLoop.induct step with
  | case1 c => rintro c' ⟨⟩; rfl
  | case2 c arg a h =>
    intro c' hd
    simp only [argLoop, h, ArgsOutcome.done.injEq] at hd
    subst hd
    cases more with
    | nil => simp only [List.singleton_append, argLoop, h]
    | cons v rest => simp only [List.singleton_append, argLoop, hs.some_of_none _ _ _ v h]
  | case3 c arg a h => exact absurd h (hs.none_ne_nextValue c arg a)
  | case4 c arg h | case5 c arg h | case6 c arg h => intro c' hd; simp [argLoop, h] at hd
  | case7 c arg v rest a h ih | case8 c arg v rest a h ih =>
    intro c' hd
    simp only [argLoop, h] at hd
    simp only [List.cons_append, argLoop, h]
    exact ih c' hd
  | case9 c arg v rest h | case10 c arg v rest h | case11 c arg v rest h =>
    intro c' hd; simp [argLoop, h] at hd

/-- **The invariant of a loop over arguments of a kind**: when every argument is of the kind
`Q`, a property of the options kept by every branch that goes on, from an argument of that kind
and a following value of that kind, holds of the options the loop ends with. -/
theorem argLoop_inv_of_forall {step : α → List Char → Option (List Char) → ArgAction α}
    (P : α → Prop) (Q : List Char → Prop) (c : α) (args : List (List Char))
    (hargs : ∀ a ∈ args, Q a)
    (hstep : ∀ c arg next, Q arg → (∀ v ∈ next, Q v) → P c → (step c arg next).Keeps P) :
    ∀ c', P c → argLoop step c args = .done c' → P c' := by
  induction c, args using argLoop.induct step with
  | case1 c => rintro c' hc ⟨⟩; exact hc
  | case2 c arg a h | case3 c arg a h =>
    intro c' hc hd
    simp only [argLoop, h, ArgsOutcome.done.injEq] at hd
    exact hd ▸ hstep c arg none (hargs arg (List.mem_singleton_self arg))
      (fun v hv => absurd hv (Option.not_mem_none v)) hc a (by simp [h])
  | case4 c arg h | case5 c arg h | case6 c arg h => intro c' _ hd; simp [argLoop, h] at hd
  | case7 c arg v rest a h ih | case8 c arg v rest a h ih =>
    intro c' hc hd
    simp only [argLoop, h] at hd
    exact ih (fun x hx => hargs x (by simp [hx])) c' (hstep c arg (some v)
      (hargs arg (List.mem_cons_self _ _)) (by simpa using hargs v (by simp)) hc a (by simp [h])) hd
  | case9 c arg v rest h | case10 c arg v rest h | case11 c arg v rest h =>
    intro c' _ hd; simp [argLoop, h] at hd

/-- **The invariant of a loop**: a property kept by every branch that goes on holds of the
options the loop ends with. -/
theorem argLoop_inv {step : α → List Char → Option (List Char) → ArgAction α}
    (P : α → Prop) (c : α) (args : List (List Char))
    (hstep : ∀ c, ∀ arg ∈ args, ∀ next, P c → (step c arg next).Keeps P) :
    ∀ c', P c → argLoop step c args = .done c' → P c' :=
  argLoop_inv_of_forall P (· ∈ args) c args (fun _ h => h)
    fun c arg next harg _ hc => hstep c arg harg next hc

/-! ### Numbers -/

theorem isCSpace_of_isDigit {c : Char} (hc : c.isDigit) : isCSpace c = false := by
  have h := (isDigit_iff c).mp hc
  unfold isCSpace
  simp only [decide_eq_false_iff_not, not_or, not_and, Char.le_def]
  refine ⟨fun he => by subst he; exact absurd h (by decide), fun _ hle => ?_⟩
  have : c.toNat ≤ 13 := hle
  omega

/-- Digits alone are read as they are, without a sign. -/
theorem decimalSubject_of_digits {s : List Char} (hs : s ≠ []) (hd : ∀ c ∈ s, c.isDigit) :
    decimalSubject s = (false, s) := by
  obtain ⟨c, t, rfl⟩ := List.exists_cons_of_ne_nil hs
  have hc : c.isDigit := hd c (List.mem_cons_self c t)
  unfold decimalSubject
  rw [List.dropWhile_cons_of_neg (by simp [isCSpace_of_isDigit hc])]
  split
  next h => cases h; exact absurd hc (by decide)
  next h => cases h; exact absurd hc (by decide)
  next => rw [List.takeWhile_eq_self_iff.mpr fun x hx => hd x hx]

/-- `std::stoi` reads `w` digits written for an `int` back, leading zeros included. -/
theorem stoi_decimal (w n : Nat) (hw : 0 < w) (hn : n < 10 ^ w) (hint : n < 2147483648) :
    stoi (decimal w n) = some (n : Int) := by
  have hne : decimal w n ≠ [] := List.ne_nil_of_length_pos (by rw [length_decimal]; exact hw)
  have hv : digitsValue (decimal w n) = n := by
    rw [digitsValue, foldl_decimal, Nat.mod_eq_of_lt hn]
  have hempty : (decimal w n).isEmpty = false := by simpa [List.isEmpty_iff] using hne
  rw [stoi, decimalSubject_of_digits hne (List.all_eq_true.mp (all_isDigit_decimal w n))]
  simp only [hempty, hv, Bool.false_eq_true, if_false]
  rw [if_pos (by omega)]

theorem castUInt16_toNat (p : UInt16) : castUInt16 p.toNat = p := by
  apply UInt16.toNat.inj
  have : p.toNat < 65536 := p.toBitVec.isLt
  rw [castUInt16, toNat_uint16_ofNat]
  omega

end NetNodeGateway
