import QuizPages.Json.Printer
import QuizPages.Json.Reader

/-!
# Reading back strings and whole numbers

A character stands in a string by itself or escaped (`Escaped`). A string is read back through its
closing quotation mark, whatever follows it (`readString_quote`). A whole number is read back if what
follows it can be no part of a number (`readNumber_ofNat`).
-/

namespace QuizPages.Json

/-! ## Strings -/

/-- The digits of a control character. -/
theorem hex4_eq {n : Nat} (small : n < 0x20) :
    hex4 n = ['0', '0', Nat.digitChar (n / 16), Nat.digitChar (n % 16)] := by
  have all : ∀ m < 0x20, hex4 m = ['0', '0', Nat.digitChar (m / 16), Nat.digitChar (m % 16)] := by
    decide
  exact all n small

theorem hexDigit?_digitChar {n : Nat} (small : n < 16) :
    Text.hexDigit? (Nat.digitChar n) = some n := by
  have all : ∀ m < 16, Text.hexDigit? (Nat.digitChar m) = some m := by decide
  exact all n small

theorem hexUnit?_hex4 {n : Nat} (small : n < 0x20) (rest : Text) :
    hexUnit? (hex4 n ++ rest) = some (n, rest) := by
  have zero : Text.hexDigit? '0' = some 0 := by decide
  have high : Text.hexDigit? (Nat.digitChar (n / 16)) = some (n / 16) :=
    hexDigit?_digitChar (by omega)
  have low : Text.hexDigit? (Nat.digitChar (n % 16)) = some (n % 16) :=
    hexDigit?_digitChar (by omega)
  rw [hex4_eq small]
  show hexUnit? ('0' :: '0' :: _ :: _ :: rest) = _
  simp only [hexUnit?, zero, high, low, Option.bind_eq_bind, Option.bind_some, Option.some.injEq,
    Prod.mk.injEq, and_true]
  omega

theorem unitChar?_of_control {n : Nat} (small : n < 0x20) (t : Text) :
    unitChar? n t = some (Char.ofNat n, t) := by
  unfold unitChar?
  rw [if_neg (by omega), if_neg (by omega)]

/-- How a character stands in a string. -/
inductive Escaped (c : Char) : Text → Prop
  /-- A backslash and a letter or a mark that stands for the character. -/
  | short (d : Char) (back : shortEscape? d = some c) (unit : d ≠ 'u') (feed : d ≠ '\n') :
    Escaped c ['\\', d]
  | control (small : c.toNat < 0x20) : Escaped c ('\\' :: 'u' :: hex4 c.toNat)
  | plain (quote : c ≠ '"') (backslash : c ≠ '\\') (visible : ¬ c.toNat < 0x20) : Escaped c [c]

theorem escaped_escapeChar (c : Char) : Escaped c (escapeChar c) := by
  unfold escapeChar
  split
  · rename_i quote
    exact .short '"' (by rw [quote]; rfl) (by decide) (by decide)
  rename_i quote
  split
  · rename_i backslash
    exact .short '\\' (by rw [backslash]; rfl) (by decide) (by decide)
  rename_i backslash
  split
  · rename_i feed
    exact .short 'n' (by rw [feed]; rfl) (by decide) (by decide)
  split
  · rename_i back
    exact .short 'r' (by rw [back]; rfl) (by decide) (by decide)
  split
  · rename_i tab
    exact .short 't' (by rw [tab]; rfl) (by decide) (by decide)
  split
  · rename_i erase
    exact .short 'b' (by rw [erase]; rfl) (by decide) (by decide)
  split
  · rename_i form
    exact .short 'f' (by rw [form]; rfl) (by decide) (by decide)
  split
  · rename_i small
    exact .control small
  · rename_i visible
    exact .plain quote backslash visible

theorem Escaped.ne_nil {c : Char} {e : Text} (h : Escaped c e) : e ≠ [] := by
  cases h <;> exact List.cons_ne_nil _ _

theorem Escaped.feed_notMem {c : Char} {e : Text} (h : Escaped c e) : '\n' ∉ e := by
  cases h with
  | short d _ _ feed => simp [feed.symm]
  | control small =>
    have all : ∀ n < 0x20, '\n' ∉ hex4 n := by decide
    simp [all c.toNat small]
  | plain _ _ visible =>
    intro mem
    obtain rfl := List.mem_singleton.1 mem
    exact visible (by decide)

/-- The characters of a string are read on behind an escaped character. -/
theorem Escaped.readChars {c : Char} {e : Text} (h : Escaped c e) (rest : Text) (fuel : Nat) :
    readChars (fuel + 1) (e ++ rest) = (readChars fuel rest).map fun r => (c :: r.1, r.2) := by
  have step : ∀ r : Option (Text × Text),
      (r.bind fun r => some (c :: r.1, r.2)) = r.map fun r => (c :: r.1, r.2) := by
    rintro (- | r) <;> rfl
  refine Eq.trans ?_ (step _)
  cases h with
  | short d back unit _ =>
    show Json.readChars (fuel + 1) ('\\' :: d :: rest) = _
    conv => lhs; unfold Json.readChars
    rw [if_neg (by decide), if_pos rfl]
    split
    · rename_i same
      cases same
    · rename_i same
      exact absurd (List.cons_eq_cons.1 same).1 unit
    · rename_i same
      obtain ⟨rfl, rfl⟩ := List.cons_eq_cons.1 same
      rw [back]
      rfl
  | control small =>
    show Json.readChars (fuel + 1) ('\\' :: 'u' :: (hex4 c.toNat ++ rest)) = _
    simp only [Json.readChars, hexUnit?_hex4 small, unitChar?_of_control small, Char.ofNat_toNat,
      Char.reduceEq, if_false, if_true, Option.bind_eq_bind, Option.bind_some]
  | plain quote backslash visible =>
    show Json.readChars (fuel + 1) (c :: rest) = _
    conv => lhs; unfold Json.readChars
    rw [if_neg quote, if_neg backslash, if_neg visible]
    rfl

theorem readChars_quote (t rest : Text) {fuel : Nat} (enough : t.length < fuel) :
    readChars fuel (t.flatMap escapeChar ++ '"' :: rest) = some (t, rest) := by
  induction t generalizing fuel with
  | nil =>
    obtain ⟨fuel, rfl⟩ : ∃ n, fuel = n + 1 := ⟨fuel - 1, by simp at enough; omega⟩
    rfl
  | cons c t ih =>
    obtain ⟨fuel, rfl⟩ : ∃ n, fuel = n + 1 := ⟨fuel - 1, by simp at enough; omega⟩
    have shorter : t.length < fuel := by simpa using enough
    rw [List.flatMap_cons, List.append_assoc, (escaped_escapeChar c).readChars, ih shorter]
    rfl

theorem length_le_escaped (t : Text) : t.length ≤ (t.flatMap escapeChar).length := by
  induction t with
  | nil => exact Nat.le_refl 0
  | cons c t ih =>
    have first := List.length_pos_iff.2 (escaped_escapeChar c).ne_nil
    rw [List.flatMap_cons, List.length_append, List.length_cons]
    omega

/-- **Strings**: a text is read back from its string. -/
theorem readString_quote (t rest : Text) :
    readString (t.flatMap escapeChar ++ '"' :: rest) = some (t, rest) := by
  apply readChars_quote
  have := length_le_escaped t
  rw [List.length_append, List.length_cons]
  omega

/-! ## Whole numbers -/

/-- Whether a text cannot go on with a number that ends in front of it. -/
def EndsNumber (t : Text) : Prop :=
  ∀ c ∈ t.head?, c.isDigit = false ∧ c ≠ '.' ∧ c ≠ 'e' ∧ c ≠ 'E'

theorem endsNumber_nil : EndsNumber [] := nofun

theorem digitsValue_ofNat (n : Nat) : digitsValue (Text.ofNat n) = n :=
  Nat.ofDigitChars_eq_foldl.symm.trans Nat.ofDigitChars_ten_toDigits

/-- No number but zero starts with a zero. -/
theorem head?_ofNat_ne {n : Nat} (pos : 0 < n) : (Text.ofNat n).head? ≠ some '0' := by
  induction n using Nat.strongRecOn with
  | ind n ih =>
    by_cases small : n < 10
    · have all : ∀ m < 10, 0 < m → (Text.ofNat m).head? ≠ some '0' := by decide
      exact all n small pos
    · have front := ih (n / 10) (by omega) (by omega)
      have whole : Text.ofNat n = Text.ofNat (n / 10) ++ [(n % 10).digitChar] :=
        Nat.toDigits_of_base_le (by decide) (by omega)
      obtain ⟨d, ds, first⟩ := List.exists_cons_of_ne_nil (l := Text.ofNat (n / 10)) Nat.toDigits_ne_nil
      rw [first] at whole front
      rw [whole]
      exact front

theorem takeWhile_ofNat (n : Nat) {rest : Text} (ends : EndsNumber rest) :
    (Text.ofNat n ++ rest).takeWhile Char.isDigit = Text.ofNat n ∧
      (Text.ofNat n ++ rest).dropWhile Char.isDigit = rest := by
  have digits : ∀ c ∈ Text.ofNat n, c.isDigit = true := fun _ => Text.isDigit_of_mem_ofNat
  rw [List.takeWhile_append_of_pos digits, List.dropWhile_append_of_pos digits]
  cases rest with
  | nil => exact ⟨List.append_nil _, rfl⟩
  | cons c rest =>
    have stop : ¬ c.isDigit = true := by simp [(ends c rfl).1]
    rw [List.takeWhile_cons_of_neg stop, List.dropWhile_cons_of_neg stop]
    exact ⟨List.append_nil _, rfl⟩

/-- A number in front of what cannot belong to it is read through its last digit. -/
theorem readNumber_ofNat (negative : Bool) (n : Nat) {rest : Text} (ends : EndsNumber rest) :
    readNumber negative (Text.ofNat n ++ rest) =
      (readNumber.wholeNumber negative (Text.ofNat n)).map (·, rest) := by
  obtain ⟨whole, after⟩ := takeWhile_ofNat n ends
  have given : ¬ ((Text.ofNat n).isEmpty = true ∨
      (Text.ofNat n).length ≠ 1 ∧ (Text.ofNat n).head? = some '0') := by
    rintro (none | ⟨several, zero⟩)
    · exact Nat.toDigits_ne_nil (List.isEmpty_iff.1 none)
    · rcases Nat.eq_zero_or_pos n with rfl | pos
      · exact several rfl
      · exact head?_ofNat_ne pos zero
  unfold readNumber
  simp only [whole, after]
  rw [if_neg given]
  cases rest with
  | nil => rfl
  | cons c rest =>
    obtain ⟨-, point, lower, upper⟩ := ends c rfl
    split
    · rename_i same
      exact absurd (List.cons_eq_cons.1 same).1 point
    · rename_i same
      obtain ⟨rfl, rfl⟩ := List.cons_eq_cons.1 same
      rw [if_neg (by simp [lower, upper])]
    · rename_i same
      cases same

theorem wholeNumber_ofNat {n : Nat} (fits : fits64 n) :
    readNumber.wholeNumber false (Text.ofNat n) = some (.int n) := by
  unfold readNumber.wholeNumber
  simp [digitsValue_ofNat, fits]

theorem wholeNumber_neg {n : Nat} (fits : fits64 (Int.negSucc n)) :
    readNumber.wholeNumber true (Text.ofNat (n + 1)) = some (.int (Int.negSucc n)) := by
  have value : -((n + 1 : Nat) : Int) = Int.negSucc n := rfl
  have nonzero : Int.negSucc n ≠ 0 := nofun
  unfold readNumber.wholeNumber
  simp only [digitsValue_ofNat, if_true, value, true_and]
  rw [if_pos ⟨fits, nonzero⟩]

end QuizPages.Json
