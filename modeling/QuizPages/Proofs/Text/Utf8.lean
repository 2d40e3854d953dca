import QuizPages.Proofs.Text.OctetOrder

/-!
# Reading UTF-8

`Reads` says what is made of octets: each character that stands there whole, and one malformed piece
for some octets beyond ASCII that make up none. The decoder reads every list of octets so
(`reads_pieces`), and octets of a text as the text (`pieces_octets`). So it calls exactly the forms
of texts valid: `isValid_iff`.
-/

namespace QuizPages.Utf8

/-! ## The octets of one character -/

/-- The bits of one more octet behind those there are. -/
def push (bits : Nat) (b : UInt8) : Nat := 64 * bits + (b.toNat - 0x80)

/-- Octets that complete a character: one in a range, and behind it as many as are owed. -/
def Completes : Nat → UInt8 → UInt8 → Octets → Prop
  | 0, low, high, tail => ∃ b, tail = [b] ∧ low ≤ b ∧ b ≤ high
  | left + 1, low, high, tail =>
    ∃ b rest, tail = b :: rest ∧ low ≤ b ∧ b ≤ high ∧ Completes left 0x80 0xBF rest

/-- The four forms of the character with a code point. -/
theorem encode_charOfNat_cases {n : Nat} (valid : n < 0xD800 ∨ 0xDFFF < n ∧ n < 0x110000) :
    (n < 0x80 ∧ String.utf8EncodeChar (Char.ofNat n) = [UInt8.ofNat n]) ∨
    (0x80 ≤ n ∧ n < 0x800 ∧ String.utf8EncodeChar (Char.ofNat n) =
      [UInt8.ofNat (n / 64 + 192), UInt8.ofNat (n % 64 + 128)]) ∨
    (0x800 ≤ n ∧ n < 0x10000 ∧ String.utf8EncodeChar (Char.ofNat n) =
      [UInt8.ofNat (n / 64 / 64 + 224), UInt8.ofNat (n / 64 % 64 + 128),
        UInt8.ofNat (n % 64 + 128)]) ∨
    (0x10000 ≤ n ∧ n < 0x110000 ∧ String.utf8EncodeChar (Char.ofNat n) =
      [UInt8.ofNat (n / 64 / 64 / 64 + 240), UInt8.ofNat (n / 64 / 64 % 64 + 128),
        UInt8.ofNat (n / 64 % 64 + 128), UInt8.ofNat (n % 64 + 128)]) := by
  have value : (Char.ofNat n).toNat = n := by
    rw [Char.ofNat, dif_pos valid]
    rfl
  have cases := Text.utf8EncodeChar_cases (Char.ofNat n)
  rwa [value] at cases

theorem eq_ofNat_of_toNat {b : UInt8} {n : Nat} (h : b.toNat = n) : UInt8.ofNat n = b := by
  rw [← h, UInt8.ofNat_toNat]

theorem encode_two {a b : UInt8} (ha : 0xC2 ≤ a.toNat) (ha' : a.toNat < 0xE0)
    (hb : 0x80 ≤ b.toNat) (hb' : b.toNat ≤ 0xBF) :
    String.utf8EncodeChar (Char.ofNat (push (a.toNat - 0xC0) b)) = [a, b] := by
  unfold push
  obtain ⟨h, -⟩ | ⟨-, -, form⟩ | ⟨h, -⟩ | ⟨h, -⟩ :=
    encode_charOfNat_cases (n := 64 * (a.toNat - 0xC0) + (b.toNat - 0x80)) (by omega)
  · omega
  · rw [form, eq_ofNat_of_toNat (b := a) (by omega), eq_ofNat_of_toNat (b := b) (by omega)]
  · omega
  · omega

/-- Three octets make up a character unless two would have been enough or it is a surrogate. -/
theorem encode_three {a b c : UInt8} (ha : 0xE0 ≤ a.toNat) (ha' : a.toNat < 0xF0)
    (hb : 0x80 ≤ b.toNat) (hb' : b.toNat ≤ 0xBF) (hc : 0x80 ≤ c.toNat) (hc' : c.toNat ≤ 0xBF)
    (long : a.toNat = 0xE0 → 0xA0 ≤ b.toNat) (no_surrogate : a.toNat = 0xED → b.toNat ≤ 0x9F) :
    String.utf8EncodeChar (Char.ofNat (push (push (a.toNat - 0xE0) b) c)) = [a, b, c] := by
  unfold push
  obtain ⟨h, -⟩ | ⟨-, h, -⟩ | ⟨-, -, form⟩ | ⟨h, -⟩ :=
    encode_charOfNat_cases
      (n := 64 * (64 * (a.toNat - 0xE0) + (b.toNat - 0x80)) + (c.toNat - 0x80)) (by omega)
  · omega
  · omega
  · rw [form, eq_ofNat_of_toNat (b := a) (by omega), eq_ofNat_of_toNat (b := b) (by omega),
      eq_ofNat_of_toNat (b := c) (by omega)]
  · omega

/-- Four octets make up a character unless three would have been enough or it is none of Unicode. -/
theorem encode_four {a b c d : UInt8} (ha : 0xF0 ≤ a.toNat) (ha' : a.toNat ≤ 0xF4)
    (hb : 0x80 ≤ b.toNat) (hb' : b.toNat ≤ 0xBF) (hc : 0x80 ≤ c.toNat) (hc' : c.toNat ≤ 0xBF)
    (hd : 0x80 ≤ d.toNat) (hd' : d.toNat ≤ 0xBF)
    (long : a.toNat = 0xF0 → 0x90 ≤ b.toNat) (no_more : a.toNat = 0xF4 → b.toNat ≤ 0x8F) :
    String.utf8EncodeChar (Char.ofNat (push (push (push (a.toNat - 0xF0) b) c) d)) =
      [a, b, c, d] := by
  unfold push
  obtain ⟨h, -⟩ | ⟨-, h, -⟩ | ⟨-, h, -⟩ | ⟨-, -, form⟩ :=
    encode_charOfNat_cases
      (n := 64 * (64 * (64 * (a.toNat - 0xF0) + (b.toNat - 0x80)) + (c.toNat - 0x80)) +
        (d.toNat - 0x80)) (by omega)
  · omega
  · omega
  · omega
  · rw [form, eq_ofNat_of_toNat (b := a) (by omega), eq_ofNat_of_toNat (b := b) (by omega),
      eq_ofNat_of_toNat (b := c) (by omega), eq_ofNat_of_toNat (b := d) (by omega)]

/-! ## The first octet -/

theorem first?_two {a : UInt8} (h : 0xC2 ≤ a.toNat) (h' : a.toNat < 0xE0) :
    State.first? a = some (.owing 0 (a.toNat - 0xC0) 0x80 0xBF) := by
  simp only [State.first?]
  rw [if_neg (by omega), if_pos h']

/-- The least octet that may come second: those below it are for shorter forms. -/
def lowFor (shortest : Nat) (low a : UInt8) : UInt8 := if a.toNat = shortest then low else 0x80

/-- The greatest octet that may come second: those above it lead to no character. -/
def highFor (last : Nat) (high a : UInt8) : UInt8 := if a.toNat = last then high else 0xBF

theorem first?_three {a : UInt8} (h : 0xE0 ≤ a.toNat) (h' : a.toNat < 0xF0) :
    State.first? a =
      some (.owing 1 (a.toNat - 0xE0) (lowFor 0xE0 0xA0 a) (highFor 0xED 0x9F a)) := by
  simp only [State.first?, lowFor, highFor]
  rw [if_neg (by omega), if_neg (by omega)]
  by_cases lowest : a.toNat = 0xE0
  · simp [lowest]
  · by_cases surrogates : a.toNat = 0xED
    · simp [surrogates]
    · simp [lowest, surrogates, h']

theorem first?_four {a : UInt8} (h : 0xF0 ≤ a.toNat) (h' : a.toNat ≤ 0xF4) :
    State.first? a =
      some (.owing 2 (a.toNat - 0xF0) (lowFor 0xF0 0x90 a) (highFor 0xF4 0x8F a)) := by
  simp only [State.first?, lowFor, highFor]
  rw [if_neg (by omega), if_neg (by omega), if_neg (by omega), if_neg (by omega), if_neg (by omega)]
  by_cases lowest : a.toNat = 0xF0
  · simp [lowest]
  · by_cases last : a.toNat = 0xF4
    · simp [last]
    · have before : a.toNat < 0xF4 := by omega
      simp [lowest, last, before]

theorem first?_none {a : UInt8} (h : a.toNat < 0xC2 ∨ 0xF4 < a.toNat) : State.first? a = none := by
  simp only [State.first?]
  by_cases below : a.toNat < 0xC2
  · rw [if_pos below]
  · rw [if_neg below, if_neg (by omega), if_neg (by omega), if_neg (by omega), if_neg (by omega),
      if_neg (by omega), if_neg (by omega), if_neg (by omega)]

/-- What a first octet leads to: two, three or four octets make up its character. -/
theorem first?_cases {a : UInt8} {s : State} (first : State.first? a = some s) :
    (0xC2 ≤ a.toNat ∧ a.toNat < 0xE0 ∧ s = .owing 0 (a.toNat - 0xC0) 0x80 0xBF) ∨
    (0xE0 ≤ a.toNat ∧ a.toNat < 0xF0 ∧
      s = .owing 1 (a.toNat - 0xE0) (lowFor 0xE0 0xA0 a) (highFor 0xED 0x9F a)) ∨
    (0xF0 ≤ a.toNat ∧ a.toNat ≤ 0xF4 ∧
      s = .owing 2 (a.toNat - 0xF0) (lowFor 0xF0 0x90 a) (highFor 0xF4 0x8F a)) := by
  rcases Nat.lt_or_ge a.toNat 0xC2 with below | two
  · rw [first?_none (.inl below)] at first
    cases first
  rcases Nat.lt_or_ge a.toNat 0xE0 with below | three
  · rw [first?_two two below] at first
    exact .inl ⟨two, below, (Option.some.inj first).symm⟩
  rcases Nat.lt_or_ge a.toNat 0xF0 with below | four
  · rw [first?_three three below] at first
    exact .inr (.inl ⟨three, below, (Option.some.inj first).symm⟩)
  rcases Nat.lt_or_ge 0xF4 a.toNat with above | last
  · rw [first?_none (.inr above)] at first
    cases first
  · rw [first?_four four last] at first
    exact .inr (.inr ⟨four, last, (Option.some.inj first).symm⟩)

theorem of_lowFor_le {shortest : Nat} {low a b : UInt8} (h : lowFor shortest low a ≤ b)
    (tail : 0x80 ≤ low) : 0x80 ≤ b.toNat ∧ (a.toNat = shortest → low.toNat ≤ b.toNat) := by
  unfold lowFor at h
  split at h
  · exact ⟨Nat.le_trans tail h, fun _ => h⟩
  · rename_i other
    exact ⟨h, fun same => absurd same other⟩

theorem of_le_highFor {last : Nat} {high a b : UInt8} (h : b ≤ highFor last high a)
    (tail : high ≤ 0xBF) : b.toNat ≤ 0xBF ∧ (a.toNat = last → b.toNat ≤ high.toNat) := by
  unfold highFor at h
  split at h
  · exact ⟨Nat.le_trans h tail, fun _ => h⟩
  · rename_i other
    exact ⟨h, fun same => absurd same other⟩

/-- A first octet and octets that complete what it starts are the form of one character. -/
theorem encode_of_first {a low high : UInt8} {left bits : Nat} {tail : Octets}
    (first : State.first? a = some (.owing left bits low high))
    (completes : Completes left low high tail) :
    String.utf8EncodeChar (Char.ofNat (tail.foldl push bits)) = a :: tail := by
  obtain ⟨two, below, same⟩ | ⟨three, below, same⟩ | ⟨four, last, same⟩ := first?_cases first
  · cases same
    obtain ⟨b, rfl, hb, hb'⟩ := completes
    exact encode_two two below hb hb'
  · cases same
    obtain ⟨b, _, rfl, hb, hb', c, rfl, hc, hc'⟩ := completes
    obtain ⟨hb, long⟩ := of_lowFor_le hb (by decide)
    obtain ⟨hb', no_surrogate⟩ := of_le_highFor hb' (by decide)
    exact encode_three three below hb hb' hc hc' long no_surrogate
  · cases same
    obtain ⟨b, _, rfl, hb, hb', c, _, rfl, hc, hc', d, rfl, hd, hd'⟩ := completes
    obtain ⟨hb, long⟩ := of_lowFor_le hb (by decide)
    obtain ⟨hb', no_more⟩ := of_le_highFor hb' (by decide)
    exact encode_four four last hb hb' hc hc' hd hd' long no_more

theorem beyond_lowFor (shortest : Nat) {low : UInt8} (beyond : 0x80 ≤ low) (a : UInt8) :
    0x80 ≤ lowFor shortest low a := by
  unfold lowFor
  split
  · exact beyond
  · exact UInt8.le_refl _

/-- What starts with a first octet is a character of several octets, all of them beyond ASCII. -/
theorem exists_owing_of_first {a : UInt8} {s : State} (first : State.first? a = some s) :
    0x80 ≤ a ∧ ∃ left bits low high, s = .owing left bits low high ∧ 0x80 ≤ low := by
  obtain ⟨two, -, rfl⟩ | ⟨three, -, rfl⟩ | ⟨four, -, rfl⟩ := first?_cases first
  · exact ⟨Nat.le_trans (by decide) two, _, _, _, _, rfl, UInt8.le_refl _⟩
  · exact ⟨Nat.le_trans (by decide) three, _, _, _, _, rfl, beyond_lowFor 0xE0 (by decide) a⟩
  · exact ⟨Nat.le_trans (by decide) four, _, _, _, _, rfl, beyond_lowFor 0xF0 (by decide) a⟩

/-! ## Texts are read back -/

theorem tail_ofNat {m : Nat} (h : m < 64) :
    0x80 ≤ UInt8.ofNat (m + 128) ∧ UInt8.ofNat (m + 128) ≤ 0xBF := by
  have size : m + 128 < UInt8.size := by
    have : UInt8.size = 256 := rfl
    omega
  rw [UInt8.le_ofNat_iff size, UInt8.ofNat_le_iff size]
  exact ⟨Nat.le_add_left 128 m, Nat.le_of_lt_succ (Nat.add_lt_add_right h 128)⟩

theorem lowFor_le {shortest m : Nat} {low a : UInt8} (h : m < 64)
    (fits : a.toNat = shortest → low.toNat ≤ m + 128) :
    lowFor shortest low a ≤ UInt8.ofNat (m + 128) := by
  unfold lowFor
  split
  · rename_i same
    rw [UInt8.le_ofNat_iff (Nat.lt_trans (Nat.add_lt_add_right h 128) (by decide))]
    exact fits same
  · exact (tail_ofNat h).1

theorem le_highFor {last m : Nat} {high a : UInt8} (h : m < 64)
    (fits : a.toNat = last → m + 128 ≤ high.toNat) :
    UInt8.ofNat (m + 128) ≤ highFor last high a := by
  unfold highFor
  split
  · rename_i same
    rw [UInt8.ofNat_le_iff (Nat.lt_trans (Nat.add_lt_add_right h 128) (by decide))]
    exact fits same
  · exact (tail_ofNat h).2

/-- Beyond ASCII the form of a character is a first octet and what completes it. -/
theorem exists_first_of_high {c : Char} (h : 0x80 ≤ c.toNat) :
    ∃ a tail left bits low high, String.utf8EncodeChar c = a :: tail ∧
      State.first? a = some (.owing left bits low high) ∧ Completes left low high tail := by
  have valid : c.toNat < 0xD800 ∨ 0xDFFF < c.toNat ∧ c.toNat < 0x110000 := c.valid
  have octet {m : Nat} (hm : m < 256) : (UInt8.ofNat m).toNat = m := UInt8.toNat_ofNat_of_lt' hm
  obtain ⟨below, -⟩ | ⟨h2, h2', form⟩ | ⟨h3, h3', form⟩ | ⟨h4, h4', form⟩ :=
    Text.utf8EncodeChar_cases c
  · omega
  · have first := octet (m := c.toNat / 64 + 192) (by omega)
    exact ⟨_, _, _, _, _, _, form, first?_two (by omega) (by omega), _, rfl,
      tail_ofNat (Nat.mod_lt _ (by decide))⟩
  · have first := octet (m := c.toNat / 64 / 64 + 224) (by omega)
    refine ⟨_, _, _, _, _, _, form, first?_three (by omega) (by omega), _, _, rfl, lowFor_le ?_ ?_,
      le_highFor ?_ ?_, _, rfl, tail_ofNat (Nat.mod_lt _ (by decide))⟩
    · omega
    · intro shortest
      simp only [UInt8.reduceToNat]
      omega
    · omega
    · intro surrogates
      simp only [UInt8.reduceToNat]
      omega
  · have first := octet (m := c.toNat / 64 / 64 / 64 + 240) (by omega)
    refine ⟨_, _, _, _, _, _, form, first?_four (by omega) (by omega), _, _, rfl, lowFor_le ?_ ?_,
      le_highFor ?_ ?_, _, _, rfl, (tail_ofNat ?_).1, (tail_ofNat ?_).2, _, rfl,
      tail_ofNat (Nat.mod_lt _ (by decide))⟩
    · omega
    · intro shortest
      simp only [UInt8.reduceToNat]
      omega
    · omega
    · intro last
      simp only [UInt8.reduceToNat]
      omega
    · omega
    · omega

theorem decodeFrom_cons (s : State) (b : UInt8) (bs : Octets) :
    decodeFrom s (b :: bs) = (step s b).1 ++ decodeFrom (step s b).2 bs := by
  cases s <;> rfl

/-- One octet that fits: the character is complete, or it owes one octet less. -/
theorem step_owing {low high b : UInt8} (fits : low ≤ b ∧ b ≤ high) (left bits : Nat) :
    step (.owing left bits low high) b =
      match left with
      | 0 => ([some (Char.ofNat (push bits b))], .ready)
      | left + 1 => ([], .owing left (push bits b) 0x80 0xBF) := by
  rw [step, if_pos fits]
  cases left <;> rfl

theorem decodeFrom_of_completes {low high : UInt8} {left : Nat} {tail : Octets}
    (completes : Completes left low high tail) (bits : Nat) (bs : Octets) :
    decodeFrom (.owing left bits low high) (tail ++ bs) =
      some (Char.ofNat (tail.foldl push bits)) :: decodeFrom .ready bs := by
  induction left generalizing low high tail bits with
  | zero =>
    obtain ⟨b, rfl, fits⟩ := completes
    rw [List.singleton_append, decodeFrom_cons, step_owing fits]
    rfl
  | succ left ih =>
    obtain ⟨b, rest, rfl, hb, hb', later⟩ := completes
    rw [List.cons_append, decodeFrom_cons, step_owing ⟨hb, hb'⟩, List.foldl_cons]
    exact ih later (push bits b)

theorem encode_of_ascii {c : Char} (ascii : c.toNat < 0x80) :
    String.utf8EncodeChar c = [UInt8.ofNat c.toNat] := by
  obtain ⟨-, form⟩ | ⟨above, -⟩ | ⟨above, -⟩ | ⟨above, -⟩ := Text.utf8EncodeChar_cases c
  · exact form
  all_goals omega

theorem encode_injective : Function.Injective String.utf8EncodeChar := by
  intro c d same
  have differ {x y : Char} (h : x.toNat < y.toNat) :
      String.utf8EncodeChar x ≠ String.utf8EncodeChar y := by
    have before := Text.utf8EncodeChar_append_lt h [] []
    rw [List.append_nil, List.append_nil] at before
    exact fun e => List.lt_irrefl _ (e ▸ before)
  obtain before | equal | behind := Nat.lt_trichotomy c.toNat d.toNat
  · exact absurd same (differ before)
  · exact Char.toNat_inj.1 equal
  · exact absurd same.symm (differ behind)

/-- The form of a character is read as the character. -/
theorem decodeFrom_encode (c : Char) (bs : Octets) :
    decodeFrom .ready (String.utf8EncodeChar c ++ bs) = some c :: decodeFrom .ready bs := by
  rcases Nat.lt_or_ge c.toNat 0x80 with ascii | high
  · have octet : (UInt8.ofNat c.toNat).toNat = c.toNat :=
      UInt8.toNat_ofNat_of_lt' (Nat.lt_trans ascii (by decide))
    have below : UInt8.ofNat c.toNat < 0x80 := by
      rw [UInt8.lt_iff_toNat_lt, octet]
      exact ascii
    rw [encode_of_ascii ascii, List.singleton_append, decodeFrom, step, start, if_pos below, octet,
      Char.ofNat_toNat]
    rfl
  · obtain ⟨a, tail, left, bits, low, high, form, first, completes⟩ := exists_first_of_high high
    have not_ascii : ¬ a < 0x80 := UInt8.not_lt.2 (exists_owing_of_first first).1
    have same : Char.ofNat (tail.foldl push bits) = c :=
      encode_injective ((encode_of_first first completes).trans form.symm)
    rw [form, List.cons_append, decodeFrom]
    simp only [step, start, if_neg not_ascii, first, List.nil_append]
    rw [decodeFrom_of_completes completes, same]

theorem pieces_octets (t : Text) : pieces t.octets = t.map some := by
  induction t with
  | nil => rfl
  | cons c t ih =>
    rw [Text.octets_cons, pieces, decodeFrom_encode]
    exact congrArg (some c :: ·) ih

/-! ## What is made of octets -/

/-- Octets read as characters, with `none` for each malformed piece: a character stands there whole,
and a malformed piece is made of octets beyond ASCII. -/
inductive Reads : Octets → List (Option Char) → Prop where
  | nil : Reads [] []
  | char (c : Char) {bs : Octets} {ps : List (Option Char)} (rest : Reads bs ps) :
      Reads (String.utf8EncodeChar c ++ bs) (some c :: ps)
  | malformed {bad bs : Octets} {ps : List (Option Char)} (nonempty : bad ≠ [])
      (high : ∀ b ∈ bad, 0x80 ≤ b) (rest : Reads bs ps) : Reads (bad ++ bs) (none :: ps)

/-- What the decoder has seen of the piece it is in: nothing, or octets beyond ASCII that make up a
character with whatever completes them. -/
def Seen (seen : Octets) : State → Prop
  | .ready => seen = []
  | .owing left bits low high =>
    seen ≠ [] ∧ (∀ b ∈ seen, 0x80 ≤ b) ∧ 0x80 ≤ low ∧
      ∀ tail, Completes left low high tail →
        String.utf8EncodeChar (Char.ofNat (tail.foldl push bits)) = seen ++ tail

/-- An octet between characters is a character, a malformed piece, or the start of a piece. -/
theorem exists_seen_start (b : UInt8) :
    ∃ seen, Seen seen (start b).2 ∧
      ∀ bs ps, Reads (seen ++ bs) ps → Reads (b :: bs) ((start b).1 ++ ps) := by
  unfold start
  by_cases ascii : b < 0x80
  · rw [if_pos ascii]
    refine ⟨[], rfl, fun bs ps later => ?_⟩
    have value : (Char.ofNat b.toNat).toNat = b.toNat := by
      have below : b.toNat < 0x80 := ascii
      rw [Char.ofNat, dif_pos (.inl (by omega))]
      rfl
    have form : String.utf8EncodeChar (Char.ofNat b.toNat) = [b] := by
      rw [encode_of_ascii (by rw [value]; exact ascii), value, UInt8.ofNat_toNat]
    have read := Reads.char (Char.ofNat b.toNat) later
    rwa [form] at read
  · rw [if_neg ascii]
    have high : 0x80 ≤ b := UInt8.not_lt.1 ascii
    have alone : ∀ x ∈ [b], 0x80 ≤ x := by simpa using high
    rcases first : State.first? b with - | s
    · exact ⟨[], rfl, fun bs ps later => .malformed (List.cons_ne_nil b []) alone later⟩
    · obtain ⟨-, left, bits, low, top, rfl, tail⟩ := exists_owing_of_first first
      exact ⟨[b], ⟨List.cons_ne_nil b [], alone, tail, fun _ => encode_of_first first⟩,
        fun _ _ later => later⟩

/-- One octet completes the character, goes on with it, or leaves what is seen as a malformed piece
and starts afresh. -/
theorem exists_seen_step {seen : Octets} {s : State} (h : Seen seen s) (b : UInt8) :
    ∃ seen', Seen seen' (step s b).2 ∧
      ∀ bs ps, Reads (seen' ++ bs) ps → Reads (seen ++ b :: bs) ((step s b).1 ++ ps) := by
  cases s with
  | ready =>
    obtain rfl : seen = [] := h
    exact exists_seen_start b
  | owing left bits low top =>
    obtain ⟨nonempty, high, tail, form⟩ := h
    by_cases fits : low ≤ b ∧ b ≤ top
    · rw [step_owing fits]
      cases left with
      | zero =>
        refine ⟨[], rfl, fun bs ps later => ?_⟩
        have read := Reads.char (Char.ofNat (push bits b)) later
        rw [show String.utf8EncodeChar (Char.ofNat (push bits b)) = seen ++ [b] from
          form [b] ⟨b, rfl, fits⟩, List.append_assoc] at read
        exact read
      | succ left =>
        refine ⟨seen ++ [b], ⟨by simp, ?_, UInt8.le_refl _, ?_⟩, fun bs ps later => ?_⟩
        · intro x mem
          rcases List.mem_append.1 mem with old | new
          · exact high x old
          · rw [List.mem_singleton.1 new]
            exact UInt8.le_trans tail fits.1
        · intro rest completes
          have whole := form (b :: rest) ⟨b, rest, rfl, fits.1, fits.2, completes⟩
          rw [List.append_assoc, List.singleton_append, ← whole, List.foldl_cons]
        · rwa [List.append_assoc] at later
    · rw [step, if_neg fits]
      obtain ⟨seen', next, read⟩ := exists_seen_start b
      exact ⟨seen', next, fun bs ps later => .malformed nonempty high (read bs ps later)⟩

theorem reads_decodeFrom {seen : Octets} {s : State} (h : Seen seen s) (bs : Octets) :
    Reads (seen ++ bs) (decodeFrom s bs) := by
  induction bs generalizing seen s with
  | nil =>
    cases s with
    | ready =>
      obtain rfl : seen = [] := h
      exact .nil
    | owing => exact .malformed h.1 h.2.1 .nil
  | cons b bs ih =>
    obtain ⟨seen', next, read⟩ := exists_seen_step h b
    rw [decodeFrom_cons]
    exact read bs _ (ih next)

/-- **Decoding**: whatever the octets are, the decoder reads them as characters and malformed
pieces. -/
theorem reads_pieces (bs : Octets) : Reads bs (pieces bs) :=
  reads_decodeFrom (show Seen [] .ready from rfl) bs

/-- Every piece is made of octets of its own. -/
theorem Reads.length_le {bs : Octets} {ps : List (Option Char)} (h : Reads bs ps) :
    ps.length ≤ bs.length := by
  induction h with
  | nil => exact Nat.le_refl 0
  | char c _ ih =>
    have some_octet := List.length_pos_iff.2 (String.utf8EncodeChar_ne_nil (c := c))
    rw [List.length_cons, List.length_append]
    omega
  | malformed nonempty _ _ ih =>
    have some_octet := List.length_pos_iff.2 nonempty
    rw [List.length_cons, List.length_append]
    omega

/-- A text has no more characters than octets. -/
theorem length_decode_le (bs : Octets) : (decode bs).length ≤ bs.length := by
  rw [decode, List.length_map]
  exact (reads_pieces bs).length_le

/-- The text of what was read, U+FFFD for each malformed piece. -/
def textOf (ps : List (Option Char)) : Text := ps.map (·.getD '\uFFFD')

/-- Without a malformed piece the octets are those of the characters. -/
theorem Reads.octets_eq {bs : Octets} {ps : List (Option Char)} (h : Reads bs ps)
    (whole : ps.all Option.isSome) : (textOf ps).octets = bs := by
  induction h with
  | nil => rfl
  | char c _ ih => rw [textOf, List.map_cons, Text.octets_cons, ← textOf, ih whole]; rfl
  | malformed => cases whole

theorem octets_decode_of_isValid {bs : Octets} (valid : isValid bs) : (decode bs).octets = bs :=
  (reads_pieces bs).octets_eq valid

/-- **Validity**: exactly the forms of texts are valid. -/
theorem isValid_iff {bs : Octets} : isValid bs = true ↔ ∃ t : Text, t.octets = bs := by
  constructor
  · exact fun valid => ⟨decode bs, octets_decode_of_isValid valid⟩
  · rintro ⟨t, rfl⟩
    rw [isValid, pieces_octets, List.all_map]
    exact List.all_eq_true.2 fun _ _ => rfl

end QuizPages.Utf8
